import FixProxy.Deployment
import FixProxy.Proofs.Reachable

/-! The mappings are exact indexes, as long as no two sessions make ids of the same
party and every order status request has an id of its own. -/

namespace FixProxy
open Codec

namespace Router

/-- No two sessions that can still use a server id have the same party. -/
def Distinct (router : Router) : Prop :=
  ∀ left right leftState rightState party, router.session left = some (leftState, party) →
    router.session right = some (rightState, party) → router.Serving left → router.Serving right → left = right

/-- An id made of a party and a client's id is not in use while that client's id is free. -/
private theorem stamped_unused {router : Router} (indexed : router.Indexed) (distinct : router.Distinct) {name : MappingName}
    (stamped : ¬ name.Fresh) (exact : (router.index name).Exact) {session : Nat} {party clientId : String}
    (ready : router.session session = some (.ready, party)) (free : (router.index name).key session clientId = none) :
    (router.index name).entry (createRequestId party clientId) = none := by
  cases taken : (router.index name).entry (createRequestId party clientId) with
  | none => rfl
  | some entry =>
    obtain ⟨owner, ownId, keepAlive⟩ := entry
    have plain := indexed.plain session .ready party ready trivial
    obtain ⟨made, plainMade, same⟩ := indexed.stampedEntry name stamped _ owner ownId keepAlive taken
    obtain ⟨-, rfl⟩ := createRequestId_inj plain plainMade same
    have key := exact.registered _ owner clientId keepAlive taken trivial
    obtain ⟨state, ownParty, held, serving, plainOwn, own⟩ := key_stamped indexed stamped key
    obtain ⟨rfl, -⟩ := createRequestId_inj plain plainOwn own
    have same := distinct session owner .ready state party ready held (Or.inl (by simp [ready])) serving
    rw [same, key] at free
    cases free

private theorem exact_update {router : Router} {changed : MappingName} {index : Index Nat String String Bool}
    (others : ∀ name, (router.index name).Exact) (exact : index.Exact) (name : MappingName) :
    (Function.update router.index changed index name).Exact := by
  by_cases same : name = changed
  · subst name
    simpa using exact
  · simpa [same] using others name

private theorem exact_step {before after : Router} {action : Action} (step : Step before action after)
    (indexed : before.Indexed) (named : ∀ session party, action ≠ .enter session party)
    (distinct : ∀ name session party clientId keepAlive, action = .openStamped name session party clientId keepAlive →
      before.Distinct)
    (exact : ∀ name, (before.index name).Exact) : ∀ name, (after.index name).Exact := by
  cases step with
  | touch => exact exact_update exact (exact _).touch
  | openFresh ready fresh free =>
    refine exact_update exact ((exact _).add free ?_)
    cases taken : (before.index _).entry before.nextId with
    | none => rfl
    | some entry => exact absurd (indexed.issuedEntry _ fresh _ _ taken) (not_issued_next _)
  | openStamped ready stamped free nonempty =>
    exact exact_update exact ((exact _).add free
      (stamped_unused indexed (distinct _ _ _ _ _ rfl) stamped (exact _) ready free))
  | enter => exact absurd rfl (named _ _)
  | release => exact exact_update exact (exact _).release
  | retain => exact exact_update exact (exact _).retain
  | retire => exact fun name => (exact name).clear
  | retireAsking => exact fun name => (exact name).clear
  | _ => exact exact

end Router

/-- The states in which a session can still receive a response. -/
def Client.State.Serving : Client.State → Prop
  | .ready | .waitingRemoveRoute => True
  | .waitingLogon | .waitingCreateRoute | .zombie => False

instance : DecidablePred Client.State.Serving := fun state => by
  unfold Client.State.Serving
  split <;> infer_instance

namespace World
variable {env : Env} {users : Map String (String × Nat)} {realtime : Nat} {inputs : List Input} {world : World}

/-- Sessions that are logged on carry distinct parties. -/
def DistinctParties (world : World) : Prop :=
  ∀ left ∈ world.controller.sessions.toList, ∀ right ∈ world.controller.sessions.toList,
    left.2.state.Serving → right.2.state.Serving → left.2.partyId = right.2.partyId → left.1 = right.1

/-- Every order status request has an id of its own. -/
def Named : Input → Prop
  | .read _ _ _ (.request (.orderStatusRequest value)) => value.ordStatusReqId ≠ ""
  | _ => True

def Orderly (before : World) (input : Input) : Prop := before.DistinctParties ∧ Named input

instance (before : World) (input : Input) : Decidable (before.Orderly input) := by
  unfold Orderly DistinctParties Named
  split <;> infer_instance

theorem serving_view {session : Nat} : world.view.Serving session ↔
    ∃ client, world.session session = some client ∧ client.state.Serving := by
  unfold Router.Serving
  cases held : world.session session with
  | none => simp [view_session_none.mpr held]
  | some client => cases state : client.state <;> simp [view_session held, state, Client.State.Serving]

theorem distinct_view (distinct : world.DistinctParties) : world.view.Distinct := by
  intro left right leftState rightState party first second servingLeft servingRight
  obtain ⟨client, held, serves⟩ := serving_view.mp servingLeft
  obtain ⟨other, heldOther, servesOther⟩ := serving_view.mp servingRight
  rw [view_session held] at first
  rw [view_session heldOther] at second
  have same : client.partyId = other.partyId := by
    obtain ⟨-, rfl⟩ := Prod.mk.inj (Option.some.inj first)
    exact (Prod.mk.inj (Option.some.inj second)).2.symm
  exact distinct (left, client) (Map.mem_toList.mpr held) (right, other) (Map.mem_toList.mpr heldOther)
    serves servesOther same

private theorem key_of_unnamed {request : Request} {session : Nat} {clock : Clock} {header : Header}
    (key : request.key = (.ordStatusReqId, "")) : ¬ Named (.read session clock header (.request request)) := by
  cases request with
  | orderStatusRequest value => exact fun named => named (congrArg Prod.snd key)
  | _ => cases congrArg Prod.fst key

private theorem exact_of_runsUnder (runs : RunsUnder Orderly env users realtime inputs world) (name : MappingName) :
    (world.view.index name).Exact := by
  refine invariant_of_runsUnder (fun router => ∀ name, (router.index name).Exact)
    (fun _ => ⟨fun _ _ _ _ entry => (nomatch entry), fun _ _ _ key => (nomatch key)⟩) ?_ runs name
  intro before input after orderly _ _ router action next caused step consistent exact
  refine Router.exact_step step consistent.indexed ?_ ?_ exact
  · rintro session party rfl
    obtain ⟨reader, clock, header, request, rfl, -, -, -, key, -⟩ := caused_opens caused trivial
    exact key_of_unnamed key orderly.2
  · rintro changed session party clientId keepAlive rfl
    obtain ⟨reader, clock, header, request, rfl, -, sessions, -⟩ := caused_opens caused trivial
    have distinct := distinct_view orderly.1
    unfold Router.Distinct Router.Serving at distinct ⊢
    rwa [← sessions] at distinct

/-- In every mapping, a server id has an entry exactly when it is the one its session
has for the client's id, and that session is logged on. -/
theorem mapping_exact (runs : RunsUnder Orderly env users realtime inputs world) (name : MappingName)
    (serverId clientId : String) (session : Nat) :
    ((∃ keepAlive, (world.controller.mapping name).serverToClient.find serverId = some (session, clientId, keepAlive)) ↔
      ∃ table, (world.controller.mapping name).clientToServer.find session = some table ∧
        table.find clientId = some serverId) ∧
    ((∃ keepAlive, (world.controller.mapping name).serverToClient.find serverId = some (session, clientId, keepAlive)) →
      ∃ client, world.session session = some client ∧ client.state.Serving) := by
  have consistent := consistent_of_reachable (reachable_of_runsUnder runs)
  have agree := (exact_of_runsUnder runs name).entry_iff serverId session clientId
  refine ⟨agree.trans Option.bind_eq_some_iff, fun entry => serving_view.mp ?_⟩
  exact consistent.indexed.serving name session (consistent.indexed.held name session clientId _ (agree.mp entry))

theorem mapping_exact_subscribed : ∃ world, RunsUnder Orderly Deployment.env Deployment.users 0 Deployment.subscribed world ∧
    (∃ table, (world.controller.mapping .mdReqId).clientToServer.find 1 = some table ∧
      table.find "AAAA" = some "proxy-2") ∧
    ∃ client, world.session 1 = some client ∧ client.state.Serving := by
  obtain ⟨world, runs, checked⟩ := exists_run_of_replay Orderly Deployment.env Deployment.users 0 Deployment.subscribed
    (fun world => (world.controller.mapping .mdReqId).serverToClient.find "proxy-2" == some (1, "AAAA", true))
    (by decide +kernel)
  have entry : (world.controller.mapping .mdReqId).serverToClient.find "proxy-2" = some (1, "AAAA", true) := by
    simpa using checked
  have exact := mapping_exact runs .mdReqId "proxy-2" "AAAA" 1
  exact ⟨world, runs, exact.1.mp ⟨true, entry⟩, exact.2 ⟨true, entry⟩⟩

end World
end FixProxy
