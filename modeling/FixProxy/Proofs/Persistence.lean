import FixProxy.Proofs.Authenticity
import FixProxy.Proofs.Quits
import FixProxy.Proofs.ReadyRequests
import FixProxy.Proofs.Releases

/-! Entries that stay. An entry goes only by a response that drops it, by a request that
ends it, or with a session that has a key to it. -/

namespace FixProxy
open Codec

/-- The actions that leave the entries and the keys alone, unless they end a session. -/
def Action.Calm : Action → Prop
  | .openFresh _ _ _ _ | .openStamped _ _ _ _ _ | .enter _ _ | .release _ _ | .retain _ _ _ => False
  | _ => True

namespace Router

structure Keeps (name : MappingName) (id : String) (before after : Router) : Prop where
  entry : (after.index name).entry id = (before.index name).entry id
  keys : ∀ owner own, (after.index name).key owner own = some id ↔ (before.index name).key owner own = some id

variable {name : MappingName} {id : String} {before middle after : Router} {action : Action}

theorem Keeps.refl (router : Router) : Keeps name id router router := ⟨rfl, fun _ _ => Iff.rfl⟩

theorem Keeps.trans (head : Keeps name id before middle) (rest : Keeps name id middle after) :
    Keeps name id before after :=
  ⟨rest.entry.trans head.entry, fun owner own => (rest.keys owner own).trans (head.keys owner own)⟩

private theorem keeps_clear {session : Nat} (unkeyed : ∀ own, (before.index name).key session own ≠ some id)
    (same : after.index = fun name => (before.index name).clear session) : Keeps name id before after := by
  constructor
  · rw [same]
    simp [Index.clear, unkeyed]
  · intro owner own
    rw [same]
    by_cases this : owner = session
    · subst owner
      simp [Index.clear, unkeyed own]
    · simp [Index.clear, this]

private theorem keeps_calm (step : Step before action after) (calm : action.Calm) :
    Keeps name id before after ∨ ∃ session own, action.Ends session ∧ (before.index name).key session own = some id := by
  have clears {session : Nat} (same : after.index = fun name => (before.index name).clear session)
      (ends : action.Ends session) :
      Keeps name id before after ∨ ∃ session own, action.Ends session ∧ (before.index name).key session own = some id := by
    by_cases keyed : ∃ own, (before.index name).key session own = some id
    · obtain ⟨own, key⟩ := keyed
      exact Or.inr ⟨session, own, ends, key⟩
    · exact Or.inl (keeps_clear (fun own key => keyed ⟨own, key⟩) same)
  cases step with
  | @touch touched =>
    refine Or.inl ⟨?_, fun owner own => ?_⟩
    · by_cases same : name = touched
      · subst touched
        simp [Index.touch]
      · simp [same]
    · by_cases same : name = touched
      · subst touched
        simp [Index.touch]
      · simp [same]
  | retire => exact clears rfl rfl
  | retireAsking => exact clears rfl rfl
  | openFresh | openStamped | enter | release | retain => exact calm.elim
  | _ => exact Or.inl ⟨rfl, fun _ _ => Iff.rfl⟩

private theorem calm_of_preliminary {session : Nat} (preliminary : Preliminary session action) : action.Calm := by
  cases action with
  | allocate | touch => trivial
  | _ => exact preliminary.elim

private theorem calm_of_closes {session : Nat} (closes : Closes session action) : action.Calm := by
  obtain rfl | ends := closes
  · trivial
  · cases action with
    | retire | retireAsking => trivial
    | _ => exact ends.elim

private theorem keeps_preliminary {session : Nat} (prelude : Moves (fun _ => Preliminary session) before after) :
    Keeps name id before after ∧ after.session = before.session := by
  refine prelude.preserves (fun router => Keeps name id before router ∧ router.session = before.session)
    (fun router action next preliminary step ⟨keeps, same⟩ => ?_) ⟨.refl _, rfl⟩
  have still : next.session = router.session := by
    cases step <;> first | rfl | exact preliminary.elim
  refine ⟨?_, still.trans same⟩
  obtain kept | ⟨other, own, ends, -⟩ := keeps_calm step (calm_of_preliminary preliminary)
  · exact keeps.trans kept
  · cases action <;> first | exact preliminary.elim | exact ends.elim

private theorem key_held {router : Router} (indexed : router.Indexed) {session : Nat} {own : String}
    (key : (router.index name).key session own = some id) : router.session session ≠ none := by
  intro absent
  rcases indexed.serving name session (indexed.held name session own id key) with ready | leaving
  · simp [absent] at ready
  · simp [absent] at leaving

private theorem key_goes (step : Step before action after) (indexed : before.Indexed) {session : Nat} {own : String}
    (key : (before.index name).key session own = some id) :
    (after.index name).key session own = some id ∨ (after.index name).entry id = none := by
  have named : Named name own := by
    rintro rfl rfl
    cases (indexed.unkeyed session).symm.trans key
  have changed := index_step step name
  generalize after.index name = index at changed ⊢
  cases changed with
  | same | touch | enter | retain => exact Or.inl key
  | openFresh | openStamped => exact Or.inl (Index.key_of_key_add key)
  | release => exact (indexed.registered name).key_release named key
  | clear => exact Index.key_clear key

/-- Calm actions keep an entry and the keys to it, as long as nobody who has one ends. -/
private theorem keeps_moves {allowed : Router → Action → Prop} (calm : ∀ router action, allowed router action → action.Calm)
    (moves : Moves allowed before after) (consistent : before.Consistent)
    (alive : ∀ session own, (before.index name).key session own = some id → ¬ Client.Dead after session) :
    Keeps name id before after := by
  have either := moves.preserves_consistent
    (fun router => Keeps name id before router ∨ ∃ session own, (before.index name).key session own = some id ∧
      session ≤ router.lastSession ∧ Client.Dead router session)
    (fun router action next permitted step consistent invariant => ?_) consistent (Or.inl (.refl _))
  · obtain keeps | ⟨session, own, key, -, dead⟩ := either
    · exact keeps
    · exact absurd dead (alive session own key)
  · obtain keeps | ⟨session, own, key, known, dead⟩ := invariant
    · obtain kept | ⟨session, own, ends, key⟩ := keeps_calm step (calm router action permitted)
      · exact Or.inl (keeps.trans kept)
      · have held := key_held consistent.indexed key
        obtain ⟨-, party, sessions⟩ := Client.session_closes (Or.inr ends) step
        exact Or.inr ⟨session, own, (keeps.keys session own).mp key,
          Client.known_step step (consistent.sound.known session held), Or.inr ⟨party, by rw [sessions]; simp⟩⟩
    · exact Or.inr ⟨session, own, key, Client.known_step step known, Client.dead_step step known dead⟩

/-- The requests of a ready session that end what a server id stands for. -/
structure Unsubscribes (router : Router) (name : MappingName) (id : String) (session : Nat) (request : Request) :
    Prop where
  type : request.subscriptionType = some .unsubscribe
  named : request.key.1 = name
  key : (router.index name).key session request.key.2 = some id
  ready : ∃ party, router.session session = some (.ready, party)

private theorem entry_acts {session : Nat} {request : Request} {sessions : Nat → Option (Client.State × String)}
    {outputs outputs' : List Output} (step : Step before action after)
    (requests : Requests session request sessions outputs outputs' before action) (acts : ¬ Preliminary session action)
    (indexed : before.Indexed) {entry : Nat × String × Bool} (held : (before.index name).entry id = some entry)
    (goes : ¬ before.Unsubscribes name id session request) : (after.index name).entry id = some entry := by
  have updated {changed : MappingName} {index : Index Nat String String Bool}
      (same : after.index = Function.update before.index changed index)
      (own : changed = name → index.entry id = some entry) : (after.index name).entry id = some entry := by
    rw [same]
    by_cases this : name = changed
    · subst changed
      rw [Function.update_self]
      exact own rfl
    · rw [Function.update_of_ne this]
      exact held
  cases step with
  | openFresh ready fresh free =>
    refine updated rfl fun same => ?_
    subst same
    have older : id ≠ before.nextId := by
      rintro rfl
      exact not_issued_next _ (indexed.issuedEntry _ fresh _ entry held)
    simpa [Index.add, emplace, older] using held
  | @openStamped changed opener party own flag =>
    refine updated rfl fun same => ?_
    subst same
    by_cases this : id = createRequestId party own
    · simp [Index.add, emplace, ← this, held]
    · simpa [Index.add, emplace, this] using held
  | @enter opener party =>
    refine updated rfl fun same => ?_
    subst same
    by_cases this : id = createRequestId party ""
    · simp [Index.enter, emplace, ← this, held]
    · simpa [Index.enter, emplace, this] using held
  | @release changed released =>
    refine updated rfl fun same => ?_
    subst same
    obtain ⟨rfl, named, type, outstanding, party, ready, rfl⟩ := requests
    have other : id ≠ createRequestId party request.key.2 := by
      rintro rfl
      obtain ⟨key, outstanding⟩ := Option.ne_none_iff_exists'.mp outstanding
      have own := indexed.stampedKey .tradeRequestId (fun fresh => fresh) session _ key outstanding _ party ready
      exact goes ⟨type, named, own ▸ outstanding, party, ready⟩
    rw [Index.release_entry, if_neg other]
    exact held
  | @retain changed retained flag =>
    refine updated rfl fun same => ?_
    subst same
    obtain ⟨named, type, outstanding, ready⟩ := requests
    have other : id ≠ retained := by
      rintro rfl
      exact goes ⟨type, named, outstanding, ready⟩
    simpa [Index.retain, other] using held
  | touch => exact absurd requests acts
  | allocate => exact absurd trivial acts
  | _ => exact requests.elim

theorem not_replied {before after : List Output} {msgSeqNum : Nat} {message : ToServer}
    (sent : after = before ++ [.toServer msgSeqNum message]) : ¬ Replied before after := by
  rintro (silent | ⟨session, number, reply, answered⟩)
  · rw [sent] at silent
    simp at silent
  · rw [sent] at answered
    simp at answered

private theorem forwarded_unique {request : Request} {name other : MappingName} {own own' id id' : String}
    {outputs outputs' : List Output} (left : Forwarded request name own id outputs outputs')
    (right : Forwarded request other own' id' outputs outputs') : name = other ∧ own = own' ∧ id = id' := by
  obtain ⟨key, msgSeqNum, sent, sentKey, log⟩ := left
  obtain ⟨key', msgSeqNum', sent', sentKey', log'⟩ := right
  obtain ⟨rfl, rfl⟩ := Prod.mk.inj (key.symm.trans key')
  obtain ⟨-, rfl⟩ : msgSeqNum = msgSeqNum' ∧ sent = sent' := by
    simpa using List.append_cancel_left (log.symm.trans log')
  exact ⟨rfl, rfl, congrArg Prod.snd (sentKey.symm.trans sentKey')⟩

/-- What a request leaves that is forwarded under a server id and ends nothing: its entry, or
an older one under the same id. -/
structure Opens (name : MappingName) (session : Nat) (clientId id : String) (keepAlive : Bool)
    (before after : Router) : Prop where
  entry : (after.index name).entry id = some (((before.index name).entry id).getD (session, clientId, keepAlive))
  free : (before.index name).key session clientId = none
  fresh : name.Fresh → (before.index name).entry id = none
  stamped : ¬ name.Fresh → ∃ party, before.session session = some (.ready, party) ∧ id = createRequestId party clientId
  sessions : after.session = before.session

theorem Performs.opens {session : Nat} {request : Request} {sessions : Nat → Option (Client.State × String)}
    {outputs outputs' : List Output} {clientId : String}
    (performs : Performs session request sessions outputs outputs' before after) (consistent : before.Consistent)
    (forwarded : Forwarded request name clientId id outputs outputs')
    (opening : request.subscriptionType ≠ some .unsubscribe) :
    Opens name session clientId id request.keepAlive before after := by
  cases performs with
  | refused prelude replied =>
    obtain ⟨-, msgSeqNum, sent, -, log⟩ := forwarded
    exact absurd replied (not_replied log)
  | passed prelude type => exact absurd type opening
  | @acted middle action prelude requests acts step =>
    obtain ⟨keeps, same⟩ := @keeps_preliminary name id _ _ _ prelude
    have free (missing : (middle.index name).key session clientId = none) :
        (before.index name).key session clientId = none := by
      by_contra taken
      obtain ⟨other, key⟩ := Option.ne_none_iff_exists'.mp taken
      have still := ((@keeps_preliminary name other _ _ _ prelude).1.keys session clientId).mpr key
      rw [missing] at still
      cases still
    cases step with
    | openFresh ready fresh unused =>
      obtain ⟨rfl, -, ⟨rfl, -⟩, made⟩ := requests
      obtain ⟨rfl, rfl, rfl⟩ := forwarded_unique forwarded made
      refine ⟨by simp [Index.add, emplace, keeps.entry], free unused, fun _ => ?_, fun stamped => absurd fresh stamped, same⟩
      rw [← keeps.entry]
      cases taken : (middle.index name).entry middle.nextId with
      | none => rfl
      | some entry =>
        exact absurd ((prelude.consistent consistent).indexed.issuedEntry name fresh _ entry taken) (not_issued_next _)
    | openStamped ready stamped unused =>
      obtain ⟨rfl, -, ⟨rfl, -⟩, made⟩ := requests
      obtain ⟨rfl, rfl, rfl⟩ := forwarded_unique forwarded made
      exact ⟨by simp [Index.add, emplace, keeps.entry], free unused, fun fresh => absurd fresh stamped,
        fun _ => ⟨_, same ▸ ready, rfl⟩, same⟩
    | enter ready =>
      obtain ⟨rfl, -, ⟨flag, -⟩, made⟩ := requests
      obtain ⟨rfl, rfl, rfl⟩ := forwarded_unique forwarded made
      exact ⟨by simp [Index.enter, emplace, ← flag, keeps.entry], consistent.indexed.unkeyed _,
        fun fresh => fresh.elim, fun _ => ⟨_, same ▸ ready, rfl⟩, same⟩
    | release => exact absurd requests.2.2.1 opening
    | retain => exact absurd requests.2.1 opening
    | touch => exact absurd requests acts
    | allocate => exact absurd trivial acts
    | _ => exact requests.elim

/-- An entry that was there before the request belongs to another session. -/
theorem Opens.foreign {session : Nat} {clientId : String} {keepAlive : Bool}
    (opens : Opens name session clientId id keepAlive before after) (consistent : before.Consistent)
    (keyed : name ≠ .ordStatusReqId) {entry : Nat × String × Bool} (found : (before.index name).entry id = some entry) :
    entry.1 ≠ session := by
  obtain ⟨owner, own, flag⟩ := entry
  rintro rfl
  have key := consistent.indexed.registered name id owner own flag found fun order => absurd order keyed
  by_cases fresh : name.Fresh
  · cases (opens.fresh fresh).symm.trans found
  · obtain ⟨party, ready, made⟩ := opens.stamped fresh
    have plain := consistent.indexed.plain owner .ready party ready trivial
    have older := consistent.indexed.stampedKey name fresh owner own id key _ party ready
    obtain ⟨-, rfl⟩ := createRequestId_inj plain plain (made.symm.trans older)
    cases opens.free.symm.trans key

end Router

namespace World
variable {env : Env} {before after : World} {input : Input} {name : MappingName} {serverId : String}

def Drops (world : World) (name : MappingName) (serverId : String) : Input → Prop
  | .serverRead _ (.response value) =>
    serverId = value.id name ∧ ∃ entry, world.controller.findReqId name serverId = some entry ∧
      value.drops name world.controller.totalNumPosReports entry.2.2 = true
  | _ => False

/-- A session ends what the server id stands for. -/
def Unsubscribes (world : World) (name : MappingName) (serverId : String) : Input → Prop
  | .read session _ _ (.request request) => world.view.Unsubscribes name serverId session request
  | _ => False

theorem entry_nonempty (consistent : before.view.Consistent) {entry : Nat × String × Bool}
    (held : before.controller.findReqId name serverId = some entry) : serverId ≠ "" := by
  by_cases fresh : name.Fresh
  · obtain ⟨counter, -, rfl⟩ := consistent.indexed.issuedEntry name fresh serverId entry held
    exact Shared.requestId_ne_empty counter
  · obtain ⟨session, clientId, keepAlive⟩ := entry
    obtain ⟨party, -, rfl⟩ := consistent.indexed.stampedEntry name fresh serverId session clientId keepAlive held
    exact createRequestId_ne_empty party clientId

private theorem findReqId_view (world : World) :
    world.controller.findReqId name serverId = (world.view.index name).entry serverId :=
  rfl

private theorem serving_of_key (consistent : before.view.Consistent) {session : Nat} {own : String}
    (key : before.controller.findClient name session own = some serverId) :
    ∃ client, before.session session = some client ∧ client.state.Serving :=
  serving_view.mp (consistent.indexed.serving name session (consistent.indexed.held name session own serverId key))

private theorem caused_calm {router : Router} {action : Action} (caused : Caused before input after router action)
    (unasked : ∀ session clock header request, input ≠ .read session clock header (.request request))
    (unanswered : ∀ msgSeqNum value, input ≠ .serverRead msgSeqNum (.response value)) : action.Calm := by
  cases input with
  | timer =>
    rcases caused with rfl | ⟨session, closes⟩
    · trivial
    · exact Router.calm_of_closes closes
  | accept => exact caused ▸ trivial
  | read session clock header message =>
    rcases caused with (closes | reads) | preliminary
    · exact Router.calm_of_closes closes
    · cases message with
      | request request => exact absurd rfl (unasked session clock header request)
      | logon => obtain rfl | ⟨party, rfl⟩ | ⟨party, rfl⟩ | rfl := reads <;> trivial
      | logout => exact reads ▸ trivial
      | _ => exact reads.elim
    · exact Router.calm_of_preliminary preliminary
  | readError => exact Router.calm_of_closes caused
  | disconnected => exact Router.calm_of_closes caused
  | serverConnected => exact caused ▸ trivial
  | serverDisconnected =>
    rcases caused with rfl | rfl | ⟨session, closes⟩
    · trivial
    · trivial
    · exact Router.calm_of_closes closes
  | serverRead msgSeqNum message =>
    cases message with
    | response value => exact absurd rfl (unanswered msgSeqNum value)
    | logon => exact caused ▸ trivial
    | userResponse value =>
      cases action with
      | openFresh | openStamped | enter | release | retain =>
        obtain ⟨session, -, closes⟩ := caused
        exact Router.calm_of_closes closes
      | _ => trivial
    | _ => exact caused.elim
  | _ => exact caused.elim

/-- An entry survives an event that neither drops it nor ends it, if the sessions that have
a key to it are alive afterwards. -/
theorem entry_survives (step : Step env before input after) (consistent : before.view.Consistent)
    {entry : Nat × String × Bool} (held : before.controller.findReqId name serverId = some entry)
    (dropless : ¬ before.Drops name serverId input) (wanted : ¬ before.Unsubscribes name serverId input)
    (alive : ∀ session own, before.controller.findClient name session own = some serverId → after.Alive session) :
    after.controller.findReqId name serverId = some entry := by
  have calmly {allowed : Router → Action → Prop} (moves : Router.Moves allowed before.view after.view)
      (calm : ∀ router action, allowed router action → action.Calm) :
      after.controller.findReqId name serverId = some entry := by
    have keeps : Router.Keeps name serverId before.view after.view := Router.keeps_moves calm moves consistent
      fun session own key => not_dead_iff.mpr (alive session own key)
    rw [findReqId_view, keeps.entry]
    exact held
  have caused := step.moves consistent
  cases input with
  | read session clock header message =>
    cases message with
    | request request =>
      rcases step.performs consistent with moves | performs
      · exact calmly moves fun _ _ action => action.elim Router.calm_of_closes Router.calm_of_preliminary
      · cases performs with
        | refused prelude => exact calmly prelude fun _ _ => Router.calm_of_preliminary
        | passed prelude => exact calmly prelude fun _ _ => Router.calm_of_preliminary
        | @acted middle action prelude requests acts performed =>
          obtain ⟨keeps, sessions⟩ := @Router.keeps_preliminary name serverId _ _ _ prelude
          refine Router.entry_acts performed requests acts (prelude.consistent consistent).indexed
            (keeps.entry.trans held) fun goes => wanted ?_
          exact ⟨goes.type, goes.named, (keeps.keys _ _).mp goes.key, sessions ▸ goes.ready⟩
    | _ => exact calmly caused fun _ _ caused => caused_calm caused (by simp) (by simp)
  | serverRead msgSeqNum message =>
    cases message with
    | response value =>
      rw [step.response, Controller.findReqId_response env value name (entry_nonempty consistent held)]
      have same : Controller.findReqId name serverId { before.controller with
          serverSession := { before.controller.serverSession with inboundMsgSeqNum := msgSeqNum } } = some entry := held
      rw [same, if_neg]
      rintro ⟨id, removed⟩
      exact dropless ⟨id, entry, held, by simpa using removed⟩
    | _ => exact calmly caused fun _ _ caused => caused_calm caused (by simp) (by simp)
  | _ => exact calmly caused fun _ _ caused => caused_calm caused (by simp) (by simp)

private theorem not_loses_of_asks {session other : Nat} {clientId : String}
    (asks : Asks before name session clientId serverId input after) : ¬ before.Loses other input := by
  obtain ⟨⟨clock, header, request, rfl, -⟩, party, ready, -⟩ := asks
  rintro ⟨client, held, same, leaving⟩
  rw [← same] at held
  rw [view_session held] at ready
  cases (Prod.mk.inj (Option.some.inj ready)).1.symm.trans leaving

theorem entry_gone (step : Step env before input after) (reachable : Reachable env before) {session : Nat} {own : String}
    (key : before.controller.findClient name session own = some serverId) (loses : before.Loses session input) :
    after.controller.findReqId name serverId = none := by
  have consistent := consistent_of_reachable reachable
  have either : (after.view.index name).key session own = some serverId ∨ (after.view.index name).entry serverId = none := by
    refine (step.moves consistent).preserves_consistent (fun router => (router.index name).key session own = some serverId ∨
      (router.index name).entry serverId = none) ?_ consistent (Or.inl key)
    rintro router action next caused moved consistent (key | gone)
    · exact Router.key_goes moved consistent.indexed key
    · refine Or.inr (Option.eq_none_iff_forall_not_mem.mpr fun ⟨owner, clientId, keepAlive⟩ made => ?_)
      obtain ⟨flag, older⟩ | makes := Router.made_step moved made
      · cases gone.symm.trans older
      · exact not_loses_of_asks (asks_of_makes caused moved makes) loses
  refine either.resolve_left fun still => ?_
  obtain ⟨client, held, serving⟩ := serving_of_key consistent key
  obtain ⟨last, heldAfter, serves⟩ := serving_of_key (step.consistent consistent) still
  exact (step.alive_iff reachable held serving).mp ⟨last, heldAfter, serves.alive⟩ loses

/-- The sessions that have a key are alive after an event that does not end them. -/
theorem alive_of_key (step : Step env before input after) (reachable : Reachable env before) {session : Nat} {own : String}
    (key : before.controller.findClient name session own = some serverId) (stays : ¬ before.Loses session input) :
    after.Alive session := by
  obtain ⟨client, held, serving⟩ := serving_of_key (consistent_of_reachable reachable) key
  exact (step.alive_iff reachable held serving).mpr stays

theorem Step.opens {session : Nat} {clock : Clock} {header : Header} {request : Request} {client : Client.Session}
    {clientId : String} (step : Step env before (.read session clock header (.request request)) after)
    (consistent : before.view.Consistent) (held : before.session session = some client) (ready : client.state = .ready)
    (forwarded : Forwarded request name clientId serverId before.controller.log after.controller.log)
    (opening : request.subscriptionType ≠ some .unsubscribe) :
    Router.Opens name session clientId serverId request.keepAlive before.view after.view :=
  (step.performs_ready consistent held ready).opens consistent forwarded opening

end World
end FixProxy
