import FixProxy.Proofs.ExactIndex
import FixProxy.Proofs.Fates

/-! Clients do not see each other's actions. What one session does reaches only the
entries, the route and the user request of that session, since every id it can name
leads back to a key of its own. -/

namespace FixProxy
open Codec

namespace Router
variable {before after router : Router} {action : Action} {actor other : Nat}

/-- Nothing changes for one session: its entries and keys, its route, and the user
request it waits for. -/
structure Spares (session : Nat) (before after : Router) : Prop where
  index : ∀ name, (before.index name).Spares session (after.index name)
  route : ∀ username, after.route username = some session ↔ before.route username = some session
  owner : after.owner session = before.owner session
  pending : ∀ id, after.pending id = some session ↔ before.pending id = some session
  waiting : after.waiting session = before.waiting session

theorem Spares.refl (session : Nat) (router : Router) : Spares session router router :=
  ⟨fun _ => .refl .., fun _ => Iff.rfl, rfl, fun _ => Iff.rfl, rfl⟩

theorem Spares.trans {session : Nat} {first middle last : Router} (head : Spares session first middle)
    (rest : Spares session middle last) : Spares session first last where
  index name := (head.index name).trans (rest.index name)
  route username := (rest.route username).trans (head.route username)
  owner := rest.owner.trans head.owner
  pending id := (rest.pending id).trans (head.pending id)
  waiting := rest.waiting.trans head.waiting

/-- The actions of one session. An entry that it drops or changes is one that a key of its
own leads to. -/
def ActsFor (actor : Nat) (router : Router) : Action → Prop
  | .allocate => True
  | .nominate session _ | .logOn session _ | .strand session | .drop session | .logOff session | .retire session
  | .retireAsking session _ | .touch _ session | .openFresh _ session _ _ | .openStamped _ session _ _ _
  | .enter session _ => session = actor
  | .release name id | .retain name id _ => ∃ clientId, (router.index name).key actor clientId = some id
  | _ => False

/-- A key leads to no entry of another session, not even to one without a key. -/
theorem entry_apart (indexed : router.Indexed) (distinct : router.Distinct) (different : other ≠ actor)
    {name : MappingName} {ownId id : String} (key : (router.index name).key actor ownId = some id) (clientId : String)
    (keepAlive : Bool) : (router.index name).entry id ≠ some (other, clientId, keepAlive) := by
  intro entry
  by_cases fresh : name.Fresh
  · obtain ⟨flag, own⟩ := indexed.backed name fresh actor ownId id key
    rw [own] at entry
    exact different (Prod.mk.inj (Option.some.inj entry)).1.symm
  · obtain ⟨state, party, held, serving, plain, rfl⟩ := key_stamped indexed fresh key
    obtain ⟨made, plainMade, same⟩ := indexed.stampedEntry name fresh _ other clientId keepAlive entry
    obtain ⟨-, rfl⟩ := createRequestId_inj plain plainMade same
    have named : Named name ownId := by
      rintro rfl rfl
      rw [indexed.unkeyed actor] at key
      cases key
    have otherKey := indexed.registered name _ other ownId keepAlive entry named
    obtain ⟨otherState, otherParty, heldOther, servingOther, plainOther, stamped⟩ := key_stamped indexed fresh otherKey
    obtain ⟨rfl, -⟩ := createRequestId_inj plain plainOther stamped
    exact different (distinct other actor otherState state party heldOther held servingOther serving)

private theorem spares_update {session : Nat} {changed : MappingName} {index : Index Nat String String Bool}
    (spares : (router.index changed).Spares session index) :
    ∀ name, (router.index name).Spares session (Function.update router.index changed index name) := by
  intro name
  by_cases same : name = changed
  · subst name
    simpa using spares
  · simpa [same] using Index.Spares.refl session (router.index name)

private theorem spares_setIndex {session : Nat} {changed : MappingName} {index : Index Nat String String Bool}
    (spares : (router.index changed).Spares session index) : Spares session router (router.setIndex changed index) :=
  ⟨spares_update spares, fun _ => Iff.rfl, rfl, fun _ => Iff.rfl, rfl⟩

private theorem pending_emplace (accounted : router.Accounted) (different : other ≠ actor) (id : String) :
    emplace router.pending router.nextId actor id = some other ↔ router.pending id = some other := by
  have free := next_free accounted.registered
  rw [emplace_apply]
  split
  · next same => simp [same, free, Ne.symm different]
  · rfl

private theorem route_other (inverse : router.Inverse) (different : other ≠ actor) {username : String}
    (owned : router.owner actor = some username) : router.route username ≠ some other := by
  rw [(inverse username actor).mpr owned]
  exact fun same => different (Option.some.inj same).symm

private theorem spares_step (step : Step before action after) (acts : ActsFor actor before action)
    (consistent : before.Consistent) (distinct : before.Distinct) (different : other ≠ actor) : Spares other before after := by
  obtain ⟨-, inverse, accounted, indexed⟩ := consistent
  have apart {name : MappingName} {id : String} (own : ∃ clientId, (before.index name).key actor clientId = some id) :
      ∀ clientId keepAlive, (before.index name).entry id ≠ some (other, clientId, keepAlive) := by
    obtain ⟨clientId, key⟩ := own
    exact entry_apart indexed distinct different key
  have cleared name : (before.index name).Spares other ((before.index name).clear actor) :=
    Index.spares_clear different fun clientId id key => apart ⟨clientId, key⟩
  cases step with
  | allocate | nominate | drop => exact ⟨fun _ => .refl .., fun _ => Iff.rfl, rfl, fun _ => Iff.rfl, rfl⟩
  | logOn =>
    cases acts
    exact ⟨fun _ => .refl .., fun _ => Iff.rfl, rfl, pending_emplace accounted different,
      Function.update_of_ne different ..⟩
  | strand =>
    cases acts
    exact ⟨fun _ => .refl .., fun _ => Iff.rfl, rfl, pending_emplace accounted different,
      Function.update_of_ne different ..⟩
  | logOff =>
    cases acts
    exact ⟨fun _ => .refl .., fun _ => Iff.rfl, rfl, pending_emplace accounted different,
      Function.update_of_ne different ..⟩
  | retire =>
    cases acts
    refine ⟨cleared, fun username => ?_, Function.update_of_ne different .., fun _ => Iff.rfl, rfl⟩
    simp only
    split
    · next owned => exact iff_of_false (by simp) (route_other inverse different owned)
    · rfl
  | @retireAsking _ _ _ username _ _ owned _ =>
    cases acts
    refine ⟨cleared, fun name => ?_, Function.update_of_ne different .., pending_emplace accounted different,
      Function.update_of_ne different ..⟩
    simp only [Function.update_apply]
    split
    · next same => exact iff_of_false (by simp) (same ▸ route_other inverse different owned)
    · rfl
  | touch => exact spares_setIndex Index.spares_touch
  | openFresh =>
    cases acts
    exact ⟨spares_update (Index.spares_add different), fun _ => Iff.rfl, rfl, fun _ => Iff.rfl, rfl⟩
  | openStamped =>
    cases acts
    exact spares_setIndex (Index.spares_add different)
  | enter =>
    cases acts
    exact spares_setIndex (Index.spares_enter different)
  | release => exact spares_setIndex (Index.spares_release (apart acts))
  | retain => exact spares_setIndex (Index.spares_retain (apart acts))
  | _ => exact acts.elim

private theorem serving_back (step : Step before action after) (acts : ActsFor actor before action) {session : Nat}
    {state : Client.State} {party : String} (held : after.session session = some (state, party))
    (serving : after.Serving session) :
    ∃ earlier, before.session session = some (earlier, party) ∧ before.Serving session := by
  cases step with
  | nominate arriving => grind
  | logOn arriving => grind
  | strand arriving => grind
  | drop arriving => grind
  | logOff ready => grind
  | retire => grind
  | retireAsking => grind
  | allocate | touch | openFresh | openStamped | enter | release | retain => exact ⟨state, held, serving⟩
  | _ => exact acts.elim

private theorem distinct_parties_step (step : Step before action after) (acts : ActsFor actor before action)
    (distinct : before.Distinct) : after.Distinct := by
  intro left right leftState rightState party heldLeft heldRight servingLeft servingRight
  obtain ⟨first, heldFirst, servingFirst⟩ := serving_back step acts heldLeft servingLeft
  obtain ⟨second, heldSecond, servingSecond⟩ := serving_back step acts heldRight servingRight
  exact distinct left right first second party heldFirst heldSecond servingFirst servingSecond

private theorem Moves.spares {allowed : Router → Action → Prop}
    (acts : ∀ router action, router.Consistent → allowed router action → ActsFor actor router action)
    (moves : Moves allowed before after) (consistent : before.Consistent) (distinct : before.Distinct) :
    after.Distinct ∧ ∀ other, other ≠ actor → Spares other before after := by
  refine moves.preserves_consistent
    (fun router => router.Distinct ∧ ∀ other, other ≠ actor → Spares other before router)
    (fun first action last permitted step consistent both => ?_) consistent ⟨distinct, fun _ _ => .refl ..⟩
  obtain ⟨distinct, spares⟩ := both
  have own := acts first action consistent permitted
  refine ⟨distinct_parties_step step own distinct, fun other different => ?_⟩
  exact (spares other different).trans (spares_step step own consistent distinct different)

private theorem actsFor_of_closes (closes : Closes actor action) : ActsFor actor router action := by
  rcases closes with rfl | ends
  · exact rfl
  · cases action <;> first | exact ends.elim | exact ends

private theorem actsFor_of_preliminary (preliminary : Preliminary actor action) : ActsFor actor router action := by
  cases action <;> first | exact preliminary.elim | exact preliminary

private theorem actsFor_of_requests {request : Request} {sessions : Nat → Option (Client.State × String)}
    {first last : List Output} (indexed : router.Indexed)
    (requests : Requests actor request sessions first last router action) : ActsFor actor router action := by
  cases action with
  | allocate => trivial
  | touch => exact requests
  | openFresh | openStamped | enter => exact requests.1
  | release name id =>
    obtain ⟨rfl, -, -, keyed, party, ready, rfl⟩ := requests
    obtain ⟨id, key⟩ := Option.ne_none_iff_exists'.mp keyed
    have stamped : ¬ MappingName.tradeRequestId.Fresh := not_false
    exact ⟨request.key.2, indexed.stampedKey _ stamped actor _ id key _ party ready ▸ key⟩
  | retain name id keepAlive => exact ⟨request.key.2, requests.2.2.1⟩
  | _ => exact requests.elim

private theorem actsFor_of_reads {message : FromClient} {sessions : Nat → Option (Client.State × String)}
    {first last : List Output} (indexed : router.Indexed)
    (reads : Client.Reads actor message sessions first last router action) : ActsFor actor router action := by
  rcases reads with closes | handles
  · exact actsFor_of_closes closes
  · cases message with
    | logon value =>
      obtain rfl | ⟨party, rfl⟩ | ⟨party, rfl⟩ | rfl := handles
      · trivial
      · exact rfl
      · exact rfl
      · exact rfl
    | logout =>
      subst handles
      exact rfl
    | request value => exact actsFor_of_requests indexed handles
    | _ => exact handles.elim

end Router

namespace Controller
variable {before after : Controller}

/-- What belongs to one session is unchanged, and nothing is handed to its connection. -/
structure Spares (session : Nat) (before after : Controller) : Prop where
  entry : ∀ name reqId clientReqId keepAlive, after.findReqId name reqId = some (session, clientReqId, keepAlive) ↔
    before.findReqId name reqId = some (session, clientReqId, keepAlive)
  key : ∀ name clientReqId, after.findClient name session clientReqId = before.findClient name session clientReqId
  clientToSession : ∀ clientId, after.subscriptions.user.clientToSession.find clientId = some session ↔
    before.subscriptions.user.clientToSession.find clientId = some session
  sessionToClient : after.subscriptions.user.sessionToClient.find session =
    before.subscriptions.user.sessionToClient.find session
  serverToClient : ∀ userRequestId, after.subscriptions.user.serverToClient.find userRequestId = some session ↔
    before.subscriptions.user.serverToClient.find userRequestId = some session
  clientToServer : after.subscriptions.user.clientToServer.find session =
    before.subscriptions.user.clientToServer.find session
  usernameToSession : ∀ username, after.shared.usernameToSession.find username = some session ↔
    before.shared.usernameToSession.find username = some session
  sessionToUsername : after.shared.sessionToUsername.find session = before.shared.sessionToUsername.find session
  record : after.sessions.find session = before.sessions.find session
  heard : after.roster.heard session = before.roster.heard session

private theorem spares_of_turn {allowed : Client.Session → Deed → Prop} {actor session : Nat}
    {answered answered' : List String}
    (turn : Roster.Turn allowed before.roster actor after.roster) (registered : before.roster.Registered)
    (different : session ≠ actor) (spares : Router.Spares session (before.view answered) (after.view answered')) :
    Spares session before after := by
  have aside := turn.aside different
  have kept := turn.registered registered
  have login : after.roster.username session = before.roster.username session := by
    rw [kept.named, registered.named, aside.record]
  have holder username : after.roster.holder username = some session ↔
      before.roster.holder username = some session := by
    rw [kept.inverse, registered.inverse, login]
  exact
    { entry := fun name => (spares.index name).entry
      key := fun name clientReqId => congrFun (spares.index name).key clientReqId
      clientToSession := spares.route
      sessionToClient := spares.owner
      serverToClient := spares.pending
      clientToServer := spares.waiting
      usernameToSession := holder
      sessionToUsername := login
      record := aside.record
      heard := aside.heard }

/-- What the handlers of a client session begin with. -/
structure Orderly (answered : List String) (controller : Controller) : Prop where
  consistent : (controller.view answered).Consistent
  registered : controller.roster.Registered
  distinct : (controller.view answered).Distinct

end Controller

namespace Client
open Router (Moves)
variable {env : Env} {answered : List String} {before after : Controller} {actor : Nat}

private theorem timer_spares {now : Nanoseconds} (returned : timer env now actor before = .done after)
    (orderly : before.Orderly answered) :
    after.Orderly answered ∧ ∀ session, session ≠ actor → before.Spares session after := by
  obtain ⟨consistent, registered, distinct⟩ := orderly
  have moves : Moves (fun _ => Router.Closes actor) (before.view answered) (after.view answered) := by
    have yields := @timer_yields answered before actor env now consistent.sound
    rw [returned] at yields
    exact yields
  have turn := @timer_turn before actor answered env now consistent.sound
  rw [returned] at turn
  obtain ⟨distinctAfter, spares⟩ := moves.spares (fun _ _ _ => Router.actsFor_of_closes) consistent distinct
  exact ⟨⟨moves.consistent consistent, turn.registered registered, distinctAfter⟩,
    fun session different => Controller.spares_of_turn turn registered different (spares session different)⟩

end Client

/-- The client session that an event originates at. The timer is for every session in turn. -/
def Input.origin : Input → Option Nat
  | .read session _ _ _ | .readError session | .disconnected session => some session
  | _ => none

namespace World
variable {env : Env} {world after : World} {actor session : Nat}

private theorem orderly_of_reachable (reachable : Reachable env world) (distinct : world.DistinctParties) :
    world.controller.Orderly world.answered :=
  ⟨consistent_of_reachable reachable, registered_of_reachable reachable, distinct_view distinct⟩

private theorem Step.spares {input : Input} (step : Step env world input after) (origin : input.origin = some actor)
    (orderly : world.controller.Orderly world.answered) (different : session ≠ actor) :
    world.controller.Spares session after.controller := by
  obtain ⟨consistent, registered, distinct⟩ := orderly
  have performed := step.performed
  have concluded {allowed : Client.Session → Deed → Prop}
      (turn : Roster.Turn allowed world.controller.roster actor after.controller.roster)
      (acts : ∀ router action, router.Consistent → Caused world input after router action →
        Router.ActsFor actor router action) : world.controller.Spares session after.controller :=
    Controller.spares_of_turn turn registered different
      (((step.moves consistent).spares acts consistent distinct).2 session different)
  cases input with
  | read reader clock header message =>
    cases origin
    have turn := @Client.read_turn world.controller actor world.answered env message header clock consistent
      (unnamed_of_registered registered)
    simp only [FixProxy.step] at performed
    rw [performed] at turn
    exact concluded turn fun router action consistent caused =>
      caused.elim (Router.actsFor_of_reads consistent.indexed) Router.actsFor_of_preliminary
  | readError closed =>
    cases origin
    have turn := @Client.close_turn world.controller actor world.answered env consistent.sound
    simp only [FixProxy.step, Client.readError] at performed
    rw [performed] at turn
    exact concluded turn fun _ _ _ => Router.actsFor_of_closes
  | disconnected gone =>
    cases origin
    have turn := @Client.makeZombie_turn world.controller actor world.answered consistent.sound
    simp only [FixProxy.step] at performed
    rw [performed] at turn
    exact concluded turn fun _ _ _ => Router.actsFor_of_closes
  | _ => cases origin

private theorem timer_orderly {now : Nanoseconds} {sessions : List Nat} {reached : Controller}
    (orderly : world.controller.Orderly world.answered)
    (returned : Outcome.forEach sessions (Client.timer env now) (Server.timer env now world.controller) =
      .done reached) : reached.Orderly world.answered := by
  have timed : (Server.timer env now world.controller).Orderly world.answered := by
    have quiet : (Server.timer env now world.controller).view world.answered = world.view :=
      Server.view_timer env now world.controller
    refine ⟨quiet ▸ orderly.consistent, (Server.timer_told env now world.controller).registered orderly.registered, ?_⟩
    exact quiet ▸ orderly.distinct
  generalize Server.timer env now world.controller = controller at timed returned
  induction sessions generalizing controller with
  | nil =>
    cases returned
    exact timed
  | cons first rest ih =>
    obtain ⟨middle, ticked, others⟩ := Outcome.andThen_eq_done.mp returned
    exact ih middle (Client.timer_spares ticked timed).1 others

/-- An event that originates at a client session leaves everything of every other session
as it is, and so does the timer of that session within the timer event. -/
theorem client_isolated (reachable : Reachable env world) (distinct : world.DistinctParties)
    (different : session ≠ actor) :
    (∀ input after, input.origin = some actor → Step env world input after →
      world.controller.Spares session after.controller) ∧
    ∀ now earlier later before after,
      (Server.timer env now world.controller).sessions.keys = earlier ++ actor :: later →
      Outcome.forEach earlier (Client.timer env now) (Server.timer env now world.controller) = .done before →
      Client.timer env now actor before = .done after → before.Spares session after := by
  have orderly := orderly_of_reachable reachable distinct
  refine ⟨fun input after origin step => step.spares origin orderly different, ?_⟩
  intro now earlier later before after _ reached ticked
  exact (Client.timer_spares ticked (timer_orderly orderly reached)).2 session different

def bothLoggedOn : List Input := Deployment.ordered ++ [Deployment.answer "proxy-2" "2" .loggedIn]

theorem client_isolated_disconnected : ∃ world after,
    RunsUnder Orderly Deployment.env Deployment.users 0 bothLoggedOn world ∧
    Step Deployment.env world (.disconnected 2) after ∧ world.Alive 1 ∧ world.Alive 2 ∧
    world.controller.Spares 1 after.controller ∧
    ∀ after, Client.timer Deployment.env 9 2 (Server.timer Deployment.env 9 world.controller) = .done after →
      (Server.timer Deployment.env 9 world.controller).Spares 1 after := by
  obtain ⟨world, after, runs, orderly, step, checked⟩ := exists_step_of_replay Orderly Deployment.env Deployment.users 0
    bothLoggedOn (.disconnected 2)
    (fun world _ => ((world.session 1).any fun client => client.state == .ready) &&
      ((world.session 2).any fun client => client.state == .ready) &&
      (Server.timer Deployment.env 9 world.controller).sessions.keys == [2, 1]) (by decide +kernel)
  simp only [Bool.and_eq_true, Option.any_eq_true, beq_iff_eq] at checked
  obtain ⟨⟨⟨first, heldFirst, readyFirst⟩, second, heldSecond, readySecond⟩, keys⟩ := checked
  have isolated := @client_isolated Deployment.env world 2 1 (reachable_of_runsUnder runs) orderly.1 (by decide)
  exact ⟨world, after, runs, step, ⟨first, heldFirst, by simp [readyFirst]⟩,
    ⟨second, heldSecond, by simp [readySecond]⟩, isolated.1 _ _ rfl step, fun after => isolated.2 9 [] [1] _ after keys rfl⟩

end World
end FixProxy
