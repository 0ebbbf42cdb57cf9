import FixProxy.Deployment
import FixProxy.Proofs.Reachable

/-! Routes over whole runs. A route is made by an answer that can arrive long after
the session that asked has ended, and it is removed by a username. -/

namespace FixProxy
open Codec
open Router (Moves Closes)

/-! A route leads to a session that is alive. -/

namespace Router

/-- A session that owns a route has not ended. -/
def Live (router : Router) : Prop :=
  ∀ session, router.owner session ≠ none →
    router.session session ≠ none ∧ ∀ party, router.session session ≠ some (.zombie, party)

private theorem live_step {before after : Router} {action : Action} (step : Step before action after)
    (consistent : before.Consistent) (live : before.Live)
    (timely : ∀ id username session party, action = .grant id username session →
      before.session session ≠ some (.zombie, party)) : after.Live := by
  obtain ⟨⟨known, -, -, doomed⟩, inverse, accounted, -⟩ := consistent
  have unrouted := accounted.unrouted
  have owners := accounted.owners
  unfold Live at *
  cases step with
  | accept => grind
  | nominate arriving => grind
  | logOn arriving plain unlocked upstream => grind
  | strand arriving unlocked upstream => grind
  | drop arriving => grind
  | logOff ready upstream => grind
  | retire held active silent => grind
  | retireAsking held active owned ready => grind
  | @grant id username granted state party answers asker held free unowned =>
    have alive := timely id username granted party rfl
    intro session owned
    by_cases same : session = granted
    · subst session
      rw [held] at alive
      grind
    · have earlier : before.owner session ≠ none := by simpa [same] using owned
      simpa [same] using live session earlier
  | refuse answers asker held => exact fun session owned => live session fun unowned => owned (by simp [unowned])
  | late answers asker collected => exact fun session owned => live session fun unowned => owned (by simp [unowned])
  | sweep =>
    intro session owned
    obtain ⟨held, alive⟩ := live session owned
    have spared : session ∉ before.doomed := by
      intro collected
      obtain ⟨⟨state, party⟩, found, rfl⟩ := Option.map_eq_some_iff.mp (doomed session collected)
      exact alive party found
    simpa [spared] using And.intro held alive
  | _ => exact live

end Router

namespace World
variable {env : Env} {users : Map String (String × Nat)} {realtime : Nat} {inputs : List Input} {world : World}

/-- No `LOGGED_IN` is handled for a session that has ended and is not yet collected. -/
def Timely (before : World) (input : Input) : Prop :=
  ∀ response ∈ input.answer, response.userStatus = .loggedIn →
    ∀ session ∈ before.controller.subscriptions.user.serverToClient.find response.userRequestId,
      ∀ client ∈ before.session session, client.state ≠ .zombie

instance (before : World) (input : Input) : Decidable (before.Timely input) := by
  unfold Timely
  infer_instance

private theorem granted_alive {before after : World} {input : Input} {router : Router} {id username : String} {session : Nat}
    (timely : before.Timely input) (caused : Caused before input after router (.grant id username session))
    {next : Router} (step : Router.Step router (.grant id username session) next) (party : String) :
    router.session session ≠ some (.zombie, party) := by
  intro zombie
  obtain ⟨response, answer, rfl, rfl, rfl, loggedIn⟩ := caused_answer caused trivial
  cases step with
  | grant answers asker held free unowned =>
    obtain ⟨client, found, shape⟩ := Option.map_eq_some_iff.mp zombie
    exact timely response answer loggedIn session asker client found (congrArg Prod.fst shape)

/-- A route leads to a session that is held and has not ended, and a client id is
locked by nothing else, as long as no answer grants a route to a zombie. -/
theorem route_alive (runs : RunsUnder Timely env users realtime inputs world) :
    (∀ username session, world.controller.subscriptions.user.clientToSession.find username = some session →
      world.Alive session) ∧
    ∀ username, world.controller.userIsLocked username = true → ∃ session,
      world.controller.subscriptions.user.clientToSession.find username = some session ∧ world.Alive session := by
  have live : world.view.Live :=
    invariant_of_runsUnder Router.Live (fun session owned => absurd rfl owned)
      (fun before input after timely consistent _ router action next caused step sound holds =>
        Router.live_step step sound holds fun _ _ _ party same => by
          subst same
          exact granted_alive timely caused step party) runs
  have alive username session (route : world.view.route username = some session) : world.Alive session := by
    have owned := ((consistent_of_reachable (reachable_of_runsUnder runs)).inverse username session).mp route
    obtain ⟨held, alive⟩ := live session (by simp [owned])
    refine not_dead_iff.mp ?_
    rintro (gone | ⟨party, zombie⟩)
    · exact held gone
    · exact alive party zombie
  refine ⟨alive, fun username locked => ?_⟩
  obtain ⟨session, route⟩ := Option.isSome_iff_exists.mp locked
  exact ⟨session, route, alive username session route⟩

theorem route_alive_loggedOn : ∃ world, RunsUnder Timely Deployment.env Deployment.users 0 Deployment.loggedOn world ∧
    world.Alive 1 := by
  obtain ⟨world, runs, routed⟩ := exists_run_of_replay Timely Deployment.env Deployment.users 0 Deployment.loggedOn
    (fun world => world.controller.subscriptions.user.clientToSession.find "1" == some 1) (by decide +kernel)
  exact ⟨world, runs, (route_alive runs).1 "1" 1 (by simpa using routed)⟩

/-- A client disconnects while its logon is pending, is granted its route a moment
later, and is collected. -/
def grantedLate : List Input :=
  Deployment.arrived ++ [.disconnected 1, Deployment.answer "proxy-1" "1" .loggedIn, .timer 0]

/-- The client id stays locked, and its route leads nowhere. -/
theorem route_stale : ∃ world, RunsUnder Regular Deployment.env Deployment.users 0 grantedLate world ∧
    world.controller.subscriptions.user.clientToSession.find "1" = some 1 ∧ world.session 1 = none ∧
      world.controller.userIsLocked "1" = true := by
  obtain ⟨world, runs, checked⟩ := exists_run_of_replay Regular Deployment.env Deployment.users 0 grantedLate
    (fun world => world.controller.subscriptions.user.clientToSession.find "1" == some 1 &&
      (world.session 1).isNone && world.controller.userIsLocked "1") (by decide +kernel)
  exact ⟨world, runs, by simpa [and_assoc] using checked⟩

end World

/-! A session that is ready has a route of its own. -/

namespace Router

/-- A session that is ready owns the route of its party. -/
def Routed (router : Router) : Prop :=
  ∀ session party, router.session session = some (.ready, party) → router.owner session = some party

private theorem routed_step {before after : Router} {action : Action} (step : Step before action after)
    (consistent : before.Consistent) (routed : before.Routed)
    (own : ∀ id username asker, action = .refuse id username asker ∨ action = .late id username asker →
      ∀ owner, before.route username = some owner → owner = asker) : after.Routed := by
  obtain ⟨⟨known, -, -, -⟩, inverse, accounted, -⟩ := consistent
  have awaits := accounted.awaits
  unfold Routed at *
  unfold Inverse at inverse
  cases step with
  | accept => grind
  | nominate arriving => grind
  | logOn arriving plain unlocked upstream => grind
  | strand arriving unlocked upstream => grind
  | drop arriving => grind
  | logOff ready upstream => grind
  | retire held active silent => grind
  | retireAsking held active owned ready => grind
  | grant answers asker held free unowned => grind
  | refuse answers asker held => grind
  | late answers asker collected => grind
  | sweep => grind
  | _ => exact routed

end Router

namespace World
variable {env : Env} {users : Map String (String × Nat)} {realtime : Nat} {inputs : List Input} {world : World}

/-- An answer that removes a route, because of its status or because the session that
asked is gone, does not find the route of another session. -/
def RemovesOwn (before : World) (input : Input) : Prop :=
  ∀ response ∈ input.answer, ∀ asker ∈ before.controller.subscriptions.user.serverToClient.find response.userRequestId,
    response.userStatus = .notLoggedIn ∨ before.session asker = none →
    ∀ owner ∈ before.controller.subscriptions.user.clientToSession.find response.username, owner = asker

instance (before : World) (input : Input) : Decidable (before.RemovesOwn input) := by
  unfold RemovesOwn
  infer_instance

private theorem removed_own {before after : World} {input : Input} {router : Router} {id username : String} {asker : Nat}
    {action : Action} (own : before.RemovesOwn input) (caused : Caused before input after router action)
    {next : Router} (step : Router.Step router action next)
    (removes : action = .refuse id username asker ∨ action = .late id username asker)
    (owner : Nat) (route : router.route username = some owner) : owner = asker := by
  obtain rfl | rfl := removes
  · obtain ⟨response, answer, rfl, rfl, rfl, refused⟩ := caused_answer caused trivial
    cases step with
    | refuse answers asked held => exact own response answer asker asked (Or.inl refused) owner route
  · obtain ⟨response, answer, rfl, rfl, rfl⟩ := caused_answer caused trivial
    cases step with
    | late answers asked collected =>
      exact own response answer asker asked (Or.inr (view_session_none.mp collected)) owner route

private theorem other_route_kept {before after : World} {input : Input} {router next : Router} {action : Action}
    (own : before.RemovesOwn input) {response : UserResponse} (answer : response ∈ input.answer) {asker session : Nat}
    (asked : before.view.pending response.userRequestId = some asker) (other : session ≠ asker) {username : String}
    (caused : Caused before input after router action) (step : Router.Step router action next)
    (inverse : router.Inverse) (route : router.route username = some session) : next.route username = some session := by
  -- a session that ends in an answer is the one that asked
  have unowned (ended : Nat) (closes : ∃ session, before.view.pending response.userRequestId = some session ∧
      Closes session action) (ends : ∀ session, Closes session action → session = ended) :
      router.owner ended ≠ some username := by
    obtain ⟨closed, pending, closes⟩ := closes
    rw [← ends closed closes, ← Option.some.inj (asked.symm.trans pending)]
    exact fun owned => other (Option.some.inj (route.symm.trans ((inverse username asker).mpr owned)))
  have answering : Controller.Answering response before.view router action := by
    cases input with
    | serverRead msgSeqNum message =>
      cases message with
      | userResponse value =>
        cases answer
        exact caused
      | _ => cases answer
    | _ => cases answer
  cases step with
  | grant answers pending held free =>
    have different : username ≠ _ := fun same => by rw [same, free] at route; cases route
    rw [← route]
    exact Function.update_of_ne different ..
  | @refuse id refused found state party answers pending held =>
    obtain ⟨rfl, rfl, -⟩ := answering
    have same : found = asker := Option.some.inj (pending.symm.trans asked)
    have different : username ≠ refused := by
      rintro rfl
      exact other ((removed_own own caused (.refuse answers pending held) (Or.inl rfl) session route).trans same)
    rw [← route]
    exact Function.update_of_ne different ..
  | @late id refused found answers pending collected =>
    obtain ⟨rfl, rfl, -⟩ := answering
    have same : found = asker := Option.some.inj (pending.symm.trans asked)
    have different : username ≠ refused := by
      rintro rfl
      exact other ((removed_own own caused (.late answers pending collected) (Or.inr rfl) session route).trans same)
    rw [← route]
    exact Function.update_of_ne different ..
  | @retire ended state party held active silent =>
    have kept := unowned ended answering fun _ closes => by
      obtain named | ends := closes
      · cases named
      · exact ends.symm
    simpa [kept] using route
  | @retireAsking ended state party owned held active owns ready =>
    have kept := unowned ended answering fun _ closes => by
      obtain named | ends := closes
      · cases named
      · exact ends.symm
    have different : username ≠ owned := by
      rintro rfl
      exact kept owns
    rw [← route]
    exact Function.update_of_ne different ..
  | _ => exact route

/-- Every session that is ready has its own route, in both directions, as long as every
answer that removes a route removes the one of the session that asked. No two sessions
are then ready for one client id, an answer never takes the route of another session,
and a broadcast goes to the one session that is ready. -/
theorem ready_routed (runs : RunsUnder RemovesOwn env users realtime inputs world) :
    (∀ session client, world.session session = some client → client.state = .ready →
      world.controller.subscriptions.user.clientToSession.find client.partyId = some session ∧
        world.controller.subscriptions.user.sessionToClient.find session = some client.partyId) ∧
    (∀ left right client other, world.session left = some client → client.state = .ready →
      world.session right = some other → other.state = .ready → client.partyId = other.partyId → left = right) ∧
    (∀ input after, world.RemovesOwn input → Step env world input after → ∀ response ∈ input.answer,
      ∀ asker ∈ world.controller.subscriptions.user.serverToClient.find response.userRequestId,
      ∀ username session, session ≠ asker →
      world.controller.subscriptions.user.clientToSession.find username = some session →
      after.controller.subscriptions.user.clientToSession.find username = some session) ∧
    ∀ session client response, world.session session = some client → client.state = .ready →
      ∃ msgSeqNum, (world.controller.broadcast response client.partyId).log =
        world.controller.log ++ [.toClient session msgSeqNum (.response response)] := by
  have consistent := consistent_of_reachable (reachable_of_runsUnder runs)
  have routed : world.view.Routed :=
    invariant_of_runsUnder Router.Routed (fun _ _ ready => nomatch ready)
      (fun _ _ _ own _ _ _ _ _ caused step sound holds =>
        Router.routed_step step sound holds fun _ _ _ removes => removed_own own caused step removes) runs
  have owned session client (held : world.session session = some client) (ready : client.state = .ready) :
      world.view.owner session = some client.partyId :=
    routed session client.partyId (ready ▸ view_session held)
  have route session client (held : world.session session = some client) (ready : client.state = .ready) :
      world.view.route client.partyId = some session :=
    (consistent.inverse _ _).mpr (owned session client held ready)
  refine ⟨fun session client held ready => ⟨route session client held ready, owned session client held ready⟩,
    ?_, ?_, ?_⟩
  · intro left right client other heldLeft readyLeft heldRight readyRight same
    have first := route left client heldLeft readyLeft
    rw [same, route right other heldRight readyRight] at first
    exact (Option.some.inj first).symm
  · intro input after own step response answer asker asked username session other held
    refine (step.moves consistent).preserves_consistent (fun router => router.route username = some session)
      (fun _ _ _ caused step sound route => ?_) consistent held
    exact other_route_kept own answer asked other caused step sound.inverse route
  · intro session client response held ready
    have routed : world.controller.subscriptions.user.clientToSession.find client.partyId = some session :=
      route session client held ready
    have found : world.controller.sessions.find session = some client := held
    exact ⟨client.outboundMsgSeqNum + 1, by
      simp [Controller.broadcast, routed, Controller.dispatchToClient, Controller.sendToClient, found, ready]⟩

theorem ready_routed_loggedOn : ∃ world client, RunsUnder RemovesOwn Deployment.env Deployment.users 0 Deployment.loggedOn world ∧
    world.session 1 = some client ∧ client.state = .ready ∧
      world.controller.subscriptions.user.clientToSession.find client.partyId = some 1 := by
  obtain ⟨world, runs, checked⟩ := exists_run_of_replay RemovesOwn Deployment.env Deployment.users 0 Deployment.loggedOn
    (fun world => (world.session 1).any fun client => client.state == .ready) (by decide +kernel)
  obtain ⟨client, held, ready⟩ := (Option.any_eq_true ..).mp checked
  have ready : client.state = .ready := by simpa using ready
  exact ⟨world, client, runs, held, ready, ((ready_routed runs).1 1 client held ready).1⟩

/-- Two users of one strategy log on at the same time. The first is accepted and the
second is refused. -/
def refusedSecond : List Input :=
  Deployment.arrived ++ Deployment.arrives 2 "c3" "p3" ++
    [Deployment.answer "proxy-1" "1" .loggedIn, Deployment.answer "proxy-2" "1" .notLoggedIn]

/-- The first one is ready and its route is gone. -/
theorem ready_unrouted : ∃ world client, RunsUnder Regular Deployment.env Deployment.users 0 refusedSecond world ∧
    world.session 1 = some client ∧ client.state = .ready ∧ client.partyId = "1" ∧
      world.controller.subscriptions.user.clientToSession.find "1" = none ∧
      world.controller.subscriptions.user.sessionToClient.find 1 = none := by
  obtain ⟨world, runs, checked⟩ := exists_run_of_replay Regular Deployment.env Deployment.users 0 refusedSecond
    (fun world => ((world.session 1).any fun client => client.state == .ready && client.partyId == "1") &&
      (world.controller.subscriptions.user.clientToSession.find "1").isNone &&
      (world.controller.subscriptions.user.sessionToClient.find 1).isNone) (by decide +kernel)
  simp only [Bool.and_eq_true, Option.any_eq_true, beq_iff_eq, Option.isNone_iff_eq_none] at checked
  obtain ⟨⟨⟨client, held, ready, party⟩, unrouted⟩, unowned⟩ := checked
  exact ⟨world, client, runs, held, ready, party, unrouted, unowned⟩

end World
end FixProxy
