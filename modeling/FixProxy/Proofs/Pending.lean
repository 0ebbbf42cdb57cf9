import FixProxy.Deployment
import FixProxy.Lib.Matching
import FixProxy.Proofs.Asks
import FixProxy.Proofs.Conduct

/-! The user requests that are pending, as the two maps of the controller have them: one
for each request that was sent and is not answered, under the session it was sent for. -/

namespace FixProxy
open Codec
open Router (Moves Closes)

namespace Router
variable {before after : Router} {action : Action}

/-- The maps agree, and have nothing but requests that wait for their answers. -/
structure Tracked (router : Router) : Prop where
  matched : Matched router.pending router.waiting
  sent : ∀ id session, router.pending id = some session → ∃ request ∈ router.asked, request.userRequestId = id
  waits : ∀ id session, router.pending id = some session → id ∉ router.answered
  answered : ∀ id ∈ router.answered, ∃ request ∈ router.asked, request.userRequestId = id

private theorem Tracked.ask (tracked : before.Tracked) (accounted : before.Accounted) {session : Nat} {request : UserRequest}
    (new : request.userRequestId = before.nextId) (idle : before.waiting session = none)
    (pending : after.pending = emplace before.pending before.nextId session)
    (waiting : after.waiting = Function.update before.waiting session (some before.nextId))
    (asked : after.asked = before.asked ++ [request]) (answered : after.answered = before.answered) : after.Tracked := by
  have free := next_free accounted.registered
  rw [emplace_of_none free] at pending
  have known {id : String} (sent : ∃ request ∈ before.asked, request.userRequestId = id) :
      ∃ request ∈ after.asked, request.userRequestId = id := by
    obtain ⟨older, member, same⟩ := sent
    exact ⟨older, asked ▸ List.mem_append_left _ member, same⟩
  constructor
  · rw [pending, waiting]
    exact tracked.matched.join free idle
  · intro id other found
    by_cases next : id = before.nextId
    · exact ⟨request, asked ▸ List.mem_append_right _ (List.mem_singleton.mpr rfl), new.trans next.symm⟩
    · rw [pending, Function.update_of_ne next] at found
      exact known (tracked.sent id other found)
  · intro id other found spent
    rw [answered] at spent
    by_cases next : id = before.nextId
    · obtain ⟨older, member, same⟩ := tracked.answered id spent
      exact not_issued_next _ (next ▸ same ▸ accounted.issued older member)
    · rw [pending, Function.update_of_ne next] at found
      exact tracked.waits id other found spent
  · intro id spent
    exact known (tracked.answered id (answered ▸ spent))

theorem Tracked.settle (tracked : before.Tracked) {id username : String} {session : Nat}
    (answers : before.Answers id username) (asker : before.pending id = some session)
    (pending : after.pending = Function.update before.pending id none)
    (waiting : after.waiting = Function.update before.waiting session none)
    (asked : after.asked = before.asked) (answered : after.answered = before.answered ++ [id]) : after.Tracked := by
  have kept {other : String} {holder : Nat} (found : after.pending other = some holder) :
      other ≠ id ∧ before.pending other = some holder := by
    rw [pending] at found
    by_cases same : other = id
    · subst other
      simp at found
    · exact ⟨same, (Function.update_of_ne same ..).symm.trans found⟩
  constructor
  · rw [pending, waiting]
    exact tracked.matched.part asker
  · intro other holder found
    exact asked ▸ tracked.sent other holder (kept found).2
  · intro other holder found spent
    rw [answered] at spent
    rcases List.mem_append.mp spent with older | new
    · exact tracked.waits other holder (kept found).2 older
    · exact (kept found).1 (List.mem_singleton.mp new)
  · intro other spent
    rw [asked]
    rw [answered] at spent
    rcases List.mem_append.mp spent with older | new
    · exact tracked.answered other older
    · obtain rfl := List.mem_singleton.mp new
      obtain ⟨request, member, same, -⟩ := answers
      exact ⟨request, member, same⟩

/-- The three actions that do not keep the maps in order. -/
def Strays (router : Router) : Action → Prop
  | .strand _ | .late _ _ _ => True
  | .retireAsking session _ => router.waiting session ≠ none
  | _ => False

private theorem tracked_step (step : Step before action after) (accounted : before.Accounted)
    (orderly : ¬ before.Strays action) (tracked : before.Tracked) : after.Tracked := by
  cases step with
  | logOn arriving =>
    exact tracked.ask accounted rfl (accounted.idle _ _ (Or.inl arriving)) rfl rfl rfl rfl
  | logOff ready =>
    exact tracked.ask accounted rfl (accounted.idle _ _ (Or.inr ready)) rfl rfl rfl rfl
  | @retireAsking session state party username =>
    have idle : before.waiting session = none := by
      by_contra waits
      exact orderly waits
    exact tracked.ask accounted rfl idle rfl (emplace_of_none idle _) rfl rfl
  | grant answers asker | refuse answers asker | settle answers asker =>
    exact tracked.settle answers asker rfl rfl rfl rfl
  | strand | late => exact absurd trivial orderly
  | _ => exact ⟨tracked.matched, tracked.sent, tracked.waits, tracked.answered⟩

end Router
namespace World
variable {env : Env} {before after world : World} {input : Input} {users : Map String (String × Nat)} {realtime : Nat}
  {inputs : List Input}

/-- The events after which the maps are still in order: no accepted logon for a free client id
is left unsent, no session is given up while its log-off waits for the answer, and no answer
comes for a session that is not held any more. -/
def Accountable (env : Env) (before : World) (input : Input) : Prop :=
  (∀ party ∈ before.applicant env input, before.controller.userIsLocked party = false →
    before.controller.serverSession.state = .ready) ∧
  ¬ before.Abandons input ∧
  ∀ response ∈ input.answer,
    ∀ session ∈ before.controller.subscriptions.user.serverToClient.find response.userRequestId,
      before.session session ≠ none

instance (env : Env) (before : World) (input : Input) : Decidable (before.Accountable env input) := by
  unfold Accountable
  infer_instance

/-- A user request with this id was sent upstream on behalf of the session. -/
def SentFor (env : Env) (users : Map String (String × Nat)) (realtime : Nat) (inputs : List Input) (world : World)
    (session : Nat) (id : String) : Prop :=
  Run.Took (Step env) (fun before input after => ∃ request ∈ after.controller.userRequests,
    request.userRequestId = id ∧ request ∉ before.controller.userRequests ∧ before.OnBehalf input session request)
    (create users realtime) inputs world

private theorem sentFor_snoc (run : Runs env users realtime inputs before) (step : Step env before input after)
    (session : Nat) (id : String) : SentFor env users realtime (inputs ++ [input]) after session id ↔
      SentFor env users realtime inputs before session id ∨
        ∃ request ∈ after.view.asked, request.userRequestId = id ∧ request ∉ before.view.asked ∧
          before.OnBehalf input session request :=
  Run.took_snoc (fun _ _ _ _ step step' => step.unique step') run step

private theorem tracked_of_tidy (step : Step env before input after) (reachable : Reachable env before)
    (tidy : before.Accountable env input) (tracked : before.view.Tracked) : after.view.Tracked := by
  have consistent := consistent_of_reachable reachable
  obtain ⟨passed, patient, held⟩ := tidy
  have unlocked {party : String} (free : before.view.route party = none) : before.controller.userIsLocked party = false := by
    have none : before.controller.subscriptions.user.clientToSession.find party = none := free
    simp [Controller.userIsLocked, none]
  cases given : input.answer with
  | none =>
    have moves := step.parts reachable patient given
    refine moves.preserves_consistent Router.Tracked (fun router action next known moved now tracked => ?_) consistent tracked
    obtain ⟨effect, parts⟩ := known
    refine Router.tracked_step moved now.accounted (fun strays => ?_) tracked
    cases action with
    | strand session =>
      obtain ⟨party, applied, free, down⟩ := effect.strand session rfl
      exact down (passed party applied (unlocked free))
    | late =>
      obtain ⟨response, answers, -⟩ := caused_answer effect.caused trivial
      rw [given] at answers
      cases answers
    | retireAsking session username =>
      obtain ⟨party, ready⟩ := parts session username rfl
      exact strays (now.accounted.idle session party (Or.inr ready))
    | _ => exact strays
  | some response =>
    obtain ⟨msgSeqNum, rfl⟩ := eq_of_answer given
    obtain ⟨session, action, middle, asker, answer, answering, moved, closes⟩ := step.settles reachable
    have settled : middle.Tracked := by
      refine Router.tracked_step moved consistent.accounted (fun strays => ?_) tracked
      cases moved with
      | late answers pending collected =>
        obtain ⟨-, rfl, -⟩ := answering
        exact held response rfl _ pending (view_session_none.mp collected)
      | grant | refuse | settle => exact strays
      | _ => exact answer
    refine closes.preserves_consistent Router.Tracked (fun router action next known moved now tracked => ?_)
      (Router.consistent_step moved consistent) settled
    obtain ⟨closing, idle⟩ := known
    refine Router.tracked_step moved now.accounted (fun strays => ?_) tracked
    cases action with
    | retireAsking other username => exact strays (idle other username rfl)
    | strand => exact absurd closing (not_closes_of_asking trivial)
    | late => exact absurd closing (not_closes_of_answer trivial)
    | _ => exact strays

structure Ledger (env : Env) (users : Map String (String × Nat)) (realtime : Nat) (inputs : List Input) (world : World) :
    Prop where
  tracked : world.view.Tracked
  precise : ∀ session id, world.view.pending id = some session ↔
    SentFor env users realtime inputs world session id ∧ id ∉ world.answered

private theorem ledger_snoc (runs : RunsUnder (Accountable env) env users realtime inputs before)
    (tidy : before.Accountable env input)
    (step : Step env before input after) (ledger : Ledger env users realtime inputs before) :
    Ledger env users realtime (inputs ++ [input]) after := by
  have run := runs_of_runsUnder runs
  have reachable : Reachable env before := ⟨users, realtime, inputs, run⟩
  have consistent := consistent_of_reachable reachable
  have tracked := tracked_of_tidy step reachable tidy ledger.tracked
  have since := step.asks consistent
  have answered : after.answered = before.answered ++ (input.answer.map (·.userRequestId)).toList := step.answered
  refine ⟨tracked, fun session id => ?_⟩
  rw [sentFor_snoc run step]
  constructor
  · intro pending
    refine ⟨?_, tracked.waits id session pending⟩
    obtain ⟨request, asked, rfl⟩ := tracked.sent id session pending
    rcases since.asked request asked with old | ⟨fresh, other, behalf, registered⟩
    · -- asked before the event, which has not answered it
      refine Or.inl ?_
      have unanswered : request.userRequestId ∉ after.answered := tracked.waits _ session pending
      rw [answered] at unanswered
      rw [step.pending consistent (consistent.accounted.issued request old)] at pending
      · exact ((ledger.precise session _).mp pending).1
      · intro response given same
        have given : input.answer = some response := given
        simp [given, same] at unanswered
    · rw [pending] at registered
      cases registered
      exact Or.inr ⟨request, asked, rfl, fun old => fresh (consistent.accounted.issued request old), behalf⟩
  · rintro ⟨past | ⟨request, asked, rfl, new, behalf⟩, unanswered⟩
    · rw [answered, List.mem_append, not_or] at unanswered
      have pending := (ledger.precise session id).mpr ⟨past, unanswered.1⟩
      obtain ⟨request, asked, rfl⟩ := ledger.tracked.sent id session pending
      rw [step.pending consistent (consistent.accounted.issued request asked)]
      · exact pending
      · intro response given same
        have given : input.answer = some response := given
        simp [given, same] at unanswered
    · rcases since.asked request asked with old | ⟨-, other, behalf', registered⟩
      · exact absurd old new
      · rw [onBehalf_unique consistent behalf behalf']
        exact registered

private theorem ledger_of_runsUnder (runs : RunsUnder (Accountable env) env users realtime inputs world) :
    Ledger env users realtime inputs world := by
  refine Run.history (Ledger env users realtime) ?_ (fun run performed ledger => ?_) runs
  · have idle id : (create users realtime).view.pending id = none := rfl
    have waits session : (create users realtime).view.waiting session = none := rfl
    have none : (create users realtime).answered = [] := rfl
    refine ⟨⟨fun id session => ?_, ?_, ?_, ?_⟩, fun session id => ?_⟩
    · simp [idle, waits]
    · simp [idle]
    · simp [idle]
    · exact by simp [World.view, Controller.view, none]
    · rw [idle]
      constructor
      · intro found
        cases found
      · rintro ⟨sent, -⟩
        exact absurd sent (Run.not_took_nil _ _)
  · exact ledger_snoc run performed.1 performed.2 ledger

/-- The maps of the pending user requests are inverses of each other and hold the requests
that were sent and are not answered, each for the session it was sent for; an answer takes
its request out of both. -/
theorem pending_exact (runs : RunsUnder (Accountable env) env users realtime inputs world) :
    (∀ session id,
      (world.controller.subscriptions.user.serverToClient.find id = some session ↔
        world.controller.subscriptions.user.clientToServer.find session = some id) ∧
      (world.controller.subscriptions.user.serverToClient.find id = some session ↔
        SentFor env users realtime inputs world session id ∧ id ∉ world.answered)) ∧
    ∀ msgSeqNum response after, world.Accountable env (.serverRead msgSeqNum (.userResponse response)) →
      Step env world (.serverRead msgSeqNum (.userResponse response)) after →
      after.controller.subscriptions.user.serverToClient.find response.userRequestId = none ∧
      ∀ session, after.controller.subscriptions.user.clientToServer.find session ≠ some response.userRequestId := by
  have ledger := ledger_of_runsUnder runs
  refine ⟨fun session id => ⟨ledger.tracked.matched id session, ledger.precise session id⟩, ?_⟩
  intro msgSeqNum response after tidy step
  have tracked := (ledger_snoc runs tidy step ledger).tracked
  have answered : response.userRequestId ∈ after.view.answered := by
    have extended : after.answered = world.answered ++ [response.userRequestId] := step.answered
    have member : response.userRequestId ∈ after.answered := by simp [extended]
    exact member
  have settled session : after.view.pending response.userRequestId ≠ some session :=
    fun pending => tracked.waits _ session pending answered
  refine ⟨Option.eq_none_iff_forall_not_mem.mpr settled, fun session waits => ?_⟩
  exact settled session ((tracked.matched _ session).mpr waits)

/-- A client leaves before its logon is answered, and the answer does not find it; another one
leaves before its logout is answered. -/
theorem pending_drifts :
    (∃ world, Runs Deployment.env Deployment.users 0
        (Deployment.arrived ++ [.disconnected 1, .timer 0, Deployment.answer "proxy-1" "1" .loggedIn]) world ∧
      world.controller.serverSession.state = .ready ∧ "proxy-1" ∈ world.answered ∧
      world.controller.subscriptions.user.serverToClient.find "proxy-1" = some 1 ∧
      world.controller.subscriptions.user.clientToServer.find 1 = some "proxy-1") ∧
    ∃ world, Runs Deployment.env Deployment.users 0
        (Deployment.loggedOn ++ [Deployment.sends 1 .logout, .disconnected 1]) world ∧
      world.controller.serverSession.state = .ready ∧
      world.controller.subscriptions.user.serverToClient.find "proxy-3" = some 1 ∧
      world.controller.subscriptions.user.clientToServer.find 1 = some "proxy-2" := by
  constructor
  · obtain ⟨world, runs, checked⟩ := exists_run_of_replay Regular Deployment.env Deployment.users 0
      (Deployment.arrived ++ [.disconnected 1, .timer 0, Deployment.answer "proxy-1" "1" .loggedIn])
      (fun world => world.controller.serverSession.state == .ready && world.answered.contains "proxy-1" &&
        world.controller.subscriptions.user.serverToClient.find "proxy-1" == some 1 &&
        world.controller.subscriptions.user.clientToServer.find 1 == some "proxy-1") (by decide +kernel)
    simp only [Bool.and_eq_true, beq_iff_eq, List.contains_iff_mem] at checked
    obtain ⟨⟨⟨up, answered⟩, pending⟩, waits⟩ := checked
    exact ⟨world, runs_of_runsUnder runs, up, answered, pending, waits⟩
  · obtain ⟨world, runs, checked⟩ := exists_run_of_replay Regular Deployment.env Deployment.users 0
      (Deployment.loggedOn ++ [Deployment.sends 1 .logout, .disconnected 1])
      (fun world => world.controller.serverSession.state == .ready &&
        world.controller.subscriptions.user.serverToClient.find "proxy-3" == some 1 &&
        world.controller.subscriptions.user.clientToServer.find 1 == some "proxy-2") (by decide +kernel)
    simp only [Bool.and_eq_true, beq_iff_eq] at checked
    obtain ⟨⟨up, pending⟩, waits⟩ := checked
    exact ⟨world, runs_of_runsUnder runs, up, pending, waits⟩

/-- A client leaves before its logon is refused, while another one waits for its own answer. -/
theorem pending_exact_zombie : ∃ world, RunsUnder (Accountable Deployment.env) Deployment.env Deployment.users 0
      (Deployment.arrived ++ [.disconnected 1] ++ Deployment.arrives 2 "c2" "p2" ++
        [Deployment.answer "proxy-1" "1" .notLoggedIn]) world ∧
    world.controller.subscriptions.user.serverToClient.find "proxy-1" = none ∧
    SentFor Deployment.env Deployment.users 0 (Deployment.arrived ++ [.disconnected 1] ++ Deployment.arrives 2 "c2" "p2" ++
        [Deployment.answer "proxy-1" "1" .notLoggedIn]) world 2 "proxy-2" ∧
    world.controller.subscriptions.user.clientToServer.find 2 = some "proxy-2" := by
  obtain ⟨world, runs, checked⟩ := exists_run_of_replay (Accountable Deployment.env) Deployment.env Deployment.users 0
    (Deployment.arrived ++ [.disconnected 1] ++ Deployment.arrives 2 "c2" "p2" ++
      [Deployment.answer "proxy-1" "1" .notLoggedIn])
    (fun world => world.controller.subscriptions.user.serverToClient.find "proxy-1" == none &&
      world.controller.subscriptions.user.serverToClient.find "proxy-2" == some 2) (by decide +kernel)
  simp only [Bool.and_eq_true, beq_iff_eq] at checked
  obtain ⟨gone, pending⟩ := checked
  obtain ⟨inverse, precise⟩ := (pending_exact runs).1 2 "proxy-2"
  exact ⟨world, runs, gone, (precise.mp pending).1, inverse.mp pending⟩

end World
end FixProxy
