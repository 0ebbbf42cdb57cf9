import FixProxy.Proofs.Routes

/-! When the process is aborted. With an upstream that answers as it should, every
check that aborts is redundant but one: a route that is granted while another session
holds it. -/

namespace FixProxy
open Codec

namespace Router

/-- The logons that are not answered: a session has at most one, and it does not own a
route yet, even after it has ended. -/
structure Fresh (router : Router) : Prop where
  typed : ∀ request ∈ router.asked, request.userRequestType ≠ .other
  single : ∀ left ∈ router.asked, ∀ right ∈ router.asked,
    left.userRequestId ∉ router.answered → right.userRequestId ∉ router.answered →
    left.userRequestType = .logOnUser → right.userRequestType = .logOnUser → ∀ session,
    router.pending left.userRequestId = some session → router.pending right.userRequestId = some session →
    left.userRequestId = right.userRequestId
  unowned : ∀ request ∈ router.asked, request.userRequestId ∉ router.answered →
    request.userRequestType = .logOnUser → ∀ session, router.pending request.userRequestId = some session →
    router.owner session = none

private theorem fresh_step {before after : Router} {action : Action} (step : Step before action after)
    (consistent : before.Consistent) (fresh : before.Fresh)
    (logOns : ∀ id username session, action = .grant id username session → ∀ request ∈ before.asked,
      request.userRequestId = id → request.userRequestId ∉ before.answered →
      request.userRequestType = .logOnUser) : after.Fresh := by
  obtain ⟨sound, inverse, accounted, -⟩ := consistent
  obtain ⟨issued, distinct, registered, waits, kept, awaits, idle, owners, unrouted⟩ := accounted
  obtain ⟨typed, single, unowned⟩ := fresh
  have free := next_free registered
  constructor
  · cases step <;> grind
  · clear inverse owners unrouted idle kept waits unowned typed logOns distinct
    cases step with
    | logOn arriving plain unlocked upstream => grind
    | strand arriving unlocked upstream => grind
    | logOff ready upstream => grind
    | retireAsking held active owned ready => grind
    | grant answers asker held free unowned => grind
    | refuse answers asker held => grind
    | settle answers asker held => grind
    | late answers asker collected => grind
    | _ => exact single
  · cases step with
    | logOn arriving plain unlocked upstream => grind
    | strand arriving unlocked upstream => grind
    | logOff ready upstream => grind
    | retire held active silent => grind
    | retireAsking held active owned ready => grind
    | grant answers asker held free unowned => grind
    | refuse answers asker held => grind
    | settle answers asker held => grind
    | late answers asker collected => grind
    | _ => exact unowned

end Router

namespace World
variable {env : Env} {users : Map String (String × Nat)} {realtime : Nat} {inputs : List Input} {world : World}

/-- No route is granted under a client id that is locked, to a session that is held. -/
def GrantsUnlocked (before : World) (input : Input) : Prop :=
  ∀ response ∈ input.answer, response.userStatus = .loggedIn →
    ∀ session ∈ before.controller.subscriptions.user.serverToClient.find response.userRequestId,
      before.session session ≠ none → before.controller.userIsLocked response.username = false

instance (before : World) (input : Input) : Decidable (before.GrantsUnlocked input) := by
  unfold GrantsUnlocked
  infer_instance

private theorem granted_logOn {before after : World} {input : Input} {router : Router} {id username : String} {session : Nat}
    (regular : before.Regular input) (fresh : router.Fresh)
    (caused : Caused before input after router (.grant id username session)) (request : UserRequest)
    (asked : request ∈ router.asked) (answers : request.userRequestId = id)
    (unanswered : request.userRequestId ∉ router.answered) : request.userRequestType = .logOnUser := by
  obtain ⟨response, answer, rfl, rfl, rfl, loggedIn⟩ := caused_answer caused trivial
  have expected := regular response answer request (mem_unanswered.mpr ⟨asked, unanswered⟩) answers
  have typed := fresh.typed request asked
  cases type : request.userRequestType with
  | logOnUser => rfl
  | logOffUser => simp [Expected, type, loggedIn] at expected
  | other => exact absurd type typed

private theorem fresh_of_runsUnder (runs : RunsUnder Regular env users realtime inputs world) : world.view.Fresh := by
  have empty : (create users realtime).view.asked = [] := rfl
  exact invariant_of_runsUnder Router.Fresh (by constructor <;> simp [empty])
    (fun _ _ _ regular _ _ _ _ _ caused step sound holds =>
      Router.fresh_step step sound holds fun _ _ _ same => by
        subst same
        exact granted_logOn regular holds caused) runs

private theorem permitted_answer {response : UserResponse} {input : Input} (answer : response ∈ input.answer)
    (permitted : world.Permits input) : ∃ request ∈ world.unanswered,
      request.userRequestId = response.userRequestId ∧ request.username = response.username := by
  cases input with
  | serverRead msgSeqNum message =>
    cases message with
    | userResponse value =>
      cases answer
      exact permitted.2
    | _ => cases answer
  | _ => cases answer

private theorem aborts_iff {response : UserResponse} {input : Input} (answer : response ∈ input.answer)
    (consistent : world.view.Consistent) (fresh : world.view.Fresh) (permitted : world.Permits input)
    (regular : world.Regular input) : world.controller.Aborts response ↔ ¬ world.GrantsUnlocked input := by
  obtain ⟨request, waiting, same, -⟩ := permitted_answer answer permitted
  obtain ⟨asked, unanswered⟩ := mem_unanswered.mp waiting
  have expected := regular response answer request waiting same
  have registered := consistent.accounted.kept request asked unanswered
  obtain ⟨session, pending⟩ := Option.ne_none_iff_exists'.mp registered
  have awaits := consistent.accounted.awaits request asked unanswered session pending
  rw [same] at pending
  have asker : world.controller.subscriptions.user.serverToClient.find response.userRequestId = some session := pending
  have granted : world.GrantsUnlocked input ↔ (response.userStatus = .loggedIn → world.session session ≠ none →
      world.controller.userIsLocked response.username = false) := by
    simp [GrantsUnlocked, Option.mem_def.mp answer, asker]
  rw [granted]
  unfold Controller.Aborts
  simp only [asker]
  cases found : world.controller.sessions.find session with
  | none =>
    have absent : world.session session = none := found
    simp [absent]
  | some client =>
    have held : world.session session = some client := found
    have viewed := view_session held
    cases status : response.userStatus with
    | loggedIn =>
      have type : request.userRequestType = .logOnUser := by
        have typed := fresh.typed request asked
        cases type : request.userRequestType with
        | logOnUser => rfl
        | logOffUser => simp [Expected, type, status] at expected
        | other => exact absurd type typed
      have unowned : world.controller.subscriptions.user.sessionToClient.find session = none :=
        fresh.unowned request asked unanswered type session (same ▸ pending)
      simp [held, unowned]
    | notLoggedIn =>
      -- no request of a ready session waits for an answer
      have departed : client.state ≠ .ready := by
        intro ready
        rw [viewed, ready] at awaits
        exact awaits
      simp [departed]
    | other => simp

/-- With an upstream that answers each user request at most once, and as it should, an
event aborts the process exactly when it grants a route to a session that is held
while the client id is locked. -/
theorem abort_iff (runs : RunsUnder Regular env users realtime inputs world) (input : Input)
    (permitted : world.Permits input) (regular : world.Regular input) :
    (∃ what, FixProxy.step env input world.controller = .fatal what) ↔ ¬ world.GrantsUnlocked input := by
  have consistent := consistent_of_reachable (reachable_of_runsUnder runs)
  have fresh := fresh_of_runsUnder runs
  constructor
  · rintro ⟨what, fatal⟩ unlocked
    have leaves := step_leaves env input permitted consistent fun response answer aborts =>
      (aborts_iff answer consistent fresh permitted regular).mp aborts unlocked
    rw [fatal] at leaves
    exact leaves
  · intro locked
    cases answer : input.answer with
    | none => exact absurd (fun response member => by simp [answer] at member) locked
    | some response => exact step_aborts env answer ((aborts_iff answer consistent fresh permitted regular).mpr locked)

theorem abort_iff_arrived : ∃ world, RunsUnder Regular Deployment.env Deployment.users 0 Deployment.arrived world ∧
    ¬ ∃ what, FixProxy.step Deployment.env (Deployment.answer "proxy-1" "1" .loggedIn) world.controller =
      .fatal what := by
  obtain ⟨world, runs, checked⟩ := exists_run_of_replay Regular Deployment.env Deployment.users 0 Deployment.arrived
    (fun world => let input := Deployment.answer "proxy-1" "1" .loggedIn
      decide (world.Permits input) && decide (world.Regular input) && decide (world.GrantsUnlocked input))
    (by decide +kernel)
  simp only [Bool.and_eq_true, decide_eq_true_eq] at checked
  obtain ⟨⟨permitted, regular⟩, unlocked⟩ := checked
  exact ⟨world, runs, fun aborts => (abort_iff runs _ permitted regular).mp aborts unlocked⟩

/-- A client disconnects while its logon is pending and logs on again. Its first logon
is accepted before the first session is collected. -/
def reconnected : List Input :=
  Deployment.arrived ++ [.disconnected 1] ++ Deployment.arrives 2 "trader" "secret" ++
    [Deployment.answer "proxy-1" "1" .loggedIn]

/-- The answer to the second logon aborts the process. -/
theorem reconnect_aborts : ∃ world, RunsUnder Regular Deployment.env Deployment.users 0 reconnected world ∧
    world.Permits (Deployment.answer "proxy-2" "1" .loggedIn) ∧
    world.Regular (Deployment.answer "proxy-2" "1" .loggedIn) ∧
    ∃ what, FixProxy.step Deployment.env (Deployment.answer "proxy-2" "1" .loggedIn) world.controller =
      .fatal what := by
  obtain ⟨world, runs, checked⟩ := exists_run_of_replay Regular Deployment.env Deployment.users 0 reconnected
    (fun world => let input := Deployment.answer "proxy-2" "1" .loggedIn
      decide (world.Permits input) && decide (world.Regular input) &&
        (FixProxy.step Deployment.env input world.controller).isFatal) (by decide +kernel)
  simp only [Bool.and_eq_true, decide_eq_true_eq] at checked
  obtain ⟨⟨permitted, regular⟩, fatal⟩ := checked
  exact ⟨world, runs, permitted, regular, Outcome.isFatal_iff.mp fatal⟩

end World
end FixProxy
