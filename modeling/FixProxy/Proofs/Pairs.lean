import FixProxy.Deployment
import FixProxy.Proofs.Desk

/-! The process and its upstream connection. Between two log-ons for a client id the first
was refused or one log-off was sent, as long as no session comes or goes in between. -/

namespace FixProxy
open Codec
open Exchange (Phase Standing queue)
open Router (Moves Closes)

/-- What a connection has carried when an event begins: nothing, if it is a new one. -/
def Input.carried (talk : List (Exchange String String)) : Input → List (Exchange String String)
  | .serverConnected => []
  | _ => talk

/-- The process, and what its upstream connection has carried of user requests. -/
structure Dialogue where
  world : World
  talk : List (Exchange String String) := []

namespace Dialogue
variable {env : Env} {before after : Dialogue} {input : Input}

def create (users : Map String (String × Nat)) (realtime : Nat) : Dialogue := { world := .create users realtime }

/-- An event: upstream answers the requests of a connection in their order. -/
structure Step (env : Env) (before : Dialogue) (input : Input) (after : Dialogue) : Prop where
  step : World.Step env before.world input after.world
  ordered : ∀ response ∈ input.answer, ∃ request ∈ (queue before.talk).head?, request.id = response.userRequestId
  recorded : after.talk = input.carried before.talk ++ (input.answer.map UserResponse.exchange).toList ++
    (after.world.controller.userRequests.drop before.world.controller.userRequests.length).filterMap UserRequest.exchange

/-- The events after which the requests are in their turn: no accepted logon for a free client
id while one for it is unanswered, no session given up while its log-off is unanswered, no
route granted to a session that is not held any more, and a log-off of a session that waits
for it answered with `NOT_LOGGED_IN`. -/
def Steady (env : Env) (before : Dialogue) (input : Input) : Prop :=
  (∀ party ∈ before.world.applicant env input, before.world.controller.userIsLocked party = false →
    before.world.controller.serverSession.state = .ready → ∀ request ∈ queue before.talk, ¬ request.Takes party) ∧
  ¬ before.world.Abandons input ∧
  ∀ response ∈ input.answer,
    ∀ session ∈ before.world.controller.subscriptions.user.serverToClient.find response.userRequestId,
      (before.world.session session = none → response.userStatus = .loggedIn →
        ∀ request ∈ before.world.unanswered, request.userRequestId = response.userRequestId →
          request.userRequestType = .logOffUser) ∧
      ∀ client ∈ before.world.session session, client.state = .waitingRemoveRoute → response.userStatus = .notLoggedIn

structure Kept (dialogue : Dialogue) : Prop where
  orderly : ∀ party, Exchange.phase party dialogue.talk ≠ none
  prepared : dialogue.world.view.upstream = .ready → dialogue.world.view.ready = true
  opening : dialogue.world.view.upstream = .logonSent → dialogue.talk = []
  desk : dialogue.world.view.ready = true → ∃ phases, dialogue.world.view.Desk dialogue.talk phases

private theorem kept_of_desk {phases : String → Phase String} (desk : after.world.view.Desk after.talk phases)
    (sound : after.world.view.Sound) (up : after.world.view.ready = true) : after.Kept where
  orderly party := by simp [(desk.standing party).reached]
  prepared _ := up
  opening opening := by
    rw [sound.prepared up] at opening
    cases opening
  desk _ := ⟨phases, desk⟩

private theorem Step.talk_of_asked (step : Step env before input after) (silent : input.answer = none)
    {new : List UserRequest} (asked : after.world.view.asked = before.world.view.asked ++ new) :
    after.talk = input.carried before.talk ++ new.filterMap UserRequest.exchange := by
  have extended : after.world.controller.userRequests = before.world.controller.userRequests ++ new := asked
  rw [step.recorded, silent, extended, List.drop_left]
  simp

theorem kept_create (users : Map String (String × Nat)) (realtime : Nat) : (create users realtime).Kept where
  orderly party := by simp [create, Exchange.phase]
  prepared up := nomatch up
  opening _ := rfl
  desk ready := nomatch ready

private theorem Step.talk_of_silent (step : Step env before input after) (silent : input.answer = none)
    (same : input.carried before.talk = before.talk) (asked : after.world.view.asked = before.world.view.asked) :
    after.talk = before.talk := by
  rw [step.talk_of_asked silent (by rw [asked, List.append_nil]), same]
  simp

private theorem kept_lost (step : Step env before .serverDisconnected after) (sound : before.world.view.Sound)
    (kept : before.Kept) :
    after.Kept := by
  obtain ⟨last, call, moves, unready, gone⟩ := Server.disconnected_moves env sound
  obtain rfl := Outcome.done.inj (call.symm.trans step.step.performed)
  rw [step.step.view_of_silent rfl] at moves unready gone
  have asked : after.world.view.asked = before.world.view.asked := by
    refine moves.preserves (fun router => router.asked = before.world.view.asked)
      (fun router action next caused moved asked => ?_) rfl
    obtain rfl | rfl | ⟨down, session, closes⟩ := caused
    · cases moved
      exact asked
    · cases moved
      exact asked
    · obtain rfl | ends := closes
      · cases moved
        exact asked
      · cases moved with
        | retire => exact asked
        | retireAsking _ _ _ ready =>
          rw [down] at ready
          cases ready
        | _ => exact ends.elim
  have talk := step.talk_of_silent rfl rfl asked
  constructor
  · rw [talk]
    exact kept.orderly
  · intro up
    rw [gone] at up
    cases up
  · intro opening
    rw [gone] at opening
    cases opening
  · intro up
    rw [unready] at up
    cases up

private theorem kept_down (step : Step env before input after) (consistent : before.world.view.Consistent)
    (kept : before.Kept) (down : before.world.view.ready = false) : after.Kept := by
  have sound := consistent.sound
  have unlinked : before.world.view.upstream ≠ .ready := by
    intro up
    rw [kept.prepared up] at down
    cases down
  have opening (linked : before.world.view.upstream ≠ .disconnected) : before.talk = [] := by
    cases state : before.world.view.upstream with
    | disconnected => exact absurd state linked
    | logonSent => exact kept.opening state
    | ready => exact absurd state unlinked
  by_cases opens : input = .serverConnected
  · subst opens
    have moved : Router.Step before.world.view .connect after.world.view := by
      have performed : Server.connected env before.world.controller = after.world.controller :=
        Outcome.done.inj step.step.performed
      have moved := @Server.connected_moves before.world.answered before.world.controller env step.step.permitted
      rw [performed, step.step.view_of_silent rfl] at moved
      exact moved
    have shape := Router.connect_step moved
    have talk : after.talk = [] := by
      rw [step.talk_of_asked rfl (show after.world.view.asked = before.world.view.asked ++ [] by simp [shape])]
      rfl
    constructor
    · simp [talk, Exchange.phase]
    · intro up
      rw [shape] at up
      cases up
    · exact fun _ => talk
    · intro up
      rw [shape, down] at up
      cases up
  by_cases lost : input = .serverDisconnected
  · subst lost
    exact kept_lost step sound kept
  by_cases logon : ∃ msgSeqNum, input = .serverRead msgSeqNum .logon
  · obtain ⟨msgSeqNum, rfl⟩ := logon
    have shape : after.world.view = { before.world.view with upstream := .ready, ready := true } := by
      have performed := (Outcome.done.inj step.step.performed).symm
      have answered : after.world.answered = before.world.answered := by simp [step.step.answered, Input.answer]
      rw [World.view, performed, answered]
      rfl
    have talk : after.talk = [] :=
      (step.talk_of_silent rfl rfl (by rw [shape])).trans (opening step.step.permitted)
    have inactive session state party (held : before.world.view.session session = some (state, party)) : ¬ state.Active :=
      fun active => unlinked (sound.connected session state party held active)
    have desk : after.world.view.Desk after.talk fun _ => .free := by
      rw [talk, shape]
      refine ⟨Exchange.standing_nil, fun session party held => ?_, fun party held => ?_, fun session party held => ?_, ?_, ?_⟩
      · exact absurd trivial (inactive session _ party held)
      · cases held
      · exact absurd trivial (inactive session _ party held)
      · simp [queue]
      · simp [queue]
    exact kept_of_desk desk (step.step.consistent consistent).sound (by rw [shape])
  have moves := step.step.moves consistent
  have still := moves.preserves (fun router => router.upstream = before.world.view.upstream ∧ router.ready = false ∧
      router.asked = before.world.view.asked) (fun router action next caused moved same => ?_) ⟨rfl, down, rfl⟩
  · obtain ⟨upstream, unready, asked⟩ := still
    have silent : input.answer = none := by
      cases given : input.answer with
      | none => rfl
      | some response =>
        -- upstream has nothing to answer while it is logged on to
        obtain ⟨msgSeqNum, rfl⟩ := World.eq_of_answer given
        obtain ⟨linked, -⟩ := step.step.permitted
        obtain ⟨oldest, first, -⟩ := step.ordered response rfl
        rw [opening linked] at first
        cases first
    have talk : after.talk = before.talk := by
      refine step.talk_of_silent silent ?_ asked
      cases input with
      | serverConnected => exact absurd rfl opens
      | _ => rfl
    constructor
    · rw [talk]
      exact kept.orderly
    · intro up
      rw [upstream] at up
      exact absurd up unlinked
    · intro sent
      rw [upstream] at sent
      rw [talk, kept.opening sent]
    · intro up
      rw [unready] at up
      cases up
  · obtain ⟨upstream, unready, asked⟩ := same
    have apart : ¬ action.Link := by
      intro link
      rcases World.caused_link caused link with connects | loses | logs
      · exact opens connects
      · exact lost loses
      · exact logon logs
    obtain ⟨sameUp, sameReady⟩ := Router.link_step moved apart
    refine ⟨sameUp.trans upstream, sameReady.trans unready, (Router.mute_step moved ?_ unready).trans asked⟩
    rw [upstream]
    exact unlinked

/-- What ends with its client id still to be logged off is a session that was ready, where one
that waits for its route to be removed has it no more. -/
private theorem closes_ready {first last : Router} {session : Nat} {known : Router → Action → Prop}
    (closes : Moves (fun router action => Closes session action ∧ known router action) first last)
    (consistent : first.Consistent)
    (unowned : ∀ party, first.session session = some (.waitingRemoveRoute, party) → first.owner session = none) :
    Moves (fun router action => Closes session action ∧ ∀ other username, action = .retireAsking other username →
      ∃ party, router.session other = some (.ready, party)) first last := by
  refine closes.refine (fun router => router.Consistent ∧
    ∀ party, router.session session = some (.waitingRemoveRoute, party) → router.owner session = none) ?_ ?_
    ⟨consistent, unowned⟩
  · intro router action next permitted moved kept
    refine ⟨Router.consistent_step moved kept.1, fun party leaving => ?_⟩
    obtain ⟨-, name, sessions⟩ := Client.session_closes permitted.1 moved
    rw [sessions, Function.update_self] at leaving
    cases leaving
  · intro router action next permitted moved kept
    refine ⟨permitted.1, fun other username same => ?_⟩
    subst same
    obtain wrong | rfl := permitted.1
    · cases wrong
    · cases moved with
      | @retireAsking _ state party _ held active owned ready =>
        cases state with
        | waitingLogon | zombie => exact active.elim
        | ready => exact ⟨party, held⟩
        | waitingCreateRoute =>
          rw [kept.1.accounted.unrouted _ party (Or.inr held)] at owned
          cases owned
        | waitingRemoveRoute =>
          rw [kept.2 party held] at owned
          cases owned

private theorem kept_answered {msgSeqNum : Nat} {response : UserResponse}
    (step : Step env before (.serverRead msgSeqNum (.userResponse response)) after)
    (reachable : World.Reachable env before.world)
    (steady : before.Steady env (.serverRead msgSeqNum (.userResponse response))) (kept : before.Kept)
    (up : before.world.view.ready = true) : after.Kept := by
  have consistent := World.consistent_of_reachable reachable
  have spent := World.answered_of_reachable reachable
  obtain ⟨phases, desk⟩ := kept.desk up
  obtain ⟨-, -, answers⟩ := steady
  obtain ⟨oldest, first, same⟩ := step.ordered response rfl
  obtain ⟨rest, waiting⟩ := List.head?_eq_some_iff.mp first
  obtain ⟨session, action, middle, asker, answer, answering, moved, closes⟩ := step.step.settles reachable
  have removed other party (pending : before.world.view.pending response.userRequestId = some other)
      (leaving : before.world.view.session other = some (.waitingRemoveRoute, party)) :
      response.userStatus = .notLoggedIn := by
    obtain ⟨client, found, shape⟩ := Option.map_eq_some_iff.mp leaving
    exact (answers response rfl other pending).2 client found (congrArg Prod.fst shape)
  have granted other (pending : before.world.view.pending response.userRequestId = some other)
      (gone : before.world.view.session other = none) (confirmed : response.userStatus = .loggedIn) party :
      ¬ oldest.Takes party := by
    intro takes
    obtain ⟨request, asked, shape, unanswered⟩ := desk.asked oldest (by simp [waiting])
    have id := (UserRequest.id_of_exchange shape).symm.trans same
    have type := (answers response rfl other pending).1 (World.view_session_none.mp gone) confirmed request
      (World.mem_unanswered.mpr ⟨asked, unanswered⟩) id
    rcases UserRequest.exchange_cases shape with ⟨-, wrong⟩ | ⟨rfl, -⟩
    · rw [type] at wrong
      cases wrong
    · exact takes
  obtain ⟨⟨settled, deskMiddle⟩, unowned⟩ :=
    Router.desk_answered moved answer answering consistent desk waiting same removed granted
  have consistentMiddle := Router.consistent_step moved consistent
  have apart : ¬ action.Link := by cases action <;> first | exact answer.elim | exact fun link => link
  have asked : middle.asked = before.world.view.asked := by
    cases moved with
    | grant | refuse | settle | late => rfl
    | _ => exact answer.elim
  obtain ⟨new, later, extended, deskAfter, upAfter⟩ := Router.desk_moves
    (closes_ready closes consistentMiddle fun party leaving => unowned session party asker leaving) consistentMiddle
    ((Router.link_step moved apart).2.trans up) (Router.answered_step moved spent)
    (fun router action next new permitted moved _ => by
      refine ⟨?_, ?_, ?_, permitted.2⟩
      · rintro rfl
        exact permitted.1.elim (fun wrong => by cases wrong) id
      · exact fun answer => not_closes_of_answer answer permitted.1
      · rintro other party rfl
        exact absurd permitted.1 (not_closes_of_asking trivial)) deskMiddle
  have recorded : after.talk = before.talk ++ [response.exchange] ++ new.filterMap UserRequest.exchange := by
    have requests : after.world.controller.userRequests = before.world.controller.userRequests ++ new := by
      have same : after.world.view.asked = before.world.view.asked ++ new := by rw [extended, asked]
      exact same
    rw [step.recorded, requests, List.drop_left]
    rfl
  exact kept_of_desk (recorded ▸ deskAfter) (step.step.consistent consistent).sound upAfter

private theorem kept_up (step : Step env before input after) (reachable : World.Reachable env before.world)
    (steady : before.Steady env input) (kept : before.Kept) (up : before.world.view.ready = true) : after.Kept := by
  have consistent := World.consistent_of_reachable reachable
  have sound := consistent.sound
  cases given : input.answer with
  | some response =>
    obtain ⟨msgSeqNum, rfl⟩ := World.eq_of_answer given
    exact kept_answered step reachable steady kept up
  | none =>
    by_cases lost : input = .serverDisconnected
    · subst lost
      exact kept_lost step sound kept
    obtain ⟨phases, desk⟩ := kept.desk up
    obtain ⟨single, patient, -⟩ := steady
    have stays : input ≠ .serverConnected := by
      rintro rfl
      have down : before.world.view.upstream = .disconnected := step.step.permitted
      rw [sound.prepared up] at down
      cases down
    have carried : input.carried before.talk = before.talk := by
      cases input with
      | serverConnected => exact absurd rfl stays
      | _ => rfl
    obtain ⟨new, later, asked, deskAfter, upAfter⟩ := Router.desk_moves (step.step.parts reachable patient given) consistent up
      (World.answered_of_reachable reachable) (fun router action next new permitted moved asked => by
        obtain ⟨effect, parts⟩ := permitted
        refine ⟨?_, ?_, ?_, parts⟩
        · rintro rfl
          rcases World.caused_link effect.caused trivial with connects | loses | ⟨msgSeqNum, rfl⟩
          · exact stays connects
          · exact lost loses
          · cases effect.caused
        · intro answer
          obtain ⟨response, answers, -⟩ := caused_answer effect.caused answer
          rw [given] at answers
          cases answers
        · rintro session party rfl
          obtain ⟨applied, free, silent⟩ := effect.logOn session party rfl
          rw [silent] at asked
          obtain rfl : new = [] := List.append_right_eq_self.mp asked.symm
          have unlocked : before.world.controller.userIsLocked party = false := by
            have none : before.world.controller.subscriptions.user.clientToSession.find party = none := free
            simp [Controller.userIsLocked, none]
          simpa using single party applied unlocked (sound.prepared up)) desk
    have talk := step.talk_of_asked given asked
    rw [carried] at talk
    exact kept_of_desk (talk ▸ deskAfter) (step.step.consistent consistent).sound upAfter

theorem kept_step (step : Step env before input after) (reachable : World.Reachable env before.world)
    (steady : before.Steady env input) (kept : before.Kept) : after.Kept := by
  cases up : before.world.view.ready with
  | true => exact kept_up step reachable steady kept up
  | false => exact kept_down step (World.consistent_of_reachable reachable) kept up

section Runs
variable {users : Map String (String × Nat)} {realtime : Nat} {inputs : List Input} {dialogue : Dialogue}

/-- Between two log-ons for a client id on one upstream connection, the first was refused or
exactly one log-off was sent. -/
theorem logons_paired
    (run : Run (fun before input after => before.Steady env input ∧ Step env before input after)
      (create users realtime) inputs dialogue) (party : String) : Exchange.Paired party dialogue.talk := by
  have start : World.Reachable env (create users realtime).world := ⟨users, realtime, [], .nil _⟩
  have both := run.preserves (fun dialogue => World.Reachable env dialogue.world ∧ dialogue.Kept)
    (fun performed kept => ⟨kept.1.step performed.2.step, kept_step performed.2 kept.1 performed.1 kept.2⟩)
    ⟨start, kept_create users realtime⟩
  exact Exchange.paired_of_phase (both.2.orderly party)

def next (condition : Dialogue → Input → Prop) [∀ dialogue input, Decidable (condition dialogue input)] (env : Env)
    (dialogue : Dialogue) (input : Input) : Option Dialogue :=
  if condition dialogue input ∧ ∀ response ∈ input.answer, ∃ request ∈ (queue dialogue.talk).head?,
      request.id = response.userRequestId then
    (World.next (fun _ _ => True) env dialogue.world input).map fun world =>
      { world
        talk := input.carried dialogue.talk ++ (input.answer.map UserResponse.exchange).toList ++
          (world.controller.userRequests.drop dialogue.world.controller.userRequests.length).filterMap
            UserRequest.exchange }
  else none

theorem next_eq_some {condition : Dialogue → Input → Prop} [∀ dialogue input, Decidable (condition dialogue input)]
    (performed : next condition env before input = some after) : condition before input ∧ Step env before input after := by
  unfold next at performed
  split at performed
  · next met =>
    obtain ⟨world, done, rfl⟩ := Option.map_eq_some_iff.mp performed
    exact ⟨met.1, (World.next_eq_some _ env done).2, met.2, rfl⟩
  · cases performed

instance (env : Env) (before : Dialogue) (input : Input) : Decidable (before.Steady env input) := by
  unfold Steady
  infer_instance

theorem exists_run (condition : Dialogue → Input → Prop) [∀ dialogue input, Decidable (condition dialogue input)] (env : Env)
    (users : Map String (String × Nat)) (realtime : Nat) (inputs : List Input) (talk : List (Exchange String String))
    (checked : (inputs.foldlM (next condition env) (create users realtime)).any (·.talk == talk) = true) :
    ∃ dialogue, Run (fun before input after => condition before input ∧ Step env before input after)
      (create users realtime) inputs dialogue ∧ dialogue.talk = talk := by
  obtain ⟨dialogue, computed, same⟩ := (Option.any_eq_true ..).mp checked
  exact ⟨dialogue, .of_foldlM next_eq_some computed, beq_iff_eq.mp same⟩

/-- A client logs on, leaves before it hears of it, and comes back; another one logs out and
leaves before it hears of that, and comes back. -/
theorem logons_unpaired :
    (∃ dialogue, Run (Step Deployment.env) (create Deployment.users 0)
      (Deployment.arrived ++ [.disconnected 1] ++ Deployment.arrives 2 "trader" "secret") dialogue ∧
      ¬ Exchange.Paired "1" dialogue.talk) ∧
    ∃ dialogue, Run (Step Deployment.env) (create Deployment.users 0)
      (Deployment.loggedOn ++ [Deployment.sends 1 .logout, .disconnected 1] ++ Deployment.arrives 2 "trader" "secret")
      dialogue ∧ ¬ Exchange.Paired "1" dialogue.talk := by
  constructor
  · obtain ⟨dialogue, run, talk⟩ := exists_run (fun _ _ => True) Deployment.env Deployment.users 0
      (Deployment.arrived ++ [.disconnected 1] ++ Deployment.arrives 2 "trader" "secret")
      [.take "1" "proxy-1", .take "1" "proxy-2"] (by decide +kernel)
    refine ⟨dialogue, run.mono And.right, fun paired => ?_⟩
    rw [talk] at paired
    have neither := paired [] "proxy-1" [] "proxy-2" [] rfl (by simp)
    simp at neither
  · obtain ⟨dialogue, run, talk⟩ := exists_run (fun _ _ => True) Deployment.env Deployment.users 0
      (Deployment.loggedOn ++ [Deployment.sends 1 .logout, .disconnected 1] ++ Deployment.arrives 2 "trader" "secret")
      [.take "1" "proxy-1", .answer "proxy-1" true, .give "1" "proxy-2", .give "1" "proxy-3", .take "1" "proxy-4"]
      (by decide +kernel)
    refine ⟨dialogue, run.mono And.right, fun paired => ?_⟩
    rw [talk] at paired
    have neither := paired [] "proxy-1" [.answer "proxy-1" true, .give "1" "proxy-2", .give "1" "proxy-3"] "proxy-4" [] rfl
      (by simp)
    simp at neither

/-- A client logs on and out, hears of it, and comes back. -/
theorem logons_paired_again : ∃ dialogue,
    Run (fun before input after => before.Steady Deployment.env input ∧ Step Deployment.env before input after)
      (create Deployment.users 0) (Deployment.loggedOn ++ [Deployment.sends 1 .logout, Deployment.answer "proxy-2" "1" .notLoggedIn] ++
        Deployment.arrives 2 "trader" "secret") dialogue ∧
    dialogue.talk = [.take "1" "proxy-1", .answer "proxy-1" true, .give "1" "proxy-2", .answer "proxy-2" false,
      .take "1" "proxy-3"] ∧ Exchange.Paired "1" dialogue.talk := by
  obtain ⟨dialogue, run, talk⟩ := exists_run (fun before input => before.Steady Deployment.env input) Deployment.env
    Deployment.users 0 (Deployment.loggedOn ++ [Deployment.sends 1 .logout, Deployment.answer "proxy-2" "1" .notLoggedIn] ++
      Deployment.arrives 2 "trader" "secret")
    [.take "1" "proxy-1", .answer "proxy-1" true, .give "1" "proxy-2", .answer "proxy-2" false, .take "1" "proxy-3"]
    (by decide +kernel)
  exact ⟨dialogue, run, talk, logons_paired run "1"⟩

end Runs
end Dialogue
end FixProxy
