import FixProxy.Proofs.ClientMoves
import FixProxy.Server.Session

/-! What an upstream message does to the router. A response releases ids; the answer
to a user request changes the routes, settles the request and may end the session
that asked. -/

namespace FixProxy
open Codec

/-- The effect of an answer on the routes. -/
def Action.Answer : Action → Prop
  | .grant _ _ _ | .refuse _ _ _ | .settle _ _ _ | .late _ _ _ => True
  | _ => False

namespace Controller
open Router (Moves Closes Step)
variable {answered : List String} {controller : Controller}

/-! Responses. -/

/-- What a response does. -/
def Releases : Action → Prop
  | .release _ _ | .tally _ _ => True
  | _ => False

private theorem removeReqId_moves (name : MappingName) (reqId : String) (controller : Controller) :
    Moves (fun _ => Releases) (controller.view answered) ((controller.removeReqId name reqId).view answered) := by
  by_cases empty : reqId = ""
  · exact .of_eq (by simp [removeReqId, empty])
  · refine .single (.release name reqId) trivial ?_
    rw [view_removeReqId answered controller name reqId empty]
    exact .release

private theorem route_moves (name : MappingName) (reqId : String) (response : String → Response) (remove : Bool → Bool)
    (controller : Controller) :
    Moves (fun _ => Releases) (controller.view answered)
      ((controller.route name reqId response remove).view answered) := by
  unfold route
  split
  · exact .refl _
  · split
    · refine .trans (.of_eq (view_dispatchToClient ..)) (removeReqId_moves name reqId _)
    · exact .of_eq (view_dispatchToClient ..)

private theorem tally_moves {changed : Controller} (orders : Map String OrdStatus) (reports : Nat)
    (same : changed = { controller with clOrdId := orders, totalNumPosReports := reports }) :
    Moves (fun _ => Releases) (controller.view answered) (changed.view answered) := by
  subst same
  exact .single (.tally orders.find reports) trivial .tally

private theorem ensureClOrdId_moves (clOrdId : String) (ordStatus : OrdStatus) (controller : Controller) :
    Moves (fun _ => Releases) (controller.view answered)
      ((controller.ensureClOrdId clOrdId ordStatus).view answered) := by
  unfold ensureClOrdId
  split
  · exact .refl _
  · exact tally_moves _ controller.totalNumPosReports rfl

private theorem removeClOrdId_moves (env : Env) (clOrdId : String) (controller : Controller) :
    Moves (fun _ => Releases) (controller.view answered)
      ((controller.removeClOrdId env clOrdId).view answered) := by
  unfold removeClOrdId
  split
  · exact .refl _
  · split
    · exact .refl _
    · exact tally_moves _ controller.totalNumPosReports rfl

private theorem moves_ite {condition : Prop} [Decidable condition] {taken other : Controller}
    (ifTaken : Moves (fun _ => Releases) (controller.view answered) (taken.view answered))
    (ifOther : Moves (fun _ => Releases) (controller.view answered) (other.view answered)) :
    Moves (fun _ => Releases) (controller.view answered) ((if condition then taken else other).view answered) := by
  split
  · exact ifTaken
  · exact ifOther

private theorem executionReport_moves (env : Env) (value : ExecutionReport) (controller : Controller) :
    Moves (fun _ => Releases) (controller.view answered)
      ((controller.executionReport env value).view answered) := by
  unfold executionReport
  simp only
  refine moves_ite ((ensureClOrdId_moves ..).trans (route_moves ..)) ?_
  refine moves_ite ((ensureClOrdId_moves ..).trans (route_moves ..)) ?_
  have recorded (controller : Controller) (clOrdId : String) : Moves (fun _ => Releases) (controller.view answered)
      ((if env.library.isOrderComplete value.ordStatus then controller.removeClOrdId env clOrdId
        else if isPending value.execType then controller.ensureClOrdId clOrdId value.ordStatus
        else controller).view answered) :=
    moves_ite (removeClOrdId_moves ..) (moves_ite (ensureClOrdId_moves ..) (.refl _))
  have replaced (controller : Controller) : Moves (fun _ => Releases) (controller.view answered)
      ((if !isPending value.execType && value.origClOrdId != "" then controller.removeClOrdId env value.origClOrdId
        else controller).view answered) :=
    moves_ite (removeClOrdId_moves ..) (.refl _)
  refine (fun handled => moves_ite handled (handled.trans (removeReqId_moves ..))) ?_
  refine moves_ite (route_moves ..) ?_
  exact ((recorded ..).trans (replaced _)).trans (.of_eq (view_broadcast ..))

theorem view_businessMessageReject (value : BusinessMessageReject) (controller : Controller) :
    (controller.businessMessageReject value).view answered = controller.view answered := by
  unfold businessMessageReject
  split
  · rfl
  · split
    · rfl
    · exact view_dispatchToClient ..

private theorem requestForPositionsAck_moves (value : RequestForPositionsAck) (controller : Controller) :
    Moves (fun _ => Releases) (controller.view answered) ((controller.requestForPositionsAck value).view answered) := by
  unfold requestForPositionsAck
  split
  · exact .refl _
  · have passed (totalNumPosReports : Nat) (response : Codec.Response) (session : Nat) :
        Moves (fun _ => Releases) (controller.view answered)
          ((({ controller with totalNumPosReports } : Controller).dispatchToClient response session).view answered) :=
      (tally_moves controller.clOrdId totalNumPosReports rfl).trans (.of_eq (view_dispatchToClient ..))
    exact moves_ite ((passed ..).trans (removeReqId_moves ..)) (passed ..)

theorem response_moves (env : Env) (value : Response) (controller : Controller) :
    Moves (fun _ => Releases) (controller.view answered) ((controller.response env value).view answered) := by
  cases value with
  | businessMessageReject value => exact .of_eq (view_businessMessageReject value controller)
  | executionReport value => exact executionReport_moves env value controller
  | requestForPositionsAck value => exact requestForPositionsAck_moves value controller
  | positionReport value =>
    exact (tally_moves controller.clOrdId (controller.totalNumPosReports - 1) rfl).trans (route_moves ..)
  | _ => exact route_moves ..

/-! Answers to user requests. -/

/-- What an answer does: its effect on the routes first, from the router it was
received in, and then perhaps the end of the session that asked. -/
def Answering (value : UserResponse) (first router : Router) : Action → Prop
  | .grant id username _ =>
    router = first ∧ id = value.userRequestId ∧ username = value.username ∧ value.userStatus = .loggedIn
  | .refuse id username _ =>
    router = first ∧ id = value.userRequestId ∧ username = value.username ∧ value.userStatus = .notLoggedIn
  | .settle id username _ =>
    router = first ∧ id = value.userRequestId ∧ username = value.username ∧ value.userStatus = .other
  | .late id username _ => router = first ∧ id = value.userRequestId ∧ username = value.username
  | action => ∃ session, first.pending value.userRequestId = some session ∧ Closes session action

private theorem answering_of_closes {value : UserResponse} {first router : Router} {session : Nat} {action : Action}
    (asker : first.pending value.userRequestId = some session) (closes : Closes session action) :
    Answering value first router action := by
  cases action with
  | drop => exact ⟨session, asker, closes⟩
  | retire => exact ⟨session, asker, closes⟩
  | retireAsking => exact ⟨session, asker, closes⟩
  | _ => obtain same | ends := closes <;> [cases same; exact ends.elim]

private theorem userResponse_promotes (env : Env) {value : UserResponse} {session : Nat} {client : Client.Session}
    (found : controller.sessions.find session = some client) (waiting : client.state = .waitingCreateRoute)
    (loggedIn : value.userStatus = .loggedIn) :
    ∃ after, Client.userResponse env value session controller = .done after ∧
      after.view answered =
        { controller.view answered with
          session := Function.update (controller.view answered).session session (some (.ready, client.partyId)) } := by
  have held : (controller.view answered).session session = some (.waitingCreateRoute, client.partyId) := by
    simp [view, found, Client.Session.shape, waiting]
  have quiet := view_updateSession_quiet answered controller session
    (fun client => { client with userResponseTimeout := 0 }) fun _ => rfl
  unfold Client.userResponse Client.withSession
  simp only [found, waiting, loggedIn]
  have sent := (view_sendToClient answered (controller.updateSession session fun client =>
    { client with userResponseTimeout := 0 }) session (.logon (Client.logonResponse env))).trans quiet
  refine ⟨_, rfl, ?_⟩
  rw [Client.view_setState .ready (by rw [sent]; exact held), sent]

private theorem userResponse_yields (env : Env) {value : UserResponse} {session : Nat}
    (otherwise : ∀ client, controller.sessions.find session = some client → client.state = .waitingCreateRoute →
      value.userStatus ≠ .loggedIn) (sound : (controller.view answered).Sound) :
    Client.Yields answered session controller (Client.userResponse env value session controller) := by
  refine Client.withSession_yields fun client found held => ?_
  have quiet := view_updateSession_quiet answered controller session
    (fun client => { client with userResponseTimeout := 0 }) fun _ => rfl
  have unstopped := quiet ▸ sound
  cases state : client.state with
  | waitingLogon => exact Client.yields_done quiet
  | waitingCreateRoute =>
    cases status : value.userStatus with
    | loggedIn => exact absurd status (otherwise client found state)
    | notLoggedIn => exact Client.yields_after quiet (Client.makeZombie_yields unstopped)
    | other => exact Client.yields_after quiet (Client.makeZombie_yields unstopped)
  | ready => exact Client.yields_done quiet
  | waitingRemoveRoute =>
    cases status : value.userStatus with
    | loggedIn => exact Client.yields_after quiet (Client.makeZombie_yields unstopped)
    | notLoggedIn =>
      simp only
      split
      · next shared accepted =>
        have same := Client.view_shared answered (Client.sessionLogoutHelper_frame accepted)
        exact Client.yields_after (same.trans quiet) (Client.sendAndClose_yields env _ (by rw [same]; exact unstopped))
      · exact Client.yields_after quiet (Client.makeZombie_yields unstopped)
    | other => exact Client.yields_after quiet (Client.makeZombie_yields unstopped)
  | zombie => exact Client.yields_done quiet

private theorem view_settleUserRequest (userRequestId : String) (session : Nat) (controller : Controller) :
    (controller.settleUserRequest userRequestId session).view answered =
      { controller.view answered with
        waiting := Function.update (controller.view answered).waiting session none
        pending := Function.update (controller.view answered).pending userRequestId none } := by
  unfold settleUserRequest
  rw [view_setUser]
  simp only [Map.find_erase_fun]
  rfl

theorem userAdd_done (answered : List String) {username : String} {session : Nat} {after : Controller}
    (added : controller.userAdd username session = .done after) :
    (controller.view answered).route username = none ∧ (controller.view answered).owner session = none ∧
      after.sessions = controller.sessions ∧
      after.view answered =
        { controller.view answered with
          route := Function.update (controller.view answered).route username (some session)
          owner := Function.update (controller.view answered).owner session (some username) } := by
  unfold userAdd at added
  simp only at added
  cases route : controller.subscriptions.user.clientToSession.find username with
  | some other => simp [route] at added
  | none =>
    cases owner : controller.subscriptions.user.sessionToClient.find session with
    | some other => simp [route, owner] at added
    | none =>
      simp only [route, owner, Option.isSome_none, Bool.false_eq_true, if_false, Outcome.done.injEq] at added
      subst added
      refine ⟨route, owner, rfl, ?_⟩
      rw [view_setUser]
      simp only [Map.find_tryEmplace_fun, emplace_of_none route, emplace_of_none owner]
      rfl

theorem userRemove_done (answered : List String) {username : String} {ready : Bool} {after : Controller}
    (removed : controller.userRemove username ready = .done after) :
    after.sessions = controller.sessions ∧
      after.view answered =
        { controller.view answered with
          route := Function.update (controller.view answered).route username none
          owner := fun other =>
            if (controller.view answered).route username = some other then none
            else (controller.view answered).owner other } := by
  unfold userRemove at removed
  simp only at removed
  cases route : controller.subscriptions.user.clientToSession.find username with
  | some session =>
    simp only [route, Outcome.done.injEq] at removed
    subst removed
    have routed : (controller.view answered).route username = some session := route
    refine ⟨rfl, ?_⟩
    rw [view_setUser, routed]
    simp only [Map.find_erase_fun]
    congr 1
    funext other
    simp [Function.update_apply, view, eq_comm]
  | none =>
    have unrouted : (controller.view answered).route username = none := route
    have same : after = controller := by
      cases ready <;> simp_all
    subst same
    refine ⟨rfl, ?_⟩
    have unchanged : Function.update (after.view answered).route username none = (after.view answered).route := by
      rw [← unrouted]
      exact Function.update_eq_self ..
    rw [unchanged]
    simp [unrouted]

theorem userAdd_not_thrown {username : String} {session : Nat} {what : String} {after : Controller} :
    controller.userAdd username session ≠ .thrown what after := by
  unfold userAdd
  simp only
  split
  · simp
  · split <;> simp

theorem userRemove_not_thrown {username : String} {ready : Bool} {what : String} {after : Controller} :
    controller.userRemove username ready ≠ .thrown what after := by
  unfold userRemove
  simp only
  split
  · simp
  · split <;> simp

private theorem userAdd_fatal {username : String} {session : Nat} :
    (∃ what, controller.userAdd username session = .fatal what) ↔
    controller.userIsLocked username = true ∨ controller.subscriptions.user.sessionToClient.find session ≠ none := by
  unfold userAdd userIsLocked
  simp only
  split
  · next locked => simp [locked]
  · next free =>
    rw [← Option.isSome_iff_ne_none]
    split
    · next owned => simp [owned]
    · next unowned => simp [free, unowned]

private theorem userRemove_fatal {username : String} {ready : Bool} :
    (∃ what, controller.userRemove username ready = .fatal what) ↔
      ready = true ∧ controller.userIsLocked username = false := by
  unfold userRemove userIsLocked
  simp only
  split
  · next routed => simp [routed]
  · next unrouted => cases ready <;> simp [unrouted]

/-- The answers that end the process. -/
def Aborts (value : UserResponse) (controller : Controller) : Prop :=
  match controller.subscriptions.user.serverToClient.find value.userRequestId with
  | none => True
  | some session =>
    match controller.sessions.find session, value.userStatus with
    | some _, .loggedIn =>
      controller.userIsLocked value.username = true ∨ controller.subscriptions.user.sessionToClient.find session ≠ none
    | some client, .notLoggedIn => client.state = .ready ∧ controller.userIsLocked value.username = false
    | _, _ => False

theorem userResponse_aborts (env : Env) {value : UserResponse} (aborts : controller.Aborts value) :
    ∃ what, controller.userResponse env value = .fatal what := by
  unfold Aborts at aborts
  unfold userResponse
  cases pending : controller.subscriptions.user.serverToClient.find value.userRequestId with
  | none => exact ⟨_, rfl⟩
  | some session =>
    rw [pending] at aborts
    cases found : controller.sessions.find session with
    | none => simp [found] at aborts
    | some client =>
      simp only [found] at aborts ⊢
      cases status : value.userStatus with
      | loggedIn =>
        rw [status] at aborts
        obtain ⟨what, fatal⟩ := userAdd_fatal.mpr aborts
        exact ⟨what, by rw [fatal, Outcome.andThen]⟩
      | notLoggedIn =>
        rw [status] at aborts
        obtain ⟨what, fatal⟩ := userRemove_fatal.mpr ⟨beq_iff_eq.mpr aborts.1, aborts.2⟩
        exact ⟨what, by rw [fatal, Outcome.andThen]⟩
      | other => simp [status] at aborts

/-- The router after one answer. -/
def Answered (answered : List String) (value : UserResponse) (before after : Controller) : Prop :=
  Moves (Answering value (before.view answered)) (before.view answered)
    (after.view (answered ++ [value.userRequestId]))

/-- The answer has its effect, and after it the session that asked may end. -/
def Settles (answered : List String) (value : UserResponse) (before after : Controller) : Prop :=
  ∃ session action middle, (before.view answered).pending value.userRequestId = some session ∧ action.Answer ∧
    Answering value (before.view answered) (before.view answered) action ∧
    Step (before.view answered) action middle ∧
    Moves (fun _ => Closes session) middle (after.view (answered ++ [value.userRequestId]))

private theorem answered_of_settles {value : UserResponse} {after : Controller}
    (settles : Settles answered value controller after) :
    Answered answered value controller after := by
  obtain ⟨session, action, middle, asker, -, answering, step, closes⟩ := settles
  exact (Moves.single action answering step).trans (closes.mono fun _ _ => answering_of_closes asker)

private theorem settles_of_yields (action : Action) {value : UserResponse} {session : Nat} {settled : Controller}
    {outcome : Outcome Controller} (asker : (controller.view answered).pending value.userRequestId = some session)
    (answer : action.Answer) (answering : Answering value (controller.view answered) (controller.view answered) action)
    (step : Step (controller.view answered) action (settled.view (answered ++ [value.userRequestId])))
    (yields : Client.Yields (answered ++ [value.userRequestId]) session settled outcome) :
    outcome.Leaves (Settles answered value controller) fun _ => False :=
  Outcome.Leaves.mono (fun _ closes => ⟨session, action, _, asker, answer, answering, step, closes⟩) (fun _ never => never)
    yields

theorem userResponse_settles (env : Env) (value : UserResponse) (sound : (controller.view answered).Sound)
    (answers : (controller.view answered).Answers value.userRequestId value.username)
    (unaborted : ¬ controller.Aborts value) :
    (controller.userResponse env value).Leaves (Settles answered value controller) fun _ => False := by
  unfold Aborts at unaborted
  unfold userResponse
  cases pending : controller.subscriptions.user.serverToClient.find value.userRequestId with
  | none => exact (unaborted (by simp [pending])).elim
  | some session =>
    have asker : (controller.view answered).pending value.userRequestId = some session := pending
    simp only
    cases found : controller.sessions.find session with
    | none =>
      have collected : (controller.view answered).session session = none := by simp [view, found]
      simp only
      cases removed : controller.userRemove value.username false with
      | done after =>
        obtain ⟨-, shape⟩ := userRemove_done answered removed
        refine ⟨session, .late value.userRequestId value.username session, _, asker, trivial, ⟨rfl, rfl, rfl⟩, ?_, .refl _⟩
        have late : after.view (answered ++ [value.userRequestId]) =
            { after.view answered with answered := answered ++ [value.userRequestId] } := rfl
        rw [late, shape]
        exact .late answers asker collected
      | thrown what after => exact userRemove_not_thrown removed
      | fatal what => cases (userRemove_fatal.mp ⟨what, removed⟩).1
    | some client =>
      have held : (controller.view answered).session session = some (client.state, client.partyId) := by
        simp [view, found, Client.Session.shape]
      simp only
      have settles (routed : Controller) : (routed.settleUserRequest value.userRequestId session).view
            (answered ++ [value.userRequestId]) =
          { routed.view answered with
            waiting := Function.update (routed.view answered).waiting session none
            pending := Function.update (routed.view answered).pending value.userRequestId none
            answered := answered ++ [value.userRequestId] } :=
        view_settleUserRequest ..
      cases status : value.userStatus with
      | loggedIn =>
        simp only
        cases added : controller.userAdd value.username session with
        | done routed =>
          obtain ⟨free, unowned, sessions, shape⟩ := userAdd_done answered added
          have grant := Step.grant answers asker held free unowned
          have recorded : (controller.view answered).answered = answered := rfl
          have foundSettled : (routed.settleUserRequest value.userRequestId session).sessions.find session =
              some client := by
            have same : (routed.settleUserRequest value.userRequestId session).sessions = routed.sessions := rfl
            rw [same, sessions, found]
          have kept : (routed.view answered).session = (controller.view answered).session := by rw [shape]
          simp only [Outcome.andThen_done]
          by_cases waiting : client.state = .waitingCreateRoute
          · obtain ⟨after, call, promoted⟩ := userResponse_promotes env foundSettled waiting status
            rw [call]
            refine ⟨session, .grant value.userRequestId value.username session, _, asker, trivial, ⟨rfl, rfl, rfl, status⟩,
              ?_, .refl _⟩
            rw [promoted, settles, shape]
            simpa only [waiting, if_true, recorded] using grant
          · have granted : Step (controller.view answered) (.grant value.userRequestId value.username session)
                ((routed.settleUserRequest value.userRequestId session).view (answered ++ [value.userRequestId])) := by
              rw [settles, shape]
              simpa only [waiting, if_false, ← held, Function.update_eq_self, recorded] using grant
            refine settles_of_yields (.grant value.userRequestId value.username session) asker
              trivial ⟨rfl, rfl, rfl, status⟩ granted
              (userResponse_yields env (fun other same state => ?_) (Router.sound_step granted sound))
            rw [foundSettled] at same
            cases same
            exact absurd state waiting
        | thrown what after => exact userAdd_not_thrown added
        | fatal what => exact (unaborted (by simpa [pending, found, status] using userAdd_fatal.mp ⟨what, added⟩)).elim
      | notLoggedIn =>
        simp only
        cases removed : controller.userRemove value.username (client.state == Client.State.ready) with
        | done routed =>
          obtain ⟨sessions, shape⟩ := userRemove_done answered removed
          have refuse : Step (controller.view answered) (.refuse value.userRequestId value.username session)
              ((routed.settleUserRequest value.userRequestId session).view (answered ++ [value.userRequestId])) := by
            rw [settles, shape]
            exact .refuse answers asker held
          exact settles_of_yields (.refuse value.userRequestId value.username session) asker
            trivial ⟨rfl, rfl, rfl, status⟩ refuse
            (userResponse_yields env (by simp [status]) (Router.sound_step refuse sound))
        | thrown what after => exact userRemove_not_thrown removed
        | fatal what => exact (unaborted (by simpa [pending, found, status] using userRemove_fatal.mp ⟨what, removed⟩)).elim
      | other =>
        have settle : Step (controller.view answered) (.settle value.userRequestId value.username session)
            ((controller.settleUserRequest value.userRequestId session).view (answered ++ [value.userRequestId])) := by
          rw [settles]
          exact .settle answers asker held
        exact settles_of_yields (.settle value.userRequestId value.username session) asker
          trivial ⟨rfl, rfl, rfl, status⟩ settle
          (userResponse_yields env (by simp [status]) (Router.sound_step settle sound))

theorem userResponse_leaves (env : Env) (value : UserResponse) (sound : (controller.view answered).Sound)
    (answers : (controller.view answered).Answers value.userRequestId value.username)
    (unaborted : ¬ controller.Aborts value) :
    (controller.userResponse env value).Leaves (Answered answered value controller) fun _ => False :=
  Outcome.Leaves.mono (fun _ settles => answered_of_settles settles) (fun _ never => never)
    (userResponse_settles env value sound answers unaborted)

end Controller
end FixProxy
