import FixProxy.Proofs.Farewells

/-! The upstream connection over a run: what is sent in each connected period, under
which numbers, and that nobody answers a Logout. -/

namespace FixProxy
open Codec
open Controller (Mute Relays Relaying Speaks)

/-- What upstream may be sent in a state of its session, after the logon. -/
def Codec.ToServer.Suits (state : Server.State) : ToServer → Prop
  | .heartbeat _ => state ≠ .disconnected
  | .testRequest _ | .userRequest _ | .request _ => state = .ready
  | .logon _ | .logout _ => False

namespace Controller
variable {first last : Controller}

theorem Relays.suits (relays : Relays first last) : Speaks (ToServer.Suits first.serverSession.state) first last := by
  obtain ⟨messages, relayed, rest⟩ := relays
  refine ⟨messages, fun message member => ?_, rest⟩
  obtain ⟨kind, ready⟩ := relayed message member
  cases message with
  | userRequest => exact ready
  | request => exact ready
  | _ => exact kind.elim

theorem Speaks.relayed {middle : Controller} {outcome : Outcome Controller}
    (speaks : Speaks (ToServer.Suits first.serverSession.state) first middle) (every : outcome.Every (Relays middle)) :
    outcome.Every (Speaks (ToServer.Suits first.serverSession.state) first) := by
  have continued {last : Controller} (relays : Relays middle last) :
      Speaks (ToServer.Suits first.serverSession.state) first last :=
    Speaks.trans speaks relays.suits fun same _ suits => same ▸ suits
  cases outcome with
  | done after => exact continued every
  | thrown what after => exact continued every
  | fatal what => trivial

/-- Nothing is relayed through a session that is not ready. -/
theorem Relays.refused (relays : Relays first last) (unready : first.serverSession.state ≠ .ready) :
    last.sentUp = first.sentUp ∧ last.serverSession.outboundMsgSeqNum = first.serverSession.outboundMsgSeqNum := by
  obtain ⟨messages, relayed, up, next, -⟩ := relays
  cases messages with
  | nil => exact ⟨up.trans (List.append_nil _), next⟩
  | cons message rest => exact absurd (relayed message (by simp)).2 unready

/-- A call that is refused leaves no trace upstream, not even a number. -/
def Refusing (call : Controller → Outcome Controller) : Prop :=
  ∀ controller what refused, call controller = .thrown what refused → Mute controller refused

private theorem refusing_andThen {first : Controller} {call next : Controller → Outcome Controller} (refusing : Refusing call)
    (returns : ∀ after what refused, next after ≠ .thrown what refused) {what : String} {refused : Controller}
    (thrown : (call first).andThen next = .thrown what refused) : Mute first refused := by
  cases performed : call first with
  | done after =>
    rw [performed, Outcome.andThen_done] at thrown
    exact absurd thrown (returns after what refused)
  | thrown other state =>
    rw [performed] at thrown
    cases thrown
    exact refusing first _ _ performed
  | fatal other =>
    rw [performed] at thrown
    cases thrown

private theorem refusing_dispatchToServer (message : ToServer) : Refusing (dispatchToServer message) := by
  intro controller what refused thrown
  unfold dispatchToServer at thrown
  split at thrown
  · cases thrown
  · cases thrown
    exact ⟨rfl, rfl⟩

private theorem refusing_userRequest (value : UserRequest) (session : Nat) : Refusing (userRequest value session) := by
  have registering : Refusing (registerUserRequest value session) := by
    intro controller what refused thrown
    unfold registerUserRequest at thrown
    simp only at thrown
    split at thrown
    · have refusal := refusing_dispatchToServer _ _ _ _ thrown
      exact ⟨refusal.sentUp, refusal.serverSession⟩
    · cases thrown
  intro controller what refused thrown
  unfold userRequest at thrown
  split at thrown
  · split at thrown
    · cases thrown
      exact ⟨rfl, rfl⟩
    · exact registering _ _ _ thrown
  · exact registering _ _ _ thrown
  · cases thrown

private theorem refusing_dispatchSubscription (name : MappingName) (session : Nat) (reqId : String) (sent : String → Request)
    (existing : Option String) (keepAlive : Bool) :
    Refusing (dispatchSubscription name session reqId sent existing keepAlive) := by
  intro controller what refused thrown
  have drawn : Mute controller controller.createRequestId.2 := ⟨rfl, rfl⟩
  refine drawn.trans (refusing_andThen (refusing_dispatchToServer _) (fun after what refused => ?_) thrown)
  split <;> simp

private theorem refusing_dispatchPositions (session : Nat) (value : RequestForPositions) (existing : Option String)
    (keepAlive : Bool) : Refusing (dispatchPositions session value existing keepAlive) := by
  intro controller what refused thrown
  cases existing with
  | some serverId =>
    refine refusing_andThen (refusing_dispatchToServer _) (fun after what refused => ?_) thrown
    simp only [Option.isSome_some, if_true]
    split <;> simp
  | none =>
    have drawn : Mute controller controller.createRequestId.2 := ⟨rfl, rfl⟩
    exact drawn.trans (refusing_andThen (refusing_dispatchToServer _) (fun after what refused => by simp) thrown)

private theorem refusing_dispatchTrades (session : Nat) (value : TradeCaptureReportRequest) (existing : Option String)
    (keepAlive : Bool) : Refusing (dispatchTrades session value existing keepAlive) := by
  intro controller what refused thrown
  refine refusing_andThen (refusing_dispatchToServer _) (fun after what refused => ?_) thrown
  split <;> simp

private theorem refusing_subscription {name : MappingName} {session : Nat} {reqId : String} {isValid : Bool}
    {type : SubscriptionRequestType} {invalid unknown duplicate missing : Controller → Controller}
    {dispatch : Option String → Bool → Controller → Outcome Controller}
    (dispatched : ∀ existing keepAlive, Refusing (dispatch existing keepAlive)) :
    Refusing (subscription name session reqId isValid type invalid unknown duplicate missing dispatch) := by
  intro controller what refused thrown
  have touched : Mute controller (controller.touch name session) := ⟨rfl, rfl⟩
  have forwarded {existing : Option String} {keepAlive : Bool}
      (thrown : dispatch existing keepAlive (controller.touch name session) = .thrown what refused) : Mute controller refused :=
    touched.trans (dispatched _ _ _ _ _ thrown)
  unfold subscription at thrown
  split at thrown
  · cases thrown
  · simp only at thrown
    split at thrown
    · cases thrown
    · cases thrown
    · split at thrown
      · cases thrown
      · exact forwarded thrown
    · split at thrown
      · cases thrown
      · exact forwarded thrown
    · split at thrown
      · exact forwarded thrown
      · cases thrown

private theorem refusing_orderRequest {name : MappingName} {session : Nat} {reqId : String} {isValid : Bool}
    {invalid duplicate : Controller → Controller} {clientId : String} {sent : String → Request} {keepAlive : Bool} :
    Refusing (orderRequest name session reqId isValid invalid duplicate clientId sent keepAlive) := by
  intro controller what refused thrown
  have touched : Mute controller (controller.touch name session) := ⟨rfl, rfl⟩
  unfold orderRequest at thrown
  split at thrown
  · cases thrown
  · simp only at thrown
    split at thrown
    · cases thrown
    · exact touched.trans (refusing_andThen (refusing_dispatchToServer _) (fun after what refused => by simp) thrown)

private theorem refusing_orderStatusRequest (value : OrderStatusRequest) (session : Nat) :
    Refusing (orderStatusRequest value session) := by
  intro controller what refused thrown
  have touched : Mute controller (controller.touch .ordStatusReqId session) := ⟨rfl, rfl⟩
  unfold orderStatusRequest at thrown
  simp only at thrown
  split at thrown
  · cases thrown
  · split at thrown
    · cases thrown
    · refine touched.trans (refusing_andThen (refusing_dispatchToServer _) (fun after what refused => ?_) thrown)
      split <;> simp

private theorem refusing_request (value : Request) (session : Nat) : Refusing (request value session) := by
  cases value with
  | orderStatusRequest value => exact refusing_orderStatusRequest value session
  | requestForPositions value => exact refusing_subscription (refusing_dispatchPositions session value)
  | tradeCaptureReportRequest value => exact refusing_subscription (refusing_dispatchTrades session value)
  | newOrderSingle value =>
    unfold request newOrderSingle
    exact refusing_orderRequest
  | orderCancelReplaceRequest value =>
    unfold request orderCancelReplaceRequest
    exact refusing_orderRequest
  | orderCancelRequest value =>
    unfold request orderCancelRequest
    exact refusing_orderRequest
  | orderMassStatusRequest value =>
    unfold request orderMassStatusRequest
    exact refusing_orderRequest
  | orderMassCancelRequest value =>
    unfold request orderMassCancelRequest
    exact refusing_orderRequest
  | _ => exact refusing_subscription (refusing_dispatchSubscription _ _ _ _)

end Controller

namespace Client
variable {answered : List String} {controller : Controller} {session : Nat}

private theorem mute_collect (session : Nat) (controller : Controller) : Mute controller (collect session controller) :=
  ⟨rfl, rfl⟩

private theorem mute_removeZombies (now : Nanoseconds) (controller : Controller) :
    Mute controller (removeZombies now controller) := by
  have collected (sessions : List Nat) (controller : Controller) :
      Mute controller (sessions.foldl (fun controller session => collect session controller) controller) := by
    induction sessions generalizing controller with
    | nil => exact ⟨rfl, rfl⟩
    | cons session rest ih => exact (mute_collect session controller).trans (ih _)
  unfold removeZombies
  split
  · exact ⟨rfl, rfl⟩
  · have timed : Mute controller { controller with nextGarbageCollection := now + garbageCollectionFrequency } := ⟨rfl, rfl⟩
    exact (timed.trans (collected _ _)).trans ⟨rfl, rfl⟩

private theorem close_unheard (env : Env) (session : Nat) (consistent : (controller.view answered).Consistent)
    (unready : controller.ready = false) :
    ∃ after, close env session controller = .done after ∧ after.sentUp = controller.sentUp := by
  have shut : ({ controller with log := controller.log ++ [.closeClient session] } : Controller).sentUp = controller.sentUp := by
    simp [Controller.sentUp, Output.goesUp]
  cases held : controller.sessions.find session with
  | none => exact ⟨controller, by simp [close, withSession, held], rfl⟩
  | some client =>
    by_cases active : client.state.Active
    · obtain ⟨inside, after, beside, -, departed, closed⟩ :=
        close_departs env held active consistent.sound.prepared consistent.inverse
      refine ⟨_, closed, ?_⟩
      have told := departed.told
      unfold Controller.partings at told
      rw [beside.ready, unready] at told
      have same : after.sentUp = inside.sentUp := by
        simp [Controller.sentUp, told, numbered]
      exact same.trans beside.sentUp
    · by_cases zombie : client.state = .zombie
      · exact ⟨controller, by simp [close, withSession, held, zombie], rfl⟩
      · have arriving : client.state = .waitingLogon := by
          by_contra other
          exact active (State.active_iff.mpr ⟨other, zombie⟩)
        have buried : makeZombie session { controller with log := controller.log ++ [.closeClient session] } =
            .done (bury session { controller with log := controller.log ++ [.closeClient session] }) := by
          simp [makeZombie, withSession, held, arriving]
        refine ⟨bury session { controller with log := controller.log ++ [.closeClient session] }, ?_, shut⟩
        unfold close withSession
        simp only [held, zombie, if_false]
        cases env.library.closeCallsBack session with
        | false => simpa using buried
        | true =>
          simp only [if_true, buried, Outcome.andThen_done]
          exact makeZombie_buried held

private theorem closeAll_unheard (env : Env) (sessions : List Nat) (controller : Controller)
    (consistent : (controller.view answered).Consistent) (unready : controller.ready = false) :
    ∃ after, Outcome.forEach sessions (forceDisconnect env) controller = .done after ∧ after.sentUp = controller.sentUp := by
  induction sessions generalizing controller with
  | nil => exact ⟨controller, rfl, rfl⟩
  | cons session rest ih =>
    obtain ⟨closed, close, same⟩ := close_unheard env session consistent unready
    obtain ⟨closed', close', ended⟩ := close_ends env session consistent.sound
    obtain rfl := Outcome.done.inj (close'.symm.trans close)
    have moves := Router.moves_of_ended ended
    have still : closed'.ready = false := moves.preserves (fun router => router.ready = false)
      (fun before action after closes step same => by
        obtain rfl | ends := closes
        · cases step
          exact same
        · cases step with
          | retire => exact same
          | retireAsking => exact same
          | _ => exact ends.elim) unready
    obtain ⟨after, others, same'⟩ := ih closed' (moves.consistent consistent) still
    exact ⟨after, by rw [Outcome.forEach, forceDisconnect, close, Outcome.andThen_done, others], same'.trans same⟩

end Client

namespace World
variable {env : Env} {before after world : World} {input : Input}

theorem Step.connects (step : Step env before .serverConnected after) :
    (∃ logon, after.controller.sentUp = before.controller.sentUp ++
      numbered before.controller.serverSession.outboundMsgSeqNum [.logon logon]) ∧
    after.controller.serverSession.outboundMsgSeqNum = before.controller.serverSession.outboundMsgSeqNum + 1 ∧
    after.controller.serverSession.state = .logonSent := by
  have same := Outcome.done.inj step.performed
  rw [← same]
  exact ⟨⟨_, Controller.sentUp_sendToServer _ before.controller⟩, rfl, rfl⟩

theorem Step.disconnects (reachable : Reachable env before) (step : Step env before .serverDisconnected after) :
    after.controller.sentUp = before.controller.sentUp ∧ after.controller.serverSession.outboundMsgSeqNum = 0 ∧
      after.controller.serverSession.state = .disconnected := by
  have refusing : (({ before.controller with ready := false } : Controller).view before.answered).Consistent :=
    Router.consistent_step .unready (consistent_of_reachable reachable)
  obtain ⟨closed, loop, same⟩ := Client.closeAll_unheard env before.controller.sessions.keys _ refusing rfl
  have performed := step.performed
  rw [FixProxy.step, Server.disconnected, Controller.serverDisconnected, loop, Outcome.andThen_done,
    Outcome.done.injEq] at performed
  rw [← performed]
  exact ⟨same, rfl, rfl⟩

private theorem step_suits (env : Env) (world : World) (input : Input) (permitted : world.Permits input)
    (connects : input ≠ .serverConnected) (drops : input ≠ .serverDisconnected)
    (logs : ∀ msgSeqNum, input ≠ .serverRead msgSeqNum .logon) :
    (step env input world.controller).Every
      (Speaks (ToServer.Suits world.controller.serverSession.state) world.controller) := by
  obtain ⟨controller, answered⟩ := world
  have relayed {outcome : Outcome Controller} (every : outcome.Every (Relays controller)) :=
    (Relays.suits (Relays.refl controller)).relayed every
  cases input with
  | timer now =>
    have timed : Speaks (ToServer.Suits controller.serverSession.state) controller (Server.timer env now controller) := by
      unfold Server.timer
      split
      · exact Relays.suits (Relays.refl controller)
      · next ready =>
        have timed : Speaks (ToServer.Suits controller.serverSession.state) controller { controller with
            serverSession := { controller.serverSession with nextHeartbeat := now + env.settings.serverPingFreq } } :=
          ⟨[], fun _ member => (nomatch member), by simp [numbered]; rfl, rfl, rfl⟩
        split
        · refine timed.trans (Controller.sendToServer_speaks ?_ _) fun _ _ suits => suits
          exact not_not.mp ready
        · exact Relays.suits (Relays.refl controller)
    have turns (sessions : List Nat) : Outcome.Keeping Relays (Outcome.forEach sessions (Client.timer env now)) :=
      Outcome.Keeping.forEach Relays.refl (Client.relaying_timer env now)
    exact timed.relayed (Outcome.Every.andThen (turns _ _) fun after => (Client.mute_removeZombies now after).relays)
  | accept now => exact Relays.suits (Mute.relays ⟨rfl, rfl⟩)
  | read session clock header message => exact relayed (Client.relaying_read ..)
  | readError session => exact relayed (Client.keeping_close ..)
  | disconnected session => exact relayed (Client.keeping_makeZombie ..)
  | serverConnected => exact absurd rfl connects
  | serverDisconnected => exact absurd rfl drops
  | serverRead msgSeqNum message =>
    have numbers : Relays controller (Server.received msgSeqNum controller) :=
      ⟨[], fun _ member => (nomatch member), by simp [numbered]; rfl, rfl, rfl⟩
    cases message with
    | logon => exact absurd rfl (logs msgSeqNum)
    | testRequest testReqId =>
      refine Speaks.trans numbers.suits (Controller.sendToServer_speaks ?_ _) fun _ _ suits => suits
      exact permitted
    | userResponse value => exact relayed (Outcome.Every.before numbers (Controller.keeping_userResponse env value _))
    | response value => exact relayed (numbers.trans (Controller.frame_response env value _))
    | _ => exact relayed numbers
  | authInsert => exact Relays.suits (Mute.relays ⟨rfl, rfl⟩)
  | authRemove => exact Relays.suits (Mute.relays ⟨rfl, rfl⟩)

private theorem Step.converses (step : Step env before input after) (connects : input ≠ .serverConnected)
    (drops : input ≠ .serverDisconnected) :
    ∃ messages : List ToServer, (∀ message ∈ messages, message.Suits before.controller.serverSession.state) ∧
      after.controller.sentUp =
        before.controller.sentUp ++ numbered before.controller.serverSession.outboundMsgSeqNum messages ∧
      after.controller.serverSession.outboundMsgSeqNum =
        before.controller.serverSession.outboundMsgSeqNum + messages.length ∧
      (after.controller.serverSession.state = before.controller.serverSession.state ∨
        (∃ msgSeqNum, input = .serverRead msgSeqNum .logon) ∧ after.controller.serverSession.state = .ready) := by
  by_cases logs : ∃ msgSeqNum, input = .serverRead msgSeqNum .logon
  · obtain ⟨msgSeqNum, rfl⟩ := logs
    have same := Outcome.done.inj step.performed
    rw [← same]
    exact ⟨[], fun _ member => (nomatch member), by simp [numbered]; rfl, rfl, Or.inr ⟨⟨msgSeqNum, rfl⟩, rfl⟩⟩
  · have every := step_suits env before input step.permitted connects drops fun msgSeqNum same => logs ⟨msgSeqNum, same⟩
    rw [step.performed] at every
    obtain ⟨messages, suits, up, next, state⟩ := every
    exact ⟨messages, suits, up, next, Or.inl state⟩

/-- Nothing is connected, and the next message will be the first. -/
def Down (world : World) : Prop :=
  world.controller.serverSession.state = .disconnected ∧ world.controller.serverSession.outboundMsgSeqNum = 0

theorem Step.down (step : Step env before input after) (reachable : Reachable env before) (down : before.Down)
    (connects : input ≠ .serverConnected) : after.controller.sentUp = before.controller.sentUp ∧ after.Down := by
  by_cases drops : input = .serverDisconnected
  · subst drops
    obtain ⟨up, next, state⟩ := step.disconnects reachable
    exact ⟨up, state, next⟩
  · obtain ⟨messages, suits, up, next, state⟩ := step.converses connects drops
    rw [down.1] at suits
    have silent : messages = [] := by
      cases messages with
      | nil => rfl
      | cons message rest =>
        have unsuited := suits message (by simp)
        cases message <;> simp [ToServer.Suits] at unsuited
    subst silent
    refine ⟨up.trans (List.append_nil _), ?_, next.trans down.2⟩
    rcases state with same | ⟨⟨msgSeqNum, rfl⟩, -⟩
    · exact same.trans down.1
    · exact absurd down.1 step.permitted

private theorem down_create (users : Map String (String × Nat)) (realtime : Nat) : (create users realtime).Down := ⟨rfl, rfl⟩

private theorem down_of_disconnected (reachable : Reachable env world)
    (state : world.controller.serverSession.state = .disconnected) :
    world.Down := by
  obtain ⟨users, realtime, inputs, run⟩ := reachable
  have both := run.preserves (fun world => Reachable env world ∧ (world.controller.serverSession.state = .disconnected → world.Down))
    (fun {before input after} step ⟨reachable, down⟩ => ⟨reachable.step step, fun state => ?_⟩)
    ⟨⟨users, realtime, [], .nil _⟩, fun _ => down_create users realtime⟩
  · exact both.2 state
  · by_cases connects : input = .serverConnected
    · subst connects
      rw [step.connects.2.2] at state
      cases state
    · by_cases drops : input = .serverDisconnected
      · subst drops
        exact ⟨state, (step.disconnects reachable).2.1⟩
      · obtain ⟨-, -, -, -, same | ⟨-, ready⟩⟩ := step.converses connects drops
        · exact (step.down reachable (down (same.symm.trans state)) connects).2
        · rw [state] at ready
          cases ready

private theorem silent_run {inputs : List Input} (run : Run (Step env) before inputs after) (reachable : Reachable env before)
    (down : before.Down) (connects : .serverConnected ∉ inputs) :
    after.controller.sentUp = before.controller.sentUp := by
  have kept := run.history (fun inputs world => .serverConnected ∉ inputs →
    Reachable env world ∧ world.Down ∧ world.controller.sentUp = before.controller.sentUp) (fun _ => ⟨reachable, down, rfl⟩)
    (fun {events event middle last} _ step ih silent => by
      obtain ⟨reachable, down, same⟩ := ih fun member => silent (List.mem_append_left _ member)
      obtain ⟨up, still⟩ := step.down reachable down fun same => silent (by simp [same])
      exact ⟨reachable.step step, still, up.trans same⟩)
  exact (kept connects).2.2

/-- What has been sent since upstream connected: the logon under the number 1, and then
messages under the numbers that follow. -/
def Period (start last : World) (messages : List ToServer) : Prop :=
  (∃ logon, last.controller.sentUp = start.controller.sentUp ++ numbered 0 (.logon logon :: messages)) ∧
    last.controller.serverSession.outboundMsgSeqNum = messages.length + 1 ∧
    ∀ message ∈ messages, ∀ logon, message ≠ .logon logon

theorem Period.snoc {start : World} {messages more : List ToServer} (period : Period start before messages)
    (up : after.controller.sentUp = before.controller.sentUp ++ numbered before.controller.serverSession.outboundMsgSeqNum more)
    (next : after.controller.serverSession.outboundMsgSeqNum =
      before.controller.serverSession.outboundMsgSeqNum + more.length)
    (later : ∀ message ∈ more, ∀ logon, message ≠ .logon logon) : Period start after (messages ++ more) := by
  obtain ⟨⟨logon, sent⟩, number, others⟩ := period
  refine ⟨⟨logon, ?_⟩, ?_, fun message member => ?_⟩
  · rw [up, sent, number, ← List.cons_append, numbered_append, List.length_cons, Nat.zero_add, List.append_assoc]
  · rw [next, number, List.length_append]
    omega
  · rcases List.mem_append.mp member with early | late
    · exact others message early
    · exact later message late

private theorem period_of_run {connected : World} {inputs : List Input} (reachable : Reachable env before)
    (connects : Step env before .serverConnected connected) (run : Run (Step env) connected inputs after)
    (open_ : .serverDisconnected ∉ inputs) :
    ∃ messages, Period before after messages ∧ after.controller.serverSession.state ≠ .disconnected ∧
      ((∀ msgSeqNum, .serverRead msgSeqNum .logon ∉ inputs) →
        after.controller.serverSession.state = .logonSent ∧ ∀ message ∈ messages, ¬ message.Relayed) := by
  refine run.history (fun inputs world => .serverDisconnected ∉ inputs → ∃ messages, Period before world messages ∧
    world.controller.serverSession.state ≠ .disconnected ∧
      ((∀ msgSeqNum, .serverRead msgSeqNum .logon ∉ inputs) →
        world.controller.serverSession.state = .logonSent ∧ ∀ message ∈ messages, ¬ message.Relayed)) ?_ ?_ open_
  · intro _
    obtain ⟨⟨logon, up⟩, next, state⟩ := connects.connects
    have down := down_of_disconnected reachable connects.permitted
    rw [down.2] at up next
    exact ⟨[], ⟨⟨logon, up⟩, next, fun _ member => nomatch member⟩, by simp [state], fun _ =>
      ⟨state, fun _ member => nomatch member⟩⟩
  · intro inputs input middle last _ step ih open_
    obtain ⟨messages, period, isOpen, early⟩ := ih fun member => open_ (List.mem_append_left _ member)
    have connecting : input ≠ .serverConnected := by
      rintro rfl
      exact isOpen step.permitted
    have dropping : input ≠ .serverDisconnected := fun same => open_ (by simp [same])
    obtain ⟨more, suits, up, next, state⟩ := step.converses connecting dropping
    refine ⟨messages ++ more, period.snoc up next fun message member logon same => ?_, ?_, fun unread => ?_⟩
    · have unsuited := suits message member
      rw [same] at unsuited
      exact unsuited
    · rcases state with same | ⟨-, ready⟩
      · rw [same]
        exact isOpen
      · simp [ready]
    · obtain ⟨waiting, plain⟩ := early fun msgSeqNum member => unread msgSeqNum (List.mem_append_left _ member)
      refine ⟨?_, fun message member relayed => ?_⟩
      · rcases state with same | ⟨⟨msgSeqNum, rfl⟩, -⟩
        · exact same.trans waiting
        · exact absurd (List.mem_append_right _ (List.mem_singleton_self _)) (unread msgSeqNum)
      · rcases List.mem_append.mp member with old | new
        · exact plain message old relayed
        · have unsuited := suits message new
          rw [waiting] at unsuited
          cases message <;> simp [ToServer.Suits, ToServer.Relayed] at unsuited relayed

/-- The upstream session of every connection: consecutive numbers from the logon on, nothing
for a client before upstream has accepted the logon or once the connection is lost, and
nothing for a request that is refused. -/
theorem upstream_disciplined (reachable : Reachable env world) :
    (∀ connected inputs last, Step env world .serverConnected connected → Run (Step env) connected inputs last →
      .serverDisconnected ∉ inputs → ∃ messages, Period world last messages ∧
        ((∀ msgSeqNum, .serverRead msgSeqNum .logon ∉ inputs) → ∀ message ∈ messages, ¬ message.Relayed)) ∧
    (∀ lost inputs last, Step env world .serverDisconnected lost → Run (Step env) lost inputs last →
      .serverConnected ∉ inputs → lost.controller.sentUp = world.controller.sentUp ∧
        last.controller.sentUp = world.controller.sentUp) ∧
    (∀ inputs last, world.controller.serverSession.state = .disconnected → Run (Step env) world inputs last →
      .serverConnected ∉ inputs → last.controller.sentUp = world.controller.sentUp) ∧
    (∀ session clock header message after, Step env world (.read session clock header message) after →
      world.controller.serverSession.state ≠ .ready → after.controller.sentUp = world.controller.sentUp ∧
        after.controller.serverSession.outboundMsgSeqNum = world.controller.serverSession.outboundMsgSeqNum) ∧
    (∀ value session controller what refused, Controller.request value session controller = .thrown what refused →
      Mute controller refused) ∧
    ∀ value session controller what refused, Controller.userRequest value session controller = .thrown what refused →
      Mute controller refused := by
  refine ⟨?_, ?_, ?_, ?_, Controller.refusing_request, Controller.refusing_userRequest⟩
  · intro connected inputs last connects run unlost
    obtain ⟨messages, period, -, early⟩ := period_of_run reachable connects run unlost
    exact ⟨messages, period, fun unread => (early unread).2⟩
  · intro lost inputs last step run unconnected
    obtain ⟨up, next, state⟩ := step.disconnects reachable
    exact ⟨up, (silent_run run (reachable.step step) ⟨state, next⟩ unconnected).trans up⟩
  · intro inputs last state run unconnected
    exact silent_run run reachable (down_of_disconnected reachable state) unconnected
  · intro session clock header message after step unready
    have every := Client.relaying_read env message header clock session world.controller
    rw [show Client.read env message header clock session world.controller = .done after.controller from
      step.performed] at every
    exact Relays.refused every unready

theorem upstream_disciplined_loggedOn : ∃ connected last messages,
    Step Deployment.env (create Deployment.users 0) .serverConnected connected ∧
    Run (Step Deployment.env) connected [.serverRead 1 .logon, .timer 0] last ∧
    Period (create Deployment.users 0) last messages := by
  obtain ⟨world, connected, last, runs, step, run, -⟩ := exists_runs_of_replay Regular Deployment.env Deployment.users 0 []
    .serverConnected [.serverRead 1 .logon, .timer 0] (fun _ _ _ => true) (by decide +kernel)
  cases runs
  have reachable : Reachable Deployment.env (create Deployment.users 0) := ⟨_, _, [], .nil _⟩
  obtain ⟨messages, period, -⟩ := (upstream_disciplined reachable).1 connected _ last step
    (run.mono fun performed => performed.2) (by simp)
  exact ⟨connected, last, messages, step, run.mono fun performed => performed.2, period⟩

/-! The Logout of upstream. -/

/-- A Logout, and the end of the connection right after it. -/
def LogoutAnswered (before last : World) : Prop :=
  ∃ msgSeqNum text rest, last.controller.sentUp =
    before.controller.sentUp ++ .toServer msgSeqNum (.logout text) :: .closeServer :: rest

private theorem Step.adds_no_logout (reachable : Reachable env before) (step : Step env before input after) :
    ∃ last messages, after.controller.sentUp = before.controller.sentUp ++ numbered last messages ∧
      ∀ message ∈ messages, ∀ text, message ≠ .logout text := by
  by_cases connects : input = .serverConnected
  · subst connects
    obtain ⟨⟨logon, up⟩, -⟩ := step.connects
    refine ⟨_, _, up, fun message member text same => ?_⟩
    rw [List.mem_singleton.mp member] at same
    cases same
  · by_cases drops : input = .serverDisconnected
    · subst drops
      exact ⟨0, [], (step.disconnects reachable).1.trans (List.append_nil _).symm, fun _ member => nomatch member⟩
    · obtain ⟨messages, suits, up, -⟩ := step.converses connects drops
      refine ⟨_, messages, up, fun message member text same => ?_⟩
      have unsuited := suits message member
      rw [same] at unsuited
      exact unsuited

private theorem mem_numbered {last : Nat} {messages : List ToServer} {output : Output}
    (member : output ∈ numbered last messages) :
    ∃ msgSeqNum message, output = .toServer msgSeqNum message ∧ message ∈ messages := by
  induction messages generalizing last with
  | nil => cases member
  | cons message rest ih =>
    rcases List.mem_cons.mp member with rfl | later
    · exact ⟨_, message, rfl, by simp⟩
    · obtain ⟨msgSeqNum, other, same, inside⟩ := ih later
      exact ⟨msgSeqNum, other, same, List.mem_cons_of_mem _ inside⟩

/-- No Logout ever goes upstream, and no connection is ever closed. -/
private theorem no_logout (reachable : Reachable env world) : ∀ output ∈ world.controller.sentUp,
    output ≠ .closeServer ∧ ∀ msgSeqNum text, output ≠ .toServer msgSeqNum (.logout text) := by
  obtain ⟨users, realtime, inputs, run⟩ := reachable
  have both := run.preserves (fun world => Reachable env world ∧ ∀ output ∈ world.controller.sentUp,
      output ≠ .closeServer ∧ ∀ msgSeqNum text, output ≠ .toServer msgSeqNum (.logout text))
    (fun {before input after} step ⟨reachable, clean⟩ => ⟨reachable.step step, fun output member => ?_⟩)
    ⟨⟨users, realtime, [], .nil _⟩, fun _ member => nomatch member⟩
  · exact both.2
  · obtain ⟨last, messages, up, others⟩ := step.adds_no_logout reachable
    rw [up] at member
    rcases List.mem_append.mp member with old | new
    · exact clean output old
    · obtain ⟨number, message, rfl, inside⟩ := mem_numbered new
      refine ⟨Output.noConfusion, fun msgSeqNum text same => ?_⟩
      exact others message inside text (Output.toServer.inj same).2

/-- A Logout of upstream is taken for a Heartbeat: nothing is sent, the session stays as it
was, and nothing that is sent later answers it. -/
theorem logout_unanswered (reachable : Reachable env before) {msgSeqNum : Nat} {inputs : List Input}
    (step : Step env before (.serverRead msgSeqNum .logout) after) (run : Run (Step env) after inputs world) :
    after.controller = Server.received msgSeqNum before.controller ∧ ¬ LogoutAnswered before world := by
  refine ⟨(Outcome.done.inj step.performed).symm, fun answered => ?_⟩
  have last : Reachable env world := run.preserves (Reachable env) (fun step reachable => reachable.step step) (reachable.step step)
  obtain ⟨number, text, rest, up⟩ := answered
  exact (no_logout last (.toServer number (.logout text)) (by simp [up])).2 number text rfl

theorem logout_unanswered_loggedOn : ∃ before after, Step Deployment.env before (.serverRead 3 .logout) after ∧
    before.controller.serverSession.state = .ready ∧ ¬ LogoutAnswered before after := by
  obtain ⟨before, after, runs, -, step, checked⟩ := exists_step_of_replay Regular Deployment.env Deployment.users 0
    Deployment.loggedOn (.serverRead 3 .logout) (fun before _ => before.controller.serverSession.state == .ready)
    (by decide +kernel)
  exact ⟨before, after, step, beq_iff_eq.mp checked, (logout_unanswered (reachable_of_runsUnder runs) step (.nil _)).2⟩

/-- An order that goes upstream after the Logout. -/
theorem order_after_logout : ∃ before after last, Reachable Deployment.env before ∧
    before.controller.serverSession.state = .ready ∧ Step Deployment.env before (.serverRead 3 .logout) after ∧
    Run (Step Deployment.env) after [Deployment.asks 1 (Deployment.order "AAAA")] last ∧
    ∃ value : NewOrderSingle, last.controller.sentUp =
      before.controller.sentUp ++ [.toServer 3 (.request (.newOrderSingle value))] := by
  obtain ⟨before, after, last, runs, step, run, checked⟩ := exists_runs_of_replay Regular Deployment.env Deployment.users 0
    Deployment.loggedOn (.serverRead 3 .logout) [Deployment.asks 1 (Deployment.order "AAAA")]
    (fun before _ last => before.controller.serverSession.state == .ready &&
      last.controller.sentUp == before.controller.sentUp ++ [.toServer 3 (.request (.newOrderSingle
        { clOrdId := "proxy-1:AAAA"
          noPartyIds := [{ partyId := "1", partyIdSource := .proprietaryCustomCode, partyRole := .clientId }]
          account := "A1", symbol := "BTC-PERPETUAL", securityExchange := "deribit", side := 1, timeInForce := 1
          execInst := "", isValid := true }))]) (by decide +kernel)
  simp only [Bool.and_eq_true, beq_iff_eq] at checked
  exact ⟨before, after, last, reachable_of_runsUnder runs, checked.1, step, run.mono fun performed => performed.2, _,
    checked.2⟩

end World
end FixProxy
