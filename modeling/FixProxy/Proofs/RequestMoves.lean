import FixProxy.Proofs.Moves
import FixProxy.Routing

/-! What a business request does to the router. A request that is refused does
nothing but draw an id; one that is forwarded makes its entry after it was sent. -/

namespace FixProxy
open Codec

namespace Router

/-- What a request handler does before it sends. -/
def Preliminary (session : Nat) : Action → Prop
  | .allocate => True
  | .touch _ other => other = session
  | _ => False

/-- The flag of an entry is that of its request, and an unsubscribe makes none. -/
def Flagged (request : Request) (keepAlive : Bool) : Prop :=
  keepAlive = request.keepAlive ∧ request.subscriptionType ≠ some .unsubscribe

/-- What a handler does with a request of a session, with the outputs before and after. -/
def Requests (session : Nat) (request : Request) (sessions : Nat → Option (Client.State × String))
    (before after : List Output) (router : Router) : Action → Prop
  | .allocate => True
  | .touch _ other => other = session
  | .openFresh name other clientId keepAlive =>
    other = session ∧ router.session = sessions ∧ Flagged request keepAlive ∧
      Forwarded request name clientId router.nextId before after
  | .openStamped name other party clientId keepAlive =>
    other = session ∧ router.session = sessions ∧ Flagged request keepAlive ∧
      Forwarded request name clientId (createRequestId party clientId) before after
  | .enter other party =>
    other = session ∧ router.session = sessions ∧ Flagged request false ∧
      Forwarded request .ordStatusReqId "" (createRequestId party "") before after
  | .release name id =>
    name = .tradeRequestId ∧ request.key.1 = name ∧ request.subscriptionType = some .unsubscribe ∧
      (router.index name).key session request.key.2 ≠ none ∧
      ∃ party, router.session session = some (.ready, party) ∧ id = createRequestId party request.key.2
  | .retain name id _ =>
    request.key.1 = name ∧ request.subscriptionType = some .unsubscribe ∧
      (router.index name).key session request.key.2 = some id ∧
      ∃ party, router.session session = some (.ready, party)
  | _ => False

private theorem requests_of_preliminary {session : Nat} {request : Request} {sessions : Nat → Option (Client.State × String)}
    {before after : List Output} {router : Router} {action : Action} (preliminary : Preliminary session action) :
    Requests session request sessions before after router action := by
  cases action with
  | allocate => trivial
  | touch => exact preliminary
  | _ => exact preliminary.elim

/-- Nothing is sent but one message to a client, at most. -/
def Replied (before after : List Output) : Prop :=
  after = before ∨ ∃ session msgSeqNum message, after = before ++ [.toClient session msgSeqNum message]

/-- What becomes of a request. It is refused, or it is sent upstream, and then at most one
action follows; before that an id may be drawn and a client's id looked up. -/
inductive Performs (session : Nat) (request : Request) (sessions : Nat → Option (Client.State × String))
    (before after : List Output) (first last : Router) : Prop where
  | refused (prelude : Moves (fun _ => Preliminary session) first last) (replied : Replied before after)
  | passed (prelude : Moves (fun _ => Preliminary session) first last)
      (type : request.subscriptionType = some .unsubscribe)
  | acted {middle : Router} {action : Action} (prelude : Moves (fun _ => Preliminary session) first middle)
      (requests : Requests session request sessions before after middle action)
      (acts : ¬ Preliminary session action) (step : Step middle action last)

theorem Performs.moves {session : Nat} {request : Request} {sessions : Nat → Option (Client.State × String)}
    {before after : List Output} {first last : Router}
    (performs : Performs session request sessions before after first last) :
    Moves (Requests session request sessions before after) first last := by
  cases performs with
  | refused prelude => exact prelude.mono fun _ _ => requests_of_preliminary
  | passed prelude => exact prelude.mono fun _ _ => requests_of_preliminary
  | acted prelude requests _ step => exact (prelude.mono fun _ _ => requests_of_preliminary).trans (.single _ requests step)

theorem Performs.after {session : Nat} {request : Request} {sessions : Nat → Option (Client.State × String)}
    {before after : List Output} {first middle last : Router}
    (prelude : Moves (fun _ => Preliminary session) first middle)
    (performs : Performs session request sessions before after middle last) :
    Performs session request sessions before after first last := by
  cases performs with
  | refused more replied => exact .refused (prelude.trans more) replied
  | passed more type => exact .passed (prelude.trans more) type
  | acted more requests acts step => exact .acted (prelude.trans more) requests acts step

end Router

namespace Controller
open Router (Moves Preliminary Requests Performs Replied Step)
variable {answered : List String} {controller : Controller} {session : Nat} {party : String}

theorem sendToClient_replied (session : Nat) (message : ToClient) (controller : Controller) :
    Replied controller.log (controller.sendToClient session message).log := by
  unfold sendToClient
  split
  · exact Or.inl rfl
  · exact Or.inr ⟨_, _, _, rfl⟩

theorem dispatchToClient_replied (response : Response) (session : Nat) (controller : Controller) :
    Replied controller.log (controller.dispatchToClient response session).log := by
  unfold dispatchToClient
  split
  · exact Or.inl rfl
  · split
    · exact sendToClient_replied ..
    · exact Or.inl rfl

/-- A reject at most draws an id. -/
def Refuses (answered : List String) (session : Nat) (reject : Controller → Controller) : Prop :=
  ∀ controller, Moves (fun _ => Preliminary session) (controller.view answered) ((reject controller).view answered) ∧
    Replied controller.log (reject controller).log

private theorem refuses_quiet {reject : Controller → Controller}
    (answers : ∀ controller, ∃ response, reject controller = controller.dispatchToClient response session) :
    Refuses answered session reject := by
  intro controller
  obtain ⟨response, same⟩ := answers controller
  rw [same]
  exact ⟨.of_eq (view_dispatchToClient ..), dispatchToClient_replied ..⟩

private theorem refuses_drawing {reject : Controller → Controller}
    (answers : ∀ controller, ∃ response,
      reject controller = controller.createRequestId.2.dispatchToClient response session) :
    Refuses answered session reject := by
  intro controller
  obtain ⟨response, same⟩ := answers controller
  have drawn : Step (controller.view answered) .allocate (controller.createRequestId.2.view answered) := .allocate
  rw [same]
  exact ⟨.trans (.single .allocate trivial drawn) (.of_eq (view_dispatchToClient ..)),
    dispatchToClient_replied _ _ controller.createRequestId.2⟩

def Handles (answered : List String) (session : Nat) (request : Request) (before : Controller)
    (outcome : Outcome Controller) : Prop :=
  outcome.Leaves
    (fun after => Performs session request (before.view answered).session before.log after.log
      (before.view answered) (after.view answered))
    (fun after => (before.view answered).upstream ≠ .ready ∧
      Moves (fun _ => Preliminary session) (before.view answered) (after.view answered))

variable {request : Request}

private theorem handles_refused {reject : Controller → Controller} (refuses : Refuses answered session reject) :
    Handles answered session request controller (.done (reject controller)) :=
  .refused (refuses controller).1 (refuses controller).2

private theorem handles_touched {name : MappingName} {outcome : Outcome Controller}
    (ready : (controller.view answered).session session = some (.ready, party))
    (handles : Handles answered session request (controller.touch name session) outcome) :
    Handles answered session request controller outcome := by
  have touched : Step (controller.view answered) (.touch name session)
      ((controller.touch name session).view answered) := by
    rw [view_touch]
    exact .touch ready
  have prelude : Moves (fun _ => Preliminary session) (controller.view answered)
      ((controller.touch name session).view answered) := .single (.touch name session) rfl touched
  exact Outcome.Leaves.mono (fun _ performs => performs.after prelude)
    (fun _ ⟨refused, moves⟩ => ⟨refused, prelude.trans moves⟩) handles

/-- The type that a handler switches on says the same as the type of the request. -/
def Typed (request : Request) (type : SubscriptionRequestType) : Prop :=
  (type = .unsubscribe ↔ request.subscriptionType = some .unsubscribe) ∧ (type == .snapshotUpdates) = request.keepAlive

private theorem typed_of_subscriptionType {type : SubscriptionRequestType} (typed : request.subscriptionType = some type) :
    Typed request type := by
  simp [Typed, Request.keepAlive, typed]

private theorem typed_getSubscriptionRequestType {type : SubscriptionRequestType}
    (typed : request.subscriptionType = some type) : Typed request (getSubscriptionRequestType type) := by
  have same : (getSubscriptionRequestType type = .unsubscribe ↔ type = .unsubscribe) ∧
      (getSubscriptionRequestType type == .snapshotUpdates) = (type == .snapshotUpdates) := by
    cases type <;> exact ⟨by decide, by decide⟩
  obtain ⟨ends, keeps⟩ := typed_of_subscriptionType typed
  exact ⟨same.1.trans ends, same.2.trans keeps⟩

/-- What a dispatch may rely on: an id that is outstanding is one to end. -/
structure Dispatches (name : MappingName) (session : Nat) (reqId : String) (request : Request) (keepAlive : Bool)
    (controller : Controller) : Prop where
  ends : controller.findClient name session reqId ≠ none ↔ request.subscriptionType = some .unsubscribe
  flag : keepAlive = request.keepAlive

theorem Dispatches.flagged {name : MappingName} {reqId : String} {keepAlive : Bool}
    (dispatches : Dispatches name session reqId request keepAlive controller)
    (free : controller.findClient name session reqId = none) : Router.Flagged request keepAlive :=
  ⟨dispatches.flag, fun type => dispatches.ends.mpr type free⟩

theorem Dispatches.unsubscribes {name : MappingName} {reqId serverId : String} {keepAlive : Bool}
    (dispatches : Dispatches name session reqId request keepAlive controller)
    (existing : controller.findClient name session reqId = some serverId) :
    request.subscriptionType = some .unsubscribe :=
  dispatches.ends.mp (by simp [existing])

private theorem subscription_handles {name : MappingName} {reqId : String} {isValid : Bool} {type : SubscriptionRequestType}
    {invalid unknown duplicate missing : Controller → Controller}
    {dispatch : Option String → Bool → Controller → Outcome Controller}
    (ready : (controller.view answered).session session = some (.ready, party))
    (refusesInvalid : Refuses answered session invalid) (refusesUnknown : Refuses answered session unknown)
    (refusesDuplicate : Refuses answered session duplicate) (refusesMissing : Refuses answered session missing)
    (typed : Typed request type)
    (dispatches : ∀ keepAlive, ((controller.touch name session).view answered).session session = some (.ready, party) →
      Dispatches name session reqId request keepAlive (controller.touch name session) →
      Handles answered session request (controller.touch name session)
        (dispatch ((controller.touch name session).findClient name session reqId) keepAlive
          (controller.touch name session))) :
    Handles answered session request controller
      (subscription name session reqId isValid type invalid unknown duplicate missing dispatch controller) := by
  unfold subscription
  cases isValid with
  | false => exact handles_refused refusesInvalid
  | true =>
    have still : ((controller.touch name session).view answered).session session = some (.ready, party) := by
      rw [view_touch]
      exact ready
    apply handles_touched ready
    simp only [Bool.not_true, Bool.false_eq_true, if_false]
    cases type with
    | undefined => exact handles_refused refusesUnknown
    | unknown => exact handles_refused refusesUnknown
    | snapshot =>
      simp only
      split
      · exact handles_refused refusesDuplicate
      · next free => exact dispatches _ still ⟨by simpa [← typed.1] using free, typed.2⟩
    | snapshotUpdates =>
      simp only
      split
      · exact handles_refused refusesDuplicate
      · next free => exact dispatches _ still ⟨by simpa [← typed.1] using free, typed.2⟩
    | unsubscribe =>
      simp only
      split
      · next taken =>
        exact dispatches _ still ⟨iff_of_true (Option.isSome_iff_ne_none.mp taken) (typed.1.mp rfl), typed.2⟩
      · exact handles_refused refusesMissing

private theorem dispatchToServer_request (answered : List String) (sent : Request) (controller : Controller) :
    (controller.dispatchToServer (.request sent) = .thrown notReady controller ∧
      (controller.view answered).upstream ≠ .ready) ∨
      ∃ after, controller.dispatchToServer (.request sent) = .done after ∧
        after.view answered = controller.view answered ∧
        ∃ msgSeqNum, after.log = controller.log ++ [.toServer msgSeqNum (.request sent)] := by
  unfold dispatchToServer
  split
  · exact Or.inr ⟨_, rfl, view_sendToServer answered controller fun _ => by simp, _, rfl⟩
  · next refused => exact Or.inl ⟨rfl, refused⟩

/-- What the handlers rely on in the indexes: a position request finds its entry, and the
id that is drawn next has none. -/
structure Prepared (answered : List String) (controller : Controller) : Prop where
  backed : ((controller.view answered).index .posReqId).Backed
  unused : ∀ name, name.Fresh → ((controller.view answered).index name).entry (controller.view answered).nextId = none

theorem Prepared.touch (prepared : Prepared answered controller) (name : MappingName) (session : Nat) :
    Prepared answered (controller.touch name session) := by
  have same (other : MappingName) : (((controller.touch name session).view answered).index other).entry =
        ((controller.view answered).index other).entry ∧
      (((controller.touch name session).view answered).index other).key =
        ((controller.view answered).index other).key := by
    rw [view_touch]
    by_cases own : other = name
    · subst other
      simp [Index.touch]
    · simp [own]
  have next : ((controller.touch name session).view answered).nextId = (controller.view answered).nextId := rfl
  constructor
  · intro owner reqId id key
    rw [(same .posReqId).2] at key
    rw [(same .posReqId).1]
    exact prepared.backed owner reqId id key
  · intro other fresh
    rw [(same other).1, next]
    exact prepared.unused other fresh

private theorem dispatchSubscription_handles {name : MappingName} {reqId : String} {sent : String → Request}
    (keepAlive : Bool) (ready : (controller.view answered).session session = some (.ready, party)) (fresh : name.Fresh)
    (prepared : Prepared answered controller)
    (dispatches : Dispatches name session reqId request keepAlive controller) (key : request.key = (name, reqId))
    (sentKey : ∀ requestId, (sent requestId).key = (name, requestId)) :
    Handles answered session request controller
      (dispatchSubscription name session reqId sent (controller.findClient name session reqId) keepAlive controller) := by
  have drawn := view_createRequestId answered controller
  have id := createRequestId_fst answered controller
  have prelude : Moves (fun _ => Preliminary session) (controller.view answered)
      (controller.createRequestId.2.view answered) := .single .allocate trivial .allocate
  unfold dispatchSubscription
  obtain ⟨thrown, refused⟩ | ⟨after, done, view, msgSeqNum, log⟩ :=
    dispatchToServer_request answered (sent controller.createRequestId.1) controller.createRequestId.2
  · simp only [thrown]
    exact ⟨refused, prelude⟩
  · simp only [done, Outcome.andThen_done]
    cases existing : controller.findClient name session reqId with
    | some serverId =>
      simp only [Option.isSome_some, if_true]
      -- the id that is released is the new one, which has no entry
      have unused : after.findReqId name controller.createRequestId.1 = none := by
        rw [findReqId_eq answered, view, drawn, id]
        exact prepared.unused name fresh
      rw [removeReqId_of_none _ _ _ unused]
      refine .passed ?_ (dispatches.unsubscribes existing)
      rw [view]
      exact prelude
    | none =>
      simp only [Option.isSome_none, Bool.false_eq_true, if_false]
      have added := view_addReqId answered after name session reqId controller.createRequestId.1 keepAlive
      rw [view, drawn] at added
      refine .acted (.refl _)
        (show Requests session request _ _ _ _ (.openFresh name session reqId keepAlive) from
          ⟨rfl, rfl, dispatches.flagged existing, key, msgSeqNum, _, ?_, log⟩) (fun never => never) ?_
      · rw [sentKey, id]
      · rw [added]
        exact .openFresh ready fresh existing

private theorem dispatchPositions_handles {value : RequestForPositions} (keepAlive : Bool)
    (ready : (controller.view answered).session session = some (.ready, party))
    (prepared : Prepared answered controller)
    (dispatches : Dispatches .posReqId session value.posReqId (.requestForPositions value) keepAlive controller) :
    Handles answered session (.requestForPositions value) controller
      (dispatchPositions session value (controller.findClient .posReqId session value.posReqId) keepAlive
        controller) := by
  unfold dispatchPositions
  cases existing : controller.findClient .posReqId session value.posReqId with
  | some serverId =>
    simp only
    obtain ⟨thrown, refused⟩ | ⟨after, done, view, msgSeqNum, log⟩ := dispatchToServer_request answered
      (.requestForPositions { value with posReqId := serverId }) controller
    · simp only [thrown]
      exact ⟨refused, .refl _⟩
    · simp only [done, Outcome.andThen_done, Option.isSome_some, if_true]
      split
      · have retained := view_setMapping answered after .posReqId
          (Mapping.toIndex_retain (after.mapping .posReqId) serverId keepAlive)
        have index : (after.mapping .posReqId).toIndex = (controller.view answered).index .posReqId := by
          rw [← view]
          rfl
        rw [view, index] at retained
        refine .acted (.refl _)
          (show Requests session (.requestForPositions value) _ _ _ _ (.retain .posReqId serverId keepAlive) from
            ⟨rfl, dispatches.unsubscribes existing, existing, party, ready⟩) id ?_
        rw [retained]
        exact .retain
      · next missing =>
        obtain ⟨flag, entry⟩ := prepared.backed session value.posReqId serverId existing
        rw [← view] at entry
        have found : (after.mapping .posReqId).serverToClient.find serverId = some _ := entry
        simp [found] at missing
  | none =>
    have drawn := view_createRequestId answered controller
    have id := createRequestId_fst answered controller
    simp only
    obtain ⟨thrown, refused⟩ | ⟨after, done, view, msgSeqNum, log⟩ := dispatchToServer_request answered
      (.requestForPositions { value with posReqId := controller.createRequestId.1 }) controller.createRequestId.2
    · simp only [thrown]
      exact ⟨refused, .single .allocate trivial .allocate⟩
    · simp only [done, Outcome.andThen_done, Option.isSome_none, Bool.false_eq_true, if_false]
      have added := view_addReqId answered after .posReqId session value.posReqId controller.createRequestId.1 keepAlive
      rw [view, drawn] at added
      refine .acted (.refl _)
        (show Requests session (.requestForPositions value) _ _ _ _
            (.openFresh .posReqId session value.posReqId keepAlive) from
          ⟨rfl, rfl, dispatches.flagged existing, rfl, msgSeqNum, _, ?_, log⟩) (fun never => never) ?_
      · simp only [Request.key, id]
      · rw [added]
        exact .openFresh ready trivial existing

private theorem dispatchTrades_handles {value : TradeCaptureReportRequest} (keepAlive : Bool)
    (ready : (controller.view answered).session session = some (.ready, party))
    (stamp : getClientFromParties value.noPartyIds = party)
    (dispatches :
      Dispatches .tradeRequestId session value.tradeRequestId (.tradeCaptureReportRequest value) keepAlive controller) :
    Handles answered session (.tradeCaptureReportRequest value) controller
      (dispatchTrades session value (controller.findClient .tradeRequestId session value.tradeRequestId) keepAlive
        controller) := by
  unfold dispatchTrades
  simp only [stamp]
  obtain ⟨thrown, refused⟩ | ⟨after, done, view, msgSeqNum, log⟩ := dispatchToServer_request answered
    (.tradeCaptureReportRequest { value with tradeRequestId := FixProxy.createRequestId party value.tradeRequestId }) controller
  · simp only [thrown]
    exact ⟨refused, .refl _⟩
  · simp only [done, Outcome.andThen_done]
    cases existing : controller.findClient .tradeRequestId session value.tradeRequestId with
    | some serverId =>
      simp only [Option.isSome_some, if_true]
      have removed := view_removeReqId answered after .tradeRequestId _
        (createRequestId_ne_empty party value.tradeRequestId)
      rw [view] at removed
      refine .acted (.refl _)
        (show Requests session (.tradeCaptureReportRequest value) _ _ _ _
            (.release .tradeRequestId (FixProxy.createRequestId party value.tradeRequestId)) from
          ⟨rfl, rfl, dispatches.unsubscribes existing, ?_, party, ready, rfl⟩) id ?_
      · intro free
        have missing : controller.findClient .tradeRequestId session value.tradeRequestId = none := free
        simp [missing] at existing
      · rw [removed]
        exact .release
    | none =>
      simp only [Option.isSome_none, Bool.false_eq_true, if_false]
      have added := view_addReqId answered after .tradeRequestId session value.tradeRequestId
        (FixProxy.createRequestId party value.tradeRequestId) keepAlive
      rw [view] at added
      refine .acted (.refl _)
        (show Requests session (.tradeCaptureReportRequest value) _ _ _ _
            (.openStamped .tradeRequestId session party value.tradeRequestId keepAlive) from
          ⟨rfl, rfl, dispatches.flagged existing, rfl, msgSeqNum, _, rfl, log⟩) id ?_
      rw [added]
      exact .openStamped ready (by simp [MappingName.Fresh]) existing (by simp)

private theorem orderRequest_handles (name : MappingName) {reqId : String} {isValid : Bool}
    {invalid duplicate : Controller → Controller} {clientId : String} {sent : String → Request} {keepAlive : Bool}
    (ready : (controller.view answered).session session = some (.ready, party)) (stamp : clientId = party)
    (refusesInvalid : Refuses answered session invalid) (refusesDuplicate : Refuses answered session duplicate)
    (stamped : ¬ name.Fresh) (named : name ≠ .ordStatusReqId) (flagged : Router.Flagged request keepAlive)
    (key : request.key = (name, reqId)) (sentKey : ∀ requestId, (sent requestId).key = (name, requestId)) :
    Handles answered session request controller
      (orderRequest name session reqId isValid invalid duplicate clientId sent keepAlive controller) := by
  subst stamp
  unfold orderRequest
  cases isValid with
  | false => exact handles_refused refusesInvalid
  | true =>
    have still : ((controller.touch name session).view answered).session session = some (.ready, clientId) := by
      rw [view_touch]
      exact ready
    apply handles_touched ready
    simp only [Bool.not_true, Bool.false_eq_true, if_false]
    split
    · exact handles_refused refusesDuplicate
    · next unused =>
      have existing : (controller.touch name session).findClient name session reqId = none := by simpa using unused
      obtain ⟨thrown, refused⟩ | ⟨after, done, view, msgSeqNum, log⟩ := dispatchToServer_request answered
        (sent (FixProxy.createRequestId clientId reqId)) (controller.touch name session)
      · simp only [thrown]
        exact ⟨refused, .refl _⟩
      · simp only [done, Outcome.andThen_done]
        have added := view_addReqId answered after name session reqId (FixProxy.createRequestId clientId reqId) keepAlive
        rw [view] at added
        refine .acted (.refl _)
          (show Requests session request _ _ _ _ (.openStamped name session clientId reqId keepAlive) from
            ⟨rfl, rfl, flagged, key, msgSeqNum, _, sentKey _, log⟩) id ?_
        rw [added]
        exact .openStamped still stamped existing fun ordStatus => absurd ordStatus named

private theorem orderStatusRequest_handles {value : OrderStatusRequest}
    (ready : (controller.view answered).session session = some (.ready, party))
    (stamp : getClientFromParties value.noPartyIds = party) :
    Handles answered session (.orderStatusRequest value) controller (orderStatusRequest value session controller) := by
  have refuses (text : String) : Refuses answered session (rejectOrderStatusRequest value session text) :=
    refuses_drawing fun _ => ⟨_, rfl⟩
  have flagged : Router.Flagged (.orderStatusRequest value) false := ⟨rfl, by simp [Request.subscriptionType]⟩
  unfold orderStatusRequest
  simp only [stamp]
  split
  · exact handles_refused (refuses _)
  · have still : ((controller.touch .ordStatusReqId session).view answered).session session =
        some (.ready, party) := by
      rw [view_touch]
      exact ready
    apply handles_touched ready
    split
    · exact handles_refused (refuses _)
    · next unused =>
      obtain ⟨thrown, refused⟩ | ⟨after, done, view, msgSeqNum, log⟩ := dispatchToServer_request answered
        (.orderStatusRequest
          { value with
            ordStatusReqId := FixProxy.createRequestId party value.ordStatusReqId
            clOrdId := FixProxy.createRequestId party value.clOrdId }) (controller.touch .ordStatusReqId session)
      · simp only [thrown]
        exact ⟨refused, .refl _⟩
      · simp only [done, Outcome.andThen_done]
        by_cases named : value.ordStatusReqId = ""
        · simp only [named, ne_eq, not_true, if_false]
          have entered := view_setMapping answered after .ordStatusReqId
            (Mapping.toIndex_enter (after.mapping .ordStatusReqId) session "" (FixProxy.createRequestId party "") false)
          have index : (after.mapping .ordStatusReqId).toIndex =
              ((controller.touch .ordStatusReqId session).view answered).index .ordStatusReqId := by
            rw [← view]
            rfl
          rw [view, index] at entered
          refine .acted (.refl _)
            (show Requests session (.orderStatusRequest value) _ _ _ _ (.enter session party) from
              ⟨rfl, rfl, flagged, congrArg _ named, msgSeqNum, _, ?_, log⟩) id ?_
          · simp only [Request.key, named]
          · rw [entered]
            exact .enter still
        · have existing : (controller.touch .ordStatusReqId session).findClient .ordStatusReqId session
              value.ordStatusReqId = none := by
            simpa [named] using unused
          simp only [named, ne_eq, not_false_eq_true, if_true]
          have added := view_addReqId answered after .ordStatusReqId session value.ordStatusReqId
            (FixProxy.createRequestId party value.ordStatusReqId) false
          rw [view] at added
          refine .acted (.refl _)
            (show Requests session (.orderStatusRequest value) _ _ _ _
                (.openStamped .ordStatusReqId session party value.ordStatusReqId false) from
              ⟨rfl, rfl, flagged, rfl, msgSeqNum, _, rfl, log⟩) id ?_
          rw [added]
          exact .openStamped still (by simp [MappingName.Fresh]) existing fun _ => named

private theorem flagged_of_order {keepAlive : Bool} (untyped : request.subscriptionType = none)
    (flag : (request.key.1 == .clOrdId) = keepAlive) : Router.Flagged request keepAlive := by
  simp [Router.Flagged, Request.keepAlive, untyped, flag]

/-- Every request of a session that is ready, once it carries the session's party. -/
theorem request_handles (request : Request)
    (stamp : ∀ parties, request.parties = some parties → getClientFromParties parties = party)
    (ready : (controller.view answered).session session = some (.ready, party))
    (prepared : Prepared answered controller) :
    Handles answered session request controller (Controller.request request session controller) := by
  cases request with
  | securityListRequest value =>
    have refuses : Refuses answered session (rejectSecurityListRequest value session) :=
      refuses_drawing fun _ => ⟨_, rfl⟩
    exact subscription_handles ready refuses refuses refuses refuses (typed_getSubscriptionRequestType rfl)
      fun keepAlive ready dispatches =>
        dispatchSubscription_handles keepAlive ready trivial (prepared.touch ..) dispatches rfl fun _ => rfl
  | securityDefinitionRequest value =>
    have refuses : Refuses answered session (rejectSecurityDefinitionRequest value session) :=
      refuses_drawing fun _ => ⟨_, rfl⟩
    exact subscription_handles ready refuses refuses refuses refuses (typed_getSubscriptionRequestType rfl)
      fun keepAlive ready dispatches =>
        dispatchSubscription_handles keepAlive ready trivial (prepared.touch ..) dispatches rfl fun _ => rfl
  | securityStatusRequest value =>
    have refuses : Refuses answered session (rejectSecurityStatusRequest value session) :=
      refuses_quiet fun _ => ⟨_, rfl⟩
    exact subscription_handles ready refuses refuses refuses refuses (typed_getSubscriptionRequestType rfl)
      fun keepAlive ready dispatches =>
        dispatchSubscription_handles keepAlive ready trivial (prepared.touch ..) dispatches rfl fun _ => rfl
  | marketDataRequest value =>
    have refuses reason text : Refuses answered session (rejectMarketDataRequest value session reason text) :=
      refuses_quiet fun _ => ⟨_, rfl⟩
    exact subscription_handles ready (refuses _ _) (refuses _ _) (refuses _ _) (refuses _ _)
      (typed_of_subscriptionType rfl) fun keepAlive ready dispatches =>
        dispatchSubscription_handles keepAlive ready trivial (prepared.touch ..) dispatches rfl fun _ => rfl
  | orderStatusRequest value => exact orderStatusRequest_handles ready (stamp _ rfl)
  | newOrderSingle value =>
    have refuses text : Refuses answered session (rejectNewOrderSingle value session text) :=
      refuses_drawing fun _ => ⟨_, rfl⟩
    unfold Controller.request newOrderSingle
    exact orderRequest_handles .clOrdId ready (stamp _ rfl) (refuses _) (refuses _) id (by decide) (flagged_of_order rfl rfl) rfl fun _ => rfl
  | orderCancelReplaceRequest value =>
    have refuses reason text : Refuses answered session (rejectOrderCancel value.clOrdId value.origClOrdId
        value.account .orderCancelReplaceRequest session reason text) :=
      refuses_quiet fun _ => ⟨_, rfl⟩
    unfold Controller.request orderCancelReplaceRequest
    exact orderRequest_handles .clOrdId ready (stamp _ rfl) (refuses _ _) (refuses _ _) id (by decide) (flagged_of_order rfl rfl) rfl fun _ => rfl
  | orderCancelRequest value =>
    have refuses reason text : Refuses answered session (rejectOrderCancel value.clOrdId value.origClOrdId
        value.account .orderCancelRequest session reason text) :=
      refuses_quiet fun _ => ⟨_, rfl⟩
    unfold Controller.request orderCancelRequest
    exact orderRequest_handles .clOrdId ready (stamp _ rfl) (refuses _ _) (refuses _ _) id (by decide) (flagged_of_order rfl rfl) rfl fun _ => rfl
  | orderMassStatusRequest value =>
    have refuses text : Refuses answered session (rejectOrderMassStatusRequest value session text) :=
      refuses_drawing fun _ => ⟨_, rfl⟩
    unfold Controller.request orderMassStatusRequest
    exact orderRequest_handles .massStatusReqId ready (stamp _ rfl) (refuses _) (refuses _) id (by decide) (flagged_of_order rfl rfl) rfl fun _ => rfl
  | orderMassCancelRequest value =>
    have refuses text : Refuses answered session (rejectOrderMassCancelRequest value session text) :=
      refuses_quiet fun _ => ⟨_, rfl⟩
    unfold Controller.request orderMassCancelRequest
    exact orderRequest_handles .massCancelClOrdId ready (stamp _ rfl) (refuses _) (refuses _) id (by decide) (flagged_of_order rfl rfl) rfl fun _ => rfl
  | requestForPositions value =>
    have refuses text : Refuses answered session (rejectRequestForPositions value session text) :=
      refuses_drawing fun _ => ⟨_, rfl⟩
    exact subscription_handles ready (refuses _) (refuses _) (refuses _) (refuses _)
      (typed_getSubscriptionRequestType rfl) fun keepAlive ready dispatches =>
        dispatchPositions_handles keepAlive ready (prepared.touch ..) dispatches
  | tradeCaptureReportRequest value =>
    have refuses text : Refuses answered session (rejectTradeCaptureReportRequest value session text) :=
      refuses_drawing fun _ => ⟨_, rfl⟩
    exact subscription_handles ready (refuses _) (refuses _) (refuses _) (refuses _)
      (typed_getSubscriptionRequestType rfl) fun keepAlive ready dispatches =>
        dispatchTrades_handles keepAlive ready (stamp _ rfl) dispatches

end Controller
end FixProxy
