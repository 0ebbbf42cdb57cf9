import FixProxy.Proofs.Delivery

/-! What a response does to the mappings: it releases one server id of one mapping, or
nothing. When it does is said here for all fourteen kinds at once. -/

namespace FixProxy
open Codec

/-- Whether the handler of a response drops the entry of the response's id, given the
mapping, the position reports that are counted, and the flag of the entry. -/
def Codec.Response.drops (name : MappingName) (reports : Nat) (keepAlive : Bool) : Response → Bool
  | .businessMessageReject _ => false
  | .securityList value => name == .securityReqId && (value.securityRequestResult != .valid || !keepAlive)
  | .securityDefinition value =>
    name == .securityReqId && (value.securityResponseType != .acceptSecurityProposalAsIs || !keepAlive)
  | .securityStatus _ => name == .securityStatusReqId && !keepAlive
  | .marketDataRequestReject _ => name == .mdReqId && true
  | .marketDataSnapshotFullRefresh _ => name == .mdReqId && !keepAlive
  | .marketDataIncrementalRefresh _ => name == .mdReqId && false
  | .orderCancelReject _ => name == .clOrdId && true
  | .orderMassCancelReport _ => name == .massCancelClOrdId && true
  | .executionReport value =>
    if value.ordStatusReqId ≠ "" then name == .ordStatusReqId && true
    else if value.massStatusReqId ≠ "" then name == .massStatusReqId && value.lastRptRequested
    else name == .clOrdId && !isPending value.execType
  | .requestForPositionsAck value =>
    name == .posReqId &&
      ((value.posReqResult != .valid || value.posReqStatus == .rejected) || value.totalNumPosReports == 0)
  | .positionReport value => name == .posReqId && (value.posReqResult != .valid || (reports - 1 == 0 && !keepAlive))
  | .tradeCaptureReportRequestAck _ => name == .tradeRequestId && !keepAlive
  | .tradeCaptureReport value => name == .tradeRequestId && (value.lastRptRequested && !keepAlive)

/-- Only the messages of a mapping drop its entries; an order id goes with any report that settles it. -/
theorem Codec.Response.mapping_of_drops {value : Response} {name : MappingName} {reports : Nat} {keepAlive : Bool}
    (other : name ≠ .clOrdId) (dropped : value.drops name reports keepAlive = true) : value.mapping = some name := by
  cases value with
  | businessMessageReject => cases dropped
  | executionReport value =>
    simp only [Response.drops] at dropped
    simp only [Response.mapping]
    split at dropped
    · next status =>
      simp only [Bool.and_true, beq_iff_eq] at dropped
      rw [if_pos status, dropped]
    · next status =>
      rw [if_neg status]
      split at dropped
      · next massStatus =>
        simp only [Bool.and_eq_true, beq_iff_eq] at dropped
        rw [if_pos massStatus, dropped.1]
      · simp [other] at dropped
  | _ =>
    simp only [Response.drops, Bool.and_eq_true, beq_iff_eq] at dropped
    simp_all [Response.mapping]

namespace Controller
variable {answered : List String} {name : MappingName} {serverId : String} {before middle after : Controller}
  {remove : Bool → Bool}

/-- A server id is released if its entry is there and the condition on its flag holds. -/
def Released (answered : List String) (name : MappingName) (serverId : String) (remove : Bool → Bool)
    (before after : Controller) : Prop :=
  (after.view answered).index name =
    if serverId ≠ "" ∧ ((before.findReqId name serverId).any fun (_, _, keepAlive) => remove keepAlive) = true then
      ((before.view answered).index name).release serverId
    else (before.view answered).index name

private theorem released_nothing (same : (after.view answered).index name = (before.view answered).index name)
    (never : ∀ keepAlive, remove keepAlive = false) : Released answered name serverId remove before after := by
  unfold Released
  rw [same, if_neg]
  rintro ⟨-, removed⟩
  cases found : before.findReqId name serverId with
  | none => simp [found] at removed
  | some entry => simp [found, never] at removed

theorem Released.of_index (released : Released answered name serverId remove middle after)
    (same : (middle.view answered).index name = (before.view answered).index name) :
    Released answered name serverId remove before after := by
  have found : middle.findReqId name serverId = before.findReqId name serverId := by
    rw [findReqId_eq answered, same]
    rfl
  unfold Released at released ⊢
  rw [released, found, same]

private theorem released_removeReqId (name : MappingName) (serverId : String) (controller : Controller) :
    Released answered name serverId (fun _ => true) controller (controller.removeReqId name serverId) := by
  unfold Released
  by_cases empty : serverId = ""
  · rw [if_neg fun present => present.1 empty, removeReqId, if_pos empty]
  · rw [view_removeReqId answered controller name serverId empty]
    simp only [Function.update_self]
    cases found : controller.findReqId name serverId with
    | none =>
      have missing : ((controller.view answered).index name).entry serverId = none := found
      simp [Index.release, missing]
    | some entry => simp [empty]

private theorem index_removeReqId_other {other : MappingName} (different : name ≠ other) (serverId : String)
    (controller : Controller) :
    ((controller.removeReqId other serverId).view answered).index name = (controller.view answered).index name := by
  by_cases empty : serverId = ""
  · rw [removeReqId, if_pos empty]
  · rw [view_removeReqId answered controller other serverId empty]
    exact Function.update_of_ne different ..

private theorem index_route_other {routed : MappingName} (different : name ≠ routed) (serverId : String)
    (response : String → Response) (remove : Bool → Bool) (controller : Controller) :
    ((controller.route routed serverId response remove).view answered).index name =
      (controller.view answered).index name := by
  unfold route
  split
  · rfl
  · split
    · rw [index_removeReqId_other different, view_dispatchToClient]
    · rw [view_dispatchToClient]

private theorem released_route (name routed : MappingName) (serverId : String) (response : String → Response)
    (remove : Bool → Bool) (controller : Controller) :
    Released answered name serverId (fun keepAlive => name == routed && remove keepAlive) controller
      (controller.route routed serverId response remove) := by
  by_cases same : name = routed
  · subst routed
    unfold route
    simp only [beq_self_eq_true, Bool.true_and]
    cases found : controller.findReqId name serverId with
    | none =>
      unfold Released
      simp [found]
    | some entry =>
      obtain ⟨session, clientId, keepAlive⟩ := entry
      simp only
      split
      · next removed =>
        have released : Released answered name serverId (fun _ => true) controller
            ((controller.dispatchToClient (response clientId) session).removeReqId name serverId) :=
          (released_removeReqId name serverId _).of_index (by rw [view_dispatchToClient])
        unfold Released at released ⊢
        rw [released, found]
        simp [removed]
      · next kept =>
        unfold Released
        rw [view_dispatchToClient, if_neg]
        rintro ⟨-, removed⟩
        simp [found, kept] at removed
  · exact released_nothing (index_route_other same ..) fun _ => by simp [same]

private theorem index_ensureClOrdId (answered : List String) (clOrdId : String) (ordStatus : OrdStatus)
    (controller : Controller) (name : MappingName) :
    ((controller.ensureClOrdId clOrdId ordStatus).view answered).index name = (controller.view answered).index name := by
  unfold ensureClOrdId
  split <;> rfl

private theorem index_removeClOrdId (env : Env) (answered : List String) (clOrdId : String) (controller : Controller)
    (name : MappingName) :
    ((controller.removeClOrdId env clOrdId).view answered).index name = (controller.view answered).index name := by
  unfold removeClOrdId
  split
  · rfl
  · split <;> rfl

private theorem index_recorded (env : Env) (answered : List String) (value : ExecutionReport) (controller : Controller)
    (report : Response) (clientId : String) (name : MappingName) :
    ((((if !isPending value.execType && value.origClOrdId != "" then
          (if env.library.isOrderComplete value.ordStatus then controller.removeClOrdId env value.clOrdId
            else if isPending value.execType then controller.ensureClOrdId value.clOrdId value.ordStatus
            else controller).removeClOrdId env value.origClOrdId
        else
          (if env.library.isOrderComplete value.ordStatus then controller.removeClOrdId env value.clOrdId
            else if isPending value.execType then controller.ensureClOrdId value.clOrdId value.ordStatus
            else controller)) : Controller).broadcast report clientId).view answered).index name =
      (controller.view answered).index name := by
  have recorded : (((if env.library.isOrderComplete value.ordStatus then controller.removeClOrdId env value.clOrdId
            else if isPending value.execType then controller.ensureClOrdId value.clOrdId value.ordStatus
            else controller) : Controller).view answered).index name = (controller.view answered).index name := by
    split
    · exact index_removeClOrdId ..
    · split
      · exact index_ensureClOrdId ..
      · rfl
  rw [view_broadcast]
  split
  · rw [index_removeClOrdId, recorded]
  · exact recorded

theorem response_released (env : Env) (answered : List String) (value : Response) (name : MappingName)
    (controller : Controller) :
    Released answered name (value.id name) (value.drops name controller.totalNumPosReports) controller
      (controller.response env value) := by
  cases value with
  | businessMessageReject value =>
    exact released_nothing (congrArg (fun router => router.index name) (view_businessMessageReject value controller))
      fun _ => rfl
  | requestForPositionsAck value =>
    change Released answered name value.posReqId (Response.drops name controller.totalNumPosReports ·
      (.requestForPositionsAck value)) controller (controller.requestForPositionsAck value)
    unfold requestForPositionsAck
    cases found : controller.findReqId .posReqId value.posReqId with
    | none =>
      unfold Released
      rw [if_neg]
      rintro ⟨-, removed⟩
      by_cases same : name = .posReqId
      · subst name
        simp [found] at removed
      · cases other : controller.findReqId name value.posReqId <;> simp [other, Response.drops, same] at removed
    | some entry =>
      simp only
      generalize totals : (if (value.posReqResult != .valid || value.posReqStatus == .rejected) = true then 0
        else value.totalNumPosReports) = totalNumPosReports
      have passed : ((({ controller with totalNumPosReports } : Controller).dispatchToClient
          (.requestForPositionsAck { value with posReqId := entry.2.1 }) entry.1).view answered).index =
            (controller.view answered).index := by
        rw [view_dispatchToClient]
        rfl
      split
      · next removed =>
        by_cases same : name = .posReqId
        · subst name
          have always : (Response.drops .posReqId controller.totalNumPosReports · (.requestForPositionsAck value)) =
              fun _ => true := by
            funext keepAlive
            simpa [Response.drops] using removed
          rw [always]
          exact (released_removeReqId ..).of_index (congrFun passed _)
        · refine released_nothing ?_ fun _ => by simp [Response.drops, same]
          rw [index_removeReqId_other same, passed]
      · next kept => exact released_nothing (congrFun passed _) fun _ => by simp [Response.drops, kept]
  | positionReport value =>
    exact (released_route name .posReqId value.posReqId _ _ _).of_index rfl
  | executionReport value =>
    change Released answered name (Response.id name (.executionReport value))
      (Response.drops name controller.totalNumPosReports · (.executionReport value)) controller
      (controller.executionReport env value)
    unfold executionReport
    by_cases status : value.ordStatusReqId ≠ ""
    · simp only [Response.drops, status, ne_eq, not_false_eq_true, if_true]
      by_cases same : name = .ordStatusReqId
      · subst name
        exact (released_route ..).of_index (index_ensureClOrdId ..)
      · exact released_nothing ((index_route_other same ..).trans (index_ensureClOrdId ..)) fun _ => by simp [same]
    · by_cases massStatus : value.massStatusReqId ≠ ""
      · simp only [Response.drops, status, massStatus, ne_eq, not_false_eq_true, if_true, if_false]
        by_cases same : name = .massStatusReqId
        · subst name
          exact (released_route ..).of_index (index_ensureClOrdId ..)
        · exact released_nothing ((index_route_other same ..).trans (index_ensureClOrdId ..)) fun _ => by simp [same]
      · simp only [Response.drops, status, massStatus, if_false]
        have handled (passed : Controller)
            (kept : ∀ name, (passed.view answered).index name = (controller.view answered).index name) :
            Released answered name (Response.id name (.executionReport value))
              (fun _ => name == .clOrdId && !isPending value.execType) controller
              (if isPending value.execType = true then passed else passed.removeReqId .clOrdId value.clOrdId) := by
          cases pending : isPending value.execType with
          | true => exact released_nothing (kept name) fun _ => by simp
          | false =>
            by_cases same : name = .clOrdId
            · subst name
              exact (released_removeReqId ..).of_index (kept .clOrdId)
            · exact released_nothing ((index_removeReqId_other same ..).trans (kept name)) fun _ => by simp [same]
        refine handled _ fun name => ?_
        split
        · -- the entry of a rejected action is dropped only below
          have routed : Released answered name value.clOrdId (fun _ => name == .clOrdId && false) controller
              (controller.route .clOrdId value.clOrdId (fun _ => .executionReport { value with
                clOrdId := getClientClOrdId value.clOrdId
                origClOrdId := getClientClOrdId value.origClOrdId }) fun _ => false) := released_route ..
          unfold Released at routed
          rw [routed, if_neg]
          rintro ⟨-, removed⟩
          cases found : controller.findReqId name value.clOrdId <;> simp [found] at removed
        · exact index_recorded ..
  | _ => exact released_route ..

/-- The entries after a response are the ones before it, but for the one that it drops. -/
theorem findReqId_response (env : Env) (value : Response) (name : MappingName) {serverId : String}
    (nonempty : serverId ≠ "") (controller : Controller) :
    (controller.response env value).findReqId name serverId =
      if serverId = value.id name ∧ ((controller.findReqId name serverId).any fun (_, _, keepAlive) =>
          value.drops name controller.totalNumPosReports keepAlive) = true then none
      else controller.findReqId name serverId := by
  have released := response_released env [] value name controller
  unfold Released at released
  rw [findReqId_eq [], released]
  by_cases same : serverId = value.id name
  · subst same
    simp only [nonempty, ne_eq, not_false_eq_true, true_and]
    split
    · rw [Index.release_entry, if_pos rfl]
    · rfl
  · have other : ¬ (serverId = value.id name ∧ ((controller.findReqId name serverId).any fun (_, _, keepAlive) =>
        value.drops name controller.totalNumPosReports keepAlive) = true) := fun both => same both.1
    rw [if_neg other]
    split
    · rw [Index.release_entry, if_neg same]
      rfl
    · rfl

end Controller

namespace World
variable {env : Env} {before after : World} {name : MappingName} {session : Nat} {clientId serverId : String}

/-- The session has forgotten its id, and the server id leads nowhere. -/
def Freed (world : World) (name : MappingName) (session : Nat) (clientId serverId : String) : Prop :=
  world.controller.findClient name session clientId = none ∧ world.controller.findReqId name serverId = none

theorem Step.frees {msgSeqNum : Nat} {value : Response} {keepAlive : Bool}
    (step : Step env before (.serverRead msgSeqNum (.response value)) after) (nonempty : value.id name ≠ "")
    (found : before.controller.findReqId name (value.id name) = some (session, clientId, keepAlive))
    (dropped : value.drops name before.controller.totalNumPosReports keepAlive = true) :
    after.Freed name session clientId (value.id name) := by
  let received : Controller := { before.controller with
    serverSession := { before.controller.serverSession with inboundMsgSeqNum := msgSeqNum } }
  have released := Controller.response_released env before.answered value name received
  rw [← step.response] at released
  unfold Controller.Released at released
  have entry : received.findReqId name (value.id name) = some (session, clientId, keepAlive) := found
  have leads : ((received.view before.answered).index name).entry (value.id name) = some (session, clientId, keepAlive) :=
    found
  have removed : value.drops name received.totalNumPosReports keepAlive = true := dropped
  rw [if_pos ⟨nonempty, by simpa [entry] using removed⟩] at released
  have client : after.controller.findClient name session clientId =
      ((after.controller.view before.answered).index name).key session clientId := rfl
  have server : after.controller.findReqId name (value.id name) =
      ((after.controller.view before.answered).index name).entry (value.id name) := rfl
  unfold Freed
  rw [client, server, released]
  simp [Index.release, leads]

end World
end FixProxy
