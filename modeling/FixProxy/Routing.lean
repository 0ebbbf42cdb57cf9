import FixProxy.Controller.Responses

/-! Which mapping a message belongs to, and the id it carries there. A request and
the responses to it carry the client's id towards the client, and the server id
towards upstream. -/

namespace FixProxy
open Codec

/-- The mapping a request is entered in, and its id. -/
def Codec.Request.key : Request → MappingName × String
  | .securityListRequest value => (.securityReqId, value.securityReqId)
  | .securityDefinitionRequest value => (.securityReqId, value.securityReqId)
  | .securityStatusRequest value => (.securityStatusReqId, value.securityStatusReqId)
  | .marketDataRequest value => (.mdReqId, value.mdReqId)
  | .orderStatusRequest value => (.ordStatusReqId, value.ordStatusReqId)
  | .newOrderSingle value => (.clOrdId, value.clOrdId)
  | .orderCancelReplaceRequest value => (.clOrdId, value.clOrdId)
  | .orderCancelRequest value => (.clOrdId, value.clOrdId)
  | .orderMassStatusRequest value => (.massStatusReqId, value.massStatusReqId)
  | .orderMassCancelRequest value => (.massCancelClOrdId, value.clOrdId)
  | .requestForPositions value => (.posReqId, value.posReqId)
  | .tradeCaptureReportRequest value => (.tradeRequestId, value.tradeRequestId)

/-- The parties of a request, where it can name any. -/
def Codec.Request.parties : Request → Option (List Party)
  | .securityListRequest _ | .securityDefinitionRequest _ | .securityStatusRequest _ | .marketDataRequest _ => none
  | .orderStatusRequest value => some value.noPartyIds
  | .newOrderSingle value => some value.noPartyIds
  | .orderCancelReplaceRequest value => some value.noPartyIds
  | .orderCancelRequest value => some value.noPartyIds
  | .orderMassStatusRequest value => some value.noPartyIds
  | .orderMassCancelRequest value => some value.noPartyIds
  | .requestForPositions value => some value.noPartyIds
  | .tradeCaptureReportRequest value => some value.noPartyIds

/-- The subscription type of a request, where it has one. -/
def Codec.Request.subscriptionType : Request → Option SubscriptionRequestType
  | .securityListRequest value => some value.subscriptionRequestType
  | .securityDefinitionRequest value => some value.subscriptionRequestType
  | .securityStatusRequest value => some value.subscriptionRequestType
  | .marketDataRequest value => some value.subscriptionRequestType
  | .requestForPositions value => some value.subscriptionRequestType
  | .tradeCaptureReportRequest value => some value.subscriptionRequestType
  | _ => none

/-- The `keep_alive` flag of the entry that a request makes. -/
def Codec.Request.keepAlive (request : Request) : Bool :=
  match request.subscriptionType with
  | some type => type == .snapshotUpdates
  | none => request.key.1 == .clOrdId

/-- The id a response carries for a mapping; only an execution report has several. -/
def Codec.Response.id (name : MappingName) : Response → String
  | .businessMessageReject value => value.businessRejectRefId
  | .securityList value => value.securityReqId
  | .securityDefinition value => value.securityReqId
  | .securityStatus value => value.securityStatusReqId
  | .marketDataRequestReject value => value.mdReqId
  | .marketDataSnapshotFullRefresh value => value.mdReqId
  | .marketDataIncrementalRefresh value => value.mdReqId
  | .orderCancelReject value => value.clOrdId
  | .orderMassCancelReport value => value.clOrdId
  | .executionReport value =>
    match name with
    | .ordStatusReqId => value.ordStatusReqId
    | .massStatusReqId => value.massStatusReqId
    | _ => value.clOrdId
  | .requestForPositionsAck value => value.posReqId
  | .positionReport value => value.posReqId
  | .tradeCaptureReportRequestAck value => value.tradeRequestId
  | .tradeCaptureReport value => value.tradeRequestId

/-- The mapping through which a response is routed. An execution report about an
order action goes through one only when the action was rejected; a business reject
goes by the type of the message it rejects. -/
def Codec.Response.mapping : Response → Option MappingName
  | .businessMessageReject value => Controller.businessMessageRejectMapping value.refMsgType
  | .securityList _ => some .securityReqId
  | .securityDefinition _ => some .securityReqId
  | .securityStatus _ => some .securityStatusReqId
  | .marketDataRequestReject _ => some .mdReqId
  | .marketDataSnapshotFullRefresh _ => some .mdReqId
  | .marketDataIncrementalRefresh _ => some .mdReqId
  | .orderCancelReject _ => some .clOrdId
  | .orderMassCancelReport _ => some .massCancelClOrdId
  | .executionReport value =>
    if value.ordStatusReqId ≠ "" then some .ordStatusReqId
    else if value.massStatusReqId ≠ "" then some .massStatusReqId
    else if value.execType = .rejected then some .clOrdId
    else none
  | .requestForPositionsAck _ => some .posReqId
  | .positionReport _ => some .posReqId
  | .tradeCaptureReportRequestAck _ => some .tradeRequestId
  | .tradeCaptureReport _ => some .tradeRequestId

/-- A request is forwarded: it is entered under the client's id, and the only thing
sent is a request of the same mapping under the server id. -/
def Forwarded (request : Request) (name : MappingName) (clientId serverId : String) (before after : List Output) : Prop :=
  request.key = (name, clientId) ∧
    ∃ msgSeqNum sent, sent.key = (name, serverId) ∧ after = before ++ [.toServer msgSeqNum (.request sent)]

end FixProxy
