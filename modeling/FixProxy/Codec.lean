import Mathlib.Logic.Basic

/-! The FIX messages as the proxy sees them after decoding. Every structure has
the fields that the proxy reads, rewrites or fills in; the rest of a message is
forwarded untouched and does not appear. Enumerations of the FIX library are cut
to the values the proxy names, `other` standing for all remaining ones; an
enumeration that is only copied is its wire code. The result of a message's own
`is_valid()` is part of what the decoder delivers. -/

namespace FixProxy.Codec

/-- A FIX enumeration the proxy copies without looking at it; 0 is the undefined value. -/
abbrev WireCode := Nat

inductive SubscriptionRequestType where
  | undefined | unknown | snapshot | snapshotUpdates | unsubscribe
  deriving DecidableEq, Repr

inductive UserRequestType where
  | logOnUser | logOffUser | other
  deriving DecidableEq, Repr

inductive UserStatus where
  | loggedIn | notLoggedIn | other
  deriving DecidableEq, Repr

inductive PartyIdSource where
  | proprietaryCustomCode | other
  deriving DecidableEq, Repr

inductive PartyRole where
  | clientId | other
  deriving DecidableEq, Repr

inductive EncryptMethod where
  | none | other
  deriving DecidableEq, Repr

inductive OrdStatus where
  | undefined | unknown | new | partiallyFilled | filled | doneForDay | canceled | replaced | pendingCancel
  | stopped | rejected | suspended | pendingNew | calculated | expired | acceptedForBidding | pendingReplace
  deriving DecidableEq, Repr

inductive ExecType where
  | pendingNew | pendingReplace | pendingCancel | rejected | orderStatus | other
  deriving DecidableEq, Repr

inductive SecurityRequestResult where
  | valid | invalidOrUnsupported | other
  deriving DecidableEq, Repr

inductive SecurityResponseType where
  | acceptSecurityProposalAsIs | rejectSecurityProposal | other
  deriving DecidableEq, Repr

inductive MdReqRejReason where
  | unsupportedScope | unsupportedSubscriptionRequestType | duplicateMdReqId | other
  deriving DecidableEq, Repr

inductive CxlRejReason where
  | other | duplicateClOrdId
  deriving DecidableEq, Repr

inductive CxlRejResponseTo where
  | orderCancelRequest | orderCancelReplaceRequest | other
  deriving DecidableEq, Repr

inductive MassCancelResponse where
  | cancelRequestRejected | other
  deriving DecidableEq, Repr

inductive PosReqResult where
  | valid | invalidOrUnsupported | other
  deriving DecidableEq, Repr

inductive PosReqStatus where
  | rejected | other
  deriving DecidableEq, Repr

inductive TradeRequestStatus where
  | rejected | other
  deriving DecidableEq, Repr

inductive BusinessRejectReason where
  | other | unsupportedMessageType
  deriving DecidableEq, Repr

inductive MsgType where
  | undefined | unknown | heartbeat | testRequest | resendRequest | reject | sequenceReset | logout | ioi
  | advertisement | executionReport | orderCancelReject | logon | derivativeSecurityList | newOrderMultileg
  | multilegOrderCancelReplace | tradeCaptureReportRequest | tradeCaptureReport | orderMassStatusRequest
  | quoteRequestReject | rfqRequest | quoteStatusReport | quoteResponse | confirmation
  | positionMaintenanceRequest | positionMaintenanceReport | requestForPositions | requestForPositionsAck
  | positionReport | tradeCaptureReportRequestAck | tradeCaptureReportAck | allocationReport
  | allocationReportAck | confirmationAck | settlementInstructionRequest | assignmentReport
  | collateralRequest | collateralAssignment | collateralResponse | news | collateralReport
  | collateralInquiry | networkCounterpartySystemStatusRequest | networkCounterpartySystemStatusResponse
  | userRequest | userResponse | collateralInquiryAck | confirmationRequest | email | newOrderSingle
  | newOrderList | orderCancelRequest | orderCancelReplaceRequest | orderStatusRequest
  | allocationInstruction | listCancelRequest | listExecute | listStatusRequest | listStatus
  | allocationInstructionAck | dontKnowTradeDk | quoteRequest | quote | settlementInstructions
  | marketDataRequest | marketDataSnapshotFullRefresh | marketDataIncrementalRefresh
  | marketDataRequestReject | quoteCancel | quoteStatusRequest | massQuoteAcknowledgement
  | securityDefinitionRequest | securityDefinition | securityStatusRequest | securityStatus
  | tradingSessionStatusRequest | tradingSessionStatus | massQuote | businessMessageReject | bidRequest
  | bidResponse | listStrikePrice | xmlNonFix | registrationInstructions
  | registrationInstructionsResponse | orderMassCancelRequest | orderMassCancelReport | newOrderCross
  | crossOrderCancelReplaceRequest | crossOrderCancelRequest | securityTypeRequest | securityTypes
  | securityListRequest | securityList | derivativeSecurityListRequest
  deriving DecidableEq, Repr

/-- The standard header, less the message type, which the decoded message carries. -/
structure Header where
  senderCompId : String
  targetCompId : String
  msgSeqNum : Nat
  deriving DecidableEq, Repr

structure Party where
  partyId : String
  partyIdSource : PartyIdSource
  partyRole : PartyRole
  deriving DecidableEq, Repr

/-! Session level and user management. -/

structure Logon where
  encryptMethod : EncryptMethod := .none
  heartBtInt : Nat
  rawData : String := ""
  resetSeqNumFlag : Bool
  nextExpectedMsgSeqNum : Nat := 0
  username : String := ""
  password : String := ""
  deriving DecidableEq, Repr

/-- `refMsgType` and the reason `OTHER` are what every Reject of the proxy carries. -/
structure Reject where
  refSeqNum : Nat
  text : String
  refMsgType : MsgType
  deriving DecidableEq, Repr

structure UserRequest where
  userRequestId : String
  userRequestType : UserRequestType
  username : String
  deriving DecidableEq, Repr

structure UserResponse where
  userRequestId : String
  username : String
  userStatus : UserStatus
  deriving DecidableEq, Repr

/-! Requests of a client. -/

structure SecurityListRequest where
  securityReqId : String
  subscriptionRequestType : SubscriptionRequestType
  isValid : Bool
  deriving DecidableEq, Repr

structure SecurityDefinitionRequest where
  securityReqId : String
  symbol : String
  securityExchange : String
  subscriptionRequestType : SubscriptionRequestType
  isValid : Bool
  deriving DecidableEq, Repr

structure SecurityStatusRequest where
  securityStatusReqId : String
  symbol : String
  securityExchange : String
  subscriptionRequestType : SubscriptionRequestType
  isValid : Bool
  deriving DecidableEq, Repr

structure MarketDataRequest where
  mdReqId : String
  subscriptionRequestType : SubscriptionRequestType
  /-- `no_related_sym` -/
  noRelatedSym : List String
  isValid : Bool
  deriving DecidableEq, Repr

structure OrderStatusRequest where
  ordStatusReqId : String
  clOrdId : String
  noPartyIds : List Party
  account : String
  symbol : String
  securityExchange : String
  side : WireCode
  isValid : Bool
  deriving DecidableEq, Repr

structure NewOrderSingle where
  clOrdId : String
  noPartyIds : List Party
  account : String
  symbol : String
  securityExchange : String
  side : WireCode
  timeInForce : WireCode
  execInst : String
  isValid : Bool
  deriving DecidableEq, Repr

structure OrderCancelReplaceRequest where
  clOrdId : String
  origClOrdId : String
  noPartyIds : List Party
  account : String
  isValid : Bool
  deriving DecidableEq, Repr

structure OrderCancelRequest where
  clOrdId : String
  origClOrdId : String
  noPartyIds : List Party
  account : String
  isValid : Bool
  deriving DecidableEq, Repr

structure OrderMassStatusRequest where
  massStatusReqId : String
  noPartyIds : List Party
  account : String
  symbol : String
  securityExchange : String
  side : WireCode
  isValid : Bool
  deriving DecidableEq, Repr

structure OrderMassCancelRequest where
  clOrdId : String
  massCancelRequestType : WireCode
  symbol : String
  securityExchange : String
  side : WireCode
  noPartyIds : List Party
  isValid : Bool
  deriving DecidableEq, Repr

structure RequestForPositions where
  posReqId : String
  subscriptionRequestType : SubscriptionRequestType
  noPartyIds : List Party
  account : String
  accountType : WireCode
  isValid : Bool
  deriving DecidableEq, Repr

structure TradeCaptureReportRequest where
  tradeRequestId : String
  clOrdId : String
  tradeRequestType : WireCode
  symbol : String
  securityExchange : String
  subscriptionRequestType : SubscriptionRequestType
  noPartyIds : List Party
  isValid : Bool
  deriving DecidableEq, Repr

/-- The twelve kinds of request that the proxy forwards upstream. -/
inductive Request where
  | securityListRequest (value : SecurityListRequest)
  | securityDefinitionRequest (value : SecurityDefinitionRequest)
  | securityStatusRequest (value : SecurityStatusRequest)
  | marketDataRequest (value : MarketDataRequest)
  | orderStatusRequest (value : OrderStatusRequest)
  | newOrderSingle (value : NewOrderSingle)
  | orderCancelReplaceRequest (value : OrderCancelReplaceRequest)
  | orderCancelRequest (value : OrderCancelRequest)
  | orderMassStatusRequest (value : OrderMassStatusRequest)
  | orderMassCancelRequest (value : OrderMassCancelRequest)
  | requestForPositions (value : RequestForPositions)
  | tradeCaptureReportRequest (value : TradeCaptureReportRequest)
  deriving DecidableEq, Repr

/-! Responses from upstream. -/

structure BusinessMessageReject where
  refSeqNum : Nat
  refMsgType : MsgType
  businessRejectRefId : String
  businessRejectReason : BusinessRejectReason
  text : String
  deriving DecidableEq, Repr

structure SecurityList where
  securityReqId : String
  securityResponseId : String
  securityRequestResult : SecurityRequestResult
  deriving DecidableEq, Repr

structure SecurityDefinition where
  securityReqId : String
  securityResponseId : String
  securityResponseType : SecurityResponseType
  symbol : String
  securityExchange : String
  deriving DecidableEq, Repr

structure SecurityStatus where
  securityStatusReqId : String
  symbol : String
  securityExchange : String
  tradingSessionId : String
  unsolicitedIndicator : Bool
  securityTradingStatus : WireCode
  deriving DecidableEq, Repr

structure MarketDataRequestReject where
  mdReqId : String
  mdReqRejReason : MdReqRejReason
  text : String
  deriving DecidableEq, Repr

structure MarketDataSnapshotFullRefresh where
  mdReqId : String
  symbol : String
  deriving DecidableEq, Repr

structure MarketDataIncrementalRefresh where
  mdReqId : String
  deriving DecidableEq, Repr

structure OrderCancelReject where
  orderId : String
  clOrdId : String
  origClOrdId : String
  ordStatus : OrdStatus
  account : String
  cxlRejResponseTo : CxlRejResponseTo
  cxlRejReason : CxlRejReason
  text : String
  deriving DecidableEq, Repr

/-- The only `mass_cancel_reject_reason` the proxy fills in is `OTHER`. -/
structure OrderMassCancelReport where
  clOrdId : String
  orderId : String
  massCancelRequestType : WireCode
  massCancelResponse : MassCancelResponse
  symbol : String
  securityExchange : String
  side : WireCode
  text : String
  noPartyIds : List Party
  deriving DecidableEq, Repr

/-- The only `ord_rej_reason` the proxy fills in is `OTHER`; quantities and prices
are floating point numbers it passes through. -/
structure ExecutionReport where
  orderId : String
  clOrdId : String
  origClOrdId : String
  ordStatusReqId : String
  massStatusReqId : String
  totNumReports : Nat
  lastRptRequested : Bool
  noPartyIds : List Party
  execId : String
  execType : ExecType
  ordStatus : OrdStatus
  account : String
  symbol : String
  securityExchange : String
  side : WireCode
  timeInForce : WireCode
  execInst : String
  text : String
  deriving DecidableEq, Repr

structure RequestForPositionsAck where
  posMaintRptId : String
  posReqId : String
  totalNumPosReports : Nat
  unsolicitedIndicator : Bool
  posReqResult : PosReqResult
  posReqStatus : PosReqStatus
  noPartyIds : List Party
  account : String
  accountType : WireCode
  text : String
  deriving DecidableEq, Repr

structure PositionReport where
  posReqId : String
  posReqResult : PosReqResult
  deriving DecidableEq, Repr

/-- The only `trade_request_result` the proxy fills in is `OTHER`. -/
structure TradeCaptureReportRequestAck where
  tradeRequestId : String
  tradeRequestType : WireCode
  tradeRequestStatus : TradeRequestStatus
  symbol : String
  securityExchange : String
  text : String
  deriving DecidableEq, Repr

structure TradeCaptureReport where
  tradeRequestId : String
  lastRptRequested : Bool
  deriving DecidableEq, Repr

/-- The fourteen kinds of message that the proxy passes on to a client. -/
inductive Response where
  | businessMessageReject (value : BusinessMessageReject)
  | securityList (value : SecurityList)
  | securityDefinition (value : SecurityDefinition)
  | securityStatus (value : SecurityStatus)
  | marketDataRequestReject (value : MarketDataRequestReject)
  | marketDataSnapshotFullRefresh (value : MarketDataSnapshotFullRefresh)
  | marketDataIncrementalRefresh (value : MarketDataIncrementalRefresh)
  | orderCancelReject (value : OrderCancelReject)
  | orderMassCancelReport (value : OrderMassCancelReport)
  | executionReport (value : ExecutionReport)
  | requestForPositionsAck (value : RequestForPositionsAck)
  | positionReport (value : PositionReport)
  | tradeCaptureReportRequestAck (value : TradeCaptureReportRequestAck)
  | tradeCaptureReport (value : TradeCaptureReport)
  deriving DecidableEq, Repr

/-! The four message alphabets, one for each direction of each connection. -/

inductive FromClient where
  | testRequest (testReqId : String)
  | resendRequest
  | reject
  | heartbeat
  | logon (value : Logon)
  | logout
  | tradingSessionStatusRequest (tradSesReqId : String)
  | request (value : Request)
  /-- any message type `parse` has no case for -/
  | unexpected (msgType : MsgType)
  deriving DecidableEq, Repr

inductive ToClient where
  | logon (value : Logon)
  | logout (text : String)
  | reject (value : Reject)
  | heartbeat (testReqId : String)
  | testRequest (testReqId : String)
  | response (value : Response)
  deriving DecidableEq, Repr

inductive FromServer where
  | reject
  | resendRequest
  | logon
  | logout
  | heartbeat
  | testRequest (testReqId : String)
  | userResponse (value : UserResponse)
  | response (value : Response)
  | unexpected
  deriving DecidableEq, Repr

inductive ToServer where
  | logon (value : Logon)
  | logout (text : String)
  | heartbeat (testReqId : String)
  | testRequest (testReqId : String)
  | userRequest (value : UserRequest)
  | request (value : Request)
  deriving DecidableEq, Repr

def Request.msgType : Request → MsgType
  | .securityListRequest _ => .securityListRequest
  | .securityDefinitionRequest _ => .securityDefinitionRequest
  | .securityStatusRequest _ => .securityStatusRequest
  | .marketDataRequest _ => .marketDataRequest
  | .orderStatusRequest _ => .orderStatusRequest
  | .newOrderSingle _ => .newOrderSingle
  | .orderCancelReplaceRequest _ => .orderCancelReplaceRequest
  | .orderCancelRequest _ => .orderCancelRequest
  | .orderMassStatusRequest _ => .orderMassStatusRequest
  | .orderMassCancelRequest _ => .orderMassCancelRequest
  | .requestForPositions _ => .requestForPositions
  | .tradeCaptureReportRequest _ => .tradeCaptureReportRequest

def FromClient.msgType : FromClient → MsgType
  | .testRequest _ => .testRequest
  | .resendRequest => .resendRequest
  | .reject => .reject
  | .heartbeat => .heartbeat
  | .logon _ => .logon
  | .logout => .logout
  | .tradingSessionStatusRequest _ => .tradingSessionStatusRequest
  | .request value => value.msgType
  | .unexpected msgType => msgType

end FixProxy.Codec
