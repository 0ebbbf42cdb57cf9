import FixProxy.World

/-! Runs that are computed: an input that is permitted is handled, and the run goes
on with what its handler leaves. The deployment below is the configuration that the
repository tests with, and a third user who shares the first one's strategy. -/

namespace FixProxy
open Codec

namespace World
variable (condition : World → Input → Prop) [∀ world input, Decidable (condition world input)] (env : Env)

/-- The next state, if the input meets the condition, is permitted, and its handler returns. -/
def next (world : World) (input : Input) : Option World :=
  if condition world input ∧ world.Permits input then
    match FixProxy.step env input world.controller with
    | .done controller => some ⟨controller, world.answered ++ (input.answer.map (·.userRequestId)).toList⟩
    | _ => none
  else none

def replay (inputs : List Input) (world : World) : Option World := inputs.foldlM (next condition env) world

theorem next_eq_some {world after : World} {input : Input} (performed : next condition env world input = some after) :
    condition world input ∧ Step env world input after := by
  unfold next at performed
  split at performed
  · next met =>
    split at performed
    · next controller done =>
      cases performed
      exact ⟨met.1, met.2, done, rfl⟩
    · cases performed
  · cases performed

private theorem run_of_replay {inputs : List Input} {world last : World}
    (replayed : replay condition env inputs world = some last) :
    Run (fun before input after => condition before input ∧ Step env before input after) world inputs last :=
  .of_foldlM (next_eq_some condition env) replayed

/-- What is decided of a replayed run is true of a run. -/
theorem exists_run_of_replay (users : Map String (String × Nat)) (realtime : Nat) (inputs : List Input)
    (holds : World → Bool) (checked : (replay condition env inputs (create users realtime)).any holds = true) :
    ∃ world, RunsUnder condition env users realtime inputs world ∧ holds world = true := by
  obtain ⟨world, replayed, held⟩ := (Option.any_eq_true ..).mp checked
  exact ⟨world, run_of_replay condition env replayed, held⟩

theorem exists_step_of_replay (users : Map String (String × Nat)) (realtime : Nat) (inputs : List Input) (input : Input)
    (holds : World → World → Bool)
    (checked : ((replay condition env inputs (create users realtime)).any fun world =>
      (next condition env world input).any (holds world)) = true) :
    ∃ world after, RunsUnder condition env users realtime inputs world ∧ condition world input ∧
      Step env world input after ∧ holds world after = true := by
  obtain ⟨world, runs, continued⟩ := exists_run_of_replay condition env users realtime inputs _ checked
  obtain ⟨after, performed, held⟩ := (Option.any_eq_true ..).mp continued
  obtain ⟨met, step⟩ := next_eq_some condition env performed
  exact ⟨world, after, runs, met, step, held⟩

theorem exists_runs_of_replay (users : Map String (String × Nat)) (realtime : Nat) (inputs : List Input) (input : Input)
    (later : List Input) (holds : World → World → World → Bool)
    (checked : ((replay condition env inputs (create users realtime)).any fun world =>
      (next condition env world input).any fun first => (replay condition env later first).any (holds world first)) = true) :
    ∃ world first last, RunsUnder condition env users realtime inputs world ∧ Step env world input first ∧
      Run (fun before input after => condition before input ∧ Step env before input after) first later last ∧
      holds world first last = true := by
  obtain ⟨world, first, runs, -, step, continued⟩ := exists_step_of_replay condition env users realtime inputs input _ checked
  obtain ⟨last, replayed, held⟩ := (Option.any_eq_true ..).mp continued
  exact ⟨world, first, last, runs, step, run_of_replay condition env replayed, held⟩

end World

namespace Deployment

def env : Env where
  settings :=
    { clientCompId := "proxy"
      clientAuthMethod := .undefined
      clientAuthTimestampTolerance := 0
      clientLogonTimeout := 5
      clientLogonHeartbeatMin := 0
      clientLogonHeartbeatMax := 60000000000
      clientHeartbeatFreq := 30
      serverUsername := "fix_client"
      serverPassword := ""
      serverPingFreq := 30
      serverRequestTimeout := 5
      testDisableRemoveClOrdId := false }
  library :=
    { sign := fun _ _ => ""
      fromChars := fun _ => 0
      isValidBase64 := fun _ => true
      isOrderComplete := fun status => status == .filled || status == .rejected || status == .canceled
      closeCallsBack := fun _ => false }

def users : Map String (String × Nat) :=
  Map.assign (Map.assign (Map.assign ∅ "trader" ("secret", 1)) "c2" ("p2", 2)) "c3" ("p3", 1)

def header : Header where
  senderCompId := "test"
  targetCompId := "proxy"
  msgSeqNum := 1

/-- A message of a client, at a time when no timeout matters. -/
def sends (session : Nat) (message : FromClient) : Input := .read session ⟨0, 0⟩ header message

def asks (session : Nat) (request : Request) : Input := sends session (.request request)

/-- A client connects, with the session id that is next, and sends its credentials. -/
def arrives (session : Nat) (username password : String) : List Input :=
  [.accept 0, sends session (.logon { heartBtInt := 5, resetSeqNumFlag := true, username, password })]

def goesUp : List Input := [.serverConnected, .serverRead 1 .logon]

def answer (userRequestId username : String) (userStatus : UserStatus) : Input :=
  .serverRead 2 (.userResponse { userRequestId, username, userStatus })

def replies (response : Response) : Input := .serverRead 2 (.response response)

def marketData (mdReqId : String) (subscriptionRequestType : SubscriptionRequestType) : Request :=
  .marketDataRequest { mdReqId, subscriptionRequestType, noRelatedSym := ["BTC-PERPETUAL"], isValid := true }

def positions (posReqId : String) (subscriptionRequestType : SubscriptionRequestType) : Request :=
  .requestForPositions
    { posReqId, subscriptionRequestType, noPartyIds := [], account := "A1", accountType := 0, isValid := true }

def positionsAck (posReqId : String) (totalNumPosReports : Nat) : RequestForPositionsAck where
  posMaintRptId := "1"
  posReqId := posReqId
  totalNumPosReports := totalNumPosReports
  unsolicitedIndicator := false
  posReqResult := .valid
  posReqStatus := .other
  noPartyIds := []
  account := "A1"
  accountType := 0
  text := ""

def positionReport (posReqId : String) : PositionReport where
  posReqId := posReqId
  posReqResult := .valid

def trades (tradeRequestId : String) (subscriptionRequestType : SubscriptionRequestType) : Request :=
  .tradeCaptureReportRequest
    { tradeRequestId, clOrdId := "", tradeRequestType := 0, symbol := "", securityExchange := "",
      subscriptionRequestType, noPartyIds := [], isValid := true }

def tradesAck (tradeRequestId : String) : TradeCaptureReportRequestAck where
  tradeRequestId := tradeRequestId
  tradeRequestType := 0
  tradeRequestStatus := .other
  symbol := ""
  securityExchange := ""
  text := ""

def order (clOrdId : String) : Request :=
  .newOrderSingle
    { clOrdId, noPartyIds := [], account := "A1", symbol := "BTC-PERPETUAL", securityExchange := "deribit",
      side := 1, timeInForce := 1, execInst := "", isValid := true }

def executionReport (clOrdId : String) (execType : ExecType) (ordStatus : OrdStatus) : ExecutionReport :=
  { Controller.rejectedExecutionReport "1" with
    clOrdId
    noPartyIds := [{ partyId := "1", partyIdSource := .proprietaryCustomCode, partyRole := .clientId }]
    execType
    ordStatus }

def connected : List Input := goesUp ++ [.accept 0]

/-- The first client waits for its route. -/
def arrived : List Input := goesUp ++ arrives 1 "trader" "secret"

/-- The first client is logged on. -/
def loggedOn : List Input := arrived ++ [answer "proxy-1" "1" .loggedIn]

/-- The first client has an open market data subscription. -/
def subscribed : List Input := loggedOn ++ [asks 1 (marketData "AAAA" .snapshotUpdates)]

/-- The first client has an order at the exchange, and a second one waits for its route. -/
def ordered : List Input :=
  loggedOn ++ [asks 1 (order "AAAA"), replies (.executionReport (executionReport "proxy-1:AAAA" .pendingNew .pendingNew))] ++
    arrives 2 "c2" "p2"

end Deployment
end FixProxy
