import FixProxy.Codec
import FixProxy.Lib.Outcome
import FixProxy.Shared

/-! The state of the whole process: the controller with its members, the upstream
session, and every client session held by the client manager. -/

namespace FixProxy
open Codec

/-- Third-party behaviour the proxy relies on. -/
structure Library extends Crypto.Library where
  /-- `utils::codec::Base64::is_valid` in its web-safe form, as `validate_req_id` calls it -/
  isValidBase64 : String → Bool
  /-- `utils::is_order_complete` of a mapped order status -/
  isOrderComplete : OrdStatus → Bool
  /-- whether closing the connection of a session calls back before it returns -/
  closeCallsBack : Nat → Bool

structure Env where
  settings : Settings
  library : Library

namespace Client

inductive State where
  | waitingLogon | waitingCreateRoute | ready | waitingRemoveRoute | zombie
  deriving DecidableEq, Repr

structure Session where
  logonTimeout : Nanoseconds
  state : State := .waitingLogon
  outboundMsgSeqNum : Nat := 0
  inboundMsgSeqNum : Nat := 0
  compId : String := ""
  username : String := ""
  userResponseTimeout : Nanoseconds := 0
  partyId : String := ""
  nextHeartbeat : Nanoseconds := 0
  waitingForHeartbeat : Bool := false

end Client

namespace Server

inductive State where
  | disconnected | logonSent | ready
  deriving DecidableEq, Repr

structure Session where
  inboundMsgSeqNum : Nat := 0
  outboundMsgSeqNum : Nat := 0
  state : State := .disconnected
  nextHeartbeat : Nanoseconds := 0

end Server

/-- The ten request-id mappings, in the order in which a disconnect clears them. -/
inductive MappingName where
  | securityReqId | securityStatusReqId | tradSesReqId | mdReqId | ordStatusReqId | massStatusReqId
  | posReqId | tradeRequestId | clOrdId | massCancelClOrdId
  deriving DecidableEq, Repr

structure Mapping where
  /-- req_id(server) => {session_id, req_id(client), keep_alive} -/
  serverToClient : Map String (Nat × String × Bool) := ∅
  /-- session_id => req_id(client) => req_id(server) -/
  clientToServer : Map Nat (Map String String) := ∅

structure User where
  clientToSession : Map String Nat := ∅
  sessionToClient : Map Nat String := ∅
  /-- user_request_id => session_id -/
  serverToClient : Map String Nat := ∅
  /-- session_id => user_request_id -/
  clientToServer : Map Nat String := ∅

structure Subscriptions where
  user : User := {}
  mapping : MappingName → Mapping := fun _ => {}

/-- What the process hands to its connections. -/
inductive Output where
  | toClient (session msgSeqNum : Nat) (message : ToClient)
  | toServer (msgSeqNum : Nat) (message : ToServer)
  | closeClient (session : Nat)
  | closeServer
  deriving DecidableEq

structure Controller where
  ready : Bool := false
  subscriptions : Subscriptions := {}
  /-- `cl_ord_id_.state`: cl_ord_id(server) => order status -/
  clOrdId : Map String OrdStatus := ∅
  totalNumPosReports : Nat := 0
  shared : Shared
  serverSession : Server.Session := {}
  /-- `client_manager_.sessions_` -/
  sessions : Map Nat Client.Session := ∅
  nextGarbageCollection : Nanoseconds := 0
  /-- everything handed to the connections so far, oldest first -/
  log : List Output := []
  /-- the sessions whose `Disconnected` event has been received so far, oldest first -/
  disconnects : List Nat := []

/-- `Controller::Controller`: nothing is connected yet. -/
def Controller.create (users : Map String (String × Nat)) (realtime : Nat) : Controller :=
  { shared := .create users realtime }

end FixProxy
