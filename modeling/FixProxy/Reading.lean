import FixProxy.Lib.Stream
import FixProxy.Server.Session

/-! The `Read` events as bytes. Everywhere else a `Read` is one decoded message; here are
the two loops that take the messages out of what has arrived. -/

namespace FixProxy
open Codec

/-- The process, with the messages that the parser of one connection was called with so far. -/
structure Handling (μ : Type) where
  controller : Controller
  handled : List μ := []

namespace Client

/-- A message as the reader passes it on. Its decoder may throw. -/
abbrev Framed := Header × Except String FromClient

def isZombie (session : Nat) (handling : Handling Framed) : Bool :=
  (handling.controller.sessions.find session).all (·.state == .zombie)

/-- The `parser` of a `Read` event: `check`, then `parse`. -/
def parser (env : Env) (clock : Nat → Clock) (session : Nat) (message : Framed) (handling : Handling Framed) :
    Outcome (Handling Framed) :=
  let (header, decoded) := message
  let controller := handling.controller.updateSession session fun client =>
    { client with inboundMsgSeqNum := header.msgSeqNum }
  let parsed := match decoded with
    | .ok value => parse env value header (clock handling.handled.length) session controller
    | .error what => .thrown what (controller.updateSession session fun client =>
      { client with compId := if client.compId = "" then header.senderCompId else client.compId })
  parsed.map fun controller => { controller, handled := handling.handled ++ [message] }

/-- What becomes of the exceptions of a `Read` event. -/
def closing (env : Env) (session : Nat) (_ : String) (handling : Handling Framed) : Outcome (Handling Framed) :=
  (close env session handling.controller).map fun controller => { handling with controller }

/-- `operator()(io::net::tcp::Connection::Read)`. -/
def connectionRead (env : Env) (dispatch : List UInt8 → Option Framed × Nat) (clock : Nat → Clock) (session : Nat) :
    List UInt8 → Inbound UInt8 (Handling Framed) → Outcome (Inbound UInt8 (Handling Framed)) :=
  Reader.read dispatch (parser env clock session) (isZombie session) (closing env session)

/-- One message on its own: it is ignored once the session is a zombie. -/
def receive (env : Env) (clock : Nat → Clock) (session : Nat) : Framed → Handling Framed → Outcome (Handling Framed) :=
  Reader.receive (parser env clock session) (isZombie session) (closing env session)

end Client

namespace Server

abbrev Framed := Nat × Except String FromServer

def parser (env : Env) (message : Framed) (handling : Handling Framed) : Outcome (Handling Framed) :=
  let (msgSeqNum, decoded) := message
  let parsed := match decoded with
    | .ok value => read env value msgSeqNum handling.controller
    | .error what => .thrown what { handling.controller with
        serverSession := { handling.controller.serverSession with inboundMsgSeqNum := msgSeqNum } }
  parsed.map fun controller => { controller, handled := handling.handled ++ [message] }

/-- `operator()(io::net::ConnectionManager::Read)`. The loop has no end of its own, and its
exceptions go on to the caller. -/
def connectionManagerRead (env : Env) (dispatch : List UInt8 → Option Framed × Nat) :
    List UInt8 → Inbound UInt8 (Handling Framed) → Outcome (Inbound UInt8 (Handling Framed)) :=
  Reader.read dispatch (parser env) (fun _ => false) .thrown

end Server
end FixProxy
