import FixProxy.Deployment
import FixProxy.Proofs.Authenticity
import FixProxy.Proofs.Chunks
import FixProxy.Wire

/-! A run on bytes is a run on messages. Whatever comes between the pieces of a stream, the
messages of a connection are those that all its bytes are made of, one after another. -/

namespace FixProxy
open Codec

namespace Client
variable {env : Env} {clock : Nat → Clock} {session : Nat} {handling last : Handling Framed} {message : Framed}
  {messages : List Framed} {format : Format UInt8 Framed} {dispatch : List UInt8 → Option Framed × Nat}
  {inbound after : Inbound UInt8 (Handling Framed)} {bytes rest : List UInt8}

/-- What a message is worth. One that its decoder cannot read does what a `Reject` does. -/
def worth (message : Framed) : Header × FromClient :=
  (message.1, match message.2 with
    | .ok value => value
    | .error _ => .reject)

/-- The inputs that the messages of one read are, when some of them have been taken already. -/
def inputs (clock : Nat → Clock) (session : Nat) : Nat → List Framed → List Input
  | _, [] => []
  | taken, message :: rest =>
    .read session (clock taken) (worth message).1 (worth message).2 :: inputs clock session (taken + 1) rest

end Client

namespace Server
variable {env : Env} {handling last : Handling Framed} {messages : List Framed} {format : Format UInt8 Framed}
  {dispatch : List UInt8 → Option Framed × Nat} {inbound after : Inbound UInt8 (Handling Framed)} {bytes rest : List UInt8}

def decoded (message : Nat × FromServer) : Framed := (message.1, .ok message.2)

def input (message : Nat × FromServer) : Input := .serverRead message.1 message.2

end Server

namespace Wire
variable {env : Env} {readers : Readers} {users : Map String (String × Nat)} {realtime : Nat} {before after wire : Wire}
  {event : Event} {events : List Event} {inputs more : List Input} {session : Nat}
  {clientFormat : Format UInt8 Client.Framed} {serverFormat : Format UInt8 Server.Framed}

/-- The inputs that an event may be: itself, or messages of its connection. -/
def Event.Yields : Event → List Input → Prop
  | .input same, inputs => inputs = [same]
  | .clientRead session clock _, inputs => ∃ messages, inputs = Client.inputs clock session 0 messages
  | .serverRead _, inputs => ∃ values, inputs = List.map Server.input values

def Event.bytes (session : Nat) : Event → List UInt8
  | .clientRead other _ bytes => if other = session then bytes else []
  | _ => []

end Wire
end FixProxy
