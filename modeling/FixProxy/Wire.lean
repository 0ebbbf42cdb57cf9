import FixProxy.Reading
import FixProxy.World

/-! The process on the network. Its connections bring bytes, in pieces of any length, and what is
not yet a message stays in a buffer; everywhere else an input is one message. -/

namespace FixProxy
open Codec

/-- A message comes with the bytes of a connection, everything else comes as it is. -/
def Input.IsMessage : Input → Prop
  | .read .. | .serverRead .. => True
  | _ => False

/-- What the process uses of the libraries that it reads with: `roq::fix::Reader::dispatch` with the
decoders of the two sides, and the buffer of `io::net::ConnectionManager`. -/
structure Readers where
  client : List UInt8 → Option Client.Framed × Nat
  server : List UInt8 → Option Server.Framed × Nat
  /-- what is left in that buffer once a connection is made -/
  connected : List UInt8 → List UInt8

def Readers.opened (readers : Readers) (upstream : List UInt8) : Input → List UInt8
  | .serverConnected => readers.connected upstream
  | _ => upstream

/-- The process with the bytes that are not yet a message. -/
structure Wire where
  world : World
  /-- `buffer_` of each client session -/
  buffer : Nat → List UInt8 := fun _ => []
  /-- `buffer()` of the connection manager -/
  upstream : List UInt8 := []

namespace Wire

inductive Event where
  | input (input : Input)
  /-- the clock is read once for each message among the bytes -/
  | clientRead (session : Nat) (clock : Nat → Clock) (bytes : List UInt8)
  | serverRead (bytes : List UInt8)

/-- Upstream promises of each of its messages, when its turn comes, what it promises of a message. -/
def Promised (env : Env) : World → List Server.Framed → Prop
  | _, [] => True
  | _, (_, .error _) :: _ => True
  | world, (msgSeqNum, .ok value) :: rest =>
    world.Permits (.serverRead msgSeqNum value) ∧
      ∀ after, World.Step env world (.serverRead msgSeqNum value) after → Promised env after rest

/-- The user requests that are answered by some messages. -/
def answers (messages : List Server.Framed) : List String :=
  messages.filterMap fun (msgSeqNum, decoded) =>
    decoded.toOption.bind fun value => (Input.serverRead msgSeqNum value).answer.map (·.userRequestId)

/-- One event whose handlers return. The bytes of a client come while the session is held. -/
inductive Step (env : Env) (readers : Readers) (before : Wire) : Event → Wire → Prop where
  | input {input : Input} {world : World} (plain : ¬ input.IsMessage) (performed : World.Step env before.world input world) :
      Step env readers before (.input input) { before with world, upstream := readers.opened before.upstream input }
  | clientRead {session : Nat} {clock : Nat → Clock} {bytes : List UInt8} {inbound : Inbound UInt8 (Handling Client.Framed)}
      (held : before.world.session session ≠ none)
      (read : Client.connectionRead env readers.client clock session bytes
        ⟨before.buffer session, { controller := before.world.controller }⟩ = .done inbound) :
      Step env readers before (.clientRead session clock bytes)
        { before with
          world := { before.world with controller := inbound.state.controller }
          buffer := Function.update before.buffer session inbound.buffer }
  | serverRead {bytes : List UInt8} {inbound : Inbound UInt8 (Handling Server.Framed)}
      (read : Server.connectionManagerRead env readers.server bytes
        ⟨before.upstream, { controller := before.world.controller }⟩ = .done inbound)
      (promised : Promised env before.world inbound.state.handled) :
      Step env readers before (.serverRead bytes)
        { before with
          world := ⟨inbound.state.controller, before.world.answered ++ answers inbound.state.handled⟩
          upstream := inbound.buffer }

/-- A run from the start of the process. -/
def Runs (env : Env) (readers : Readers) (users : Map String (String × Nat)) (realtime : Nat) (events : List Event)
    (wire : Wire) : Prop :=
  Run (Step env readers) { world := World.create users realtime } events wire

end Wire
end FixProxy
