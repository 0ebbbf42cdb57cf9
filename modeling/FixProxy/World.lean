import FixProxy.Lib.Run
import FixProxy.Step

/-! The process together with what its environment promises. Upstream answers a
user request at most once, at any later time and in any order, and echoes its id
and its username; the connection manager connects only what is disconnected. -/

namespace FixProxy
open Codec

def Output.userRequest? : Output → Option UserRequest
  | .toServer _ (.userRequest request) => some request
  | _ => none

/-- The user requests sent upstream so far, oldest first. -/
def Controller.userRequests (controller : Controller) : List UserRequest :=
  controller.log.filterMap Output.userRequest?

/-- The user response that an input brings. -/
def Input.answer : Input → Option UserResponse
  | .serverRead _ (.userResponse response) => some response
  | _ => none

structure World where
  controller : Controller
  /-- the ids of the user requests that upstream has answered -/
  answered : List String := []

namespace World

def create (users : Map String (String × Nat)) (realtime : Nat) : World where
  controller := .create users realtime

/-- The user requests that wait for an answer. -/
def unanswered (world : World) : List UserRequest :=
  world.controller.userRequests.filter fun request => request.userRequestId ∉ world.answered

theorem mem_unanswered {world : World} {request : UserRequest} : request ∈ world.unanswered ↔
    request ∈ world.controller.userRequests ∧ request.userRequestId ∉ world.answered := by
  simp [unanswered]

def Permits (world : World) : Input → Prop
  | .serverConnected => world.controller.serverSession.state = .disconnected
  | .serverRead _ (.userResponse response) =>
    world.controller.serverSession.state ≠ .disconnected ∧
      ∃ request ∈ world.unanswered, request.userRequestId = response.userRequestId ∧
        request.username = response.username
  | .serverRead _ _ => world.controller.serverSession.state ≠ .disconnected
  | _ => True

instance (world : World) (input : Input) : Decidable (world.Permits input) := by
  unfold Permits
  split <;> infer_instance

/-- One event that the environment permits and whose handler returns. -/
structure Step (env : Env) (before : World) (input : Input) (after : World) : Prop where
  permitted : before.Permits input
  performed : FixProxy.step env input before.controller = .done after.controller
  answered : after.answered = before.answered ++ (input.answer.map (·.userRequestId)).toList

/-- The status that an answer to a request may have. -/
def Expected (status : UserStatus) : UserRequestType → Prop
  | .logOnUser => status = .loggedIn ∨ status = .notLoggedIn
  | .logOffUser => status = .notLoggedIn
  | .other => True

instance (status : UserStatus) : DecidablePred (Expected status) := fun type => by
  unfold Expected
  split <;> infer_instance

/-- Upstream answers a logon either way and a logoff with `NOT_LOGGED_IN`. -/
def Regular (world : World) (input : Input) : Prop :=
  ∀ response ∈ input.answer, ∀ request ∈ world.unanswered, request.userRequestId = response.userRequestId →
    Expected response.userStatus request.userRequestType

instance (world : World) (input : Input) : Decidable (world.Regular input) := by
  unfold Regular
  infer_instance

/-- A run from the start of the process. -/
def Runs (env : Env) (users : Map String (String × Nat)) (realtime : Nat) (inputs : List Input) (world : World) :
    Prop :=
  Run (Step env) (create users realtime) inputs world

def Reachable (env : Env) (world : World) : Prop :=
  ∃ users realtime inputs, Runs env users realtime inputs world

/-- A run in which every step meets a condition on the state before it and its input. -/
def RunsUnder (condition : World → Input → Prop) (env : Env) (users : Map String (String × Nat)) (realtime : Nat)
    (inputs : List Input) (world : World) : Prop :=
  Run (fun before input after => condition before input ∧ Step env before input after)
    (create users realtime) inputs world

/-- The client session that the manager holds under an id. -/
def session (world : World) (session : Nat) : Option Client.Session := world.controller.sessions.find session

/-- A session that is held and has not ended. -/
def Alive (world : World) (session : Nat) : Prop :=
  ∃ client, world.session session = some client ∧ client.state ≠ .zombie

end World
end FixProxy
