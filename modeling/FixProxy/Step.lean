import FixProxy.Server.Session

/-! One event of the event loop. The process is single threaded: an event is
handled to its end before the next one. -/

namespace FixProxy
open Codec

namespace Client

def garbageCollectionFrequency : Nanoseconds := nanosecondsPerSecond

/-- `Manager::operator()(Factory &)`: a new connection. -/
def accept (env : Env) (now : Nanoseconds) (controller : Controller) : Controller :=
  let session := controller.shared.nextSessionId + 1
  { controller with
    shared := { controller.shared with nextSessionId := session }
    sessions := controller.sessions.tryEmplace session { logonTimeout := now + env.settings.clientLogonTimeout } }

/-- One iteration of `session_cleanup` with the callback of `remove_zombies`. -/
def collect (session : Nat) (controller : Controller) : Controller :=
  { controller with
    shared := controller.shared.sessionCleanupHelper session
    sessions := controller.sessions.erase session }

def removeZombies (now : Nanoseconds) (controller : Controller) : Controller :=
  if now < controller.nextGarbageCollection then controller else
  let controller := { controller with nextGarbageCollection := now + garbageCollectionFrequency }
  let controller := controller.shared.sessionsToRemove.foldl (fun controller session => collect session controller)
    controller
  { controller with shared := { controller.shared with sessionsToRemove := [] } }

end Client

inductive Input where
  | timer (now : Nanoseconds)
  /-- a TCP connection is accepted -/
  | accept (now : Nanoseconds)
  | read (session : Nat) (clock : Clock) (header : Header) (message : FromClient)
  | readError (session : Nat)
  /-- the TCP connection of a client session is gone -/
  | disconnected (session : Nat)
  | serverConnected
  | serverDisconnected
  | serverRead (msgSeqNum : Nat) (message : FromServer)
  | authInsert (username password : String) (strategyId : Nat)
  | authRemove (username : String)

def step (env : Env) (input : Input) (controller : Controller) : Outcome Controller :=
  match input with
  | .timer now =>
    let controller := Server.timer env now controller
    (Outcome.forEach controller.sessions.keys (Client.timer env now) controller).andThen fun controller =>
      .done (Client.removeZombies now controller)
  | .accept now => .done (Client.accept env now controller)
  | .read session clock header message => Client.read env message header clock session controller
  | .readError session => Client.readError env session controller
  | .disconnected session => Client.makeZombie session controller
  | .serverConnected => .done (Server.connected env controller)
  | .serverDisconnected => Server.disconnected env controller
  | .serverRead msgSeqNum message => Server.read env message msgSeqNum controller
  | .authInsert username password strategyId =>
    .done { controller with shared := controller.shared.addUser username password strategyId }
  | .authRemove username => .done { controller with shared := controller.shared.removeUser username }

end FixProxy
