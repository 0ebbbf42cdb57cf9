import FixProxy.Lib.Map
import FixProxy.Crypto

/-! State shared by the client sessions: the credential table, who is logged on
under which username, the dead sessions awaiting collection, and the counters
that hand out session ids and request ids. -/

namespace FixProxy

/-- `std::chrono::nanoseconds` -/
abbrev Nanoseconds := Int

structure Settings where
  clientCompId : String
  clientAuthMethod : Crypto.Method
  clientAuthTimestampTolerance : BitVec 64
  clientLogonTimeout : Nanoseconds
  clientLogonHeartbeatMin : Nanoseconds
  clientLogonHeartbeatMax : Nanoseconds
  clientHeartbeatFreq : Nanoseconds
  serverUsername : String
  serverPassword : String
  serverPingFreq : Nanoseconds
  serverRequestTimeout : Nanoseconds
  testDisableRemoveClOrdId : Bool

/-- The two clocks, as read while one event is handled. -/
structure Clock where
  system : Nanoseconds
  realtime : BitVec 64

namespace Error

def notLoggedOn := "NOT_LOGGED_ON"
def alreadyLoggedOn := "ALREADY_LOGGED_ON"
def invalidPassword := "INVALID_PASSWORD"
def invalidUsername := "INVALID_USERNAME"

end Error

/-- The two counters are 64 bits wide in the program. `nextRequestId` starts at the
real time in nanoseconds; neither is taken to wrap. -/
structure Shared where
  nextSessionId : Nat
  usernameToPasswordAndStrategyId : Map String (String × Nat)
  usernameToSession : Map String Nat
  sessionToUsername : Map Nat String
  sessionsToRemove : List Nat
  nextRequestId : Nat

namespace Shared

def create (users : Map String (String × Nat)) (realtime : Nat) : Shared where
  nextSessionId := 0
  usernameToPasswordAndStrategyId := users
  usernameToSession := ∅
  sessionToUsername := ∅
  sessionsToRemove := []
  nextRequestId := realtime

def addUser (username password : String) (strategyId : Nat) (shared : Shared) : Shared :=
  { shared with usernameToPasswordAndStrategyId :=
      shared.usernameToPasswordAndStrategyId.assign username (password, strategyId) }

def removeUser (username : String) (shared : Shared) : Shared :=
  { shared with usernameToPasswordAndStrategyId := shared.usernameToPasswordAndStrategyId.erase username }

def sessionRemoveHelper (session : Nat) (shared : Shared) : Shared :=
  match shared.sessionToUsername.find session with
  | none => shared
  | some username =>
    { shared with
      usernameToSession := shared.usernameToSession.erase username
      sessionToUsername := shared.sessionToUsername.erase session }

def sessionRemove (session : Nat) (shared : Shared) : Shared :=
  sessionRemoveHelper session { shared with sessionsToRemove := shared.sessionsToRemove.insert session }

/-- The strategy id of an accepted logon, or the reason for the refusal. -/
def sessionLogonHelper (library : Crypto.Library) (settings : Settings) (now : BitVec 64)
    (session : Nat) (username password rawData : String) (shared : Shared) : Except String (Nat × Shared) :=
  match shared.usernameToPasswordAndStrategyId.find username with
  | none => .error Error.invalidUsername
  | some (secret, strategyId) =>
    if !Crypto.validate library settings.clientAuthMethod settings.clientAuthTimestampTolerance now
        password secret rawData then
      .error Error.invalidPassword
    else if (shared.usernameToSession.find username).isSome then
      .error Error.alreadyLoggedOn
    else
      .ok (strategyId,
        { shared with
          usernameToSession := shared.usernameToSession.tryEmplace username session
          sessionToUsername := shared.sessionToUsername.tryEmplace session username })

def sessionLogoutHelper (session : Nat) (shared : Shared) : Except String Shared :=
  match shared.sessionToUsername.find session with
  | none => .error Error.notLoggedOn
  | some username =>
    .ok { shared with
      usernameToSession := shared.usernameToSession.erase username
      sessionToUsername := shared.sessionToUsername.erase session }

def sessionCleanupHelper (session : Nat) (shared : Shared) : Shared := sessionRemoveHelper session shared

/-- The id that `createRequestId` hands out for a counter value. -/
def requestId (counter : Nat) : String := "proxy-" ++ toString counter

def createRequestId (shared : Shared) : String × Shared :=
  (requestId (shared.nextRequestId + 1), { shared with nextRequestId := shared.nextRequestId + 1 })

end Shared
end FixProxy
