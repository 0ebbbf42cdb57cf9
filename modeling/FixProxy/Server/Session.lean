import FixProxy.Controller.Responses

/-! The upstream session: one connection to the bridge, with its own readiness and
sequence numbers. -/

namespace FixProxy
open Codec

namespace Server
variable (env : Env)

def logoutResponse := "LOGOUT"

def setState (state : State) (controller : Controller) : Controller :=
  { controller with serverSession := { controller.serverSession with state } }

def sendLogon (controller : Controller) : Controller :=
  controller.sendToServer (.logon
    { heartBtInt := (env.settings.serverPingFreq / nanosecondsPerSecond).toNat % 65536
      resetSeqNumFlag := true
      nextExpectedMsgSeqNum := controller.serverSession.inboundMsgSeqNum + 1
      username := env.settings.serverUsername
      password := env.settings.serverPassword })

def connected (controller : Controller) : Controller := setState .logonSent (sendLogon env controller)

/-- The counters are reset only after the controller has handled the event. -/
def disconnected (controller : Controller) : Outcome Controller :=
  (controller.serverDisconnected env).andThen fun controller =>
    .done { controller with serverSession := {} }

/-- The controller learns of the logon before the session itself is ready. -/
def logon (controller : Controller) : Controller := setState .ready { controller with ready := true }

def logout (controller : Controller) : Controller :=
  let controller := controller.sendToServer (.logout logoutResponse)
  { controller with log := controller.log ++ [.closeServer] }

def heartbeat (controller : Controller) : Controller := controller

/-- `parse` and the handler it selects. A Logout is decoded as a Heartbeat, so
the handler of the Heartbeat is the one that runs. -/
def parse (message : FromServer) (controller : Controller) : Outcome Controller :=
  match message with
  | .reject | .resendRequest | .unexpected => .done controller
  | .logon => .done (logon controller)
  | .logout => .done (heartbeat controller)
  | .heartbeat => .done (heartbeat controller)
  | .testRequest testReqId => .done (controller.sendToServer (.heartbeat testReqId))
  | .userResponse value => controller.userResponse env value
  | .response value => .done (controller.response env value)

/-- One message of a `Read` event. -/
def read (message : FromServer) (msgSeqNum : Nat) (controller : Controller) : Outcome Controller :=
  parse env message
    { controller with serverSession := { controller.serverSession with inboundMsgSeqNum := msgSeqNum } }

def timer (now : Nanoseconds) (controller : Controller) : Controller :=
  if controller.serverSession.state ≠ .ready then controller
  else if controller.serverSession.nextHeartbeat ≤ now then
    ({ controller with
        serverSession := { controller.serverSession with
          nextHeartbeat := now + env.settings.serverPingFreq } }).sendToServer
      (.testRequest (toString now))
  else controller

end Server
end FixProxy
