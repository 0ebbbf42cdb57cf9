import FixProxy.Identifiers
import FixProxy.Lib.Index
import FixProxy.Lib.Run
import FixProxy.World

/-! What the proxy is for, without its messages: sessions come and go, a route
connects a client id to one session, user requests are asked upstream and
answered later, and every request that is outstanding has its entry in an index.
A handler of the program is a short sequence of the actions defined here. -/

namespace FixProxy
open Codec

/-- The mappings whose server ids come from the counter; the others carry ids
made of the client's party and the client's own id. -/
def MappingName.Fresh : MappingName → Prop
  | .securityReqId | .securityStatusReqId | .tradSesReqId | .mdReqId | .posReqId => True
  | .ordStatusReqId | .massStatusReqId | .tradeRequestId | .clOrdId | .massCancelClOrdId => False

/-- The states between the log-on request and the end: what ends such a session
is a Disconnected event. -/
def Client.State.Active : Client.State → Prop
  | .waitingCreateRoute | .ready | .waitingRemoveRoute => True
  | .waitingLogon | .zombie => False

theorem Client.State.active_iff {state : Client.State} : state.Active ↔ state ≠ .waitingLogon ∧ state ≠ .zombie := by
  cases state <;> simp [Client.State.Active]

instance : DecidablePred Client.State.Active := fun _ => decidable_of_iff _ Client.State.active_iff.symm

structure Router where
  /-- the state and the party of every session that is held -/
  session : Nat → Option (Client.State × String)
  route : String → Option Nat
  owner : Nat → Option String
  /-- who waits for the answer to a user request -/
  pending : String → Option Nat
  /-- the user request a session waits for -/
  waiting : Nat → Option String
  index : MappingName → Index Nat String String Bool
  orders : String → Option OrdStatus
  reports : Nat
  upstream : Server.State
  ready : Bool
  asked : List UserRequest
  answered : List String
  lastSession : Nat
  lastRequest : Nat
  doomed : List Nat

namespace Router

/-- The id that is handed out next. -/
def nextId (router : Router) : String := Shared.requestId (router.lastRequest + 1)

attribute [grind =] nextId

/-- The router with another index under one name. -/
abbrev setIndex (name : MappingName) (index : Index Nat String String Bool) (router : Router) : Router :=
  { router with index := Function.update router.index name index }

@[simp] theorem setIndex_self (name : MappingName) (router : Router) :
    router.setIndex name (router.index name) = router := by
  simp [setIndex]

/-- A session that can still make use of a server id: it was ready, and has not ended. -/
def Serving (router : Router) (session : Nat) : Prop :=
  (router.session session).map Prod.fst = some .ready ∨ (router.session session).map Prod.fst = some .waitingRemoveRoute

/-- An upstream answer: a user request that was asked and not answered, with its username. -/
def Answers (router : Router) (id username : String) : Prop :=
  ∃ request ∈ router.asked, request.userRequestId = id ∧ request.username = username ∧ id ∉ router.answered

end Router

inductive Action where
  | accept
  | allocate
  | nominate (session : Nat) (party : String)
  | logOn (session : Nat) (party : String)
  | strand (session : Nat)
  | drop (session : Nat)
  | logOff (session : Nat)
  | retire (session : Nat)
  | retireAsking (session : Nat) (username : String)
  | grant (id username : String) (session : Nat)
  | refuse (id username : String) (session : Nat)
  | settle (id username : String) (session : Nat)
  | late (id username : String) (session : Nat)
  | sweep
  | connect
  | login
  | unready
  | lost
  | touch (name : MappingName) (session : Nat)
  | openFresh (name : MappingName) (session : Nat) (clientId : String) (keepAlive : Bool)
  | openStamped (name : MappingName) (session : Nat) (party clientId : String) (keepAlive : Bool)
  | enter (session : Nat) (party : String)
  | release (name : MappingName) (id : String)
  | retain (name : MappingName) (id : String) (keepAlive : Bool)
  | tally (orders : String → Option OrdStatus) (reports : Nat)

/-- The two ways in which a session past its log-on ends. -/
def Action.Ends : Action → Nat → Prop
  | .retire session, other => session = other
  | .retireAsking session _, other => session = other
  | _, _ => False

/-- The steps of a router. A hypothesis is what the handler has tested, or what the
environment promises. -/
inductive Router.Step (router : Router) : Action → Router → Prop where
  | accept : Step router .accept
      { router with
        lastSession := router.lastSession + 1
        session := emplace router.session (router.lastSession + 1) (.waitingLogon, "") }
  | allocate : Step router .allocate { router with lastRequest := router.lastRequest + 1 }
  /-- the credentials are accepted -/
  | nominate {session : Nat} {party old : String} (arriving : router.session session = some (.waitingLogon, old)) :
      Step router (.nominate session party)
        { router with session := Function.update router.session session (some (.waitingLogon, party)) }
  /-- the log-on goes upstream -/
  | logOn {session : Nat} {party : String} (arriving : router.session session = some (.waitingLogon, party))
      (plain : Plain party) (unlocked : router.route party = none) (upstream : router.upstream = .ready) :
      Step router (.logOn session party)
        { router with
          session := Function.update router.session session (some (.waitingCreateRoute, party))
          lastRequest := router.lastRequest + 1
          waiting := Function.update router.waiting session (some router.nextId)
          pending := emplace router.pending router.nextId session
          asked := router.asked ++ [⟨router.nextId, .logOnUser, party⟩] }
  /-- the log-on is registered but cannot be sent, and the session ends -/
  | strand {session : Nat} {party : String} (arriving : router.session session = some (.waitingLogon, party))
      (unlocked : router.route party = none) (upstream : router.upstream ≠ .ready) :
      Step router (.strand session)
        { router with
          session := Function.update router.session session (some (.zombie, party))
          doomed := router.doomed.insert session
          lastRequest := router.lastRequest + 1
          waiting := Function.update router.waiting session (some router.nextId)
          pending := emplace router.pending router.nextId session }
  /-- a session that never asked for a route ends without a Disconnected event -/
  | drop {session : Nat} {party : String} (arriving : router.session session = some (.waitingLogon, party)) :
      Step router (.drop session)
        { router with
          session := Function.update router.session session (some (.zombie, party))
          doomed := router.doomed.insert session }
  | logOff {session : Nat} {party : String} (ready : router.session session = some (.ready, party))
      (upstream : router.upstream = .ready) :
      Step router (.logOff session)
        { router with
          session := Function.update router.session session (some (.waitingRemoveRoute, party))
          lastRequest := router.lastRequest + 1
          waiting := Function.update router.waiting session (some router.nextId)
          pending := emplace router.pending router.nextId session
          asked := router.asked ++ [⟨router.nextId, .logOffUser, party⟩] }
  /-- a session ends that has no route, or while the controller is not ready -/
  | retire {session : Nat} {state : Client.State} {party : String}
      (held : router.session session = some (state, party)) (active : state.Active)
      (silent : router.owner session = none ∨ router.ready = false) :
      Step router (.retire session)
        { router with
          session := Function.update router.session session (some (.zombie, party))
          doomed := router.doomed.insert session
          index := fun name => (router.index name).clear session
          route := fun username => if router.owner session = some username then none else router.route username
          owner := Function.update router.owner session none }
  /-- a session with a route ends, and its client id is logged off; a request the
  session still waits for stays the one it is waiting for -/
  | retireAsking {session : Nat} {state : Client.State} {party username : String}
      (held : router.session session = some (state, party)) (active : state.Active)
      (owned : router.owner session = some username) (ready : router.ready = true) :
      Step router (.retireAsking session username)
        { router with
          session := Function.update router.session session (some (.zombie, party))
          doomed := router.doomed.insert session
          index := fun name => (router.index name).clear session
          route := Function.update router.route username none
          owner := Function.update router.owner session none
          lastRequest := router.lastRequest + 1
          waiting := emplace router.waiting session router.nextId
          pending := emplace router.pending router.nextId session
          asked := router.asked ++ [⟨router.nextId, .logOffUser, username⟩] }
  /-- `LOGGED_IN` -/
  | grant {id username : String} {session : Nat} {state : Client.State} {party : String}
      (answers : router.Answers id username) (asker : router.pending id = some session)
      (held : router.session session = some (state, party))
      (free : router.route username = none) (unowned : router.owner session = none) :
      Step router (.grant id username session)
        { router with
          session := Function.update router.session session
            (some (if state = .waitingCreateRoute then .ready else state, party))
          route := Function.update router.route username (some session)
          owner := Function.update router.owner session (some username)
          waiting := Function.update router.waiting session none
          pending := Function.update router.pending id none
          answered := router.answered ++ [id] }
  /-- `NOT_LOGGED_IN` -/
  | refuse {id username : String} {session : Nat} {state : Client.State} {party : String}
      (answers : router.Answers id username) (asker : router.pending id = some session)
      (held : router.session session = some (state, party)) :
      Step router (.refuse id username session)
        { router with
          route := Function.update router.route username none
          owner := fun other => if router.route username = some other then none else router.owner other
          waiting := Function.update router.waiting session none
          pending := Function.update router.pending id none
          answered := router.answered ++ [id] }
  /-- any other status -/
  | settle {id username : String} {session : Nat} {state : Client.State} {party : String}
      (answers : router.Answers id username) (asker : router.pending id = some session)
      (held : router.session session = some (state, party)) :
      Step router (.settle id username session)
        { router with
          waiting := Function.update router.waiting session none
          pending := Function.update router.pending id none
          answered := router.answered ++ [id] }
  /-- the session that asked was collected before the answer; the request stays registered -/
  | late {id username : String} {session : Nat}
      (answers : router.Answers id username) (asker : router.pending id = some session)
      (collected : router.session session = none) :
      Step router (.late id username session)
        { router with
          route := Function.update router.route username none
          owner := fun other => if router.route username = some other then none else router.owner other
          answered := router.answered ++ [id] }
  | sweep : Step router .sweep
      { router with
        session := fun session => if session ∈ router.doomed then none else router.session session
        doomed := [] }
  | connect (down : router.upstream = .disconnected) :
      Step router .connect { router with upstream := .logonSent }
  | login (up : router.upstream ≠ .disconnected) :
      Step router .login { router with upstream := .ready, ready := true }
  | unready : Step router .unready { router with ready := false }
  | lost (unready : router.ready = false)
      (finished : ∀ session state party, router.session session = some (state, party) → state = .zombie) :
      Step router .lost { router with upstream := .disconnected }
  | touch {name : MappingName} {session : Nat} {party : String}
      (ready : router.session session = some (.ready, party)) :
      Step router (.touch name session)
        (router.setIndex name ((router.index name).touch session))
  | openFresh {name : MappingName} {session : Nat} {party clientId : String} {keepAlive : Bool}
      (ready : router.session session = some (.ready, party)) (fresh : name.Fresh)
      (free : (router.index name).key session clientId = none) :
      Step router (.openFresh name session clientId keepAlive)
        { router.setIndex name ((router.index name).add router.nextId session clientId keepAlive) with
          lastRequest := router.lastRequest + 1 }
  | openStamped {name : MappingName} {session : Nat} {party clientId : String} {keepAlive : Bool}
      (ready : router.session session = some (.ready, party)) (stamped : ¬ name.Fresh)
      (free : (router.index name).key session clientId = none)
      (nonempty : name = .ordStatusReqId → clientId ≠ "") :
      Step router (.openStamped name session party clientId keepAlive)
        (router.setIndex name
          ((router.index name).add (createRequestId party clientId) session clientId keepAlive))
  /-- an order status request without an id of its own -/
  | enter {session : Nat} {party : String} (ready : router.session session = some (.ready, party)) :
      Step router (.enter session party)
        (router.setIndex .ordStatusReqId
          ((router.index .ordStatusReqId).enter (createRequestId party "") session "" false))
  | release {name : MappingName} {id : String} : Step router (.release name id)
      (router.setIndex name ((router.index name).release id))
  | retain {name : MappingName} {id : String} {keepAlive : Bool} : Step router (.retain name id keepAlive)
      (router.setIndex name ((router.index name).retain id keepAlive))
  | tally {orders : String → Option OrdStatus} {reports : Nat} :
      Step router (.tally orders reports) { router with orders, reports }

end FixProxy
