import FixProxy.Deployment
import FixProxy.Proofs.Reachable

/-! The process implements a router. What comes in is turned, event by event, into actions of the
kind that the event stands for, and each of them is a step that the router can take. -/

namespace FixProxy
open Codec
open Router (Moves Closes)

namespace Router

def start (realtime : Nat) : Router where
  session _ := none
  route _ := none
  owner _ := none
  pending _ := none
  waiting _ := none
  index _ := .empty
  orders _ := none
  reports := 0
  upstream := .disconnected
  ready := false
  asked := []
  answered := []
  lastSession := 0
  lastRequest := realtime
  doomed := []

end Router

/-- What a session does itself. An id is released, or loses its flag, only if a key of the session
leads to it; the entry may be that of another session of the same party. -/
def Action.By (router : Router) (session : Nat) : Action → Prop
  | .nominate other _ | .logOn other _ | .strand other | .drop other | .logOff other | .retire other
  | .retireAsking other _ | .touch _ other | .openFresh _ other _ _ | .openStamped _ other _ _ _ | .enter other _ =>
    other = session
  | .release name id | .retain name id _ => ∃ own, (router.index name).key session own = some id
  | .allocate => True
  | _ => False

/-- The answer to a user request, taken for what it says. -/
def Action.Takes (value : UserResponse) : Action → Prop
  | .grant id username _ => id = value.userRequestId ∧ username = value.username ∧ value.userStatus = .loggedIn
  | .refuse id username _ => id = value.userRequestId ∧ username = value.username ∧ value.userStatus = .notLoggedIn
  | .settle id username _ => id = value.userRequestId ∧ username = value.username ∧ value.userStatus = .other
  | .late id username _ => id = value.userRequestId ∧ username = value.username
  | _ => False

/-- The actions that an event stands for. -/
def Input.Causes (router : Router) : Input → Action → Prop
  | .timer _, action => action = .sweep ∨ ∃ session, Closes session action
  | .accept _, action => action = .accept
  | .read session _ _ _, action => action.By router session
  | .readError session, action | .disconnected session, action => Closes session action
  | .serverConnected, action => action = .connect
  | .serverDisconnected, action => action = .unready ∨ action = .lost ∨ ∃ session, Closes session action
  | .serverRead _ .logon, action => action = .login
  | .serverRead _ (.userResponse value), action => action.Takes value ∨ ∃ session, Closes session action
  | .serverRead _ (.response _), action => Controller.Releases action
  | _, _ => False

private theorem Action.by_of_closes {router : Router} {session : Nat} {action : Action} (closes : Closes session action) :
    action.By router session := by
  rcases closes with rfl | ends
  · rfl
  · cases action with
    | retire => exact ends
    | retireAsking => exact ends
    | _ => exact ends.elim

namespace World
variable {env : Env} {users : Map String (String × Nat)} {realtime : Nat} {before after world : World} {input : Input}
  {inputs : List Input}

private theorem view_create (users : Map String (String × Nat)) (realtime : Nat) :
    (create users realtime).view = Router.start realtime := by
  have index (name : MappingName) : ((create users realtime).controller.mapping name).toIndex = .empty := by
    apply Index.ext
    · rfl
    · rfl
    · funext session
      exact propext ⟨fun present => (Bool.false_ne_true present).elim, False.elim⟩
  simp only [view, Controller.view, index]
  rfl

private theorem causes_of_caused {router : Router} {action : Action} (caused : Caused before input after router action)
    (indexed : router.Indexed) : input.Causes router action := by
  cases input with
  | timer now => exact caused
  | accept now => exact caused
  | readError session => exact caused
  | disconnected session => exact caused
  | serverConnected => exact caused
  | serverDisconnected => exact caused
  | authInsert => exact caused
  | authRemove => exact caused
  | read session clock header message =>
    rcases caused with (closes | reads) | preliminary
    · exact Action.by_of_closes closes
    · cases message with
      | logon value =>
        rcases reads with rfl | ⟨party, rfl⟩ | ⟨party, rfl⟩ | rfl
        all_goals trivial
      | logout =>
        cases reads
        trivial
      | request request =>
        cases action with
        | allocate => trivial
        | touch => exact reads
        | openFresh | openStamped | enter => exact reads.1
        | release =>
          obtain ⟨rfl, -, -, outstanding, party, ready, rfl⟩ := reads
          obtain ⟨id, key⟩ := Option.ne_none_iff_exists'.mp outstanding
          exact ⟨_, indexed.stampedKey .tradeRequestId (fun fresh => fresh) session _ id key _ party ready ▸ key⟩
        | retain => exact ⟨_, reads.2.2.1⟩
        | _ => exact reads.elim
      | _ => exact reads.elim
    · cases action with
      | allocate => trivial
      | touch => exact preliminary
      | _ => exact preliminary.elim
  | serverRead msgSeqNum message =>
    cases message with
    | logon => exact caused
    | userResponse value =>
      cases action with
      | grant | refuse | settle | late => exact Or.inl caused.2
      | _ =>
        obtain ⟨session, -, closes⟩ := caused
        exact Or.inr ⟨session, closes⟩
    | response value => exact caused
    | _ => exact caused

/-- Every run of the process is, event by event, a run of the router. -/
theorem router_refined (runs : Runs env users realtime inputs world) :
    Run (fun before (input : Input) after => Moves (fun router => input.Causes router) before after)
      (Router.start realtime) inputs world.view := by
  refine runs.history (fun inputs world => Run (fun before (input : Input) after =>
    Moves (fun router => input.Causes router) before after) (Router.start realtime) inputs world.view) ?_ ?_
  · exact view_create users realtime ▸ .nil _
  · intro inputs input before after run step refined
    have consistent := consistent_of_reachable ⟨users, realtime, inputs, run⟩
    have moves : Moves (fun router => input.Causes router) before.view after.view := (step.moves consistent).refine
      Router.Consistent (fun _ _ _ _ step => Router.consistent_step step)
      (fun _ _ _ caused _ consistent => causes_of_caused caused consistent.indexed) consistent
    exact refined.snoc moves

/-- A router takes the logon of a client and its answer, and the client's route is there. -/
theorem router_refined_loggedOn : ∃ router,
    Run (fun before (input : Input) after => Moves (fun router => input.Causes router) before after)
      (Router.start 0) Deployment.loggedOn router ∧ router.route "1" = some 1 := by
  have replayed := exists_run_of_replay Regular Deployment.env Deployment.users 0 Deployment.loggedOn
    (fun world => world.controller.subscriptions.user.clientToSession.find "1" == some 1) (by decide +kernel)
  obtain ⟨world, runs, checked⟩ := replayed
  exact ⟨world.view, router_refined (runs_of_runsUnder runs), beq_iff_eq.mp checked⟩

end World
end FixProxy
