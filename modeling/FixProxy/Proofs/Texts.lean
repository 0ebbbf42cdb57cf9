import FixProxy.Auth.Session
import FixProxy.Deployment
import FixProxy.Lib.Journal
import FixProxy.Proofs.Steady

/-! The process with the texts of the authentication service as they come. A text is worth the
insertions and removals of its items up to the first that cannot be read; with these in its place
a run is a run as before. Who may log on, and how, is then told by the history. -/

namespace FixProxy
open Codec

/-- The state that a call leaves, unless the process is gone. -/
def Outcome.left {σ : Type u} : Outcome σ → Option σ
  | .done state | .thrown _ state => some state
  | .fatal _ => none

/-- What an event writes to the credentials. -/
def Input.writes : Input → List (Write String (String × Nat))
  | .authInsert username password strategyId => [⟨username, some (password, strategyId)⟩]
  | .authRemove username => [⟨username, none⟩]
  | _ => []

/-- What a logon is checked against. -/
def Controller.credentials (controller : Controller) : String → Option (String × Nat) :=
  controller.shared.usernameToPasswordAndStrategyId.find

def World.credentials (world : World) : String → Option (String × Nat) := world.controller.credentials

namespace Auth.Session
variable {env : Env} {library : Library} {controller : Controller}

def Action.input : Action → Option Input
  | .insert value => some (.authInsert value.username value.password value.strategyId)
  | .remove value => some (.authRemove value.username)
  | .unexpected _ => none

/-- The actions of the items before the first that cannot be read. -/
def readable (library : Library) : List Json → List Action
  | [] => []
  | obj :: rest =>
    match obj.action library with
    | .ok action => action :: readable library rest
    | .error _ => []

def actions (library : Library) (payload : String) : List Action :=
  match library.parse payload with
  | none => []
  | some json =>
    match json.member "result" with
    | .error _ => []
    | .ok result => readable library result.items

/-- The state after the actions of a text. -/
def obey (actions : List Action) (controller : Controller) : Controller :=
  actions.foldl (fun controller action => handle action controller) controller

private theorem left_items (items : List Json) (controller : Controller) :
    (Outcome.forEach items (item library) controller).left = some (obey (readable library items) controller) := by
  induction items generalizing controller with
  | nil => rfl
  | cons obj rest ih =>
    cases taken : obj.action library with
    | error what => simp [Outcome.forEach, item, readable, taken, Outcome.andThen, Outcome.left, obey]
    | ok action =>
      have here : Outcome.forEach (obj :: rest) (item library) controller =
        Outcome.forEach rest (item library) (handle action controller) := by simp [Outcome.forEach, item, taken]
      rw [here, ih, readable, taken]
      rfl

/-- A text leaves what its readable part says, whether or not it throws. -/
theorem left_text (payload : String) (controller : Controller) :
    (text library payload controller).left = some (obey (actions library payload) controller) := by
  unfold text actions
  cases library.parse payload with
  | none => rfl
  | some json =>
    cases found : json.member "result" with
    | error what => simp [found, Outcome.left, obey]
    | ok result =>
      simp only [found]
      exact left_items result.items controller

/-- What reaches the process, with the texts as they are. -/
inductive Event where
  | input (input : Input)
  | text (payload : String)

/-- One event; an exception that a text ends in is not the end of the process. -/
inductive Step (env : Env) (library : Library) (before : World) : Event → World → Prop where
  | input {input : Input} {after : World} (performed : World.Step env before input after) :
      Step env library before (.input input) after
  | text {payload : String} {controller : Controller}
      (left : (text library payload before.controller).left = some controller) :
      Step env library before (.text payload) { before with controller }

/-- What an event is without its text. -/
def Event.inputs (library : Library) : Event → List Input
  | .input same => [same]
  | .text payload => (actions library payload).filterMap Action.input

def Event.writes (library : Library) (event : Event) : List (Write String (String × Nat)) :=
  (event.inputs library).flatMap Input.writes

def Runs (env : Env) (library : Library) (users : Map String (String × Nat)) (realtime : Nat) (events : List Event)
    (world : World) : Prop :=
  Run (Step env library) (World.create users realtime) events world

theorem run_of_inputs {first last : World} {inputs : List Input} (run : Run (World.Step env) first inputs last) :
    Run (Step env library) first (inputs.map .input) last := by
  induction run with
  | nil => exact .nil _
  | cons head _ ih => exact .cons (.input head) ih

theorem handled (action : Action) (before : World) :
    Run (World.Step env) before action.input.toList { before with controller := handle action before.controller } := by
  cases action with
  | insert value => exact .single ⟨trivial, rfl, (List.append_nil _).symm⟩
  | remove value => exact .single ⟨trivial, rfl, (List.append_nil _).symm⟩
  | unexpected action => exact .nil _

private theorem run_of_actions (actions : List Action) (before : World) :
    Run (World.Step env) before (actions.filterMap Action.input)
      { before with controller := obey actions before.controller } := by
  induction actions generalizing before with
  | nil => exact .nil _
  | cons action rest ih =>
    have whole := (handled action before).append (ih { before with controller := handle action before.controller })
    have split : (action :: rest).filterMap Action.input = action.input.toList ++ rest.filterMap Action.input := by
      cases action <;> rfl
    rw [split]
    exact whole

private theorem run_of_step {before after : World} {event : Event} (step : Step env library before event after) :
    Run (World.Step env) before (event.inputs library) after := by
  cases step with
  | input performed => exact .single performed
  | text left =>
    rw [left_text, Option.some.injEq] at left
    subst left
    exact run_of_actions ..

/-- With each text replaced by what it is worth, a run of the process is a run as before. -/
theorem run_of_events {first last : World} {events : List Event} (run : Run (Step env library) first events last) :
    Run (World.Step env) first (events.flatMap (Event.inputs library)) last := by
  induction run with
  | nil => exact .nil _
  | cons head _ ih => exact (run_of_step head).append ih

end Auth.Session

namespace Controller
open Outcome (Every)

def SameCredentials (first last : Controller) : Prop :=
  last.shared.usernameToPasswordAndStrategyId = first.shared.usernameToPasswordAndStrategyId

instance : Steady SameCredentials where
  trans _ _ _ head rest := Eq.trans rest head
  inner _ _ _ credentials := credentials
  record _ _ _ _ := rfl
  say session message controller := by
    unfold sendToClient
    split <;> rfl
  shut _ _ := rfl
  relay {message} _ controller := by
    unfold dispatchToServer
    split <;> exact (rfl : SameCredentials ..)
  adjust _ _ _ := rfl
  upstream _ _ _ credentials := credentials
  fewer _ _ credentials := credentials

end Controller

open Auth.Session (Event actions text)

namespace World
variable {env : Env} {library : Auth.Library} {users : Map String (String × Nat)} {realtime : Nat}
  {before after world : World} {input : Input} {events : List Event}

private theorem credentials_step (step : Step env before input after) :
    after.credentials = Journal.replay before.credentials input.writes := by
  have kept (settled : input.Settled) : after.credentials = before.credentials :=
    congrArg Map.find (step.steady settled : Controller.SameCredentials ..)
  cases input with
  | authInsert username password strategyId =>
    obtain ⟨controller, answered⟩ := after
    obtain rfl := Outcome.done.inj step.performed
    funext other
    exact (Map.find_assign ..).trans (by simp [Journal.replay, Journal.apply, Input.writes, Function.update_apply]; rfl)
  | authRemove username =>
    obtain ⟨controller, answered⟩ := after
    obtain rfl := Outcome.done.inj step.performed
    funext other
    exact (Map.find_erase ..).trans (by simp [Journal.replay, Journal.apply, Input.writes, Function.update_apply]; rfl)
  | accept now =>
    obtain ⟨controller, answered⟩ := after
    obtain rfl := Outcome.done.inj step.performed
    rfl
  | _ => exact kept trivial

theorem credentials_of_events (runs : Auth.Session.Runs env library users realtime events world) :
    world.credentials = Journal.replay users.find (events.flatMap (Event.writes library)) := by
  have refined := Auth.Session.run_of_events runs
  have replayed := refined.replays World.credentials Input.writes credentials_step
  rw [replayed, List.flatMap_assoc]
  rfl

/-- A run with texts is a run of the process as before, with the readable part of each text in its
place. At any time the users that may log on are those of the configuration, with everything that
these parts have said since in the order of their arrival: per username the last word counts, and
nothing else that happens in the process has any effect. -/
theorem texts_refine (runs : Auth.Session.Runs env library users realtime events world) :
    Runs env users realtime (events.flatMap (Event.inputs library)) world ∧
      (∀ username, world.credentials username =
        Journal.replay users.find (events.flatMap (Event.writes library)) username) ∧
      ∀ username user, world.credentials username = some user ↔
        (∃ earlier later, events.flatMap (Event.writes library) = earlier ++ ⟨username, some user⟩ :: later ∧
          ∀ other ∈ later, other.key ≠ username) ∨
        (∀ write ∈ events.flatMap (Event.writes library), write.key ≠ username) ∧ users.find username = some user := by
  have known := congrFun (credentials_of_events runs)
  refine ⟨Auth.Session.run_of_events runs, known, fun username user => ?_⟩
  rw [known]
  exact Journal.replay_eq_iff

end World

namespace Deployment
open Auth (Json)

/-- A user is inserted, another one is removed, and the third item names nobody. -/
def notice : String :=
  "\x7b\"result\":[\x7b\"action\":\"insert\",\"component\":\"test\",\"username\":\"new\",\"password\":\"pw\",\"strategy_id\":7\x7d," ++
  "\x7b\"action\":\"remove\",\"component\":\"test\",\"username\":\"trader\"\x7d,\x7b\"action\":\"remove\"\x7d]\x7d"

def parsed : Json :=
  .object [("result", .array
    [.object [("action", .string "insert"), ("component", .string "test"), ("password", .string "pw"),
        ("strategy_id", .integer 7), ("username", .string "new")],
      .object [("action", .string "remove"), ("component", .string "test"), ("username", .string "trader")],
      .object [("action", .string "remove")]])]

def json : Auth.Library where
  parse text := if text = notice then some parsed else none
  truncate _ := 0

end Deployment

namespace World

/-- The readable part of the text has been taken. -/
theorem texts_refine_notice : ∃ world,
    Auth.Session.Runs Deployment.env Deployment.json Deployment.users 0 [.text Deployment.notice] world ∧
      world.credentials "trader" = none ∧ world.credentials "new" = some ("pw", 7) := by
  have runs : Auth.Session.Runs Deployment.env Deployment.json Deployment.users 0 [.text Deployment.notice] _ :=
    .single (.text (Auth.Session.left_text ..))
  have known := (texts_refine runs).2.1
  refine ⟨_, runs, ?_⟩
  rw [known, known]
  decide +kernel

end World
end FixProxy
