import FixProxy.Step

/-! The connection to the authentication service: a text lists the users to insert and to remove.
The JSON parser is a library function and enters as a parameter. -/

namespace FixProxy

namespace Auth

/-- `nlohmann::json`. The entries of an object are those of an ordered map: each key once, in order. -/
inductive Json where
  | null
  | boolean (value : Bool)
  | integer (value : Int)
  | float (literal : String)
  | string (value : String)
  | array (items : List Json)
  | object (entries : List (String × Json))

structure Library where
  /-- `nlohmann::json::parse`; none where it throws -/
  parse : String → Option Json
  /-- a floating point number as `uint32_t` -/
  truncate : String → BitVec 32

namespace Error

def parseError := "parse_error"
def typeError := "type_error"
def outOfRange := "out_of_range"

end Error

namespace Json

/-- `at`: the member of an object -/
def member (key : String) : Json → Except String Json
  | .object entries =>
    match entries.lookup key with
    | some value => .ok value
    | none => .error Error.outOfRange
  | _ => .error Error.typeError

/-- `get<std::string_view>` -/
def getString : Json → Except String String
  | .string value => .ok value
  | _ => .error Error.typeError

/-- `get<uint32_t>`: any number, and also a boolean, is converted; an integer modulo 2^32. -/
def getUInt32 (library : Library) : Json → Except String Nat
  | .integer value => .ok (value % 4294967296).toNat
  | .float literal => .ok (library.truncate literal).toNat
  | .boolean value => .ok value.toNat
  | _ => .error Error.typeError

/-- What a range-based `for` visits: a primitive value is visited itself. -/
def items : Json → List Json
  | .null => []
  | .array items => items
  | .object entries => entries.map Prod.snd
  | value => [value]

end Json

namespace Session

structure Insert where
  component : String
  username : String
  password : String
  strategyId : Nat
  deriving DecidableEq

structure Remove where
  component : String
  username : String
  deriving DecidableEq

/-- What one item of a text asks for. -/
inductive Action where
  | insert (value : Insert)
  | remove (value : Remove)
  | unexpected (action : String)
  deriving DecidableEq

end Session
open Session

/-- The part of the loop body that reads the item. -/
def Json.action (library : Library) (obj : Json) : Except String Action := do
  let action ← (← obj.member "action").getString
  let component ← (← obj.member "component").getString
  let username ← (← obj.member "username").getString
  if action = "insert" then
    let password ← (← obj.member "password").getString
    let strategyId ← (← obj.member "strategy_id").getUInt32 library
    return .insert { component, username, password, strategyId }
  else if action = "remove" then return .remove { component, username }
  else return .unexpected action

end Auth

namespace Controller
open Auth.Session

/-- `Controller::operator()(auth::Session::Insert const &)`: the component is not looked at. -/
def authInsert (insert : Insert) (controller : Controller) : Controller :=
  { controller with shared := controller.shared.addUser insert.username insert.password insert.strategyId }

def authRemove (remove : Remove) (controller : Controller) : Controller :=
  { controller with shared := controller.shared.removeUser remove.username }

end Controller

namespace Auth
open Session

/-- An action that is neither of the two is only logged. -/
def Session.handle (action : Action) (controller : Controller) : Controller :=
  match action with
  | .insert value => controller.authInsert value
  | .remove value => controller.authRemove value
  | .unexpected _ => controller

def Session.item (library : Library) (obj : Json) (controller : Controller) : Outcome Controller :=
  match obj.action library with
  | .error what => .thrown what controller
  | .ok action => .done (handle action controller)

/-- `Session::operator()(web::socket::Client::Text const &)` -/
def Session.text (library : Library) (payload : String) (controller : Controller) : Outcome Controller :=
  match library.parse payload with
  | none => .thrown Error.parseError controller
  | some json =>
    match json.member "result" with
    | .error what => .thrown what controller
    | .ok result => Outcome.forEach result.items (item library) controller

end Auth
end FixProxy
