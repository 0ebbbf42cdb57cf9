import FixProxy.Lib.Gather

/-! The configuration file: the symbols, and a section for each user. The TOML parser is a library
function; what it makes of the file is a tree of nodes. -/

namespace FixProxy

namespace Toml

/-- `toml::node`. The entries of a table are those of an ordered map: each key once, in order. -/
inductive Node where
  | string (value : String)
  | integer (value : Int)
  /-- a floating point number, a boolean, a date or a time -/
  | scalar (literal : String)
  | array (items : List Node)
  | table (entries : List (String × Node))

structure Library where
  /-- what a value that is neither a string nor an integer gives as `uint32_t`, if anything -/
  convert : String → Option (BitVec 32)

namespace Node

/-- `value<std::string>()` -/
def getString : Node → Option String
  | .string value => some value
  | _ => none

/-- `value<uint32_t>()`: an integer out of range gives nothing. -/
def getUInt32 (library : Toml.Library) : Node → Option Nat
  | .integer value => if 0 ≤ value ∧ value < 4294967296 then some value.toNat else none
  | .scalar literal => (library.convert literal).map BitVec.toNat
  | _ => none

/-- `find_and_remove`: the node under a key, and what is left. -/
def findAndRemove (key : String) : Node → Option (Node × Node)
  | .table entries =>
    match entries.lookup key with
    | some node => some (node, .table (entries.filter fun entry => entry.1 != key))
    | none => none
  | _ => none

end Node
end Toml
open Toml

namespace Config

/-- How parsing fails: `log::fatal`, or the value of an empty `std::optional` is taken. -/
inductive Failure where
  | fatal (what : String)
  | undefined
  deriving DecidableEq

structure User where
  component : String := ""
  username : String := ""
  password : String := ""
  strategyId : Nat := 0
  deriving DecidableEq

end Config

structure Config where
  /-- each symbol once -/
  symbols : List String
  users : Map String Config.User

namespace Config
variable (library : Toml.Library)

/-- The dereferenced optional. -/
def deref {α : Type} : Option α → Except Failure α
  | some value => .ok value
  | none => .error .undefined

/-- `check_empty` -/
def checkEmpty : Node → Except Failure Unit
  | .table entries => if entries.isEmpty then .ok () else .error (.fatal "Unexpected")
  | _ => .ok ()

def insertSymbols (nodes : List Node) : Except Failure (List String) :=
  nodes.foldlM (fun result node => do return result.insert (← deref node.getString)) []

/-- The callback of `parse_symbols` -/
def symbolsOf : Node → Except Failure (List String)
  | .array items => insertSymbols items
  | .table _ => .error (.fatal "Unexpected")
  | value => insertSymbols [value]

def parseSymbols (node : Node) : Except Failure (List String × Node) :=
  match node.findAndRemove "symbols" with
  | some (found, rest) => do return (← symbolsOf found, rest)
  | none => .error (.fatal "Unexpected: did not find the \"symbols\" table")

/-- One turn of the loop of `parse_user`. The accounts are not read. -/
def parseField (result : User) (entry : String × Node) : Except Failure User :=
  let (key, value) := entry
  if key = "component" then do return { result with component := ← deref value.getString }
  else if key = "username" then do return { result with username := ← deref value.getString }
  else if key = "password" then do return { result with password := ← deref value.getString }
  else if key = "accounts" then .ok result
  else if key = "strategy_id" then do return { result with strategyId := ← deref (value.getUInt32 library) }
  else .error (.fatal ("Unexpected: user key=\"" ++ key ++ "\""))

def parseUser (entries : List (String × Node)) : Except Failure User :=
  entries.foldlM (parseField library) {}

/-- One turn of the loop of `parse_users` -/
def insertUser (result : Map String User) (entry : String × Node) : Except Failure (Map String User) :=
  match entry with
  | (key, .table entries) => do return result.tryEmplace key (← parseUser library entries)
  | (key, _) => .error (.fatal ("Unexpected: \"users." ++ key ++ "\" must be a table"))

/-- The callback of `parse_users` -/
def usersOf : Node → Except Failure (Map String User)
  | .table entries => entries.foldlM (insertUser library) ∅
  | _ => .error (.fatal "Unexpected: \"users\" must be a table")

def parseUsers (node : Node) : Except Failure (Map String User × Node) :=
  match node.findAndRemove "users" with
  | some (found, rest) => do return (← usersOf library found, rest)
  | none => .error (.fatal "Unexpected: did not find the \"users\" table")

/-- `Config::Config` -/
def create (root : Node) : Except Failure Config := do
  let (symbols, root) ← parseSymbols root
  let (users, root) ← parseUsers library root
  checkEmpty root
  return { symbols, users }

end Config

/-- `create_username_to_password_and_strategy_id`, which visits the users of an unordered map in
the order that the map has them. -/
def Shared.createUsernameToPasswordAndStrategyId (order : List Config.User) : Map String (String × Nat) :=
  order.foldl (fun result user => result.tryEmplace user.username (user.password, user.strategyId)) ∅

end FixProxy
