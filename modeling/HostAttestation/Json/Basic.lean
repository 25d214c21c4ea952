import HostAttestation.Number.Double

/-! # JSON values

An object keeps the order of its members. Whole numbers between the least signed and the greatest
unsigned 64 bit number are integers; any other number is a double. -/

namespace HostAttestation

inductive Json.Number
  | integer (value : Int)
  | decimal (value : Double)
  deriving DecidableEq, Repr

inductive Json
  | null
  | bool (value : Bool)
  | number (value : Json.Number)
  | string (text : String)
  | array (items : List Json)
  | object (members : List (String × Json))

namespace Json

/-- How many numbers a width in bits can hold. -/
def capacity (bits : Nat) : Nat :=
  Nat.pow 2 bits

def int (value : Int) : Json :=
  .number (.integer value)

def nat (value : Nat) : Json :=
  int value

def texts (items : List String) : Json :=
  .array (items.map .string)

/-- An absent value is written as null. -/
def nullable (write : α → Json) : Option α → Json
  | none => .null
  | some value => write value

/-- A member that is left out when its value is absent. -/
def optional (key : String) (write : α → Json) : Option α → List (String × Json)
  | none => []
  | some value => [(key, write value)]

/-- A member that is left out when its list is empty. -/
def unlessEmpty (key : String) (write : List α → Json) : List α → List (String × Json)
  | [] => []
  | items => [(key, write items)]

/-! ## Sorted objects

Members by ascending key, of equal keys the last one. -/

def insertMember (key : String) (value : α) : List (String × α) → List (String × α)
  | [] => [(key, value)]
  | (other, kept) :: rest =>
      if key < other then (key, value) :: (other, kept) :: rest
      else if key = other then (key, value) :: rest
      else (other, kept) :: insertMember key value rest

def sortMembers (members : List (String × α)) : List (String × α) :=
  members.foldl (fun sorted member => insertMember member.1 member.2 sorted) []

mutual

/-- Every object of the value sorted. -/
def sorted : Json → Json
  | .null => .null
  | .bool value => .bool value
  | .number value => .number value
  | .string text => .string text
  | .array items => .array (sortedItems items)
  | .object members => .object (sortMembers (sortedMembers members))
termination_by structural value => value

def sortedItems : List Json → List Json
  | [] => []
  | item :: rest => item.sorted :: sortedItems rest
termination_by structural items => items

def sortedMembers : List (String × Json) → List (String × Json)
  | [] => []
  | member :: rest => sortedMember member :: sortedMembers rest
termination_by structural members => members

def sortedMember : String × Json → String × Json
  | (key, value) => (key, value.sorted)
termination_by structural member => member

end

end Json

end HostAttestation
