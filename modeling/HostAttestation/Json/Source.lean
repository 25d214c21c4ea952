import HostAttestation.Json.Basic

/-! # JSON as a reader meets it

What a text holds, up to its first fault. A reader takes the parts in the order of the text, so
a fault behind a part that is refused is never seen. A container tells whether the text goes on
to its closing bracket; a value at which the text stops being JSON is `broken`. A value that is
well formed but cannot be taken in, such as a number out of all ranges, is `unreadable`: it may
still be passed over by a reader that has no use for it. So may a member whose key is no text, and
so has none here. -/

namespace HostAttestation

namespace Json

inductive Source
  | null
  | bool (value : Bool)
  | number (value : Json.Number)
  | string (text : String)
  | array (items : List Source) (closed : Bool)
  | object (members : List (Option String × Source)) (closed : Bool)
  | unreadable
  | broken

mutual

/-- The source of a value that was never a text. -/
def toSource : Json → Source
  | .null => .null
  | .bool value => .bool value
  | .number value => .number value
  | .string text => .string text
  | .array items => .array (sourceItems items) true
  | .object members => .object (sourceMembers members) true
termination_by structural value => value

def sourceItems : List Json → List Source
  | [] => []
  | item :: rest => item.toSource :: sourceItems rest
termination_by structural items => items

def sourceMembers : List (String × Json) → List (Option String × Source)
  | [] => []
  | member :: rest => sourceMember member :: sourceMembers rest
termination_by structural members => members

def sourceMember : String × Json → Option String × Source
  | (key, value) => (some key, value.toSource)
termination_by structural member => member

end

namespace Source

mutual

/-- Whether a reader can pass over the value. -/
def isWellFormed : Source → Bool
  | .array items closed => itemsWellFormed items && closed
  | .object members closed => membersWellFormed members && closed
  | .broken => false
  | _ => true
termination_by structural source => source

def itemsWellFormed : List Source → Bool
  | [] => true
  | item :: rest => item.isWellFormed && itemsWellFormed rest
termination_by structural items => items

def membersWellFormed : List (Option String × Source) → Bool
  | [] => true
  | member :: rest => memberWellFormed member && membersWellFormed rest
termination_by structural members => members

def memberWellFormed : Option String × Source → Bool
  | (_, value) => value.isWellFormed
termination_by structural member => member

end

mutual

/-- The whole value, if it can be taken in. -/
def toJson? : Source → Option Json
  | .null => some .null
  | .bool value => some (.bool value)
  | .number value => some (.number value)
  | .string text => some (.string text)
  | .array items closed =>
      if closed then (itemsJson? items).map .array else none
  | .object members closed =>
      if closed then (membersJson? members).map .object else none
  | .unreadable => none
  | .broken => none
termination_by structural source => source

def itemsJson? : List Source → Option (List Json)
  | [] => some []
  | item :: rest =>
      match item.toJson?, itemsJson? rest with
      | some value, some values => some (value :: values)
      | _, _ => none
termination_by structural items => items

def membersJson? : List (Option String × Source) → Option (List (String × Json))
  | [] => some []
  | member :: rest =>
      match memberJson? member, membersJson? rest with
      | some value, some values => some (value :: values)
      | _, _ => none
termination_by structural members => members

def memberJson? : Option String × Source → Option (String × Json)
  | (key, value) =>
      match key, value.toJson? with
      | some key, some json => some (key, json)
      | _, _ => none
termination_by structural member => member

end

def isReadable (source : Source) : Bool :=
  source.toJson?.isSome

end Source

end Json

end HostAttestation
