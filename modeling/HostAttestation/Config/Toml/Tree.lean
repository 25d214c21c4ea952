import HostAttestation.Json.Basic

/-! # Tables in the making

A table is opened by a header, implied by the header of a table within it, or made by a dotted key.
A header may open an implied table once; dotted keys only add to tables that dotted keys have made,
except below the last table of a list. -/

namespace HostAttestation

namespace Toml

inductive Origin
  | header
  | implied
  | dotted
  deriving DecidableEq, Repr

/-- A value, a table, or a list of tables of which the last one is in the making. -/
inductive Node
  | value (value : Json)
  | table (origin : Origin) (members : List (String × Node))
  | tables (list : List (List (String × Node)))

abbrev Members := List (String × Node)

namespace Members

def find? (key : String) : Members → Option Node
  | [] => none
  | (other, node) :: rest => if other = key then some node else find? key rest

def put (key : String) (node : Node) : Members → Members
  | [] => [(key, node)]
  | (other, kept) :: rest =>
      if other = key then (key, node) :: rest else (other, kept) :: put key node rest

/-- Changes the last table of a list. -/
def changeLast (change : Members → Option Members) : List Members → Option (List Members)
  | [] => none
  | [last] => (change last).map ([·])
  | first :: rest => (changeLast change rest).map (first :: ·)

/-- Sets a key within the tables that a dotted path names. Only a table that a dotted key may add
to is `addable`. -/
def set? (key : String) (value : Json) :
    (path : List String) → (addable : Bool) → Members → Option Members
  | [], addable, members =>
      if addable && (find? key members).isNone then some (put key (.value value) members) else none
  | first :: path, _, members =>
      match find? first members with
      | none =>
          (set? key value path true []).map fun inner => put first (.table .dotted inner) members
      | some (.table origin inner) =>
          if origin = .header then none
          else
            (set? key value path (origin = .dotted) inner).map fun inner =>
              put first (.table origin inner) members
      | some (.tables list) =>
          (changeLast (set? key value path false) list).map fun list =>
            put first (.tables list) members
      | some (.value _) => none

/-- Changes the node at the end of a path, the tables on the way to it being implied. -/
def change? (last : String) (change : Option Node → Option Node) :
    (path : List String) → Members → Option Members
  | [], members => (change (find? last members)).map fun node => put last node members
  | first :: path, members =>
      match find? first members with
      | none =>
          (change? last change path []).map fun inner => put first (.table .implied inner) members
      | some (.table origin inner) =>
          (change? last change path inner).map fun inner => put first (.table origin inner) members
      | some (.tables list) =>
          (changeLast (change? last change path) list).map fun list =>
            put first (.tables list) members
      | some (.value _) => none

/-- Changes the table that was opened last, which is at a path. -/
def inside? (change : Members → Option Members) : (path : List String) → Members → Option Members
  | [], members => change members
  | first :: path, members =>
      match find? first members with
      | some (.table origin inner) =>
          (inside? change path inner).map fun inner => put first (.table origin inner) members
      | some (.tables list) =>
          (changeLast (inside? change path) list).map fun list => put first (.tables list) members
      | _ => none

end Members

/-- What a header makes of the node that it names. -/
def openTable : Option Node → Option Node
  | none => some (.table .header [])
  | some (.table .implied members) => some (.table .header members)
  | _ => none

/-- What a header in double brackets makes of the node that it names. -/
def openItem : Option Node → Option Node
  | none => some (.tables [[]])
  | some (.tables list) => some (.tables (list ++ [[]]))
  | _ => none

mutual

def Node.toJson : Node → Json
  | .value value => value
  | .table _ members => .object (membersJson members)
  | .tables list => .array (tablesJson list)
termination_by structural node => node

def membersJson : List (String × Node) → List (String × Json)
  | [] => []
  | member :: rest => memberJson member :: membersJson rest
termination_by structural members => members

def memberJson : String × Node → String × Json
  | (key, node) => (key, node.toJson)
termination_by structural member => member

def tablesJson : List (List (String × Node)) → List Json
  | [] => []
  | members :: rest => .object (membersJson members) :: tablesJson rest
termination_by structural list => list

end

end Toml

end HostAttestation
