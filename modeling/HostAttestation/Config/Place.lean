import HostAttestation.Json.Basic

/-! # Places in a configuration

A key of a configuration file may name a place further down: `trust_agent.http` or `servers[0]`.
What is on the way to the place is made where it is missing. A table that is put at a place is
merged with the one that is there; the keys within it are names and nothing else. -/

namespace HostAttestation

inductive Step
  | key (name : String)
  /-- An index below zero counts from the end. -/
  | item (index : Int)
  deriving DecidableEq, Repr

/-- The steps to a place, the last of them apart. -/
structure Place where
  way : List Step
  last : Step
  deriving DecidableEq, Repr

/-! ## Writing down places -/

namespace Place

def isNamePart (c : Char) : Bool :=
  c.isAlphanum || c = ' ' || c = '_' || c = '-'

def isBlank (c : Char) : Bool :=
  c = ' ' || c = '\t'

def indexLimit : Nat := Json.capacity 63

/-- An index behind its opening bracket. -/
def index? (text : List Char) : Option (Int × List Char) :=
  let text := text.dropWhile isBlank
  let isNegative := text.head? = some '-'
  let text := if isNegative then text.drop 1 else text
  let digits := text.takeWhile Char.isDigit
  let magnitude := digits.foldl (fun number digit => number * 10 + (digit.toNat - 48)) 0
  match (text.dropWhile Char.isDigit).dropWhile isBlank with
  | ']' :: rest =>
      if digits.isEmpty then none
      else if isNegative then
        if magnitude ≤ indexLimit then some (-(magnitude : Int), rest) else none
      else if magnitude < indexLimit then some (magnitude, rest) else none
  | _ => none

/-- The steps behind the first one, each of two characters at least. -/
def steps? : (fuel : Nat) → List Char → Option (List Step)
  | _, [] => some []
  | fuel + 1, '.' :: text =>
      let name := text.takeWhile isNamePart
      if name.isEmpty then none
      else (steps? fuel (text.dropWhile isNamePart)).map (.key (String.ofList name) :: ·)
  | fuel + 1, '[' :: text =>
      match index? text with
      | some (index, rest) => (steps? fuel rest).map (.item index :: ·)
      | none => none
  | _, _ => none

/-- A key that is no way to a place is the name of a setting. -/
def ofKey (key : String) : Place :=
  let text := key.toList
  let name := text.takeWhile isNamePart
  if name.isEmpty then ⟨[], .key key⟩
  else
    match steps? text.length (text.dropWhile isNamePart) with
    | none => ⟨[], .key key⟩
    | some steps =>
        let steps := .key (String.ofList name) :: steps
        ⟨steps.dropLast, steps.getLast?.getD (.key key)⟩

example : ofKey "vsphere.limits[ -1 ]" = ⟨[.key "vsphere", .key "limits"], .item (-1)⟩ := by
  decide +kernel

example : ofKey "vsphere." = ⟨[], .key "vsphere."⟩ := by decide +kernel

end Place

/-! ## Setting values -/

namespace Json

def members : Json → List (String × Json)
  | .object members => members
  | _ => []

def items : Json → List Json
  | .array items => items
  | _ => []

def findMember? (key : String) : List (String × Json) → Option Json
  | [] => none
  | (other, value) :: rest => if other = key then some value else findMember? key rest

def putMember (key : String) (value : Json) : List (String × Json) → List (String × Json)
  | [] => [(key, value)]
  | (other, kept) :: rest =>
      if other = key then (key, value) :: rest else (other, kept) :: putMember key value rest

/-- Names of settings are told apart without regard to capitals. The sign of the unit kelvin is
a capital as well, the only one whose small letter is among the first 128 characters. -/
def smallLetter (c : Char) : Char :=
  if c = '\u212a' then 'k' else c.toLower

def settingName (key : String) : String :=
  String.ofList (key.toList.map smallLetter)

mutual

/-- Sets a member; what was no table becomes one. -/
def assign (key : String) (value : Json) (table : Json) : Json :=
  let name := settingName key
  match value with
  | .object incoming =>
      let present := (findMember? name table.members).getD (.object [])
      .object (putMember name (assignAll incoming present) table.members)
  | value => .object (putMember name value table.members)
termination_by structural value

def assignAll (incoming : List (String × Json)) (table : Json) : Json :=
  match incoming with
  | [] => table
  | member :: rest => assignAll rest (assignMember member table)
termination_by structural incoming

def assignMember (member : String × Json) (table : Json) : Json :=
  match member with
  | (key, value) => assign key value table
termination_by structural member

end

/-- Where an index points in a list of so many items. -/
def position (index : Int) (count : Nat) : Nat :=
  if index < 0 then (index + count).toNat else index.toNat

/-- Changes an item, adding nulls until there is one. -/
def changeItem (index : Int) (change : Json → Json) (items : List Json) : List Json :=
  let place := position index items.length
  (items ++ List.replicate (place + 1 - items.length) Json.null).modify place change

def changeAt (change : Json → Json) : List Step → Json → Json
  | [], value => change value
  | .key name :: rest, value =>
      .object (putMember name (changeAt change rest ((findMember? name value.members).getD .null))
        value.members)
  | .item index :: rest, value => .array (changeItem index (changeAt change rest) value.items)

/-- Puts a value where the last step leads. -/
def setStep (value : Json) (parent : Json) : Step → Json
  | .key name => assign name value parent
  | .item index => .array (changeItem index (fun _ => value) parent.items)

def setAt (table : Json) (place : Place) (value : Json) : Json :=
  changeAt (fun parent => setStep value parent place.last) place.way table

/-- Puts every member at the place that its key names. -/
def placed (table : Json) : Json :=
  table.members.foldl (fun result member => result.setAt (Place.ofKey member.1) member.2)
    (.object [])

end Json

end HostAttestation
