import HostAttestation.Json.Fields

/-! # Records of several kinds

One member of the record, its tag, tells the kind, and the kind tells the other members. A record
of its own is tagged by a word; a record inside another one may also be tagged by the position of
its kind. All other members must be readable, whether they are known or not. -/

namespace HostAttestation

namespace Json

structure Tagged (ε κ α : Type) where
  key : String
  ofName : String → Option κ
  ofPosition : Nat → Option κ
  fields : κ → Fields ε α

namespace Tagged

variable {ε κ α : Type}

def ofWord (tagged : Tagged ε κ α) : Source → Option κ
  | .string name => tagged.ofName name
  | _ => none

def ofWordOrPosition (tagged : Tagged ε κ α) : Source → Option κ
  | .number (.integer (.ofNat position)) => tagged.ofPosition position
  | source => tagged.ofWord source

def ofMembers (tagged : Tagged ε κ α) (kindOf : Source → Option κ)
    (members : List (Option String × Source)) : Except (Fault ε) α :=
  match members.filter fun member => member.1 = some tagged.key with
  | [(_, tag)] =>
      match kindOf tag with
      | none => .error .malformed
      | some kind =>
          let others := members.filter fun member => member.1 ≠ some tagged.key
          if others.all fun member => member.1.isSome && member.2.isReadable then
            (tagged.fields kind).ofMembers others true
          else .error .malformed
  | _ => .error .malformed

/-- A record inside another one, given by the members that the other one does not know. -/
def readInside (tagged : Tagged ε κ α) (members : List (Option String × Source)) :
    Except (Fault ε) α :=
  tagged.ofMembers tagged.ofWordOrPosition members

/-- A record of its own. An array gives the tag and then the other values in their order. -/
def read (tagged : Tagged ε κ α) : Reader ε α
  | .object members true => tagged.ofMembers tagged.ofWord members
  | .array (tag :: items) true =>
      match tagged.ofWord tag with
      | none => .error .malformed
      | some kind =>
          if items.all Source.isReadable then (tagged.fields kind).ofItems items true
          else .error .malformed
  | _ => .error .malformed

end Tagged

end Json

end HostAttestation
