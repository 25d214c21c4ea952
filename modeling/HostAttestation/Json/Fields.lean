import HostAttestation.Json.Parser

/-! # Reading typed values

A reader takes a source and fails either because the source is not of the expected form or
because a value in it is refused for a reason of its own. The first failure in the order of the
text wins.

`Fields` describes the members of a record once for both of its written forms: an object, whose
members come in any order, and an array of the values in the order of the description. -/

namespace HostAttestation

namespace Json

inductive Fault (ε : Type)
  | malformed
  | refused (reason : ε)
  deriving DecidableEq, Repr

abbrev Reader (ε α : Type) :=
  Source → Except (Fault ε) α

namespace Reader

variable {ε α β : Type}

def text : Reader ε String
  | .string text => .ok text
  | _ => .error .malformed

def bool : Reader ε Bool
  | .bool value => .ok value
  | _ => .error .malformed

/-- An integer from `low` to `high`. -/
def integer (low high : Int) : Reader ε Int
  | .number (.integer value) =>
      if low ≤ value ∧ value ≤ high then .ok value else .error .malformed
  | _ => .error .malformed

/-- An integer of so many bits beside its sign. -/
def signed (bits : Nat) : Reader ε Int :=
  integer (-capacity bits) (capacity bits - 1)

def int32 : Reader ε Int :=
  signed 31

def int64 : Reader ε Int :=
  signed 63

def natural (bits : Nat) : Reader ε Nat :=
  fun source => (integer 0 (capacity bits - 1) source).map Int.toNat

/-- Null or a value. -/
def nullable (read : Reader ε α) : Reader ε (Option α)
  | .null => .ok none
  | source => (read source).map some

def items (read : Reader ε α) : List Source → Except (Fault ε) (List α)
  | [] => .ok []
  | item :: rest => do
      let value ← read item
      let values ← items read rest
      pure (value :: values)

def list (read : Reader ε α) : Reader ε (List α)
  | .array sources closed => do
      let values ← items read sources
      if closed then pure values else .error .malformed
  | _ => .error .malformed

/-- A text with a form of its own. -/
def encoded (decode? : String → Option α) : Reader ε α
  | .string text =>
      match decode? text with
      | some value => .ok value
      | none => .error .malformed
  | _ => .error .malformed

/-- A value on which a condition is imposed once it is read. -/
def checked (read : Reader ε α) (check : α → Except ε β) : Reader ε β :=
  fun source => do
    let value ← read source
    match check value with
    | .ok result => pure result
    | .error reason => .error (.refused reason)

def skip : Reader ε Unit :=
  fun source => if source.isWellFormed then .ok () else .error .malformed

def json : Reader ε Json :=
  fun source =>
    match source.toJson? with
    | some value => .ok value
    | none => .error .malformed

end Reader

/-- The members of a record. The slots hold what was read so far; `fill` takes a member it knows
and `inOrder` takes the leading values of an array. -/
structure Fields (ε α : Type) where
  Slots : Type
  empty : Slots
  fill : Slots → String → Source → Option (Except (Fault ε) Slots)
  finish : Slots → Except (Fault ε) α
  inOrder : List Source → Except (Fault ε) (α × List Source)

namespace Fields

variable {ε α β : Type}

/-- A member under any of its keys, given at most once. -/
def member (keys : List String) (read : Reader ε α) (absent : Except (Fault ε) α) :
    Fields ε α where
  Slots := Option α
  empty := none
  fill slot key source :=
    if key ∈ keys then
      some (match slot with
        | some _ => .error .malformed
        | none => (read source).map some)
    else none
  finish
    | some value => .ok value
    | none => absent
  inOrder
    | [] => absent.map fun value => (value, [])
    | source :: rest => (read source).map fun value => (value, rest)

def required (key : String) (read : Reader ε α) : Fields ε α :=
  member [key] read (.error .malformed)

def defaulted (key : String) (read : Reader ε α) (default : α) : Fields ε α :=
  member [key] read (.ok default)

def optional (key : String) (read : Reader ε α) : Fields ε (Option α) :=
  member [key] (Reader.nullable read) (.ok none)

def constant (value : α) : Fields ε α where
  Slots := Unit
  empty := ()
  fill _ _ _ := none
  finish _ := .ok value
  inOrder sources := .ok (value, sources)

def apply (functions : Fields ε (α → β)) (arguments : Fields ε α) : Fields ε β where
  Slots := functions.Slots × arguments.Slots
  empty := (functions.empty, arguments.empty)
  fill slots key source :=
    match functions.fill slots.1 key source with
    | some filled => some (filled.map fun left => (left, slots.2))
    | none =>
        (arguments.fill slots.2 key source).map fun filled =>
          filled.map fun right => (slots.1, right)
  finish slots := do
    let function ← functions.finish slots.1
    let argument ← arguments.finish slots.2
    pure (function argument)
  inOrder sources := do
    let (function, rest) ← functions.inOrder sources
    let (argument, rest) ← arguments.inOrder rest
    pure (function argument, rest)

instance : Applicative (Fields ε) where
  pure := constant
  seq functions arguments := functions.apply (arguments ())

/-- Takes the members one after the other; those that are not known are passed over. -/
def fillAll (fields : Fields ε α) :
    List (Option String × Source) → fields.Slots → Except (Fault ε) fields.Slots
  | [], slots => .ok slots
  | (none, _) :: _, _ => .error .malformed
  | (some key, source) :: rest, slots =>
      match fields.fill slots key source with
      | some filled => do fields.fillAll rest (← filled)
      | none => do
          Reader.skip source
          fields.fillAll rest slots

def ofMembers (fields : Fields ε α) (members : List (Option String × Source)) (closed : Bool) :
    Except (Fault ε) α := do
  let slots ← fields.fillAll members fields.empty
  if closed then fields.finish slots else .error .malformed

def ofItems (fields : Fields ε α) (items : List Source) (closed : Bool) :
    Except (Fault ε) α := do
  let (value, rest) ← fields.inOrder items
  if rest.isEmpty && closed then pure value else .error .malformed

def read (fields : Fields ε α) : Reader ε α
  | .object members closed => fields.ofMembers members closed
  | .array items closed => fields.ofItems items closed
  | _ => .error .malformed

/-- Reads a record whose list may be longer than the description. -/
def readLeading (fields : Fields ε α) : Reader ε α
  | .array items true => (fields.inOrder items).map Prod.fst
  | source => fields.read source

/-! ## Records that end in another one

Members that are not known must be readable and are kept, in their order, for the other part.
Such a record is written as an object only. -/

def fillKnown (fields : Fields ε α) :
    List (Option String × Source) → fields.Slots →
      Except (Fault ε) (fields.Slots × List (Option String × Source))
  | [], slots => .ok (slots, [])
  | (none, _) :: _, _ => .error .malformed
  | (some key, source) :: rest, slots =>
      match fields.fill slots key source with
      | some filled => do fields.fillKnown rest (← filled)
      | none =>
          if source.isReadable then do
            let (slots, others) ← fields.fillKnown rest slots
            pure (slots, (some key, source) :: others)
          else .error .malformed

def readWith (fields : Fields ε (α → β))
    (others : List (Option String × Source) → Except (Fault ε) α) : Reader ε β
  | .object members closed => do
      let (slots, rest) ← fields.fillKnown members fields.empty
      if closed then
        let function ← fields.finish slots
        function <$> others rest
      else .error .malformed
  | _ => .error .malformed

end Fields

/-- Reads a whole text: nothing may follow the value. -/
def Document.read {ε α : Type} (document : Document) (read : Reader ε α) :
    Except (Fault ε) α := do
  let value ← read document.root
  if document.ended then pure value else .error .malformed

end Json

end HostAttestation
