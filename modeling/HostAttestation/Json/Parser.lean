import HostAttestation.Bytes.Utf8
import HostAttestation.Json.Literal

/-! # Reading JSON text

The text is a byte string. Strings must be well-formed UTF-8 without raw control characters, and
escaped surrogates must come in pairs; numbers have no leading zeros and at most a finite
magnitude; containers nest at most 127 deep. Nothing but blanks may follow the value. -/

namespace HostAttestation

namespace Json

/-- The value of a text, and whether the text ends after it. -/
structure Document where
  root : Source
  ended : Bool

namespace Parser

def byte (c : Char) : UInt8 :=
  UInt8.ofNat c.toNat

def isBlank (b : UInt8) : Bool :=
  b == 0x20 || b == 0x09 || b == 0x0A || b == 0x0D

def skipBlanks (input : Bytes) : Bytes :=
  input.dropWhile isBlank

/-! ## Strings -/

/-- A string in progress: its bytes in reverse, an escaped high surrogate that waits for its
partner, and whether what was read so far is a text. -/
structure Scan where
  reversed : Bytes
  high : Option Nat
  readable : Bool

def Scan.start : Scan :=
  ⟨[], none, true⟩

def Scan.push (scan : Scan) (b : UInt8) : Scan :=
  ⟨b :: scan.reversed, none, scan.readable && scan.high.isNone⟩

def Scan.pushChar (scan : Scan) (code : Nat) : Scan :=
  ⟨(Utf8.encode (String.singleton (Char.ofNat code))).reverse ++ scan.reversed, none,
    scan.readable && scan.high.isNone⟩

/-- Takes in an escaped UTF-16 unit. -/
def Scan.pushUnit (scan : Scan) (unit : Nat) : Scan :=
  if 0xDC00 ≤ unit ∧ unit ≤ 0xDFFF then
    match scan.high with
    | some high =>
        Scan.pushChar { scan with high := none }
          (0x10000 + (high - 0xD800) * 0x400 + (unit - 0xDC00))
    | none => { scan with readable := false }
  else if 0xD800 ≤ unit ∧ unit ≤ 0xDBFF then
    ⟨scan.reversed, some unit, scan.readable && scan.high.isNone⟩
  else scan.pushChar unit

def Scan.finish (scan : Scan) : Option String :=
  if scan.readable && scan.high.isNone then Utf8.decode? scan.reversed.reverse else none

def escape? (b : UInt8) : Option UInt8 :=
  if b = byte '"' ∨ b = byte '\\' ∨ b = byte '/' then some b
  else if b = byte 'b' then some 0x08
  else if b = byte 'f' then some 0x0C
  else if b = byte 'n' then some 0x0A
  else if b = byte 'r' then some 0x0D
  else if b = byte 't' then some 0x09
  else none

def hexValue? (b : UInt8) : Option Nat :=
  Hex.value? (Char.ofNat b.toNat)

def unit? (first second third fourth : UInt8) : Option Nat :=
  match hexValue? first, hexValue? second, hexValue? third, hexValue? fourth with
  | some a, some b, some c, some d => some (((a * 16 + b) * 16 + c) * 16 + d)
  | _, _, _, _ => none

/-- Reads a string behind its opening quote. -/
def scanText : Bytes → Scan → Option (Option String × Bytes)
  | [], _ => none
  | b :: rest, scan =>
      if b = byte '"' then some (scan.finish, rest)
      else if b = byte '\\' then
        match rest with
        | [] => none
        | kind :: rest =>
            if kind = byte 'u' then
              match rest with
              | first :: second :: third :: fourth :: rest =>
                  match unit? first second third fourth with
                  | some unit => scanText rest (scan.pushUnit unit)
                  | none => none
              | _ => none
            else
              match escape? kind with
              | some escaped => scanText rest (scan.push escaped)
              | none => none
      else if b < 0x20 then none
      else scanText rest (scan.push b)

/-! ## Numbers -/

def isDigit (b : UInt8) : Bool :=
  byte '0' ≤ b && b ≤ byte '9'

def digits (input : Bytes) : List Nat × Bytes :=
  ((input.takeWhile isDigit).map fun b => b.toNat - 48, input.dropWhile isDigit)

def scanFraction (input : Bytes) : Option (List Nat × Bytes) :=
  match input with
  | [] => some ([], [])
  | b :: rest =>
      if b = byte '.' then
        match digits rest with
        | ([], _) => none
        | (fraction, rest) => some (fraction, rest)
      else some ([], input)

def scanExponent (input : Bytes) : Option (Option (Bool × List Nat) × Bytes) :=
  match input with
  | [] => some (none, [])
  | b :: rest =>
      if b = byte 'e' ∨ b = byte 'E' then
        let (negative, rest) :=
          match rest with
          | [] => (false, [])
          | sign :: after =>
              if sign = byte '-' then (true, after)
              else if sign = byte '+' then (false, after)
              else (false, rest)
        match digits rest with
        | ([], _) => none
        | (exponent, rest) => some (some (negative, exponent), rest)
      else some (none, input)

def scanNumber (input : Bytes) : Option (Source × Bytes) :=
  let (negative, body) :=
    match input with
    | [] => (false, [])
    | b :: rest => if b = byte '-' then (true, rest) else (false, input)
  match digits body with
  | ([], _) => none
  | (0 :: _ :: _, _) => none
  | (whole, rest) => do
      let (fraction, rest) ← scanFraction rest
      let (exponent, rest) ← scanExponent rest
      pure (Literal.source ⟨negative, whole, fraction, exponent⟩, rest)

/-! ## Values

A part is returned with the text behind it, which is absent after a fault. -/

def word (name : String) (value : Source) (input : Bytes) : Source × Option Bytes :=
  let letters := Utf8.encode name
  if letters.isPrefixOf input then (value, some (input.drop letters.length)) else (.broken, none)

def depthLimit : Nat := 127

/-- A container that lies too deep can only be passed over. -/
def nested (depth : Nat) (container : Source × Option Bytes) : Source × Option Bytes :=
  if depth < depthLimit then container
  else if container.2.isSome then (.unreadable, container.2)
  else (.broken, none)

/-- The text of the next element of a container: the first one follows the opening bracket, the
others a comma. -/
def element? (first : Bool) (head : UInt8) (rest : Bytes) : Option Bytes :=
  if first then some (head :: rest)
  else if head = byte ',' then some rest
  else none

mutual

def value : (fuel : Nat) → (depth : Nat) → Bytes → Source × Option Bytes
  | 0, _, _ => (.broken, none)
  | fuel + 1, depth, input =>
      match skipBlanks input with
      | [] => (.broken, none)
      | head :: rest =>
          if head = byte '"' then
            match scanText rest .start with
            | none => (.broken, none)
            | some (none, rest) => (.unreadable, some rest)
            | some (some text, rest) => (.string text, some rest)
          else if head = byte '[' then
            let (items, rest) := items fuel (depth + 1) true rest
            nested depth (.array items rest.isSome, rest)
          else if head = byte '\x7b' then
            let (members, rest) := members fuel (depth + 1) true rest
            nested depth (.object members rest.isSome, rest)
          else if head = byte 'n' then word "null" .null (head :: rest)
          else if head = byte 't' then word "true" (.bool true) (head :: rest)
          else if head = byte 'f' then word "false" (.bool false) (head :: rest)
          else
            match scanNumber (head :: rest) with
            | none => (.broken, none)
            | some (read, rest) => (read, some rest)

def items : (fuel : Nat) → (depth : Nat) → (first : Bool) → Bytes → List Source × Option Bytes
  | 0, _, _, _ => ([], none)
  | fuel + 1, depth, first, input =>
      match skipBlanks input with
      | [] => ([], none)
      | head :: rest =>
          if head = byte ']' then ([], some rest)
          else
            match element? first head rest with
            | none => ([], none)
            | some text =>
                match value fuel depth text with
                | (item, none) => ([item], none)
                | (item, some rest) =>
                    let (others, rest) := items fuel depth false rest
                    (item :: others, rest)

def members : (fuel : Nat) → (depth : Nat) → (first : Bool) → Bytes →
    List (Option String × Source) × Option Bytes
  | 0, _, _, _ => ([], none)
  | fuel + 1, depth, first, input =>
      match skipBlanks input with
      | [] => ([], none)
      | head :: rest =>
          if head = byte '\x7d' then ([], some rest)
          else
            match (element? first head rest).map skipBlanks with
            | none => ([], none)
            | some [] => ([], none)
            | some (quote :: rest) =>
                if quote ≠ byte '"' then ([], none)
                else
                  match scanText rest .start with
                  | none => ([], none)
                  | some (key, rest) =>
                      match skipBlanks rest with
                      | [] => ([(key, .broken)], none)
                      | colon :: rest =>
                          if colon ≠ byte ':' then ([(key, .broken)], none)
                          else
                            match value fuel depth rest with
                            | (value, none) => ([(key, value)], none)
                            | (value, some rest) =>
                                let (others, rest) := members fuel depth false rest
                                ((key, value) :: others, rest)

end

end Parser

/-- Every step of the parser takes a byte or goes from a container to its element, so twice the
length of the text is fuel enough. -/
def parse (input : Bytes) : Document :=
  match Parser.value (2 * input.length + 2) 0 input with
  | (root, none) => ⟨root, false⟩
  | (root, some rest) => ⟨root, (Parser.skipBlanks rest).isEmpty⟩

def parseText (text : String) : Document :=
  parse (Utf8.encode text)

end Json

end HostAttestation
