import HostAttestation.Bytes.Hex

/-! # Characters, strings and keys of configuration text

Strings stand between double quotes, with escapes, or between apostrophes, without. Three quotes
open a string of several lines, which ends at the last three of the first run of three quotes or
more; a run of more than five is too long. A line end in a string is a line feed, however it is
written; the one behind the opening quotes does not count. -/

namespace HostAttestation

namespace Toml

/-- What is left of a text after the part that was just read. -/
abbrev Rest := List Char

/-! ## Between values -/

def isBlank (c : Char) : Bool :=
  c = ' ' || c = '\t'

def skipBlanks (text : List Char) : List Char :=
  text.dropWhile isBlank

/-- Characters beside the line end that a comment may hold. -/
def isPlain (c : Char) : Bool :=
  c = '\t' || (' ' ≤ c && c ≠ '\x7f')

def lineEnd? : List Char → Option Rest
  | '\n' :: rest => some rest
  | '\r' :: '\n' :: rest => some rest
  | _ => none

/-- Passes over a comment, which may be missing, up to its line end. -/
def skipComment (text : List Char) : List Char :=
  match text with
  | '#' :: rest => rest.dropWhile isPlain
  | _ => text

/-- Behind a statement: blanks and a comment up to the end of the line or of the text. -/
def endLine? (text : List Char) : Option Rest :=
  match skipComment (skipBlanks text) with
  | [] => some []
  | rest => lineEnd? rest

/-- Passes over blanks, comments and line ends, a comment needing one. -/
def skipLines : (fuel : Nat) → List Char → List Char
  | 0, text => text
  | fuel + 1, text =>
      match lineEnd? (skipComment (skipBlanks text)) with
      | some rest => skipLines fuel rest
      | none => skipBlanks text

/-! ## Escapes -/

def simpleEscape? (c : Char) : Option Char :=
  if c = 'b' then some '\x08'
  else if c = 't' then some '\t'
  else if c = 'n' then some '\n'
  else if c = 'f' then some '\x0c'
  else if c = 'r' then some '\r'
  else if c = '"' then some '"'
  else if c = '\\' then some '\\'
  else none

def hexadecimal? (digits : List Char) : Option Nat :=
  digits.foldl
    (fun number digit =>
      match number, Hex.value? digit with
      | some number, some value => some (number * 16 + value)
      | _, _ => none)
    (some 0)

/-- The character with a code point of so many digits. -/
def codePoint? (width : Nat) (text : List Char) : Option (Char × Rest) :=
  if (text.take width).length = width then
    match hexadecimal? (text.take width) with
    | some code => if code.isValidChar then some (Char.ofNat code, text.drop width) else none
    | none => none
  else none

/-- Reads what follows a backslash. -/
def escaped? : List Char → Option (Char × Rest)
  | [] => none
  | 'u' :: rest => codePoint? 4 rest
  | 'U' :: rest => codePoint? 8 rest
  | kind :: rest => (simpleEscape? kind).map fun c => (c, rest)

/-! ## Strings of one line -/

/-- What a string holds, the rest of the text being read one piece at a time. -/
def gather (piece? : List Char → Option (List Char × Rest)) (isEnd : Char → Bool) :
    (fuel : Nat) → List Char → Option (List Char × Rest)
  | 0, _ => none
  | _ + 1, [] => none
  | fuel + 1, c :: rest =>
      if isEnd c then some ([], rest)
      else
        match piece? (c :: rest) with
        | none => none
        | some (piece, rest) =>
            (gather piece? isEnd fuel rest).map fun (pieces, rest) => (piece ++ pieces, rest)

def literalPiece? : List Char → Option (List Char × Rest)
  | [] => none
  | c :: rest => if isPlain c then some ([c], rest) else none

def basicPiece? : List Char → Option (List Char × Rest)
  | '\\' :: rest => (escaped? rest).map fun (c, rest) => ([c], rest)
  | text => literalPiece? text

/-! ## Strings of several lines -/

def isQuote (quote c : Char) : Bool :=
  c = quote

/-- Reads a string up to the run of quotes that closes it. -/
def gatherLines (piece? : List Char → Option (List Char × Rest)) (quote : Char) :
    (fuel : Nat) → List Char → Option (List Char × Rest)
  | 0, _ => none
  | fuel + 1, text =>
      match text with
      | [] => none
      | c :: rest =>
          let run := text.takeWhile (isQuote quote)
          if 5 < run.length then none
          else if 3 ≤ run.length then
            some (List.replicate (run.length - 3) quote, text.dropWhile (isQuote quote))
          else if c = quote then
            (gatherLines piece? quote fuel rest).map fun (pieces, rest) => (c :: pieces, rest)
          else
            match piece? text with
            | none => none
            | some (piece, rest) =>
                (gatherLines piece? quote fuel rest).map fun (pieces, rest) =>
                  (piece ++ pieces, rest)

def literalLinesPiece? (text : List Char) : Option (List Char × Rest) :=
  match lineEnd? text with
  | some rest => some (['\n'], rest)
  | none => literalPiece? text

/-- Passes over blanks and line ends. -/
def skipLineEnds : (fuel : Nat) → List Char → List Char
  | 0, text => text
  | fuel + 1, text =>
      match lineEnd? (skipBlanks text) with
      | some rest => skipLineEnds fuel rest
      | none => skipBlanks text

/-- A backslash at the end of a line takes away the blanks and line ends behind it. -/
def basicLinesPiece? (text : List Char) : Option (List Char × Rest) :=
  match text with
  | '\\' :: rest =>
      match lineEnd? (skipBlanks rest) with
      | some rest => some ([], skipLineEnds rest.length rest)
      | none => basicPiece? text
  | _ => literalLinesPiece? text

def withoutLineEnd (text : List Char) : List Char :=
  (lineEnd? text).getD text

/-- A string of one line. -/
def shortText? (text : List Char) : Option (List Char × Rest) :=
  match text with
  | '"' :: rest => gather basicPiece? (isQuote '"') text.length rest
  | '\x27' :: rest => gather literalPiece? (isQuote '\x27') text.length rest
  | _ => none

/-- A string of any kind. -/
def anyText? (text : List Char) : Option (List Char × Rest) :=
  match text with
  | '"' :: '"' :: '"' :: rest => gatherLines basicLinesPiece? '"' text.length (withoutLineEnd rest)
  | '\x27' :: '\x27' :: '\x27' :: rest =>
      gatherLines literalLinesPiece? '\x27' text.length (withoutLineEnd rest)
  | _ => shortText? text

/-! ## Keys -/

def isKeyChar (c : Char) : Bool :=
  c.isAlphanum || c = '_' || c = '-'

def simpleKey? (text : List Char) : Option (List Char × Rest) :=
  match text.takeWhile isKeyChar with
  | [] => shortText? text
  | key => some (key, text.dropWhile isKeyChar)

/-- Keys have fewer parts than this. -/
def keyLimit : Nat := 80

/-- A dotted key of at most so many parts. -/
def keyWithin : (most : Nat) → List Char → Option (List String × Rest)
  | 0, _ => none
  | most + 1, text =>
      match simpleKey? (skipBlanks text) with
      | none => none
      | some (first, rest) =>
          match skipBlanks rest with
          | '.' :: rest =>
              (keyWithin most rest).map fun (others, rest) => (String.ofList first :: others, rest)
          | rest => some ([String.ofList first], rest)

def key? (text : List Char) : Option (List String × Rest) :=
  keyWithin (keyLimit - 1) text

end Toml

end HostAttestation
