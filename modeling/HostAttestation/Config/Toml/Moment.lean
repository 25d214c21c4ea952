import HostAttestation.Bytes.Hex

/-! # Dates and times of configuration text

A date, a time of the day, or both, perhaps with an offset. It is written back in one form: a T
between date and time, seconds with up to nine places and no zeros at the end, a capital Z. -/

namespace HostAttestation

namespace Toml

structure Date where
  year : Nat
  month : Nat
  day : Nat
  deriving DecidableEq, Repr

structure Time where
  hour : Nat
  minute : Nat
  second : Nat
  nanosecond : Nat
  deriving DecidableEq, Repr

/-- Where a time counts from: universal time, or so many minutes before or behind it. -/
inductive Offset
  | universal
  | minutes (count : Int)
  deriving DecidableEq, Repr

structure Moment where
  date : Option Date
  time : Option Time
  offset : Option Offset
  deriving DecidableEq, Repr

namespace Moment

def isDigit (c : Char) : Bool :=
  '0' ≤ c && c ≤ '9'

def natOf (digits : List Char) : Nat :=
  digits.foldl (fun number digit => number * 10 + (digit.toNat - 48)) 0

/-- A number of so many digits. -/
def number? (width : Nat) (text : List Char) : Option (Nat × List Char) :=
  let digits := text.take width
  if digits.length = width ∧ digits.all isDigit then some (natOf digits, text.drop width) else none

def symbol? (c : Char) (text : List Char) : Option (List Char) :=
  if text.head? = some c then some (text.drop 1) else none

def isLeapYear (year : Nat) : Bool :=
  year % 4 = 0 && (year % 100 ≠ 0 || year % 400 = 0)

def daysOf (year month : Nat) : Nat :=
  if month = 2 then if isLeapYear year then 29 else 28
  else if month ∈ [4, 6, 9, 11] then 30
  else 31

def date? (text : List Char) : Option (Date × List Char) := do
  let (year, rest) ← number? 4 text
  let (month, rest) ← number? 2 (← symbol? '-' rest)
  let (day, rest) ← number? 2 (← symbol? '-' rest)
  if 1 ≤ month ∧ month ≤ 12 ∧ 1 ≤ day ∧ day ≤ daysOf year month then pure (⟨year, month, day⟩, rest)
  else none

/-- Hours and minutes. -/
def clock? (text : List Char) : Option (Nat × Nat × List Char) := do
  let (hour, rest) ← number? 2 text
  let (minute, rest) ← number? 2 (← symbol? ':' rest)
  if hour < 24 ∧ minute < 60 then pure (hour, minute, rest) else none

/-- Places behind the second, of which nine count. -/
def fraction (text : List Char) : Nat × List Char :=
  match text with
  | '.' :: rest =>
      match rest.takeWhile isDigit with
      | [] => (0, text)
      | digits =>
          let kept := digits.take 9
          (natOf kept * Nat.pow 10 (9 - kept.length), rest.dropWhile isDigit)
  | _ => (0, text)

/-- A minute may have a leap second. -/
def time? (text : List Char) : Option (Time × List Char) := do
  let (hour, minute, rest) ← clock? text
  let (second, rest) ← number? 2 (← symbol? ':' rest)
  let (nanosecond, rest) := fraction rest
  if second ≤ 60 then pure (⟨hour, minute, second, nanosecond⟩, rest) else none

def offset? (text : List Char) : Option (Offset × List Char) :=
  match text with
  | 'Z' :: rest => some (.universal, rest)
  | 'z' :: rest => some (.universal, rest)
  | '+' :: rest =>
      (clock? rest).map fun (hour, minute, rest) => (.minutes (hour * 60 + minute), rest)
  | '-' :: rest =>
      (clock? rest).map fun (hour, minute, rest) => (.minutes (-(hour * 60 + minute)), rest)
  | _ => none

def isDelimiter (c : Char) : Bool :=
  c = 'T' || c = 't' || c = ' '

/-- A date, and the time behind it if there is one. -/
def dated? (text : List Char) : Option (Moment × List Char) :=
  match date? text with
  | none => none
  | some (date, rest) =>
      match if rest.head?.any isDelimiter then time? (rest.drop 1) else none with
      | none => some (⟨some date, none, none⟩, rest)
      | some (time, rest) =>
          match offset? rest with
          | none => some (⟨some date, some time, none⟩, rest)
          | some (offset, rest) => some (⟨some date, some time, some offset⟩, rest)

def read? (text : List Char) : Option (Moment × List Char) :=
  match dated? text with
  | some result => some result
  | none => (time? text).map fun (time, rest) => (⟨none, some time, none⟩, rest)

/-! ## Text -/

def padded (width number : Nat) : String :=
  let digits := Nat.toDigits 10 number
  String.ofList (List.replicate (width - digits.length) '0' ++ digits)

def dateText (date : Date) : String :=
  padded 4 date.year ++ "-" ++ padded 2 date.month ++ "-" ++ padded 2 date.day

def fractionText (nanosecond : Nat) : String :=
  if nanosecond = 0 then ""
  else
    let digits := (padded 9 nanosecond).toList
    "." ++ String.ofList (digits.reverse.dropWhile (· = '0')).reverse

def timeText (time : Time) : String :=
  padded 2 time.hour ++ ":" ++ padded 2 time.minute ++ ":" ++ padded 2 time.second ++
    fractionText time.nanosecond

def offsetText : Offset → String
  | .universal => "Z"
  | .minutes count =>
      (if count < 0 then "-" else "+") ++ padded 2 (count.natAbs / 60) ++ ":" ++
        padded 2 (count.natAbs % 60)

def text (moment : Moment) : String :=
  match moment.date, moment.time with
  | some date, some time =>
      dateText date ++ "T" ++ timeText time ++ (moment.offset.map offsetText).getD ""
  | some date, none => dateText date
  | none, some time => timeText time
  | none, none => ""

end Moment

end Toml

end HostAttestation
