/-! # Durations

A span of time in nanoseconds, and its text in the largest unit that gives at least one, with as
many decimals as it needs. -/

namespace HostAttestation

structure Duration where
  nanoseconds : Nat
  deriving DecidableEq, Repr

namespace Duration

def ofSeconds (seconds : Nat) : Duration :=
  ⟨seconds * 1000000000⟩

def ofMilliseconds (milliseconds : Nat) : Duration :=
  ⟨milliseconds * 1000000⟩

/-- A part of a unit in decimals: so many places, without the zeros at the end. -/
def decimals (digits part : Nat) : String :=
  let all := Nat.toDigits 10 part
  let padded := List.replicate (digits - all.length) '0' ++ all
  match (padded.reverse.dropWhile (· = '0')).reverse with
  | [] => ""
  | shown => "." ++ String.ofList shown

/-- The text in a unit of as many nanoseconds as a power of ten says. -/
def inUnit (digits : Nat) (unit : String) (duration : Duration) : String :=
  toString (duration.nanoseconds / Nat.pow 10 digits) ++
    decimals digits (duration.nanoseconds % Nat.pow 10 digits) ++ unit

def text (duration : Duration) : String :=
  if 1000000000 ≤ duration.nanoseconds then duration.inUnit 9 "s"
  else if 1000000 ≤ duration.nanoseconds then duration.inUnit 6 "ms"
  else if 1000 ≤ duration.nanoseconds then duration.inUnit 3 "µs"
  else duration.inUnit 0 "ns"

end Duration

end HostAttestation
