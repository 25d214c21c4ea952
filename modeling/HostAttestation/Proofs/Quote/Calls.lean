import HostAttestation.Proofs.Quote.Checked

/-! # Calls of a loop

A loop that reads one thing after the other ends with the first call that fails. Every selection of
a quote takes off three bytes at least, so however many selections a quote announces, no more calls
are made than the bytes that are there can pay for, and one that fails. -/

namespace HostAttestation

namespace Window

variable {α : Type} {words : Nat} {window start : Window}

/-- What the calls answer that a loop makes, up to the first one that fails. -/
def calls (read : WindowReader α) :
    (count : Nat) → Window → List (Except Halt (α × Window))
  | 0, _ => []
  | count + 1, window =>
      match read.run window with
      | .error halt => [.error halt]
      | .ok (value, next) => .ok (value, next) :: calls read count next

/-- How the calls of a loop and its outcome belong together. -/
inductive Ends (count : Nat) (outcome : Except Halt (List α × Window)) :
    List (Except Halt (α × Window)) → Prop
  | through (results : List (α × Window)) (last : Window) (all : results.length = count)
      (values : outcome = .ok (results.map Prod.fst, last)) : Ends count outcome (results.map .ok)
  | stopped (results : List (α × Window)) (halt : Halt) (fewer : results.length < count)
      (fails : outcome = .error halt) : Ends count outcome (results.map .ok ++ [.error halt])

section

variable {read : WindowReader α}

theorem calls_of_error {halt : Halt} (fails : read.run window = .error halt) (count : Nat) :
    calls read (count + 1) window = [.error halt] := by
  rw [calls, fails]

theorem calls_of_ok {value : α} {next : Window} (succeeds : read.run window = .ok (value, next))
    (count : Nat) :
    calls read (count + 1) window = .ok (value, next) :: calls read count next := by
  rw [calls, succeeds]

theorem run_bind_of_ok {β : Type} {behind : α → WindowReader β} {value : α}
    {next : Window} (succeeds : read.run window = .ok (value, next)) :
    (read >>= behind).run window = (behind value).run next := by
  rw [StateT.run_bind, succeeds]
  rfl

theorem run_bind_of_error {β : Type} {behind : α → WindowReader β}
    {halt : Halt} (fails : read.run window = .error halt) :
    (read >>= behind).run window = .error halt := by
  rw [StateT.run_bind, fails]
  rfl

theorem ends_calls (read : WindowReader α) (count : Nat) (window : Window) :
    Ends count ((times read count).run window) (calls read count window) := by
  induction count generalizing window with
  | zero => exact .through [] window rfl rfl
  | succ count induction =>
      rw [times]
      cases run : read.run window with
      | error halt =>
          rw [calls_of_error run, run_bind_of_error run]
          exact .stopped [] halt (Nat.succ_pos count) rfl
      | ok result =>
          rcases result with ⟨value, next⟩
          rw [calls_of_ok run, run_bind_of_ok run]
          have ends := induction next
          generalize reached : (times read count).run next = outcome at ends
          generalize calls read count next = made at ends ⊢
          cases ends with
          | through results last all values =>
              rw [run_bind_of_ok (reached.trans values)]
              exact .through ((value, next) :: results) last (congrArg (· + 1) all) rfl
          | stopped results halt fewer fails =>
              rw [run_bind_of_error (reached.trans fails)]
              exact .stopped ((value, next) :: results) halt (Nat.succ_lt_succ fewer) rfl

theorem countP_isOk_map (results : List (α × Window)) :
    (results.map (Except.ok : α × Window → Except Halt (α × Window))).countP Except.isOk =
      results.length := by
  rw [List.countP_map]
  exact List.countP_eq_length.mpr fun _ _ => rfl

/-- At most the last call fails. -/
theorem Ends.length_le {count : Nat} {outcome : Except Halt (List α × Window)}
    {made : List (Except Halt (α × Window))} (ends : Ends count outcome made) :
    made.length ≤ made.countP Except.isOk + 1 ∧ made.length ≤ count := by
  cases ends with
  | through results last all values =>
      rw [countP_isOk_map, List.length_map]
      exact ⟨Nat.le_succ _, Nat.le_of_eq all⟩
  | stopped results halt fewer fails =>
      rw [List.countP_append, countP_isOk_map, List.length_append, List.length_map]
      exact ⟨Nat.le_refl _, fewer⟩

theorem Ends.countP_eq {count : Nat} {outcome : Except Halt (List α × Window)}
    {made : List (Except Halt (α × Window))} (ends : Ends count outcome made)
    {result : List α × Window} (succeeds : outcome = .ok result) :
    made.countP Except.isOk = count := by
  cases ends with
  | through results last all values => rw [countP_isOk_map, all]
  | stopped results halt fewer fails =>
      rw [succeeds] at fails
      cases fails

/-- Each call that succeeds is paid for. -/
theorem cost_mul_countP_le {cost : Nat} {holds : Window → Prop} {left : Window → Nat}
    (pays : ∀ window value next, holds window → read.run window = .ok (value, next) →
      holds next ∧ left next + cost ≤ left window) (count : Nat) (held : holds window) :
    cost * (calls read count window).countP Except.isOk ≤ left window := by
  induction count generalizing window with
  | zero => exact Nat.zero_le _
  | succ count induction =>
      cases run : read.run window with
      | error halt =>
          rw [calls_of_error run]
          exact Nat.zero_le _
      | ok result =>
          rcases pays window result.1 result.2 held run with ⟨still, paid⟩
          rw [calls_of_ok run, List.countP_cons_of_pos rfl, Nat.mul_succ]
          exact Nat.le_trans (Nat.add_le_add_right (induction still) cost) paid

end

/-! ## Selections -/

/-- How many bytes of the buffer are left. -/
def left (window : Window) : Nat :=
  window.buffer.length - window.position

/-- What a selection takes off: an algorithm, the length of a bitmap, and the bitmap. -/
theorem selection_pays (window : Window) (value : PcrSelection) (next : Window)
    (sound : window.IsSound words) (run : (selection words).run window = .ok (value, next)) :
    next.IsSound words ∧ next.left + 3 ≤ window.left := by
  rcases Mirrors.selection.of_ok sound run with ⟨stillSound, cursorRun⟩
  rcases (Reads.selection _ _ _).mp cursorRun with ⟨_, ⟨bitmap, _, _, rfl⟩, rest, _⟩
  refine ⟨stillSound, ?_⟩
  have lengths := congrArg List.length rest
  simp only [cursor, List.length_append, List.length_drop, BigEndian.length_encode] at lengths
  rw [left, left]
  omega

/-- A loop over selections is sparing: it makes no more calls than it has to and than the bytes
that are left can pay for, and it succeeds only if they can pay for all. -/
structure IsSparing (words count : Nat) (start : Window) : Prop where
  ends : Ends count ((times (selection words) count).run start) (calls (selection words) count start)
  atMost : (calls (selection words) count start).length ≤ count
  paid : (calls (selection words) count start).length ≤ start.left / 3 + 1
  enough : ∀ result, (times (selection words) count).run start = .ok result → 3 * count ≤ start.left

theorem isSparing_of_isSound (sound : start.IsSound words) (count : Nat) :
    IsSparing words count start := by
  have ends := ends_calls (selection words) count start
  have cost := cost_mul_countP_le selection_pays count sound
  have lengths := ends.length_le
  refine ⟨ends, lengths.2, by omega, fun result succeeds => ?_⟩
  rwa [ends.countP_eq succeeds] at cost

/-! ## The selections of a quote -/

/-- A loop that fails ends the reading of the quote. -/
theorem parse_of_error {halt : Halt} {blob bytes : Bytes} {front : Bytes × Bytes × UInt64 × Nat}
    (counted : (sized words "TPM2B_ATTEST").run (ofBytes blob) = .ok (bytes, window))
    (reached : (preface words).run (ofBytes bytes) = .ok (front, start))
    (fails : (times (selection words) front.2.2.2).run start = .error halt) :
    Window.parse words blob = .error halt := by
  have inner : (attested words).run (ofBytes bytes) = .error halt :=
    (run_bind_of_ok reached).trans (run_bind_of_error fails)
  have lifted : (liftM ((attested words).run (ofBytes bytes)) : WindowReader _).run window =
      .error halt := by
    rw [inner]
    rfl
  have outer : (quote words).run (ofBytes blob) = .error halt :=
    (run_bind_of_ok counted).trans (run_bind_of_error lifted)
  rw [Window.parse, outer]
  rfl

/-- Reading a quote by positions stays inside of the buffers and of the machine words: it is
reading the quote, and never a trap. The loop over its selections is sparing wherever it begins,
and in a quote it ends the reading if it fails. -/
theorem inBounds_of_parse {blob : Bytes} (narrow : blob.length + BigEndian.capacity 2 ≤ words) :
    Window.parse words blob = (TpmQuote.parse blob).mapError Halt.fault ∧
    (∀ count start, IsSound words start → IsSparing words count start) ∧
    ∀ bytes rest front start,
      (sized words "TPM2B_ATTEST").run (ofBytes blob) = .ok (bytes, rest) →
      (preface words).run (ofBytes bytes) = .ok (front, start) →
        IsSound words start ∧
          ∀ halt, (times (selection words) front.2.2.2).run start = .error halt →
            ∃ fault, halt = .fault fault ∧ TpmQuote.parse blob = .error fault := by
  have parsed := parse_eq narrow
  refine ⟨parsed, fun count start sound => isSparing_of_isSound sound count, ?_⟩
  intro bytes rest front start counted reached
  have sound : (ofBytes blob).IsSound words := ⟨Nat.zero_le _, narrow⟩
  have given := ((Mirrors.sized "TPM2B_ATTEST").of_ok sound counted).2
  have inner : (ofBytes bytes).IsSound words := Mirrors.isSound_ofBytes ⟨_, sound, _, given⟩
  refine ⟨(Mirrors.preface.of_ok inner reached).1, fun halt fails => ?_⟩
  have halted := parse_of_error counted reached fails
  rw [parsed, Outcome.mapError_eq_error_iff] at halted
  rcases halted with ⟨fault, failed, same⟩
  exact ⟨fault, same.symm, failed⟩

/-! ## A quote that announces too much -/

/-- An attested structure with the greatest number of selections, of which it holds one and the
beginning of another one. -/
def greedyBytes : Bytes :=
  BigEndian.encode 4 TpmQuote.generated ++ BigEndian.encode 2 TpmQuote.quoteType ++
    List.replicate (4 + TpmQuote.clockInfoLength + 8) 0 ++ BigEndian.encode 4 4294967295 ++
    [0, 11, 3, 1, 0, 0] ++ [0, 11]

theorem inBounds_of_parse_greedy :
    Window.parse (2 ^ 64) (QuoteSignature.sized greedyBytes) =
      (TpmQuote.parse (QuoteSignature.sized greedyBytes)).mapError Halt.fault ∧
    (calls (selection (2 ^ 64)) 4294967295 ⟨greedyBytes, 39⟩).length = 2 ∧
    IsSparing (2 ^ 64) 4294967295 ⟨greedyBytes, 39⟩ ∧
    ∃ fault, Halt.fault (.truncated "sizeofSelect" 1 47 0) = .fault fault ∧
      TpmQuote.parse (QuoteSignature.sized greedyBytes) = .error fault := by
  have narrow : (QuoteSignature.sized greedyBytes).length + BigEndian.capacity 2 ≤ 2 ^ 64 := by
    decide
  rcases inBounds_of_parse narrow with ⟨parsed, sparing, stops⟩
  have counted : (sized (2 ^ 64) "TPM2B_ATTEST").run (ofBytes (QuoteSignature.sized greedyBytes)) =
      .ok (greedyBytes, ⟨QuoteSignature.sized greedyBytes, 49⟩) := by decide +kernel
  have reached : (preface (2 ^ 64)).run (ofBytes greedyBytes) =
      .ok (([], [], 0, 4294967295), ⟨greedyBytes, 39⟩) := by decide +kernel
  have stopped : (times (selection (2 ^ 64)) 4294967295).run ⟨greedyBytes, 39⟩ =
      .error (.fault (.truncated "sizeofSelect" 1 47 0)) := by decide +kernel
  rcases stops _ _ _ _ counted reached with ⟨sound, fails⟩
  exact ⟨parsed, by decide +kernel, sparing _ _ sound, fails _ stopped⟩

end Window

end HostAttestation
