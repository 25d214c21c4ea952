import HostAttestation.Proofs.Quote.RoundTrip

/-! # Quotes that are cut short or continued

Whether a blob is a quote is decided by all of its bytes. A reader that takes off some bytes finds
any fewer of them to end too early, wherever they are cut, so no blob of a quote begins another
one. What stands behind a quote is not read at all, but counted. -/

namespace HostAttestation

/-- The bytes, of which there are so many in all, end inside of a part that needs more of them. -/
inductive QuoteFault.EndsEarly (length : Nat) : QuoteFault → Prop
  | truncated (part : String) {needed offset left : Nat} (all : offset + left = length)
      (short : left < needed) : EndsEarly length (.truncated part needed offset left)

/-- Without the last ones of the bytes that it takes off, the reader finds an early end. -/
def NeedsAll {α : Type} (reader : QuoteReader α) : Prop :=
  ∀ (cut lost : Bytes) (offset : Nat) (value : α) (next : Cursor),
    reader.run ⟨cut ++ lost, offset⟩ = .ok (value, next) → next.rest.length < lost.length →
      ∃ fault, reader.run ⟨cut, offset⟩ = .error fault ∧ fault.EndsEarly (offset + cut.length)

namespace NeedsAll

variable {α β : Type} {reader other : QuoteReader α} {next : α → QuoteReader β} {form : Form α}

/-- A reader that takes nothing off has nothing to miss. -/
theorem of_still
    (still : ∀ cursor value last, reader.run cursor = .ok (value, last) → last = cursor) :
    NeedsAll reader := by
  intro cut lost offset value last run fewer
  rw [still _ _ _ run, List.length_append] at fewer
  omega

theorem pure (value : α) : NeedsAll (Pure.pure value : QuoteReader α) :=
  of_still fun cursor result last run => by
    cases run
    rfl

theorem throw (fault : QuoteFault) : NeedsAll (MonadExcept.throw fault : QuoteReader α) :=
  of_still fun _ _ _ run => by cases run

theorem lift (step : Except QuoteFault α) : NeedsAll (liftM step : QuoteReader α) := by
  cases step with
  | error fault => exact throw fault
  | ok value => exact pure value

theorem ite (condition : Prop) [Decidable condition] (needs : NeedsAll reader)
    (otherNeeds : NeedsAll other) : NeedsAll (if condition then reader else other) := by
  by_cases holds : condition
  · simpa only [if_pos holds] using needs
  · simpa only [if_neg holds] using otherNeeds

/-- The cut is in the bytes of the first reader, or it leaves all of these to it. -/
theorem bind (reads : Reads reader form) (needs : NeedsAll reader)
    (nextNeeds : ∀ value, NeedsAll (next value)) : NeedsAll (reader >>= next) := by
  intro cut lost offset result last run fewer
  rcases Reads.run_bind_eq_ok_iff.mp run with ⟨value, middle, firstRun, secondRun⟩
  rcases (reads _ _ _).mp firstRun with ⟨first, formed, rest, reached⟩
  change cut ++ lost = first ++ middle.rest at rest
  by_cases within : first.length ≤ cut.length
  · obtain ⟨kept, rfl⟩ : first <+: cut :=
      List.prefix_of_prefix_length_le (rest ▸ List.prefix_append first _)
        (List.prefix_append cut lost) within
    rw [List.append_assoc] at rest
    have behind : middle = ⟨kept ++ lost, offset + first.length⟩ := by
      cases middle
      cases List.append_cancel_left rest
      cases reached
      rfl
    rw [behind] at secondRun
    rcases nextNeeds value kept lost _ result last secondRun fewer with ⟨fault, fails, early⟩
    refine ⟨fault, ?_, ?_⟩
    · rw [reads.run_bind_append formed kept offset]
      exact fails
    · rw [List.length_append, ← Nat.add_assoc]
      exact early
  · have missing : middle.rest.length < lost.length := by
      have lengths := congrArg List.length rest
      simp only [List.length_append] at lengths
      omega
    rcases needs cut lost offset value middle firstRun missing with ⟨fault, fails, early⟩
    refine ⟨fault, ?_, early⟩
    rw [StateT.run_bind, fails]
    rfl

/-! ## Parts of a quote -/

theorem take (length : Nat) (part : String) : NeedsAll (Cursor.take length part) := by
  intro cut lost offset bytes last run fewer
  rcases (Reads.take length part _ _ _).mp run with ⟨_, ⟨rfl, width⟩, rest, -⟩
  have lengths := congrArg List.length rest
  simp only [List.length_append] at lengths
  have short : cut.length < length := by omega
  refine ⟨.truncated part length offset cut.length, ?_, .truncated part rfl short⟩
  have missing : (cut.take length).length ≠ length := by
    rw [List.length_take]
    omega
  change (if (cut.take length).length = length then _ else _) = _
  rw [if_neg missing]

theorem number (width : Nat) (part : String) : NeedsAll (Cursor.number width part) :=
  bind (Reads.take width part) (take width part) fun _ => pure _

theorem sized (part : String) : NeedsAll (Cursor.sized part) :=
  bind (Reads.number 2 part) (number 2 part) fun length => take length part

theorem signatureBytes (scheme : UInt16) : NeedsAll (QuoteSignature.readBytes scheme) :=
  ite _ (sized "signature") <|
    ite _
      (bind (Reads.sized "signatureR") (sized "signatureR") fun _ =>
        bind (Reads.sized "signatureS") (sized "signatureS") fun _ => pure _)
      (throw _)

theorem signature : NeedsAll QuoteSignature.read :=
  bind (Reads.number 2 "sigAlg") (number 2 "sigAlg") fun scheme =>
    ite (UInt16.ofNat scheme = QuoteSignature.noScheme) (pure _) <|
      bind (Reads.number 2 "signature hash") (number 2 "signature hash") fun _ =>
        bind (Reads.signatureBytes _) (signatureBytes _) fun _ => pure _

theorem value (pcr : PcrId) : NeedsAll (TpmQuote.readValue pcr) :=
  bind (Reads.take _ "PCR value") (take _ "PCR value") fun digest => by
    cases PcrValue.ofDigest pcr digest with
    | ok value => exact pure value
    | error violation => exact throw _

theorem values (pcrs : List PcrId) : NeedsAll (TpmQuote.readValues pcrs) := by
  induction pcrs with
  | nil => exact pure []
  | cons pcr rest induction =>
      exact bind (Reads.value pcr) (value pcr) fun _ =>
        bind (Reads.values rest) induction fun _ => pure _

/-- The attested structure is read off bytes that have already been counted. -/
theorem quote : NeedsAll TpmQuote.readOpen :=
  bind (Reads.sized "TPM2B_ATTEST") (sized "TPM2B_ATTEST") fun bytes =>
    bind (Reads.lift (TpmQuote.readAttested.run (.ofBytes bytes))) (lift _) fun attested =>
      bind Reads.signature signature fun _ =>
        bind (Reads.values _) (values (TpmQuote.selected attested.1.selections)) fun _ => pure _

end NeedsAll

namespace TpmQuote

variable {blob : Bytes} {quote : TpmQuote}

theorem run_readOpen_append (parsed : parse blob = .ok quote) (more : Bytes) :
    readOpen.run (.ofBytes (blob ++ more)) = .ok (quote, ⟨more, blob.length⟩) := by
  rw [← Nat.zero_add blob.length]
  exact Reads.quote.run_append ((parse_eq_ok_iff blob quote).mp parsed) more 0

theorem parse_eq_error_of_readOpen {fault : QuoteFault}
    (fails : readOpen.run (.ofBytes blob) = .error fault) : parse blob = .error fault := by
  rw [parse, read_eq, StateT.run_bind, fails]
  rfl

/-- No blob that is accepted begins another one. A part of it ends too early, at whatever byte it
is cut, and whatever is added to it is found to be too much. -/
theorem prefixFree_of_parse (parsed : parse blob = .ok quote) :
    (∀ cut, cut <+: blob → cut ≠ blob →
      ∃ fault, parse cut = .error fault ∧ fault.EndsEarly cut.length) ∧
    ∀ more, more ≠ [] → parse (blob ++ more) = .error (.trailing more.length) := by
  constructor
  · rintro cut ⟨lost, whole⟩ shorter
    have missing : 0 < lost.length := by
      refine List.length_pos_iff.mpr fun nothing => shorter ?_
      rw [← whole, nothing, List.append_nil]
    have run := run_readOpen_append parsed []
    rw [List.append_nil, ← whole] at run
    rcases NeedsAll.quote cut lost 0 quote _ run missing with ⟨fault, fails, early⟩
    rw [Nat.zero_add] at early
    exact ⟨fault, parse_eq_error_of_readOpen fails, early⟩
  · intro more added
    rw [parse, read_eq, StateT.run_bind, run_readOpen_append parsed more]
    cases more with
    | nil => exact absurd rfl added
    | cons byte rest => rfl

/-- The blob is cut between the two bytes that count the second half of its signature, and another
such half is added to it behind the values. -/
theorem prefixFree_of_parse_uneven :
    parse unevenBlob = .ok uneven ∧
    (∃ fault, parse (unevenBlob.take 81) = .error fault ∧ fault.EndsEarly 81) ∧
    parse (unevenBlob ++ [0, 1, 3]) = .error (.trailing 3) := by
  have free := prefixFree_of_parse parse_unevenBlob
  exact ⟨parse_unevenBlob, free.1 (unevenBlob.take 81) (List.take_prefix 81 _) (by decide),
    free.2 [0, 1, 3] (by decide)⟩

end TpmQuote

end HostAttestation
