import HostAttestation.Proofs.Pcr.Value
import HostAttestation.Proofs.Quote.Selection
import HostAttestation.Proofs.Quote.Signature
import HostAttestation.Quote.Basic

/-! # The grammar of quotes

A quote is parsed from exactly the blobs of its form: the attested structure, of which some bytes
may be left, the signature, and the values of the selected registers up to the end. -/

namespace HostAttestation

open BigEndian (capacity encode)

/-! ## Values -/

namespace PcrSelection

/-- There is one value of the bank for each of the selected registers, in their order. -/
def Covers (selection : PcrSelection) (values : List PcrValue) : Prop :=
  List.Forall₂ (fun index value => value.pcr = ⟨index, selection.bank⟩) selection.pcrs values

/-- The values are those of the selections, one selection after the other. -/
def CoverInTurn (selections : List PcrSelection) (values : List PcrValue) : Prop :=
  ∃ parts, List.Forall₂ Covers selections parts ∧ values = parts.flatten

theorem covers_iff (selection : PcrSelection) (values : List PcrValue) :
    selection.Covers values ↔
      values.map PcrValue.pcr = selection.pcrs.map fun index => ⟨index, selection.bank⟩ := by
  rcases selection with ⟨bank, pcrs⟩
  induction pcrs generalizing values with
  | nil => simp [Covers]
  | cons index rest induction =>
      cases values with
      | nil => simp [Covers]
      | cons value values => simpa [Covers] using fun _ => induction values

/-- The registers of the values are listed selection by selection. -/
theorem coverInTurn_iff (selections : List PcrSelection) (values : List PcrValue) :
    CoverInTurn selections values ↔
      values.map PcrValue.pcr = TpmQuote.selected selections := by
  induction selections generalizing values with
  | nil => simp [CoverInTurn, TpmQuote.selected]
  | cons selection rest induction =>
      rw [TpmQuote.selected, List.flatMap_cons, ← TpmQuote.selected]
      constructor
      · rintro ⟨_, covers, rfl⟩
        cases covers with
        | @cons _ part _ parts first others =>
            rw [List.flatten_cons, List.map_append, (covers_iff selection part).mp first,
              (induction parts.flatten).mp ⟨parts, others, rfl⟩]
      · intro named
        rcases List.map_eq_append_iff.mp named with ⟨part, behind, rfl, first, others⟩
        rcases (induction behind).mpr others with ⟨parts, covers, rfl⟩
        exact ⟨part :: parts, .cons ((covers_iff selection part).mpr first) covers, rfl⟩

end PcrSelection

/-- Digests one after the other, whose registers are given. -/
def Form.values (pcrs : List PcrId) : Form (List PcrValue) := fun bytes values =>
  values.map PcrValue.pcr = pcrs ∧ bytes = values.flatMap PcrValue.digest

theorem Reads.value (pcr : PcrId) :
    Reads (TpmQuote.readValue pcr) fun bytes value => value.pcr = pcr ∧ bytes = value.digest := by
  refine (@Reads.bind _ _ _ _ _
    (fun digest bytes value => bytes = [] ∧ value.pcr = pcr ∧ value.digest = digest)
    (Reads.take pcr.bank.digestLength "PCR value") ?_).congr ?_
  · intro digest
    cases outcome : PcrValue.ofDigest pcr digest with
    | ok value =>
        have known := (PcrValue.ofDigest_eq_ok_iff pcr digest value).mp outcome
        refine (Reads.pure value).congr fun bytes other => ?_
        constructor
        · rintro ⟨rfl, rfl⟩
          exact ⟨rfl, known⟩
        · rintro ⟨rfl, same⟩
          have equal := (PcrValue.ofDigest_eq_ok_iff pcr digest other).mpr same
          rw [outcome] at equal
          exact ⟨rfl, (Except.ok.inj equal).symm⟩
    | error violation =>
        refine (Reads.throw _).congr fun bytes value => ?_
        simp only [false_iff, not_and]
        intro _ named same
        rw [(PcrValue.ofDigest_eq_ok_iff pcr digest value).mpr ⟨named, same⟩] at outcome
        cases outcome
  · intro bytes value
    constructor
    · rintro ⟨_, _, _, ⟨rfl, _⟩, ⟨rfl, named, rfl⟩, rfl⟩
      exact ⟨named, List.append_nil _⟩
    · rintro ⟨rfl, rfl⟩
      exact ⟨_, _, [], ⟨rfl, value.width⟩, ⟨rfl, rfl, rfl⟩, (List.append_nil _).symm⟩

theorem Reads.values (pcrs : List PcrId) : Reads (TpmQuote.readValues pcrs) (Form.values pcrs) := by
  induction pcrs with
  | nil =>
      refine (Reads.pure []).congr fun bytes values => ?_
      constructor
      · rintro ⟨rfl, rfl⟩
        exact ⟨rfl, rfl⟩
      · rintro ⟨named, rfl⟩
        rw [List.map_eq_nil_iff.mp named]
        exact ⟨rfl, rfl⟩
  | cons pcr rest induction =>
      refine ((Reads.value pcr).bind fun value => induction.bind fun values =>
        Reads.pure (value :: values)).congr fun bytes values => ?_
      constructor
      · rintro ⟨_, value, _, ⟨rfl, rfl⟩, ⟨_, values, _, ⟨rfl, rfl⟩, ⟨rfl, rfl⟩, rfl⟩, rfl⟩
        exact ⟨rfl, by simp⟩
      · rintro ⟨named, rfl⟩
        cases values with
        | nil => cases named
        | cons value values =>
            cases named
            exact ⟨_, value, _, ⟨rfl, rfl⟩, ⟨_, values, [], ⟨rfl, rfl⟩, ⟨rfl, rfl⟩,
              (List.append_nil _).symm⟩, rfl⟩

/-! ## The attested structure -/

namespace TpmQuote

/-- The attested structure with given bytes for the clock and for the selections. -/
def Attested.bytes (attested : Attested) (clock selections : Bytes) : Bytes :=
  BigEndian.encode 4 generated ++ (BigEndian.encode 2 quoteType ++
    (QuoteSignature.sized attested.qualifiedSigner ++ (QuoteSignature.sized attested.extraData ++
      (clock ++ (BigEndian.encode 8 attested.firmwareVersion.toNat ++
        (BigEndian.encode 4 attested.selections.length ++
          (selections ++ QuoteSignature.sized attested.pcrDigest)))))))

/-- What a quote says about the attested structure. -/
def attested (quote : TpmQuote) : Attested :=
  ⟨quote.qualifiedSigner, quote.extraData, quote.firmwareVersion, quote.selections,
    quote.pcrDigest⟩

/-- Every part of the attested structure fits its length. -/
structure Attested.Fits (attested : Attested) : Prop where
  qualifiedSigner : attested.qualifiedSigner.length < capacity 2
  extraData : attested.extraData.length < capacity 2
  selections : attested.selections.length < capacity 4
  pcrDigest : attested.pcrDigest.length < capacity 2

end TpmQuote

/-- The clock may be anything. -/
def Form.attested : Form TpmQuote.Attested := fun bytes attested =>
  attested.Fits ∧ ∃ (clock : Bytes) (parts : List Bytes),
    clock.length = TpmQuote.clockInfoLength ∧
      List.Forall₂ Form.selection parts attested.selections ∧
      bytes = attested.bytes clock parts.flatten

theorem Reads.attested : Reads TpmQuote.readAttested Form.attested := by
  have steps :=
    Reads.expected 4 TpmQuote.generated (by decide) "magic" .notGenerated <|
    Reads.expected 2 TpmQuote.quoteType (by decide) "type" .notQuote <|
    (Reads.sized "qualifiedSigner").bind fun qualifiedSigner =>
    (Reads.sized "extraData").bind fun extraData =>
    (Reads.take TpmQuote.clockInfoLength "clockInfo").bind fun _ =>
    (Reads.number 8 "firmwareVersion").bind fun firmwareVersion =>
    (Reads.number 4 "pcrSelect count").bind fun count =>
    (Reads.selection.times count).bind fun selections =>
    (Reads.sized "pcrDigest").bind fun pcrDigest =>
    Reads.pure (TpmQuote.Attested.mk qualifiedSigner extraData (UInt64.ofNat firmwareVersion)
      selections pcrDigest)
  refine Reads.congr steps fun bytes attested => ?_
  constructor
  · rintro ⟨_, ⟨_, ⟨_, qualifiedSigner, _, ⟨rfl, signerFits⟩,
      ⟨_, extraData, _, ⟨rfl, extraFits⟩,
        ⟨_, clock, _, ⟨rfl, clockLength⟩,
          ⟨_, firmwareVersion, _, ⟨rfl, versionFits⟩,
            ⟨_, count, _, ⟨rfl, countFits⟩,
              ⟨_, selections, _, ⟨rfl, parts, formed, rfl⟩,
                ⟨_, pcrDigest, _, ⟨rfl, digestFits⟩, ⟨rfl, rfl⟩, rfl⟩, rfl⟩, rfl⟩, rfl⟩, rfl⟩, rfl⟩,
      rfl⟩, rfl⟩, rfl⟩
    have version : (UInt64.ofNat firmwareVersion).toNat = firmwareVersion :=
      UInt64.toNat_ofNat_of_lt' versionFits
    exact ⟨⟨signerFits, extraFits, countFits, digestFits⟩, clock, parts, clockLength, formed,
      by simp [TpmQuote.Attested.bytes, version]⟩
  · rintro ⟨fits, clock, parts, clockLength, formed, rfl⟩
    exact ⟨_, ⟨_, ⟨_, _, _, ⟨rfl, fits.qualifiedSigner⟩,
      ⟨_, _, _, ⟨rfl, fits.extraData⟩,
        ⟨_, clock, _, ⟨rfl, clockLength⟩,
          ⟨_, _, _, ⟨rfl, attested.firmwareVersion.toNat_lt⟩,
            ⟨_, _, _, ⟨rfl, fits.selections⟩,
              ⟨_, _, _, ⟨rfl, parts, formed, rfl⟩,
                ⟨_, _, [], ⟨rfl, fits.pcrDigest⟩, ⟨rfl, by simp⟩, (List.append_nil _).symm⟩,
                rfl⟩, rfl⟩, rfl⟩, rfl⟩, rfl⟩, rfl⟩, rfl⟩, rfl⟩

/-! ## Blobs -/

/-- Bytes may be left behind the attested structure, but not at the end. -/
def Form.quote : Form TpmQuote := fun blob quote => ∃ attested unread signature values : Bytes,
  Form.attested attested quote.attested ∧ (attested ++ unread).length < capacity 2 ∧
    Form.signature signature quote.signature ∧
    Form.values (TpmQuote.selected quote.selections) values quote.values ∧
    blob = QuoteSignature.sized (attested ++ unread) ++ (signature ++ values)

namespace TpmQuote

def ofParts (attested : Attested) (signature : QuoteSignature) (values : List PcrValue) : TpmQuote :=
  ⟨attested.qualifiedSigner, attested.extraData, attested.firmwareVersion, attested.selections,
    attested.pcrDigest, signature, values⟩

/-- A quote, whatever follows it. -/
def readOpen : QuoteReader TpmQuote := do
  let bytes ← Cursor.sized "TPM2B_ATTEST"
  let attested ← liftM (readAttested.run (.ofBytes bytes))
  let signature ← QuoteSignature.read
  let values ← readValues (selected attested.1.selections)
  pure (ofParts attested.1 signature values)

theorem read_eq : read = readOpen >>= fun quote => readEnd >>= fun _ => pure quote := by
  simp only [readOpen, bind_assoc, pure_bind]
  rfl

end TpmQuote

theorem Reads.quote : Reads TpmQuote.readOpen Form.quote := by
  refine ((Reads.sized "TPM2B_ATTEST").bind fun bytes =>
    (Reads.lift (TpmQuote.readAttested.run (.ofBytes bytes))).bind fun attested =>
    Reads.signature.bind fun signature =>
    (Reads.values (TpmQuote.selected attested.1.selections)).bind fun values =>
    Reads.pure (TpmQuote.ofParts attested.1 signature values)).congr fun blob quote => ?_
  constructor
  · rintro ⟨_, bytes, _, ⟨rfl, fits⟩, ⟨_, ⟨attested, next⟩, _, ⟨rfl, run⟩,
      ⟨_, signature, _, signed, ⟨_, values, _, valued, ⟨rfl, rfl⟩, rfl⟩, rfl⟩, rfl⟩, rfl⟩
    rcases (Reads.attested _ _ _).mp run with ⟨part, formed, rest, _⟩
    have whole : bytes = part ++ next.rest := rest
    subst whole
    exact ⟨part, next.rest, _, _, formed, fits, signed, valued, by simp⟩
  · rintro ⟨attested, unread, signature, values, formed, fits, signed, valued, rfl⟩
    exact ⟨_, _, _, ⟨rfl, fits⟩, ⟨[], _, _, ⟨rfl, Reads.attested.run_append formed unread 0⟩,
      ⟨_, _, _, signed, ⟨_, _, [], valued, ⟨rfl, rfl⟩, (List.append_nil _).symm⟩, rfl⟩, rfl⟩, rfl⟩

namespace TpmQuote

theorem readEnd_eq_ok_iff (cursor next : Cursor) :
    readEnd.run cursor = .ok ((), next) ↔ cursor.rest = [] ∧ next = cursor := by
  change (if cursor.rest.isEmpty then pure () else throw (.trailing cursor.rest.length) :
    QuoteReader Unit).run cursor = .ok ((), next) ↔ _
  cases rest : cursor.rest with
  | nil =>
      change Except.ok ((), cursor) = .ok ((), next) ↔ _
      simp [eq_comm]
  | cons byte others =>
      change Except.error _ = Except.ok _ ↔ _
      simp

theorem parse_eq_ok_iff (blob : Bytes) (quote : TpmQuote) :
    parse blob = .ok quote ↔ Form.quote blob quote := by
  rw [parse, Outcome.map_eq_ok_iff, read_eq]
  constructor
  · rintro ⟨⟨result, last⟩, run, rfl⟩
    rcases Reads.run_bind_eq_ok_iff.mp run with ⟨other, middle, openRun, endRun⟩
    rcases Reads.run_bind_eq_ok_iff.mp endRun with ⟨⟨⟩, final, ended, returned⟩
    cases returned
    rcases (readEnd_eq_ok_iff middle last).mp ended with ⟨empty, rfl⟩
    rcases (Reads.quote _ _ _).mp openRun with ⟨bytes, formed, rest, _⟩
    have whole : blob = bytes := by rw [empty, List.append_nil] at rest; exact rest
    exact whole ▸ formed
  · intro formed
    have openRun := Reads.quote.run_append formed [] 0
    rw [List.append_nil] at openRun
    refine ⟨(quote, ⟨[], 0 + blob.length⟩), ?_, rfl⟩
    exact Reads.run_bind_eq_ok_iff.mpr ⟨quote, _, openRun, Reads.run_bind_eq_ok_iff.mpr
      ⟨(), _, (readEnd_eq_ok_iff _ _).mpr ⟨rfl, rfl⟩, rfl⟩⟩

end TpmQuote

end HostAttestation
