import HostAttestation.Proofs.Quote.Grammar

/-! # Round trip of quotes

A quote is read back from what is written for it exactly if its attested structure fits its
length and its parts agree with each other: what is written for any other quote is refused or
read as another one. Whatever is read from a blob has parts that agree. -/

namespace HostAttestation

open BigEndian (capacity)

namespace QuoteSignature

/-- The signatures that can be written: none, one in a single buffer, or two halves. -/
def Writable (signature : QuoteSignature) : Prop :=
  (signature.scheme = 0x0010 ∧ signature.hash = 0 ∧ signature.bytes = []) ∨
    ((signature.scheme = 0x0014 ∨ signature.scheme = 0x0016) ∧
      signature.bytes.length ≤ 65535) ∨
    (signature.scheme = 0x0018 ∧ signature.bytes.length ≤ 131070)

theorem writable_of_form {bytes : Bytes} {signature : QuoteSignature}
    (formed : Form.signature bytes signature) : signature.Writable := by
  have capacityTwo : capacity 2 = 65536 := rfl
  rcases formed with ⟨rfl, _⟩ | ⟨part, ⟨kind, _, fits⟩ | ⟨kind, first, second, firstFits,
    secondFits, whole, _⟩, _⟩
  · exact .inl ⟨rfl, rfl, rfl⟩
  · exact .inr (.inl ⟨kind, by omega⟩)
  · refine .inr (.inr ⟨kind, ?_⟩)
    rw [whole, List.length_append]
    omega

/-- The halves of a signature of odd length differ by one byte. -/
theorem form_encode {signature : QuoteSignature} (writable : signature.Writable) :
    Form.signature signature.encode signature := by
  have capacityTwo : capacity 2 = 65536 := rfl
  rcases signature with ⟨scheme, hash, bytes⟩
  rcases writable with ⟨rfl, rfl, rfl⟩ | ⟨kind, fits⟩ | ⟨kind, fits⟩
  · exact .inl ⟨rfl, rfl⟩
  · dsimp only at kind fits
    have formed : Form.signatureBytes scheme (sized bytes) bytes := .inl ⟨kind, rfl, by omega⟩
    refine .inr ⟨sized bytes, formed, ?_⟩
    have notCurve : scheme ≠ ellipticCurve := by rcases kind with rfl | rfl <;> decide
    simp [encode, ne_noScheme_of_signatureBytes formed, notCurve]
  · have curve : scheme = ellipticCurve := kind
    subst curve
    dsimp only at fits
    refine .inr ⟨_, .inr ⟨rfl, bytes.take (bytes.length / 2), bytes.drop (bytes.length / 2), ?_, ?_,
      (List.take_append_drop _ _).symm, rfl⟩, ?_⟩
    · rw [List.length_take]
      omega
    · rw [List.length_drop]
      omega
    · simp [encode, show ellipticCurve ≠ noScheme by decide]

end QuoteSignature

namespace TpmQuote

/-- The parts of a quote agree with each other. -/
structure WellFormed (quote : TpmQuote) : Prop where
  ascending : ∀ selection ∈ quote.selections, PcrSelection.Ascending selection.pcrs
  values : PcrSelection.CoverInTurn quote.selections quote.values
  signature : quote.signature.Writable

/-- The length of the attested structure as it is written. -/
def attestedLength (quote : TpmQuote) : Nat :=
  41 + quote.qualifiedSigner.length + quote.extraData.length + 6 * quote.selections.length +
    quote.pcrDigest.length

theorem encodeAttested_eq (quote : TpmQuote) :
    quote.encodeAttested = quote.attested.bytes (List.replicate clockInfoLength 0)
      (quote.selections.map PcrSelection.encode).flatten := by
  simp [encodeAttested, Attested.bytes, attested, List.flatMap_def]

theorem length_flatMap_encode (selections : List PcrSelection) :
    (selections.flatMap PcrSelection.encode).length = 6 * selections.length := by
  induction selections with
  | nil => rfl
  | cons selection rest induction =>
      rw [List.flatMap_cons, List.length_append, induction, List.length_cons]
      simp [PcrSelection.encode, PcrSelection.bitmapLength]
      omega

theorem length_encodeAttested (quote : TpmQuote) :
    quote.encodeAttested.length = quote.attestedLength := by
  simp only [encodeAttested, attestedLength, List.length_append, length_flatMap_encode,
    QuoteSignature.sized, BigEndian.length_encode, List.length_replicate, clockInfoLength]
  omega

theorem form_encodeAttested {quote : TpmQuote} (fits : quote.attested.Fits)
    (ascending : ∀ selection ∈ quote.selections, PcrSelection.Ascending selection.pcrs) :
    Form.attested quote.encodeAttested quote.attested := by
  refine ⟨fits, _, quote.selections.map PcrSelection.encode, by simp, ?_,
    quote.encodeAttested_eq⟩
  rw [List.forall₂_map_left_iff]
  change List.Forall₂ _ quote.selections quote.selections
  rw [List.forall₂_same]
  exact fun selection member => Form.selection_encode (ascending selection member)

theorem ascending_of_form {parts : List Bytes} {selections : List PcrSelection}
    (formed : List.Forall₂ Form.selection parts selections) :
    ∀ selection ∈ selections, PcrSelection.Ascending selection.pcrs := by
  induction formed with
  | nil => simp
  | cons first _ induction =>
      exact List.forall_mem_cons.mpr ⟨Form.ascending_of_selection first, induction⟩

theorem wellFormed_of_form {blob : Bytes} {quote : TpmQuote} (formed : Form.quote blob quote) :
    quote.WellFormed := by
  rcases formed with ⟨_, _, _, _, ⟨_, _, parts, _, selections, _⟩, _, signature, values, _⟩
  exact ⟨ascending_of_form selections, (PcrSelection.coverInTurn_iff _ _).mpr values.1,
    QuoteSignature.writable_of_form signature⟩

theorem fits_of_form {blob : Bytes} {quote : TpmQuote} (formed : Form.quote blob quote) :
    quote.attested.Fits := by
  rcases formed with ⟨_, _, _, _, ⟨fits, _⟩, _⟩
  exact fits

theorem fits_of_attestedLength_le {quote : TpmQuote} (short : quote.attestedLength ≤ 65535) :
    quote.attested.Fits := by
  have capacityTwo : capacity 2 = 65536 := rfl
  have capacityFour : capacity 4 = 4294967296 := rfl
  unfold attestedLength at short
  constructor <;> simp only [attested] <;> omega

theorem form_encode {quote : TpmQuote} (wellFormed : quote.WellFormed)
    (short : quote.attestedLength ≤ 65535) : Form.quote quote.encode quote := by
  have capacityTwo : capacity 2 = 65536 := rfl
  have named := (PcrSelection.coverInTurn_iff _ _).mp wellFormed.values
  refine ⟨quote.encodeAttested, [], quote.signature.encode, quote.values.flatMap PcrValue.digest,
    form_encodeAttested (fits_of_attestedLength_le short) wellFormed.ascending, ?_,
    QuoteSignature.form_encode wellFormed.signature, ⟨named, rfl⟩, ?_⟩
  · rw [List.append_nil, length_encodeAttested]
    omega
  · simp [encode]

/-- A longer structure is announced by a length that is too small for it, so reading it reaches
the announced end too early. -/
theorem attestedLength_le_of_form_encode {quote other : TpmQuote} (fits : quote.attested.Fits)
    (ascending : ∀ selection ∈ quote.selections, PcrSelection.Ascending selection.pcrs)
    (formed : Form.quote quote.encode other) : quote.attestedLength ≤ 65535 := by
  rcases formed with ⟨attested, unread, signature, values, attestedFormed, short, _, _, same⟩
  simp only [encode, QuoteSignature.sized, List.append_assoc] at same
  rcases List.append_inj same (by simp) with ⟨lengths, bodies⟩
  have whole := (Reads.attested.unique (form_encodeAttested fits ascending) attestedFormed bodies).1
  have announced := BigEndian.mod_eq_of_encode_eq lengths
  rw [Nat.mod_eq_of_lt short, List.length_append, ← whole, length_encodeAttested] at announced
  have capacityTwo : capacity 2 = 65536 := rfl
  have remainder := Nat.mod_lt quote.attestedLength (show 0 < capacity 2 by decide)
  omega

/-- Besides, what is parsed agrees in its parts, and is parsed again from what is written for it
unless the written structure is too long, in which case it is refused. -/
theorem parse_encode_eq_ok_iff (quote : TpmQuote) :
    (parse quote.encode = .ok quote ↔ quote.attestedLength ≤ 65535 ∧ quote.WellFormed) ∧
    ∀ blob, parse blob = .ok quote →
      quote.WellFormed ∧
      (quote.attestedLength ≤ 65535 → parse quote.encode = .ok quote) ∧
      (65535 < quote.attestedLength → ∃ fault, parse quote.encode = .error fault) := by
  constructor
  · rw [parse_eq_ok_iff]
    constructor
    · intro formed
      have wellFormed := wellFormed_of_form formed
      exact ⟨attestedLength_le_of_form_encode (fits_of_form formed) wellFormed.ascending formed,
        wellFormed⟩
    · rintro ⟨short, wellFormed⟩
      exact form_encode wellFormed short
  · intro blob parsed
    have formed := (parse_eq_ok_iff blob quote).mp parsed
    have wellFormed := wellFormed_of_form formed
    refine ⟨wellFormed, fun short => (parse_eq_ok_iff _ _).mpr (form_encode wellFormed short), ?_⟩
    intro long
    rcases Outcome.ok_or_error (parse quote.encode) with ⟨other, succeeds⟩ | refused
    · have short := attestedLength_le_of_form_encode (fits_of_form formed) wellFormed.ascending
        ((parse_eq_ok_iff _ other).mp succeeds)
      omega
    · exact refused

/-- A quote of registers of every bank, the banks out of order and one of them selected twice, whose
signature is cut into halves of one and of two bytes when it is written. -/
def uneven : TpmQuote where
  qualifiedSigner := []
  extraData := [0xAB]
  firmwareVersion := 7
  selections :=
    [⟨.sha1, []⟩, ⟨.sha512, [⟨12, by decide⟩]⟩, ⟨.sha1, [⟨20, by decide⟩, ⟨23, by decide⟩]⟩,
      ⟨.sha384, [⟨21, by decide⟩]⟩, ⟨.sha256, [⟨22, by decide⟩]⟩]
  pcrDigest := []
  signature := ⟨QuoteSignature.ellipticCurve, 0x000B, [1, 2, 3]⟩
  values :=
    [⟨⟨⟨12, by decide⟩, .sha512⟩, List.replicate 64 1, by decide⟩,
      ⟨⟨⟨20, by decide⟩, .sha1⟩, List.replicate 20 2, by decide⟩,
      ⟨⟨⟨23, by decide⟩, .sha1⟩, List.replicate 20 3, by decide⟩,
      ⟨⟨⟨21, by decide⟩, .sha384⟩, List.replicate 48 4, by decide⟩,
      ⟨⟨⟨22, by decide⟩, .sha256⟩, List.replicate 32 5, by decide⟩]

/-- The same quote with other halves, bitmaps of none, two and four bytes, and a byte that is not
read. -/
def unevenBlob : Bytes :=
  [0, 70, 0xFF, 0x54, 0x43, 0x47, 0x80, 0x18, 0, 0, 0, 1, 0xAB] ++ List.replicate 17 5 ++
    [0, 0, 0, 0, 0, 0, 0, 7, 0, 0, 0, 5] ++
    [0, 4, 0, 0, 13, 2, 0, 0x10, 0, 4, 3, 0, 0, 0x90, 0, 12, 4, 0, 0, 0x20, 0] ++
    [0, 11, 3, 0, 0, 0x40, 0, 0, 0xFF] ++ [0, 0x18, 0, 0x0B, 0, 2, 1, 2, 0, 1, 3] ++
    List.replicate 64 1 ++ List.replicate 20 2 ++ List.replicate 20 3 ++ List.replicate 48 4 ++
    List.replicate 32 5

theorem parse_unevenBlob : parse unevenBlob = .ok uneven := by
  decide +kernel

theorem parse_encode_uneven :
    parse unevenBlob = .ok uneven ∧ uneven.encode ≠ unevenBlob ∧ uneven.WellFormed ∧
      uneven.attestedLength ≤ 65535 ∧ parse uneven.encode = .ok uneven := by
  have short : uneven.attestedLength ≤ 65535 := by decide
  have agrees := (parse_encode_eq_ok_iff uneven).2 unevenBlob parse_unevenBlob
  exact ⟨parse_unevenBlob, by decide, agrees.1, short, agrees.2.1 short⟩

end TpmQuote

end HostAttestation
