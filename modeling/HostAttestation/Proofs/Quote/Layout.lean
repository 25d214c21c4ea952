import HostAttestation.Proofs.Quote.RoundTrip

/-! # The layout of quotes

A blob is a quote exactly if it is laid out byte by byte as follows: the length of the attested
structure, the structure, the signature, the values. Only the end of the attested structure may
hold bytes that say nothing about the quote and are not counted on either side. -/

namespace HostAttestation

open BigEndian (capacity)

/-- What a quote says of a bank: its identifier, and the width of its values. -/
inductive PcrBank.Format : PcrBank → (identifier width : Nat) → Prop
  | sha1 : Format .sha1 0x0004 20
  | sha256 : Format .sha256 0x000B 32
  | sha384 : Format .sha384 0x000C 48
  | sha512 : Format .sha512 0x000D 64

theorem PcrBank.format_iff (bank : PcrBank) (identifier width : Nat) :
    Format bank identifier width ↔
      identifier = PcrSelection.algorithmId bank ∧ width = bank.digestLength := by
  constructor
  · intro format
    cases format <;> exact ⟨rfl, rfl⟩
  · rintro ⟨rfl, rfl⟩
    cases bank with
    | sha1 => exact .sha1
    | sha256 => exact .sha256
    | sha384 => exact .sha384
    | sha512 => exact .sha512

namespace PcrSelection

/-- Whether the bit at a position of a bitmap is set, the lowest bit of the first byte being the
first. -/
def isSet (bitmap : Bytes) (position : Nat) : Bool :=
  match bitmap[position / 8]? with
  | some byte => byte.toNat.testBit (position % 8)
  | none => false

theorem mem_setBits_iff_isSet (bitmap : Bytes) (position : Nat) :
    position ∈ setBits 0 bitmap ↔ isSet bitmap position := by
  rw [mem_setBits_iff, isSet]
  constructor
  · intro located
    rcases located with ⟨index, bit, byte, small, found, set, rfl⟩
    have quotient : (8 * index + bit) / 8 = index := by omega
    have remainder : (8 * index + bit) % 8 = bit := by omega
    simpa [quotient, remainder, found] using set
  · intro set
    cases found : bitmap[position / 8]? with
    | none => simp [found] at set
    | some byte =>
        have small : position % 8 < 8 := Nat.mod_lt position (by decide)
        exact ⟨position / 8, position % 8, byte, small, found, by simpa [found] using set, by omega⟩

/-- The indexes that a bitmap gives are in ascending order, and are the positions that are set. -/
theorem setBits_eq_iff (bitmap : Bytes) (pcrs : List PcrIndex) :
    setBits 0 bitmap = pcrs.map PcrIndex.value ↔
      Ascending pcrs ∧ ∀ position, isSet bitmap position ↔ position ∈ pcrs.map PcrIndex.value := by
  constructor
  · intro same
    refine ⟨ascending_of_setBits_eq same, fun position => ?_⟩
    rw [← same, mem_setBits_iff_isSet]
  · intro marked
    have sorted := List.pairwise_map.mpr marked.1
    apply (pairwise_setBits 0 bitmap).eq_of_mem_iff sorted
    intro position
    rw [mem_setBits_iff_isSet]
    exact marked.2 position

/-- A selection is written as the identifier of its bank, the length of a bitmap in one byte, and
the bitmap, of whatever length, in which the selected registers and no others are marked. -/
inductive Written (selection : PcrSelection) : Bytes → Prop
  | marked (identifier width : Nat) (bitmap : Bytes)
      (format : PcrBank.Format selection.bank identifier width) (fits : bitmap.length < 256)
      (below : ∀ position, isSet bitmap position → position < 24)
      (ascending : Ascending selection.pcrs)
      (marks : ∀ position,
        isSet bitmap position ↔ position ∈ selection.pcrs.map PcrIndex.value) :
      Written selection
        (BigEndian.encode 2 identifier ++ BigEndian.encode 1 bitmap.length ++ bitmap)

theorem written_iff (selection : PcrSelection) (bytes : Bytes) :
    selection.Written bytes ↔ Form.selection bytes selection := by
  constructor
  · intro written
    cases written with
    | marked identifier width bitmap format fits below ascending marks =>
        rcases (PcrBank.format_iff _ _ _).mp format with ⟨rfl, -⟩
        exact ⟨bitmap, fits, (setBits_eq_iff _ _).mpr ⟨ascending, marks⟩, by simp⟩
  · intro formed
    rcases formed with ⟨bitmap, fits, positions, rfl⟩
    have marked := (setBits_eq_iff bitmap selection.pcrs).mp positions
    have below : ∀ position, isSet bitmap position → position < 24 := by
      intro position set
      rcases List.mem_map.mp ((marked.2 position).mp set) with ⟨index, -, rfl⟩
      exact index.below
    rw [← List.append_assoc]
    exact .marked _ _ bitmap ((PcrBank.format_iff _ _ _).mpr ⟨rfl, rfl⟩) fits below marked.1
      marked.2

theorem forall₂_written_iff {selections : List PcrSelection} {parts : List Bytes} :
    List.Forall₂ Written selections parts ↔ List.Forall₂ Form.selection parts selections := by
  constructor
  · intro written
    apply List.Forall₂.flip
    exact written.imp fun selection bytes => (written_iff selection bytes).mp
  · intro formed
    have flipped := formed.flip
    exact flipped.imp fun selection bytes => (written_iff selection bytes).mpr

theorem one_le_length_of_written {selection : PcrSelection} {bytes : Bytes}
    (written : selection.Written bytes) : 1 ≤ bytes.length := by
  cases written with
  | marked _ _ bitmap _ _ _ _ _ =>
      simp only [List.length_append, BigEndian.length_encode]
      omega

/-- As many selections as bytes at most. -/
theorem length_le_length_flatten_of_written {selections : List PcrSelection} {parts : List Bytes}
    (written : List.Forall₂ Written selections parts) :
    selections.length ≤ parts.flatten.length := by
  induction written with
  | nil => simp
  | cons first _ induction =>
      have nonempty := one_le_length_of_written first
      simp only [List.length_cons, List.flatten_cons, List.length_append]
      omega

end PcrSelection

namespace QuoteSignature

/-- A signature is written as its scheme alone if it has none, else as its scheme, its hash and one
buffer, or two buffers if it is one of an elliptic curve. -/
inductive Written : QuoteSignature → Bytes → Prop
  | unsigned : Written ⟨0x0010, 0, []⟩ (BigEndian.encode 2 0x0010)
  | whole (scheme hash : UInt16) (bytes : Bytes) (known : scheme = 0x0014 ∨ scheme = 0x0016)
      (fits : bytes.length < 65536) :
      Written ⟨scheme, hash, bytes⟩
        (BigEndian.encode 2 scheme.toNat ++ BigEndian.encode 2 hash.toNat ++ sized bytes)
  | halves (hash : UInt16) (first second : Bytes) (firstFits : first.length < 65536)
      (secondFits : second.length < 65536) :
      Written ⟨0x0018, hash, first ++ second⟩
        (BigEndian.encode 2 0x0018 ++ BigEndian.encode 2 hash.toNat ++ sized first ++
          sized second)

theorem written_iff (signature : QuoteSignature) (bytes : Bytes) :
    signature.Written bytes ↔ Form.signature bytes signature := by
  constructor
  · intro written
    cases written with
    | unsigned => exact .inl ⟨rfl, rfl⟩
    | whole scheme hash bytes known fits =>
        exact .inr ⟨sized bytes, .inl ⟨known, rfl, fits⟩, by simp⟩
    | halves hash first second firstFits secondFits =>
        exact .inr ⟨_, .inr ⟨rfl, first, second, firstFits, secondFits, rfl, rfl⟩,
          by simp⟩
  · intro formed
    rcases signature with ⟨scheme, hash, content⟩
    rcases formed with ⟨unsigned, rfl⟩ | ⟨part, ⟨known, rfl, fits⟩ | halves, rfl⟩
    · cases unsigned
      exact .unsigned
    · rw [← List.append_assoc]
      exact .whole scheme hash content known fits
    · rcases halves with ⟨curve, first, second, firstFits, secondFits, whole, rfl⟩
      dsimp only at curve whole
      subst curve whole
      rw [← List.append_assoc, ← List.append_assoc]
      exact .halves hash first second firstFits secondFits

end QuoteSignature

namespace TpmQuote

/-- The bytes of an attested structure: a mark, the type, signer and request, a clock of any
content, the firmware, the number of selections and the selections, the digest, and bytes that are
not read. -/
def layoutAttested (quote : TpmQuote) (clock : Bytes) (selections : List Bytes) (unread : Bytes) :
    Bytes :=
  BigEndian.encode 4 0xFF544347 ++ BigEndian.encode 2 0x8018 ++
    QuoteSignature.sized quote.qualifiedSigner ++ QuoteSignature.sized quote.extraData ++
    clock ++ BigEndian.encode 8 quote.firmwareVersion.toNat ++
    BigEndian.encode 4 quote.selections.length ++ selections.flatten ++
    QuoteSignature.sized quote.pcrDigest ++ unread

/-- The values stand at the end as bare digests: for one selection after the other one value for
each selected register in its order, each of the width of its bank. -/
inductive Written (quote : TpmQuote) : Bytes → Prop
  | laidOut (clock unread signature : Bytes) (selections : List Bytes)
      (clockLength : clock.length = 17)
      (selected : List.Forall₂ PcrSelection.Written quote.selections selections)
      (fits : (quote.layoutAttested clock selections unread).length < 65536)
      (signed : quote.signature.Written signature)
      (valued : PcrSelection.CoverInTurn quote.selections quote.values)
      (measured : ∀ value ∈ quote.values, ∃ identifier,
        PcrBank.Format value.pcr.bank identifier value.digest.length) :
      Written quote
        (QuoteSignature.sized (quote.layoutAttested clock selections unread) ++ signature ++
          quote.values.flatMap PcrValue.digest)

theorem layoutAttested_eq (quote : TpmQuote) (clock : Bytes) (selections : List Bytes)
    (unread : Bytes) :
    quote.layoutAttested clock selections unread =
      quote.attested.bytes clock selections.flatten ++ unread := by
  simp [layoutAttested, Attested.bytes, attested, generated, quoteType]

/-- If the whole structure fits its length, so does every part of it. -/
theorem fits_of_length_layoutAttested_lt {quote : TpmQuote} {clock unread : Bytes}
    {selections : List Bytes}
    (selected : List.Forall₂ PcrSelection.Written quote.selections selections)
    (fits : (quote.layoutAttested clock selections unread).length < 65536) :
    quote.attested.Fits := by
  have capacityTwo : capacity 2 = 65536 := rfl
  have capacityFour : capacity 4 = 4294967296 := rfl
  have counted := PcrSelection.length_le_length_flatten_of_written selected
  simp only [layoutAttested, QuoteSignature.sized, List.length_append] at fits
  constructor <;> simp only [attested] <;> omega

/-- A quote is parsed from the blobs that are laid out for it, and from no others. -/
theorem parse_eq_ok_iff_written (blob : Bytes) (quote : TpmQuote) :
    parse blob = .ok quote ↔ quote.Written blob := by
  rw [parse_eq_ok_iff]
  constructor
  · intro formed
    rcases formed with ⟨_, unread, signature, values, attested, fits, signed, valued, rfl⟩
    rcases attested with ⟨_, clock, parts, clockLength, selected, rfl⟩
    rcases valued with ⟨valued, rfl⟩
    rw [← layoutAttested_eq] at fits ⊢
    rw [← List.append_assoc]
    exact .laidOut clock unread signature parts clockLength
      (PcrSelection.forall₂_written_iff.mpr selected) fits
      ((QuoteSignature.written_iff _ _).mpr signed) ((PcrSelection.coverInTurn_iff _ _).mpr valued)
      fun value _ => ⟨_, (PcrBank.format_iff _ _ _).mpr ⟨rfl, value.width⟩⟩
  · intro written
    cases written with
    | laidOut clock unread signature parts clockLength selected fits signed valued measured =>
        have attested : Form.attested (quote.attested.bytes clock parts.flatten) quote.attested :=
          ⟨fits_of_length_layoutAttested_lt selected fits, clock, parts, clockLength,
            PcrSelection.forall₂_written_iff.mp selected, rfl⟩
        rw [layoutAttested_eq] at fits ⊢
        exact ⟨_, unread, signature, _, attested, fits,
          (QuoteSignature.written_iff _ _).mp signed,
          ⟨(PcrSelection.coverInTurn_iff _ _).mp valued, rfl⟩, List.append_assoc _ _ _⟩

/-- Without its last byte, with one more selected register and with a register that there is none
of, a blob of values of every bank is laid out for no quote. -/
theorem parse_eq_ok_iff_written_uneven :
    parse unevenBlob = .ok uneven ∧ uneven.Written unevenBlob ∧
    ∀ blob ∈ [unevenBlob.dropLast, unevenBlob.set 49 0x11, unevenBlob.set 62 0x01],
      ∀ quote : TpmQuote, ¬quote.Written blob := by
  have refused : ∀ blob ∈ [unevenBlob.dropLast, unevenBlob.set 49 0x11, unevenBlob.set 62 0x01],
      (parse blob).toOption = none := by decide +kernel
  refine ⟨parse_unevenBlob, (parse_eq_ok_iff_written _ _).mp parse_unevenBlob, ?_⟩
  intro blob member quote written
  have accepted := refused blob member
  rw [(parse_eq_ok_iff_written blob quote).mpr written] at accepted
  cases accepted

end TpmQuote

end HostAttestation
