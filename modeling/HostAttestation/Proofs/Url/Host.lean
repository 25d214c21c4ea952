import HostAttestation.Proofs.Bytes.BigEndian
import HostAttestation.Proofs.Url.Domain
import HostAttestation.Proofs.Url.Escapes
import HostAttestation.Proofs.Url.Pieces

/-! # Hosts and their texts

The text of a host is read as the host: numbers always are, and so are the names of schemes that
are not well known. A domain is, if it is written as itself; that is so for every domain which was
given in ASCII. -/

namespace HostAttestation

namespace Percent

theorem decode_eq_self {bytes : Bytes} (absent : 0x25 ∉ bytes) : decode bytes = bytes := by
  fun_induction decode bytes with
  | case1 => rfl
  | case2 => rfl
  | case3 => rfl
  | case4 => exact absurd List.mem_cons_self absent
  | case5 => exact absurd List.mem_cons_self absent
  | case6 byte high low rest _ induction =>
      rw [induction (mt (List.mem_cons_of_mem byte) absent)]

end Percent

namespace Host

/-! ## Domains -/

/-- Without escapes, a domain is examined as it stands. -/
theorem domain?_of_unescaped {text : List Char} (unescaped : '%' ∉ text) :
    domain? text = Domain.write? text := by
  have absent : (0x25 : UInt8) ∉ Utf8.encode (String.ofList text) := fun member =>
    unescaped (Utf8.mem_of_mem_encode (by decide) member)
  rw [domain?, Percent.decode_eq_self absent, Utf8.decode?_encode]
  dsimp only
  rw [String.toList_ofList]

theorem not_mem_of_isWrittenChar {text : List Char} (written : ∀ c ∈ text, Domain.isWrittenChar c)
    {c : Char} (meaningful : Domain.isWrittenChar c = false) : c ∉ text := by
  intro member
  rw [written c member] at meaningful
  cases meaningful

theorem domain?_of_isWrittenChar {text : List Char}
    (written : ∀ c ∈ text, Domain.isWrittenChar c) : domain? text = Domain.write? text :=
  domain?_of_unescaped (not_mem_of_isWrittenChar written (by decide))

theorem isWrittenChar_of_domain? {text domain : List Char} (read : domain? text = some domain) :
    domain ≠ [] ∧ ∀ c ∈ domain, Domain.isWrittenChar c := by
  rw [domain?] at read
  split at read
  next => exact ⟨Domain.ne_nil_of_write? read, fun c => Domain.isWrittenChar_of_write? read⟩
  next => cases read

/-! ## Numbers of 32 bits -/

/-- Decimal digits stand for themselves in a domain, whatever the direction of its labels. -/
theorem written_of_isDecimal {c : Char} (decimal : isDecimal c) :
    Punycode.isAscii c ∧ c.toLower = c ∧ Domain.isForbidden c = false ∧
      (Domain.Direction.of c).isRightward = false := by
  have bounds := Bool.and_eq_true_iff.mp decimal
  have highest : c.toNat ≤ '9'.toNat := Char.le_def.mp (of_decide_eq_true bounds.2)
  have ascii : Punycode.isAscii c := decide_eq_true (Nat.lt_of_le_of_lt highest (by decide))
  have all := holds_of_isAscii (fun c => !isDecimal c ||
    (c.toLower == c && !Domain.isForbidden c && !(Domain.Direction.of c).isRightward))
    (by decide) ascii
  simp only [decimal, Bool.not_true, Bool.false_or, Bool.and_eq_true, beq_iff_eq,
    Bool.not_eq_true'] at all
  exact ⟨ascii, all.1.1, all.1.2, all.2⟩

theorem ofFolded?_of_isDecimal {part : List Char} (decimal : ∀ c ∈ part, isDecimal c) :
    Domain.Label.ofFolded? part = some ⟨part, part⟩ := by
  have allowed : part.any Domain.isForbidden = false := by
    rw [List.any_eq_false]
    intro c member
    rw [(written_of_isDecimal (decimal c member)).2.2.1]
    decide
  have unmarked : Domain.mark.isPrefixOf part = false := by
    rw [Bool.eq_false_iff]
    intro marked
    rcases List.isPrefixOf_iff_prefix.mp marked with ⟨behind, rfl⟩
    exact absurd (decimal 'x' (List.mem_append_left behind (by decide))) (by decide)
  have ascii : part.all Punycode.isAscii :=
    List.all_eq_true.mpr fun c member => (written_of_isDecimal (decimal c member)).1
  rw [Domain.Label.ofFolded?, allowed, unmarked, ascii]
  rfl

theorem directionsFit_of_isDecimal {parts : List (List Char)}
    (decimal : ∀ part ∈ parts, ∀ c ∈ part, isDecimal c) : Domain.directionsFit parts := by
  have leftward : (parts.map (·.map Domain.Direction.of)).any
      (·.any Domain.Direction.isRightward) = false := by
    rw [List.any_map, List.any_eq_false]
    intro part listed
    rw [Function.comp_apply, List.any_map, Bool.not_eq_true, List.any_eq_false]
    intro c member
    rw [Function.comp_apply, (written_of_isDecimal (decimal part listed c member)).2.2.2]
    decide
  rw [Domain.directionsFit, leftward]
  rfl

/-- Labels of decimal digits are written as they are. -/
theorem write?_join {parts : List (List Char)} (filled : Text.join '.' parts ≠ [])
    (decimal : ∀ part ∈ parts, ∀ c ∈ part, isDecimal c) :
    Domain.write? (Text.join '.' parts) = some (Text.join '.' parts) := by
  have chars : ∀ c ∈ Text.join '.' parts, Punycode.isAscii c ∧ c.toLower = c := by
    intro c member
    rcases Text.mem_join member with rfl | ⟨part, listed, inside⟩
    · decide
    · exact ⟨(written_of_isDecimal (decimal part listed c inside)).1,
        (written_of_isDecimal (decimal part listed c inside)).2.1⟩
  have ascii : ∀ c ∈ Text.join '.' parts, Punycode.isAscii c := fun c member => (chars c member).1
  have lower : (Text.join '.' parts).map Char.toLower = Text.join '.' parts :=
    (List.map_congr_left fun c member => (chars c member).2).trans (List.map_id _)
  have listed : parts ≠ [] := by
    rintro rfl
    exact filled rfl
  have whole : ∀ part ∈ parts, '.' ∉ part := fun part listed dot =>
    absurd (decimal part listed '.' dot) (by decide)
  have labelled : parts.mapM Domain.Label.ofFolded? =
      some (parts.map fun part => ⟨part, part⟩) :=
    Outcome.mapM_eq_some_iff.mpr (List.forall₂_map_right_iff.mpr (List.forall₂_same.mpr
      fun part listed => ofFolded?_of_isDecimal (decimal part listed)))
  refine Domain.write?_eq_some_iff.mpr ⟨_, parts.map fun part => ⟨part, part⟩,
    Domain.foldAll?_of_isAscii ascii, ?_, ?_, filled, ?_⟩
  · rw [lower, Text.compose_of_isAscii ascii, Text.split_join listed whole, labelled]
  · rw [List.map_map]
    exact congrArg (Text.join '.') (List.map_id parts)
  · rw [List.map_map]
    apply directionsFit_of_isDecimal
    intro part listed
    rcases List.mem_map.mp listed with ⟨source, own, rfl⟩
    exact decimal source own

def digitsOf (byte : UInt8) : List Char :=
  Nat.toDigits 10 byte.toNat

theorem isDecimal_of_mem_digitsOf {byte : UInt8} {c : Char} (member : c ∈ digitsOf byte) :
    isDecimal c :=
  all_toDigits (by decide) (by decide) byte.toNat c member

theorem toList_text4 (value : Nat) :
    (text4 value).toList = Text.join '.' ((BigEndian.encode 4 value).map digitsOf) := by
  have texts : ((BigEndian.encode 4 value).map fun byte => toString byte.toNat).map String.toList =
      (BigEndian.encode 4 value).map digitsOf := by
    rw [List.map_map]
    apply List.map_congr_left
    intro byte _
    change (toString byte.toNat).toList = digitsOf byte
    rw [Nat.toString_eq_ofList_toDigits, String.toList_ofList]
    rfl
  rw [text4, ← texts]
  exact Text.toList_intercalate '.' _

theorem split_join_digitsOf {bytes : Bytes} (filled : bytes ≠ []) :
    Text.split '.' (Text.join '.' (bytes.map digitsOf)) = bytes.map digitsOf := by
  apply Text.split_join
  · simpa using filled
  · rintro _ listed dot
    rcases List.mem_map.mp listed with ⟨byte, _, rfl⟩
    exact absurd (isDecimal_of_mem_digitsOf dot) (by decide)

theorem number?_digitsOf (byte : UInt8) : number? (digitsOf byte) = some byte.toNat := by
  have all : ∀ value ∈ List.range 256, number? (Nat.toDigits 10 value) = some value := by
    decide +kernel
  exact all byte.toNat (List.mem_range.mpr byte.toNat_lt)


theorem dottedParts_digitsOf {bytes : Bytes} (filled : bytes ≠ []) :
    dottedParts (Text.join '.' (bytes.map digitsOf)) = bytes.map digitsOf := by
  have ends : (bytes.map digitsOf).getLast? ≠ some [] := by
    rw [List.getLast?_map]
    intro empty
    rcases Option.map_eq_some_iff.mp empty with ⟨byte, _, digits⟩
    exact Nat.toDigits_ne_nil digits
  rw [dottedParts, split_join_digitsOf filled]
  exact if_neg ends

theorem endsInNumber_digitsOf {bytes : Bytes} (filled : bytes ≠ []) :
    endsInNumber (Text.join '.' (bytes.map digitsOf)) := by
  rw [endsInNumber, dottedParts_digitsOf filled, List.getLast?_map,
    List.getLast?_eq_getLast_of_ne_nil filled, Option.map_some]
  dsimp only
  rw [number?_digitsOf, Option.isSome_some, Bool.or_true]

theorem value4?_bytes (first second third last : UInt8) :
    value4? [first.toNat, second.toNat, third.toNat, last.toNat] = some last.toNat := by
  simp only [value4?, if_pos first.toNat_lt, if_pos second.toNat_lt, if_pos third.toNat_lt]

theorem address4?_digitsOf (first second third last : UInt8) :
    address4? (Text.join '.' ([first, second, third, last].map digitsOf)) =
      some (.address4 (BigEndian.decode [first, second, third, last])) := by
  have numbers : ([first, second, third, last].map digitsOf).mapM number? =
      some [first.toNat, second.toNat, third.toNat, last.toNat] := by
    simp only [List.map_cons, List.map_nil, List.mapM_cons, List.mapM_nil, number?_digitsOf]
    rfl
  have fits : last.toNat < BigEndian.capacity (5 - 4) := last.toNat_lt
  rw [address4?, dottedParts_digitsOf (List.cons_ne_nil _ _), numbers]
  dsimp only
  rw [if_neg (show ¬4 < ([first, second, third, last].map digitsOf).length from Nat.lt_irrefl 4),
    value4?_bytes]
  dsimp only
  exact if_pos fits

theorem mem_text4 {value : Nat} {c : Char} (member : c ∈ (text4 value).toList) :
    isDecimal c ∨ c = '.' := by
  rw [toList_text4] at member
  rcases Text.mem_join member with rfl | ⟨_, listed, inside⟩
  · exact .inr rfl
  · rcases List.mem_map.mp listed with ⟨byte, _, rfl⟩
    exact .inl (isDecimal_of_mem_digitsOf inside)

theorem isWrittenChar_of_mem_text4 {value : Nat} {c : Char} (member : c ∈ (text4 value).toList) :
    Domain.isWrittenChar c := by
  rcases mem_text4 member with decimal | rfl
  · rcases written_of_isDecimal decimal with ⟨ascii, _, allowed, _⟩
    rw [Domain.isWrittenChar, ascii, allowed]
    rfl
  · decide

theorem ofDomain_eq_of_write? {text : List Char} (written : ∀ c ∈ text, Domain.isWrittenChar c)
    (settled : Domain.write? text = some text) :
    ofDomain text =
      if endsInNumber text then address4? text else some (.name (String.ofList text)) := by
  have unbracketed : text.head? ≠ some '[' := fun bracket =>
    not_mem_of_isWrittenChar written (by decide) (List.mem_of_head? bracket)
  rw [ofDomain, if_neg unbracketed, domain?_of_isWrittenChar written, settled]

theorem ofDomain_text4 {value : Nat} (fits : value < BigEndian.capacity 4) :
    ofDomain (text4 value).toList = some (.address4 value) := by
  have written : ∀ c ∈ (text4 value).toList, Domain.isWrittenChar c := fun c =>
    isWrittenChar_of_mem_text4
  have bytes : ∃ first second third last,
      BigEndian.encode 4 value = [first, second, third, last] := ⟨_, _, _, _, rfl⟩
  rcases bytes with ⟨first, second, third, last, bytes⟩
  have text := toList_text4 value
  rw [bytes] at text
  have settled : Domain.write? (text4 value).toList = some (text4 value).toList := by
    rw [text]
    apply write?_join
    · intro empty
      have number := endsInNumber_digitsOf (List.cons_ne_nil first [second, third, last])
      rw [empty] at number
      exact absurd number (by decide)
    · rintro _ listed c inside
      rcases List.mem_map.mp listed with ⟨byte, _, rfl⟩
      exact isDecimal_of_mem_digitsOf inside
  have number : endsInNumber (text4 value).toList := by
    rw [text]
    exact endsInNumber_digitsOf (List.cons_ne_nil first [second, third, last])
  rw [ofDomain_eq_of_write? written settled, if_pos number, text, address4?_digitsOf, ← bytes,
    BigEndian.decode_encode_of_lt fits]

theorem lt_of_mem_dropLast {numbers : List Nat} {last : Nat} (read : value4? numbers = some last) :
    numbers ≠ [] ∧ ∀ byte ∈ numbers.dropLast, byte < 256 := by
  fun_induction value4? numbers with
  | case1 => cases read
  | case2 => exact ⟨List.cons_ne_nil _ _, fun byte member => absurd member List.not_mem_nil⟩
  | case3 byte rest several small induction =>
      rcases induction read with ⟨filled, others⟩
      rw [List.dropLast_cons_of_ne_nil filled]
      exact ⟨List.cons_ne_nil _ _, List.forall_mem_cons.mpr ⟨small, others⟩⟩
  | case4 => cases read

theorem foldl_lt_capacity {bytes : List Nat} (small : ∀ byte ∈ bytes, byte < 256) :
    bytes.foldl (fun value byte => value * 256 + byte) 0 < BigEndian.capacity bytes.length := by
  induction bytes using List.reverseRecOn with
  | nil => decide
  | append_singleton bytes byte induction =>
      rcases List.forall_mem_append.mp small with ⟨front, last⟩
      have bound := induction front
      have size := last byte (List.mem_singleton_self byte)
      rw [List.foldl_append, List.foldl_cons, List.foldl_nil, List.length_append,
        List.length_singleton, BigEndian.capacity_succ]
      omega

/-- The last part fills what the bytes before it leave of 32 bits. -/
theorem lt_of_value4? {numbers : List Nat} {last : Nat} (read : value4? numbers = some last)
    (few : numbers.length ≤ 4) (small : last < BigEndian.capacity (5 - numbers.length)) :
    numbers.dropLast.foldl (fun value byte => value * 256 + byte) 0 *
        BigEndian.capacity (5 - numbers.length) + last < BigEndian.capacity 4 := by
  rcases lt_of_mem_dropLast read with ⟨filled, bytes⟩
  have positive := List.length_pos_iff.mpr filled
  have leading := foldl_lt_capacity bytes
  rw [List.length_dropLast] at leading
  generalize numbers.dropLast.foldl (fun value byte => value * 256 + byte) 0 = value at leading ⊢
  calc value * BigEndian.capacity (5 - numbers.length) + last
      < (value + 1) * BigEndian.capacity (5 - numbers.length) := by
        rw [Nat.succ_mul]
        omega
    _ ≤ BigEndian.capacity (numbers.length - 1) * BigEndian.capacity (5 - numbers.length) :=
        Nat.mul_le_mul_right _ leading
    _ = BigEndian.capacity (numbers.length - 1 + (5 - numbers.length)) :=
        (Nat.pow_add 256 _ _).symm
    _ = BigEndian.capacity 4 := congrArg BigEndian.capacity (by omega)

theorem exists_of_address4? {domain : List Char} {host : Host}
    (read : address4? domain = some host) :
    ∃ value < BigEndian.capacity 4, host = .address4 value := by
  rw [address4?] at read
  split at read
  next => cases read
  next few =>
    split at read
    next => cases read
    next numbers parsed =>
      split at read
      next => cases read
      next last leading =>
        split at read
        next small =>
          cases read
          have count := (Outcome.mapM_eq_some_iff.mp parsed).length_eq
          exact ⟨_, lt_of_value4? leading (by omega) small, rfl⟩
        next => cases read

/-! ## Hosts that were read -/

/-- What reading the host of an address leads to, by the rules of the well known schemes or by
those of the others. -/
inductive IsRead : (special : Bool) → Host → Prop
  | domain {name : List Char} (filled : name ≠ [])
      (written : ∀ c ∈ name, Domain.isWrittenChar c) (wordy : endsInNumber name = false) :
      IsRead true (.name (String.ofList name))
  | plain {name : List Char} (clean : Percent.IsClean forbidden name) :
      IsRead false (.name (String.ofList name))
  | address4 {value : Nat} (fits : value < BigEndian.capacity 4) : IsRead true (.address4 value)
  | address6 {special : Bool} {pieces : List Nat} (count : pieces.length = 8)
      (small : ∀ piece ∈ pieces, piece < 65536) : IsRead special (.address6 pieces)

theorem exists_of_ofBracketed {text : List Char} {host : Host}
    (read : ofBracketed text = some host) :
    ∃ pieces, host = .address6 pieces ∧ pieces.length = 8 ∧ ∀ piece ∈ pieces, piece < 65536 := by
  rw [ofBracketed] at read
  split at read
  next => exact exists_of_address6? read
  next => cases read

theorem isRead_of_ofBracketed {special : Bool} {text : List Char} {host : Host}
    (read : ofBracketed text = some host) : IsRead special host := by
  rcases exists_of_ofBracketed read with ⟨pieces, rfl, count, small⟩
  exact .address6 count small

theorem isRead_of_ofDomain {text : List Char} {host : Host} (read : ofDomain text = some host) :
    IsRead true host := by
  rw [ofDomain] at read
  split at read
  next => exact isRead_of_ofBracketed read
  next =>
    split at read
    next => cases read
    next domain written =>
      rcases isWrittenChar_of_domain? written with ⟨filled, chars⟩
      split at read
      next =>
        rcases exists_of_address4? read with ⟨value, fits, rfl⟩
        exact .address4 fits
      next wordy =>
        cases read
        exact .domain filled chars (Bool.eq_false_iff.mpr wordy)

theorem isRead_of_ofName {text : List Char} {host : Host} (read : ofName text = some host) :
    IsRead false host := by
  rw [ofName] at read
  split at read
  next => exact isRead_of_ofBracketed read
  next =>
    split at read
    next => cases read
    next allowed =>
      cases read
      refine .plain fun c member => ?_
      rcases Percent.mem_encodeChars member with mark | ⟨own, printed, _⟩
      · exact ⟨Percent.isControl_of_mem_marks mark, fun forbids =>
          absurd mark (by
            have apart : forbidden.all fun c => !Percent.marks.contains c := by decide
            simpa using List.all_eq_true.mp apart c forbids)⟩
      · rw [Bool.not_eq_true, List.any_eq_false] at allowed
        exact ⟨printed, fun forbids => allowed c own (List.contains_iff_mem.mpr forbids)⟩

/-- The library gives a domain that it wrote the same written form. It has nothing to say about
numbers, nor about the missing host of a file. -/
def IsSettled : Host → Prop
  | .name text => text ≠ "" → Domain.write? text.toList = some text.toList
  | .address4 _ => True
  | .address6 _ => True

/-- Only a domain beyond ASCII may not be settled. -/
theorem isSettled_of_isAscii {text : List Char} {host : Host}
    (ascii : ∀ c ∈ text, Punycode.isAscii c) (unescaped : '%' ∉ text)
    (read : ofDomain text = some host) : host.IsSettled := by
  rw [ofDomain] at read
  split at read
  next =>
    rcases exists_of_ofBracketed read with ⟨pieces, rfl, _⟩
    exact trivial
  next =>
    split at read
    next => cases read
    next domain written =>
      split at read
      next =>
        rcases exists_of_address4? read with ⟨value, _, rfl⟩
        exact trivial
      next =>
        cases read
        intro _
        rw [domain?_of_unescaped unescaped] at written
        rw [String.toList_ofList]
        exact Domain.write?_written ascii written

/-! ## Characters of a host -/

/-- What ends a host or stands before it in an address, and the bar of a drive. -/
def boundaries : List Char :=
  [' ', '/', '\\', '?', '#', '@', '|']

theorem isClean_of_isWrittenChar {text : List Char}
    (written : ∀ c ∈ text, Domain.isWrittenChar c) : Percent.IsClean boundaries text := by
  intro c member
  have ascii := (Bool.and_eq_true_iff.mp (written c member)).1
  have all := holds_of_isAscii (fun c => !Domain.isWrittenChar c ||
    (!Percent.isControl c && !boundaries.contains c)) (by decide) ascii
  simpa [written c member] using all

theorem isClean_text {special : Bool} {host : Host} (read : IsRead special host) :
    Percent.IsClean boundaries host.text.toList := by
  cases read with
  | domain _ written =>
      rw [text, String.toList_ofList]
      exact isClean_of_isWrittenChar written
  | plain clean =>
      rw [text, String.toList_ofList]
      exact clean.mono (by decide)
  | address4 => exact isClean_of_isWrittenChar fun c => isWrittenChar_of_mem_text4
  | address6 =>
      have clean : Percent.IsClean boundaries ('[' :: ']' :: pieceChars) :=
        Percent.isClean_of_all (by decide)
      intro c member
      apply clean
      simp only [text, String.toList_append, List.mem_append] at member
      rcases member with (opening | inside) | closing
      · rw [show c = '[' by simpa using opening]
        exact List.mem_cons_self
      · exact List.mem_cons_of_mem _ (List.mem_cons_of_mem _ (mem_pieceChars_of_mem_text6 inside))
      · rw [show c = ']' by simpa using closing]
        exact List.mem_cons_of_mem _ List.mem_cons_self

/-! ## Reading a host again -/

theorem ofBracketed_text6 {pieces : List Nat} (count : pieces.length = 8)
    (small : ∀ piece ∈ pieces, piece < 65536) :
    ofBracketed (address6 pieces).text.toList = some (.address6 pieces) := by
  have chars : (address6 pieces).text.toList = '[' :: ((text6 pieces).toList ++ [']']) := by
    simp [text]
  rw [chars, ofBracketed, bracketed?, List.getLast?_concat, if_pos rfl, List.dropLast_concat]
  exact address6?_text6 count small

theorem head?_text_address6 (pieces : List Nat) :
    (address6 pieces).text.toList.head? = some '[' := by
  simp [text]

theorem ofDomain_text {host : Host} (read : IsRead true host) (settled : host.IsSettled) :
    ofDomain host.text.toList = some host := by
  cases read with
  | @domain name filled written wordy =>
      have nonempty : String.ofList name ≠ "" := fun empty =>
        filled (String.ofList_injective (empty.trans String.ofList_nil.symm))
      have own := settled nonempty
      rw [text]
      rw [String.toList_ofList] at own ⊢
      rw [ofDomain_eq_of_write? written own, wordy]
      rfl
  | address4 fits => exact ofDomain_text4 fits
  | address6 count small =>
      rw [ofDomain, if_pos (head?_text_address6 _)]
      exact ofBracketed_text6 count small

theorem ofName_text {host : Host} (read : IsRead false host) :
    ofName host.text.toList = some host := by
  cases read with
  | @plain name clean =>
      rw [text, String.toList_ofList]
      have unbracketed : name.head? ≠ some '[' := fun bracket =>
        (clean '[' (List.mem_of_head? bracket)).2 (by decide)
      have allowed : ¬name.any forbidden.contains := by
        rw [List.any_eq_true]
        rintro ⟨c, member, forbids⟩
        exact (clean c member).2 (List.contains_iff_mem.mp forbids)
      have kept : Percent.encodeChars [] name = name :=
        Percent.encodeChars_eq_self fun c member => ⟨(clean c member).1, List.not_mem_nil⟩
      rw [ofName, if_neg unbracketed, if_neg allowed, Percent.encode, kept]
  | address6 count small =>
      rw [ofName, if_pos (head?_text_address6 _)]
      exact ofBracketed_text6 count small

end Host

end HostAttestation
