import HostAttestation.Proofs.Url.Ideographs
import HostAttestation.Proofs.Url.RoundTrip

/-! # Addresses that are not read again

A domain is written with more characters than it has if its labels are encoded, and an encoded
label has a limit of its own. So an address with a long label of ideographs can be read, but its
text cannot. -/

namespace HostAttestation

open Text (IsIdeograph)
open Punycode (isAscii)

namespace Host

/-! ## Domains of ideographs -/

theorem numberOf_eq_none {base : Nat} {digit : Char} {rest : List Char}
    (noDigit : Hex.value? digit = none) : numberOf base (digit :: rest) = none := by
  rw [numberOf, List.foldl_cons, noDigit]
  induction rest with
  | nil => rfl
  | cons _ _ induction => exact induction

/-- An encoded label is not taken for a number. -/
theorem endsInNumber_mark {encoded : List Char} (whole : '.' ∉ Domain.mark ++ encoded) :
    endsInNumber (Domain.mark ++ encoded) = false := by
  have parts : dottedParts (Domain.mark ++ encoded) = [Domain.mark ++ encoded] := by
    rw [dottedParts, Text.split_of_not_mem whole]
    rfl
  have word : number? (Domain.mark ++ encoded) = none :=
    numberOf_eq_none (by decide : Hex.value? 'x' = none)
  rw [endsInNumber, parts, List.getLast?_singleton]
  dsimp only
  rw [word]
  rfl

theorem ofDomain_of_isIdeograph {label : List Char} (ideographs : ∀ c ∈ label, IsIdeograph c)
    (filled : label ≠ []) (short : label.length ≤ Domain.meaningLimit) :
    ofDomain label =
      some (.name (String.ofList (Domain.mark ++ Punycode.encode label))) := by
  have whole : '.' ∉ Domain.mark ++ Punycode.encode label := by
    intro dotted
    rcases List.mem_append.mp dotted with front | behind
    · exact absurd front (by decide)
    · exact absurd (Domain.mem_marks_of_mem_encode ideographs behind) (by decide)
  have unbracketed : label.head? ≠ some '[' := fun first =>
    Domain.not_mem_of_isIdeograph ideographs (by decide) (List.mem_of_head? first)
  rw [ofDomain, if_neg unbracketed,
    domain?_of_unescaped (Domain.not_mem_of_isIdeograph ideographs (by decide)),
    Domain.write?_of_isIdeograph ideographs filled short]
  dsimp only
  rw [endsInNumber_mark whole, if_neg Bool.false_ne_true]

theorem ofDomain_eq_none_of_long {encoded : List Char}
    (digits : ∀ c ∈ encoded, c ∈ Punycode.marks) (long : Domain.encodedLimit < encoded.length) :
    ofDomain (Domain.mark ++ encoded) = none := by
  have unescaped : '%' ∉ Domain.mark ++ encoded := by
    intro escape
    rcases List.mem_append.mp escape with front | behind
    · exact absurd front (by decide)
    · exact absurd (digits '%' behind) (by decide)
  have unbracketed : (Domain.mark ++ encoded).head? ≠ some '[' :=
    (by decide : some 'x' ≠ some '[')
  rw [ofDomain, if_neg unbracketed, domain?_of_unescaped unescaped,
    Domain.write?_eq_none_of_long digits long]

end Host

namespace Url

/-! ## Addresses of one host -/

/-- The address of a host, and of nothing below it. -/
def site (domain : List Char) : Url :=
  ⟨"https", some ⟨"", "", .name (String.ofList domain), none⟩, false, .segments [""], none, none⟩

theorem isClean_lead : Percent.IsClean [' '] "https://".toList :=
  Percent.isClean_of_all (by decide)

theorem isAscii_of_endsAuthority {special : Bool} {c : Char} (ending : endsAuthority special c) :
    isAscii c :=
  List.all_eq_true.mp (by decide : outside.all isAscii) c (mem_outside_of_endsAuthority ending)

theorem isAscii_of_isSlash {special : Bool} {c : Char} (slash : isSlash special c) : isAscii c := by
  have ending : endsAuthority special c := by
    rw [endsAuthority, slash]
    rfl
  exact isAscii_of_endsAuthority ending

theorem isAscii_of_isIgnored {c : Char} (ignored : isIgnored c) : isAscii c := by
  simp only [isIgnored, Bool.or_eq_true, decide_eq_true_eq] at ignored
  rcases ignored with (rfl | rfl) | rfl <;> decide

theorem isAscii_of_isMargin {c : Char} (margin : isMargin c) : isAscii c :=
  decide_eq_true (Nat.lt_of_le_of_lt (of_decide_eq_true margin) (by decide))

section

variable {label : List Char} (ideographs : ∀ c ∈ label, IsIdeograph c)

include ideographs

theorem eq_false_of_isIdeograph {held : Char → Bool} (ascii : ∀ {c}, held c → isAscii c) :
    ∀ c ∈ label, held c = false := by
  intro c member
  rw [Bool.eq_false_iff]
  exact fun holds => Domain.not_mem_of_isIdeograph ideographs (ascii holds) member

variable (filled : label ≠ []) (short : label.length ≤ Domain.meaningLimit)

include filled short

theorem withAuthority_of_isIdeograph :
    withAuthority "https" label = some (site (Domain.mark ++ Punycode.encode label)) := by
  have absent {c : Char} (ascii : isAscii c) : c ∉ label :=
    Domain.not_mem_of_isIdeograph ideographs ascii
  have within : ∀ c ∈ label, (!endsAuthority (isSpecial "https") c) = true := fun c member =>
    Bool.not_eq_eq_eq_not.mpr (eq_false_of_isIdeograph ideographs isAscii_of_endsAuthority c member)
  have span : spanHost false label = (label, []) := by
    have spanned := spanHost_append_of_not_mem (absent (by decide)) (absent (by decide)) (.inl rfl)
    rwa [List.append_nil] at spanned
  have located : hostAndPort? "https" label =
      some (.name (String.ofList (Domain.mark ++ Punycode.encode label)), none, []) := by
    rw [hostAndPort?_eq "https" span, if_neg fun missing => filled missing.1, hostOf?,
      if_pos (by decide), Host.ofDomain_of_isIdeograph ideographs filled short]
    rfl
  rw [withAuthority, authority?, List.takeWhile_eq_self_iff.mpr within,
    List.dropWhile_eq_nil_iff.mpr within]
  dsimp only
  rw [cutUser_of_not_mem (absent (by decide))]
  dsimp only
  rw [located]
  rfl

/-- A label of ideographs is read, and encoded as a whole. -/
theorem parse?_of_isIdeograph :
    parse? (String.ofList ("https://".toList ++ label)) =
      some (site (Domain.mark ++ Punycode.encode label)) := by
  have unignored : withoutIgnored ('/' :: '/' :: label) = ['/', '/'] ++ label := by
    have kept : withoutIgnored label = label := List.filter_eq_self.mpr fun c member =>
      Bool.not_eq_eq_eq_not.mpr (eq_false_of_isIdeograph ideographs isAscii_of_isIgnored c member)
    exact congrArg (fun rest => '/' :: '/' :: rest) kept
  have unslashed : (['/', '/'] ++ label).dropWhile (isSlash true) = label := by
    apply Text.dropWhile_append_eq_right (by simp [isSlash])
    intro c first
    exact eq_false_of_isIdeograph ideographs isAscii_of_isSlash c (List.mem_of_head? first)
  have wide : ∀ c ∈ "https://".toList ++ label, isMargin c = false :=
    List.forall_mem_append.mpr
      ⟨fun c member => (isVisible_of_mem isClean_lead member).isMargin_eq_false,
        eq_false_of_isIdeograph ideographs isAscii_of_isMargin⟩
  have margins := withoutMargins_eq_self (fun c first => wide c (List.mem_of_head? first))
    (fun c last => wide c (List.mem_of_getLast? last))
  have parted : scheme? ("https://".toList ++ label) = some ("https", '/' :: '/' :: label) := rfl
  rw [parse?, margins, parted]
  dsimp only
  rw [if_neg (by decide), unignored, if_pos (by decide), unslashed,
    withAuthority_of_isIdeograph ideographs filled short]

end

/-- An address is not read again if the label of its host is too long. -/
theorem parse?_text_eq_none_of_long {url : Url} {authority : Authority} {encoded : List Char}
    (read : url.IsRead) (named : url.authority = some authority) (special : isSpecial url.scheme)
    (remote : isFile url.scheme = false)
    (host : authority.host = .name (String.ofList (Domain.mark ++ encoded)))
    (digits : ∀ c ∈ encoded, c ∈ Punycode.marks) (long : Domain.encodedLimit < encoded.length) :
    parse? url.text = none := by
  apply parse?_text_eq_none read named remote
  rw [hostOf?, if_pos special, host, Host.text, String.toList_ofList,
    Host.ofDomain_eq_none_of_long digits long]

/-! ## Ideographs far from each other -/

/-- Every twentieth ideograph. -/
def sparse (count : Nat) : List Char :=
  (List.range' 0x4E00 count 20).map Char.ofNat

def sparseText (count : Nat) : String :=
  String.ofList ("https://".toList ++ sparse count)

def sparseUrl (count : Nat) : Url :=
  site (Domain.mark ++ Punycode.encode (sparse count))

section

variable {count : Nat} (most : count ≤ Domain.meaningLimit)

include most

theorem map_toNat_sparse : (sparse count).map Char.toNat = List.range' 0x4E00 count 20 := by
  have limit : Domain.meaningLimit = 1000 := rfl
  rw [sparse, List.map_map]
  refine (List.map_congr_left fun code listed => ?_).trans (List.map_id _)
  rcases List.mem_range'.mp listed with ⟨index, small, rfl⟩
  have valid : (0x4E00 + 20 * index).isValidChar := .inl (by omega)
  rw [Function.comp_apply, Char.ofNat, dif_pos valid]
  rfl

theorem isIdeograph_of_mem_sparse {c : Char} (member : c ∈ sparse count) : IsIdeograph c := by
  have limit : Domain.meaningLimit = 1000 := rfl
  have listed : c.toNat ∈ List.range' 0x4E00 count 20 := by
    rw [← map_toNat_sparse most]
    exact List.mem_map_of_mem member
  rcases List.mem_range'.mp listed with ⟨index, small, equal⟩
  exact ⟨by omega, by omega⟩

variable (least : 716 ≤ count)

include least

theorem parse?_sparseText : parse? (sparseText count) = some (sparseUrl count) := by
  have length : (sparse count).length = count := by
    rw [sparse, List.length_map, List.length_range']
  apply parse?_of_isIdeograph fun c => isIdeograph_of_mem_sparse most
  · intro empty
    rw [empty, List.length_nil] at length
    omega
  · rwa [length]

/-- Almost each insertion takes three digits, so that the encoded label is too long. -/
theorem parse?_text_eq_none_of_sparse {url : Url} (read : url.IsRead)
    (scheme : url.scheme = "https") (authority : url.authority = (sparseUrl count).authority) :
    parse? url.text = none := by
  have limit : Domain.encodedLimit = 2000 := rfl
  have length := Punycode.le_length_encode (map_toNat_sparse most)
    (by decide : 936 ≤ 19 * (49 + 1)) (by decide)
  exact parse?_text_eq_none_of_long read authority (by rw [scheme]; decide)
    (by rw [scheme]; decide) rfl
    (fun c => Domain.mem_marks_of_mem_encode fun c => isIdeograph_of_mem_sparse most) (by omega)

end

end Url

end HostAttestation
