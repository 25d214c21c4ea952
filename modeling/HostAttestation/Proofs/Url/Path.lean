import HostAttestation.Url.Path

/-! # Plain segments

A segment of small letters and hyphens is neither escaped nor taken for dots or a drive when it is
appended to an address, so it stands at the end of the address as it was given. -/

namespace HostAttestation

namespace Url

def isPlainChar (c : Char) : Bool :=
  ('a'.toNat ≤ c.toNat && c.toNat ≤ 'z'.toNat) || c = '-'

def isPlain (segment : String) : Bool :=
  !segment.toList.isEmpty && segment.toList.all isPlainChar

theorem isControl_of_isPlainChar {c : Char} (plain : isPlainChar c) :
    Percent.isControl c = false := by
  rcases Bool.or_eq_true_iff.mp plain with lower | hyphen
  · have bounds : 97 ≤ c.toNat ∧ c.toNat ≤ 122 := by simpa using lower
    simp only [Percent.isControl, Bool.or_eq_false_iff, decide_eq_false_iff_not]
    omega
  · rw [of_decide_eq_true hyphen]
    decide

theorem not_isPlainChar_of_mem {chars : List Char} {c : Char}
    (unplain : chars.all fun other => !isPlainChar other) (member : c ∈ chars) :
    ¬isPlainChar c := by
  simpa using List.all_eq_true.mp unplain c member

theorem isIgnored_of_isPlainChar {c : Char} (plain : isPlainChar c) : isIgnored c = false := by
  cases ignored : isIgnored c with
  | false => rfl
  | true =>
      have listed : c ∈ ['\t', '\n', '\r'] := by simpa [isIgnored, or_assoc] using ignored
      exact absurd plain (not_isPlainChar_of_mem (by decide) listed)

theorem encodeChar_of_isPlainChar (scheme : String) {c : Char} (plain : isPlainChar c) :
    Percent.encodeChar (Percent.segmentSet ++ if isSpecial scheme then ['\\'] else []) c = [c] := by
  have unescaped : c ∉ Percent.segmentSet ++ if isSpecial scheme then ['\\'] else [] := by
    intro escaped
    have listed : c ∈ Percent.segmentSet ++ ['\\'] := by
      split at escaped
      · exact escaped
      · exact List.mem_append_left _ (by simpa using escaped)
    exact absurd plain (not_isPlainChar_of_mem (by decide) listed)
  rw [Percent.encodeChar, isControl_of_isPlainChar plain, List.contains_eq_mem,
    decide_eq_false unescaped]
  rfl

theorem encodeChars_of_isPlainChar (scheme : String) {chars : List Char}
    (plain : ∀ c ∈ chars, isPlainChar c) :
    Percent.encodeChars (Percent.segmentSet ++ if isSpecial scheme then ['\\'] else []) chars =
      chars := by
  induction chars with
  | nil => rfl
  | cons c rest induction =>
      rw [Percent.encodeChars, List.flatMap_cons,
        encodeChar_of_isPlainChar scheme (plain c List.mem_cons_self)]
      have rests := induction fun other member => plain other (List.mem_cons_of_mem c member)
      exact congrArg (c :: ·) rests

theorem dropWhile_isIgnored_of_isPlainChar {chars : List Char}
    (plain : ∀ c ∈ chars, isPlainChar c) : chars.dropWhile isIgnored = chars := by
  cases chars with
  | nil => rfl
  | cons c rest =>
      rw [List.dropWhile_cons_of_neg]
      rw [isIgnored_of_isPlainChar (plain c List.mem_cons_self)]
      decide

section

variable {segment : String} (plain : isPlain segment)

include plain

theorem isPlainChar_of_mem {c : Char} (member : c ∈ segment.toList) : isPlainChar c := by
  have all := (Bool.and_eq_true_iff.mp plain).2
  exact List.all_eq_true.mp all c member

theorem withoutIgnored_eq_of_isPlain : withoutIgnored segment.toList = segment.toList := by
  apply List.filter_eq_self.mpr
  intro c member
  rw [isIgnored_of_isPlainChar (isPlainChar_of_mem plain member)]
  rfl

theorem encodeSegment_of_isPlain (scheme : String) :
    encodeSegment scheme segment.toList = segment := by
  rw [encodeSegment, Percent.encode,
    encodeChars_of_isPlainChar scheme fun c member => isPlainChar_of_mem plain member]
  exact String.ofList_toList

/-- There is no colon in the segment. -/
theorem cutDrive?_of_isPlain : cutDrive? segment.toList = none := by
  have plainChars : ∀ c ∈ segment.toList, isPlainChar c := fun c => isPlainChar_of_mem plain
  rw [cutDrive?, dropWhile_isIgnored_of_isPlainChar plainChars]
  cases chars : segment.toList with
  | nil => rfl
  | cons letter rest =>
      rw [chars] at plainChars
      have restPlain : ∀ c ∈ rest, isPlainChar c := fun c member =>
        plainChars c (List.mem_cons_of_mem letter member)
      simp only [dropWhile_isIgnored_of_isPlainChar restPlain]
      split
      next others =>
        have colonPlain := restPlain ':' List.mem_cons_self
        exact absurd colonPlain (by decide)
      next => rfl

theorem ne_dots_of_isPlain : segment ∉ doubleDotForms ∧ segment ∉ dotForms := by
  have unplain : ∀ other ∈ doubleDotForms ++ dotForms, isPlain other = false := by decide
  constructor
  · intro dots
    rw [unplain segment (List.mem_append_left _ dots)] at plain
    cases plain
  · intro dots
    rw [unplain segment (List.mem_append_right _ dots)] at plain
    cases plain

theorem enterPart_of_isPlain (file : Bool) (scheme : String) (segments : List String)
    (last : Bool) :
    enterPart file (encodeSegment scheme) segments segment.toList last = segments ++ [segment] := by
  rw [enterPart, cutDrive?_of_isPlain plain]
  dsimp only
  rw [withoutIgnored_eq_of_isPlain plain, encodeSegment_of_isPlain plain, enter,
    if_neg (ne_dots_of_isPlain plain).1, if_neg (ne_dots_of_isPlain plain).2]

end

theorem getLast?_trimFile (file : Bool) (segments : List String) :
    (trimFile file segments).getLast? = segments.getLast? := by
  fun_induction trimFile file segments with
  | case1 next rest isFile induction => rw [induction, List.getLast?_cons_cons]
  | case2 => rfl
  | case3 => rfl

theorem getLast?_appendSegment (scheme : String) (segments : List String) {segment : String}
    (plain : isPlain segment) :
    (appendSegment scheme segments segment).getLast? = some segment := by
  have undotted : ¬(segment = "." ∨ segment = "..") := by
    intro dots
    rcases dots with rfl | rfl
    · cases plain
    · cases plain
  rw [appendSegment, if_neg undotted, getLast?_trimFile, enterPart_of_isPlain plain,
    List.getLast?_concat]

/-- Whatever stands before it, a plain segment that is appended last is the last one. -/
theorem getLast?_appendSegments (scheme : String) (segments path : List String) {last : String}
    (ends : path.getLast? = some last) (plain : isPlain last) :
    (appendSegments scheme segments path).getLast? = some last := by
  induction path generalizing segments with
  | nil => cases ends
  | cons segment rest induction =>
      rw [appendSegments]
      cases rest with
      | nil =>
          cases ends
          exact getLast?_appendSegment scheme segments plain
      | cons next others =>
          rw [List.getLast?_cons_cons] at ends
          exact induction _ ends

theorem lastSegment_of_below? {base url : Url} {path : List String} {last : String}
    (below : base.below? path = some url) (ends : path.getLast? = some last)
    (plain : isPlain last) : url.lastSegment = last := by
  unfold below? append? at below
  split at below
  · split at below
    · cases below
    · cases below
      rw [lastSegment]
      simp only [getLast?_appendSegments _ _ path ends plain, Option.getD_some]
  · cases below

end Url

end HostAttestation
