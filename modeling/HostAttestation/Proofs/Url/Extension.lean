import HostAttestation.Proofs.Url.Segments

/-! # Extending a path

A segment of characters that no part of an address escapes stands behind the path that it is
appended to, which stays as it was; only the root holds no segment to stay. -/

namespace HostAttestation

namespace Url

open Percent (IsClean)

/-- A letter, a digit or one of the four marks that stand for themselves in every place. -/
def isUnreservedChar (c : Char) : Bool :=
  c.isAlphanum || ['-', '_', '.', '~'].contains c

/-- A name of unreserved characters, and not a place made of dots. -/
def isUnreserved (segment : String) : Bool :=
  segment ≠ "" && segment ≠ "." && segment ≠ ".." && segment.toList.all isUnreservedChar

/-- What is escaped in an appended segment, and what parts the segments of a path. -/
def reserved : List Char :=
  Percent.segmentSet ++ ['\\']

section

variable {segment : String} (unreserved : isUnreserved segment)

include unreserved

theorem isUnreserved_iff : segment ≠ "" ∧ segment ≠ "." ∧ segment ≠ ".." ∧
    ∀ c ∈ segment.toList, isUnreservedChar c := by
  simpa [isUnreserved, and_assoc] using unreserved

theorem isClean_of_isUnreserved : IsClean reserved segment.toList := by
  rcases isUnreserved_iff unreserved with ⟨_, _, _, chars⟩
  intro c member
  have own := chars c member
  have ascii : Punycode.isAscii c := by
    rcases Bool.or_eq_true_iff.mp own with alphanumeric | mark
    · exact isAscii_of_isAlphanum alphanumeric
    · exact List.all_eq_true.mp (by decide : ['-', '_', '.', '~'].all Punycode.isAscii) c
        (List.contains_iff_mem.mp mark)
  have all := holds_of_isAscii (fun c => !isUnreservedChar c ||
    (!Percent.isControl c && !reserved.contains c)) (by decide) ascii
  simpa [own] using all

theorem isName_of_isUnreserved : IsName segment := by
  rcases isUnreserved_iff unreserved with ⟨_, one, two, _⟩
  have signless : '%' ∉ segment.toList := fun sign =>
    (isClean_of_isUnreserved unreserved '%' sign).2 (by decide)
  have signed : ∀ form ∈ doubleDotForms ++ dotForms, form = "." ∨ form = ".." ∨ '%' ∈ form.toList := by
    decide
  constructor
  · intro listed
    rcases signed segment (List.mem_append_left _ listed) with equal | equal | sign
    · exact one equal
    · exact two equal
    · exact signless sign
  · intro listed
    rcases signed segment (List.mem_append_right _ listed) with equal | equal | sign
    · exact one equal
    · exact two equal
    · exact signless sign

theorem isSegment_of_isUnreserved (special : Bool) : IsSegment special segment :=
  (isClean_of_isUnreserved unreserved).mono (by cases special <;> decide)

theorem encodeSegment_of_isUnreserved (scheme : String) :
    encodeSegment scheme segment.toList = segment := by
  have kept : Percent.encodeChars (Percent.segmentSet ++ if isSpecial scheme then ['\\'] else [])
      segment.toList = segment.toList :=
    Percent.encodeChars_eq_self ((isClean_of_isUnreserved unreserved).mono (by split <;> decide))
  rw [encodeSegment, Percent.encode, kept, String.ofList_toList]

theorem appendSegment_of_isUnreserved (scheme : String) (segments : List String) :
    appendSegment scheme segments segment =
      trimFile (isFile scheme) (withoutRoot segments ++ [segment]) := by
  rcases isUnreserved_iff unreserved with ⟨_, one, two, _⟩
  have clean := isClean_of_isUnreserved unreserved
  have isName := isName_of_isUnreserved unreserved
  have entered : enterPart (isFile scheme) (encodeSegment scheme) (withoutRoot segments)
      segment.toList true = withoutRoot segments ++ [segment] := by
    rw [enterPart, cutDrive?_eq_none clean]
    dsimp only
    rw [withoutIgnored_eq_self clean, encodeSegment_of_isUnreserved unreserved, enter,
      if_neg isName.1, if_neg isName.2]
  rw [appendSegment, if_neg (not_or.mpr ⟨one, two⟩), entered]

end

theorem length_trimFile_le (file : Bool) (segments : List String) :
    (trimFile file segments).length ≤ segments.length := by
  fun_induction trimFile file segments with
  | case1 next rest isFile induction => exact Nat.le_succ_of_le induction
  | case2 => exact Nat.le_refl _
  | case3 => exact Nat.le_refl _

theorem trimFile_eq_self_iff {file : Bool} {segments : List String} :
    trimFile file segments = segments ↔
      (file → ∀ next rest, segments ≠ "" :: next :: rest) := by
  fun_cases trimFile file segments with
  | case1 next rest isFile =>
      constructor
      · intro trimmed
        have shorter := length_trimFile_le file (next :: rest)
        rw [trimmed, List.length_cons] at shorter
        omega
      · exact fun other => absurd rfl (other isFile next rest)
  | case2 next rest remote => exact ⟨fun _ isFile => absurd isFile remote, fun _ => rfl⟩
  | case3 segments short =>
      exact ⟨fun _ _ next rest equal => short next rest equal, fun _ => rfl⟩

/-- Behind a first segment that stays, nothing is trimmed. -/
theorem trimFile_append {file : Bool} {segments : List String}
    (trimmed : trimFile file segments = segments) (filled : withoutRoot segments ≠ [])
    (more : List String) : trimFile file (segments ++ more) = segments ++ more := by
  rw [trimFile_eq_self_iff] at trimmed ⊢
  intro isFile next rest equal
  match segments with
  | [] => exact filled rfl
  | [segment] =>
      cases equal
      exact filled rfl
  | first :: second :: others =>
      cases equal
      exact trimmed isFile next others rfl

/-- Unreserved segments are appended as they are. -/
theorem appendSegments_of_isUnreserved {scheme : String} {segments path : List String}
    (trimmed : trimFile (isFile scheme) segments = segments)
    (filled : withoutRoot segments ≠ []) (unreserved : ∀ segment ∈ path, isUnreserved segment) :
    appendSegments scheme segments path = segments ++ path := by
  induction path generalizing segments with
  | nil => rw [appendSegments, List.append_nil]
  | cons segment rest induction =>
      rcases List.forall_mem_cons.mp unreserved with ⟨first, others⟩
      have rootless : withoutRoot segments = segments := by
        rw [withoutRoot] at filled ⊢
        split at filled
        next => exact absurd rfl filled
        next other => exact if_neg other
      have extended := trimFile_append trimmed filled [segment]
      have longer : withoutRoot (segments ++ [segment]) ≠ [] := by
        rw [withoutRoot, if_neg]
        · simp
        · rw [rootless] at filled
          cases segments with
          | nil => exact absurd rfl filled
          | cons => simp
      rw [appendSegments, appendSegment_of_isUnreserved first, rootless, extended,
        induction extended longer others, List.append_assoc, List.singleton_append]

/-! ## Addresses that can be extended -/

theorem isEmpty_withoutEmptyEnd (segments : List String) :
    (withoutEmptyEnd segments).isEmpty = segments.isEmpty := by
  cases segments with
  | nil => rfl
  | cons segment rest =>
      cases rest with
      | nil => rfl
      | cons next more =>
          rw [withoutEmptyEnd]
          · split
            next => rfl
            next => rfl
          · rintro _ ⟨⟩

theorem isBase_trimmed (url : Url) : url.trimmed.isBase = url.isBase := by
  rcases url with ⟨scheme, authority, isGuarded, path, query, fragment⟩
  cases path with
  | verbatim => rfl
  | segments list =>
      change (authority.isSome || !(withoutEmptyEnd list).isEmpty) =
        (authority.isSome || !list.isEmpty)
      rw [isEmpty_withoutEmptyEnd]

/-- Something can be put below an address exactly if it has a path with segments. -/
theorem isSome_append? (url : Url) (more : List String) : (url.append? more).isSome = url.isBase := by
  rcases url with ⟨scheme, authority, isGuarded, path, query, fragment⟩
  cases path with
  | verbatim => rfl
  | segments list =>
      rw [append?]
      split
      next base => exact base.symm
      next base =>
        rw [Bool.not_eq_true] at base
        exact base.symm

end Url

end HostAttestation
