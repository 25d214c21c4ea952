import HostAttestation.Proofs.Url.Authority
import HostAttestation.Proofs.Url.Path

/-! # Segments of a path

What reading a path leads to: segments that need no escape, none of which is a place made of dots
unless the path is that of a file on a drive. The text of such segments is read as the segments. -/

namespace HostAttestation

namespace Url

open Percent (IsClean)

/-! ## Ignored characters -/

theorem isIgnored_eq_false {c : Char} (printed : Percent.isControl c = false) :
    isIgnored c = false := by
  cases ignored : isIgnored c with
  | false => rfl
  | true =>
      simp only [isIgnored, Bool.or_eq_true, decide_eq_true_eq] at ignored
      rcases ignored with (rfl | rfl) | rfl <;> exact absurd printed (by decide)

section

variable {escaped text : List Char} (clean : IsClean escaped text)

include clean

theorem withoutIgnored_eq_self : withoutIgnored text = text :=
  List.filter_eq_self.mpr fun c member => by rw [isIgnored_eq_false (clean c member).1]; rfl

theorem dropWhile_isIgnored_eq_self : text.dropWhile isIgnored = text := by
  cases text with
  | nil => rfl
  | cons c rest =>
      apply List.dropWhile_cons_of_neg
      rw [isIgnored_eq_false (clean c List.mem_cons_self).1]
      decide

end

/-- A drive is cut off only before an ignored character. -/
theorem cutDrive?_eq_none {escaped part : List Char} (clean : IsClean escaped part) :
    cutDrive? part = none := by
  rw [cutDrive?, dropWhile_isIgnored_eq_self clean]
  split
  next letter rest =>
    have cleanRest : IsClean escaped rest := (List.forall_mem_cons.mp clean).2
    rw [dropWhile_isIgnored_eq_self cleanRest]
    split
    next behind =>
      have cleanBehind : IsClean escaped behind := (List.forall_mem_cons.mp cleanRest).2
      apply if_neg
      cases behind with
      | nil => simp
      | cons c others =>
          have unignored := isIgnored_eq_false (cleanBehind c List.mem_cons_self).1
          simp [unignored]
    next => rfl
  next => rfl

theorem eq_of_cutDrive? {part drive rest : List Char} (cut : cutDrive? part = some (drive, rest)) :
    (∃ letter, letter.isAlpha ∧ drive = [letter, ':']) ∧ ∀ c ∈ rest, c ∈ part := by
  rw [cutDrive?] at cut
  split at cut
  next letter behind start =>
    split at cut
    next more colon =>
      split at cut
      next fits =>
        cases cut
        simp only [Bool.and_eq_true] at fits
        refine ⟨⟨letter, fits.1.1, rfl⟩, fun c member => ?_⟩
        have inMore := (List.mem_filter.mp member).1
        have inBehind : c ∈ behind := by
          have suffix := List.dropWhile_suffix isIgnored (l := behind)
          rw [colon] at suffix
          exact suffix.subset (List.mem_cons_of_mem _ inMore)
        have suffix := List.dropWhile_suffix isIgnored (l := part)
        rw [start] at suffix
        exact suffix.subset (List.mem_cons_of_mem _ inBehind)
      next => cases cut
    next => cases cut
  next => cases cut

/-! ## Places -/

/-- A segment that is a name and not a place made of dots. -/
def IsName (segment : String) : Prop :=
  segment ∉ doubleDotForms ∧ segment ∉ dotForms

theorem mem_enter {segments : List String} {segment other : String} {last : Bool}
    (member : other ∈ enter segments segment last) :
    other ∈ segments ∨ other = "" ∨ (other = segment ∧ IsName segment) := by
  have ofEnd {front : List String} (inside : other ∈ front ++ if last then [""] else []) :
      other ∈ front ∨ other = "" := by
    rcases List.mem_append.mp inside with before | ending
    · exact .inl before
    · cases last with
      | false => cases ending
      | true => exact .inr (List.mem_singleton.mp ending)
  rw [enter] at member
  split at member
  next =>
    rcases ofEnd member with before | empty
    · rw [parent] at before
      split at before
      next => exact .inl before
      next => exact .inl (List.dropLast_subset segments before)
    · exact .inr (.inl empty)
  next upward =>
    split at member
    next => exact (ofEnd member).imp_right .inl
    next here =>
      rcases List.mem_append.mp member with before | own
      · exact .inl before
      · exact .inr (.inr ⟨List.mem_singleton.mp own, upward, here⟩)

theorem mem_enterPart {file : Bool} {encode : List Char → String} {segments : List String}
    {part : List Char} {last : Bool} {other : String}
    (member : other ∈ enterPart file encode segments part last) :
    other ∈ segments ∨ other = "" ∨ (other = encode (withoutIgnored part) ∧ IsName other) ∨
      (file ∧ ∃ drive rest, cutDrive? part = some (drive, rest) ∧
        (other = String.ofList drive ∨ other = encode rest)) := by
  have entered (inside : other ∈ enter segments (encode (withoutIgnored part)) last) :
      other ∈ segments ∨ other = "" ∨ (other = encode (withoutIgnored part) ∧ IsName other) := by
    rcases mem_enter inside with before | empty | ⟨rfl, named⟩
    · exact .inl before
    · exact .inr (.inl empty)
    · exact .inr (.inr ⟨rfl, named⟩)
  rw [enterPart] at member
  split at member
  next drive rest cut =>
    split at member
    next first =>
      rw [Bool.and_eq_true] at first
      refine .inr (.inr (.inr ⟨first.1, drive, rest, cut, ?_⟩))
      simpa using member
    next => exact (entered member).imp_right (Or.imp_right .inl)
  next => exact (entered member).imp_right (Or.imp_right .inl)

theorem enter_ne_nil (segments : List String) (segment : String) :
    enter segments segment true ≠ [] := by
  rw [enter]
  split
  next => simp
  next => split <;> simp

theorem enterPart_ne_nil (file : Bool) (encode : List Char → String) (segments : List String)
    (part : List Char) : enterPart file encode segments part true ≠ [] := by
  rw [enterPart]
  split
  next =>
    split
    next => exact List.cons_ne_nil _ _
    next => exact enter_ne_nil _ _
  next => exact enter_ne_nil _ _

theorem enterAll_ne_nil (file : Bool) (encode : List Char → String) (segments : List String)
    {parts : List (List Char)} (filled : parts ≠ []) :
    enterAll file encode segments parts ≠ [] := by
  fun_induction enterAll file encode segments parts with
  | case1 => exact absurd rfl filled
  | case2 segments part => exact enterPart_ne_nil file encode segments part
  | case3 segments part rest more induction =>
      exact induction fun empty => more empty

/-- What holds of every segment that a part may lead to holds of every segment of a path. -/
theorem forall_mem_enterAll {file : Bool} {encode : List Char → String} {holds : String → Prop}
    {segments : List String} {parts : List (List Char)} (before : ∀ segment ∈ segments, holds segment)
    (empty : holds "")
    (named : ∀ part ∈ parts, IsName (encode (withoutIgnored part)) →
      holds (encode (withoutIgnored part)))
    (cut : file → ∀ part ∈ parts, ∀ drive rest, cutDrive? part = some (drive, rest) →
      holds (String.ofList drive) ∧ holds (encode rest)) :
    ∀ segment ∈ enterAll file encode segments parts, holds segment := by
  have step {segments : List String} (before : ∀ segment ∈ segments, holds segment)
      {part : List Char} (listed : part ∈ parts) (last : Bool) :
      ∀ segment ∈ enterPart file encode segments part last, holds segment := by
    intro segment member
    rcases mem_enterPart member with earlier | rfl | ⟨rfl, isName⟩ |
      ⟨isFile, drive, rest, cutAt, equal⟩
    · exact before segment earlier
    · exact empty
    · exact named part listed isName
    · rcases cut isFile part listed drive rest cutAt with ⟨ofDrive, ofRest⟩
      rcases equal with rfl | rfl
      · exact ofDrive
      · exact ofRest
  fun_induction enterAll file encode segments parts with
  | case1 => exact before
  | case2 segments part => exact step before (List.mem_singleton_self part) true
  | case3 segments part rest more induction =>
      refine induction (step before List.mem_cons_self false)
        (fun other listed => named other (List.mem_cons_of_mem part listed))
        (fun isFile other listed => cut isFile other (List.mem_cons_of_mem part listed)) ?_
      exact fun before other listed => step before (List.mem_cons_of_mem part listed)

/-! ## Segments that were read -/

/-- What no segment of a path contains. -/
def segmentMarks (special : Bool) : List Char :=
  Percent.pathSet ++ if special then ['/', '\\'] else ['/']

def IsSegment (special : Bool) (segment : String) : Prop :=
  IsClean (segmentMarks special) segment.toList

theorem isSegment_encode {special : Bool} {part : List Char}
    (whole : ∀ c ∈ part, c ≠ '/' ∧ (special → c ≠ '\\')) :
    IsSegment special (Percent.encode Percent.pathSet part) := by
  have apart : Percent.marks.all fun c => !(segmentMarks true).contains c := by decide
  have fewer : ∀ c ∈ segmentMarks special, c ∈ segmentMarks true := by
    cases special with
    | false => exact fun c => List.contains_iff_mem.mp ∘
        List.all_eq_true.mp (by decide : (segmentMarks false).all (segmentMarks true).contains) c
    | true => exact fun c => id
  intro c member
  rw [Percent.encode, String.toList_ofList] at member
  rcases Percent.mem_encodeChars member with mark | ⟨own, printed, unescaped⟩
  · refine ⟨Percent.isControl_of_mem_marks mark, fun listed => ?_⟩
    have unmarked := List.all_eq_true.mp apart c mark
    rw [List.contains_iff_mem.mpr (fewer c listed)] at unmarked
    cases unmarked
  · refine ⟨printed, fun listed => ?_⟩
    rcases whole c own with ⟨slashless, straight⟩
    rcases List.mem_append.mp listed with escaped | separator
    · exact unescaped escaped
    · cases special with
      | false => exact slashless (by simpa using separator)
      | true =>
          rcases (by simpa using separator : c = '/' ∨ c = '\\') with slash | backslash
          · exact slashless slash
          · exact straight rfl backslash

theorem isSegment_drive (special : Bool) {letter : Char} (alphabetic : letter.isAlpha) :
    IsSegment special (String.ofList [letter, ':']) := by
  have all := holds_of_isAscii (fun c => !c.isAlpha || (!Percent.isControl c &&
    !(segmentMarks true).contains c && !(segmentMarks false).contains c)) (by decide)
    (isAscii_of_isAlphanum (by rw [Char.isAlphanum, alphabetic]; rfl))
  have first : Percent.isControl letter = false ∧ letter ∉ segmentMarks special := by
    cases special <;> simp_all
  have second : Percent.isControl ':' = false ∧ ':' ∉ segmentMarks special := by
    cases special <;> decide
  rw [IsSegment, String.toList_ofList]
  exact List.forall_mem_cons.mpr ⟨first, List.forall_mem_cons.mpr
    ⟨second, fun c member => absurd member List.not_mem_nil⟩⟩

theorem mem_splitPath {special : Bool} {text part : List Char}
    (listed : part ∈ splitPath special text) :
    ∀ c ∈ part, c ≠ '/' ∧ (special → c ≠ '\\') := by
  intro c member
  rcases Text.mem_of_mem_split listed member with ⟨mapped, slashless⟩
  refine ⟨slashless, ?_⟩
  rintro rfl rfl
  rcases List.mem_map.mp mapped with ⟨source, _, equal⟩
  split at equal
  next => cases equal
  next straight =>
    rw [equal] at straight
    exact straight rfl

/-- What reading the path of an address leads to. -/
structure AreRead (scheme : String) (list : List String) : Prop where
  segments : ∀ segment ∈ list, IsSegment (isSpecial scheme) segment
  names : isFile scheme = false → ∀ segment ∈ list, IsName segment
  trimmed : trimFile (isFile scheme) list = list

theorem trimFile_subset (file : Bool) (segments : List String) :
    ∀ segment ∈ trimFile file segments, segment ∈ segments := by
  fun_induction trimFile file segments with
  | case1 next rest isFile induction =>
      exact fun segment member => List.mem_cons_of_mem "" (induction segment member)
  | case2 => exact fun segment => id
  | case3 => exact fun segment => id

theorem trimFile_trimFile (file : Bool) (segments : List String) :
    trimFile file (trimFile file segments) = trimFile file segments := by
  fun_induction trimFile file segments with
  | case1 next rest isFile induction => exact induction
  | case2 next rest other => rw [trimFile, if_neg other]
  | case3 segments short =>
      rw [trimFile]
      exact short

theorem trimFile_ne_nil (file : Bool) {segments : List String} (filled : segments ≠ []) :
    trimFile file segments ≠ [] := by
  fun_induction trimFile file segments with
  | case1 next rest isFile induction => exact induction (List.cons_ne_nil next rest)
  | case2 => exact filled
  | case3 => exact filled

theorem segmentsOf_ne_nil (scheme : String) (text : List Char) : segmentsOf scheme text ≠ [] :=
  trimFile_ne_nil _ (enterAll_ne_nil _ _ _ (Text.split_ne_nil '/' _))

theorem areRead_segmentsOf (scheme : String) (text : List Char) :
    AreRead scheme (segmentsOf scheme text) := by
  have nothing (holds : String → Prop) : ∀ segment ∈ ([] : List String), holds segment :=
    fun segment member => absurd member List.not_mem_nil
  refine ⟨fun segment member => ?_, fun plain segment member => ?_, trimFile_trimFile _ _⟩
  · refine forall_mem_enterAll (nothing _) (fun c inside => absurd inside List.not_mem_nil)
      ?_ ?_ segment (trimFile_subset _ _ segment member)
    · intro part listed _
      exact isSegment_encode fun c inside => mem_splitPath listed c (List.mem_filter.mp inside).1
    · intro _ part listed drive rest cut
      rcases eq_of_cutDrive? cut with ⟨⟨letter, alphabetic, rfl⟩, ofPart⟩
      exact ⟨isSegment_drive _ alphabetic,
        isSegment_encode fun c inside => mem_splitPath listed c (ofPart c inside)⟩
  · refine forall_mem_enterAll (nothing _) (by unfold IsName; decide) (fun _ _ isName => isName)
      ?_ segment (trimFile_subset _ _ segment member)
    intro isFile
    rw [plain] at isFile
    cases isFile

/-! ## Reading segments again -/

theorem enterAll_names {file special : Bool} {list segments : List String}
    (areSegments : ∀ segment ∈ list, IsSegment special segment)
    (names : ∀ segment ∈ list, IsName segment) :
    enterAll file (Percent.encode Percent.pathSet) segments (list.map String.toList) =
      segments ++ list := by
  have step {segment : String} (isSegment : IsSegment special segment) (isName : IsName segment)
      (segments : List String) (last : Bool) :
      enterPart file (Percent.encode Percent.pathSet) segments segment.toList last =
        segments ++ [segment] := by
    have clean : IsClean Percent.pathSet segment.toList := fun c member =>
      (isSegment c member).imp_right (mt (List.mem_append_left _))
    rw [enterPart, cutDrive?_eq_none clean]
    dsimp only
    rw [withoutIgnored_eq_self clean, Percent.encode, Percent.encodeChars_eq_self clean,
      String.ofList_toList, enter, if_neg isName.1, if_neg isName.2]
  induction list generalizing segments with
  | nil => simp [enterAll]
  | cons segment rest induction =>
      rcases List.forall_mem_cons.mp areSegments with ⟨isSegment, others⟩
      rcases List.forall_mem_cons.mp names with ⟨isName, otherNames⟩
      cases rest with
      | nil => exact step isSegment isName segments true
      | cons next more =>
          have later := @induction (segments ++ [segment]) others otherNames
          rw [List.append_assoc, List.singleton_append] at later
          rw [← later, ← step isSegment isName segments false]
          rfl

theorem splitPath_join {special : Bool} {list : List String} (filled : list ≠ [])
    (areSegments : ∀ segment ∈ list, IsSegment special segment) :
    splitPath special (Text.join '/' (list.map String.toList)) = list.map String.toList := by
  have parts : ∀ part ∈ list.map String.toList, IsClean (segmentMarks special) part := by
    rintro _ listed
    rcases List.mem_map.mp listed with ⟨segment, own, rfl⟩
    exact areSegments segment own
  have slash : '/' ∈ segmentMarks special := by
    cases special <;> decide
  have unchanged : (Text.join '/' (list.map String.toList)).map
      (fun c => if isSlash special c then '/' else c) = Text.join '/' (list.map String.toList) := by
    refine (List.map_congr_left fun c member => ?_).trans (List.map_id _)
    split
    next slashes =>
      rcases Text.mem_join member with rfl | ⟨part, listed, inside⟩
      · rfl
      · refine absurd ?_ (parts part listed c inside).2
        simp only [isSlash, Bool.or_eq_true, Bool.and_eq_true, decide_eq_true_eq] at slashes
        rcases slashes with rfl | ⟨rfl, rfl⟩
        · exact slash
        · decide
    next => rfl
  rw [splitPath, unchanged]
  exact Text.split_join (by simpa using filled) fun part listed separator =>
    (parts part listed '/' separator).2 slash

/-- The text of names is read as the names. -/
theorem segmentsOf_join {scheme : String} {list : List String} (filled : list ≠ [])
    (read : AreRead scheme list) (names : ∀ segment ∈ list, IsName segment) :
    segmentsOf scheme (Text.join '/' (list.map String.toList)) = list := by
  rw [segmentsOf, splitPath_join filled read.segments, enterAll_names read.segments names]
  exact read.trimmed

end Url

end HostAttestation
