import HostAttestation.Text.Blank
import HostAttestation.Text.Split
import Mathlib.Data.List.TakeWhile

/-! # Blanks around texts

A text without the blanks around it is empty exactly if there is nothing but blanks in it. It does
not matter to the parts of a text, once the blanks around them are left out, whether those around
the whole text were left out before. -/

namespace HostAttestation

namespace Text

/-- The printed characters of ASCII. -/
theorem not_isBlank_of_printed {c : Char} (above : 0x21 ≤ c.toNat) (below : c.toNat ≤ 0x7E) :
    ¬isBlank c := by
  simp only [isBlank, inRanges, blankRanges, List.any_cons, List.any_nil, Bool.or_eq_true,
    Bool.and_eq_true, decide_eq_true_eq, Bool.false_eq_true, or_false]
  omega

theorem dropWhile_isBlank_eq_nil_of_trimChars {text : List Char} (trimmed : trimChars text = []) :
    text.dropWhile isBlank = [] := by
  have blanks : ∀ c ∈ text.dropWhile isBlank, isBlank c := by
    rw [trimChars, List.reverse_eq_nil_iff, List.dropWhile_eq_nil_iff] at trimmed
    exact fun c member => trimmed c (List.mem_reverse.mpr member)
  cases rest : text.dropWhile isBlank with
  | nil => rfl
  | cons c others =>
      -- What is left starts with a character that is no blank.
      have head := List.head?_dropWhile_not isBlank text
      rw [rest] at head blanks
      simp [blanks c List.mem_cons_self] at head

theorem trimChars_of_isBlank {text : List Char} (blanks : ∀ c ∈ text, isBlank c) :
    trimChars text = [] := by
  rw [trimChars, List.dropWhile_eq_nil_iff.mpr blanks]
  rfl

theorem trim_eq_empty_iff (text : String) :
    trim text = "" ↔ ∀ c ∈ text.toList, isBlank c := by
  constructor
  · intro trimmed
    have empty : trimChars text.toList = [] := by
      rw [← String.toList_ofList (l := trimChars text.toList)]
      exact congrArg String.toList trimmed
    exact List.dropWhile_eq_nil_iff.mp (dropWhile_isBlank_eq_nil_of_trimChars empty)
  · intro blanks
    rw [trim, trimChars_of_isBlank blanks]

/-! ## Margins -/

theorem trimChars_append_left {margin : List Char} (blanks : ∀ c ∈ margin, isBlank c)
    (text : List Char) : trimChars (margin ++ text) = trimChars text := by
  rw [trimChars, List.dropWhile_append_of_pos blanks, trimChars]

theorem trimChars_append_right {margin : List Char} (blanks : ∀ c ∈ margin, isBlank c)
    (text : List Char) : trimChars (text ++ margin) = trimChars text := by
  have reversed : ∀ c ∈ margin.reverse, isBlank c :=
    fun c member => blanks c (List.mem_reverse.mp member)
  rw [trimChars, trimChars, List.dropWhile_append]
  cases rest : text.dropWhile isBlank with
  | nil => simp [List.dropWhile_eq_nil_iff.mpr blanks]
  | cons c others =>
      change ((c :: others ++ margin).reverse.dropWhile isBlank).reverse = _
      rw [List.reverse_append, List.dropWhile_append_of_pos reversed]

theorem dropWhile_isBlank_eq_self_iff (text : List Char) :
    text.dropWhile isBlank = text ↔ ∀ c ∈ text.head?, ¬isBlank c := by
  constructor
  · intro unchanged c first blank
    have head := List.head?_dropWhile_not isBlank text
    rw [unchanged, first] at head
    exact absurd blank (by simp [head])
  · intro starts
    cases text with
    | nil => rfl
    | cons c rest => exact List.dropWhile_cons_of_neg (starts c rfl)

/-- Exactly the texts that neither begin nor end with a blank stay as they are. -/
theorem trimChars_eq_self_iff (text : List Char) : trimChars text = text ↔
    (∀ c ∈ text.head?, ¬isBlank c) ∧ ∀ c ∈ text.getLast?, ¬isBlank c := by
  rw [← List.head?_reverse, ← dropWhile_isBlank_eq_self_iff, ← dropWhile_isBlank_eq_self_iff]
  constructor
  · intro trimmed
    have suffix := List.dropWhile_suffix (l := text) isBlank
    have shorter := (List.dropWhile_suffix (l := (text.dropWhile isBlank).reverse)
      isBlank).length_le
    have lengths := congrArg List.length trimmed
    rw [trimChars, List.length_reverse] at lengths
    rw [List.length_reverse] at shorter
    have unchanged : text.dropWhile isBlank = text :=
      suffix.eq_of_length (Nat.le_antisymm suffix.length_le (by omega))
    rw [trimChars, unchanged, List.reverse_eq_iff] at trimmed
    exact ⟨unchanged, trimmed⟩
  · intro unchanged
    rw [trimChars, unchanged.1, unchanged.2, List.reverse_reverse]

theorem trimChars_eq_self {text : List Char} (visible : ∀ c ∈ text, ¬isBlank c) :
    trimChars text = text :=
  (trimChars_eq_self_iff text).mpr ⟨fun c first => visible c (List.mem_of_mem_head? first),
    fun c last => visible c (List.mem_of_getLast? last)⟩

theorem exists_margins (text : List Char) :
    ∃ lead trail, (∀ c ∈ lead, isBlank c) ∧ (∀ c ∈ trail, isBlank c) ∧
      text = lead ++ trimChars text ++ trail := by
  have whole := List.takeWhile_append_dropWhile (p := isBlank) (l := text)
  have rest := List.takeWhile_append_dropWhile (p := isBlank)
    (l := (text.dropWhile isBlank).reverse)
  refine ⟨text.takeWhile isBlank, ((text.dropWhile isBlank).reverse.takeWhile isBlank).reverse,
    fun c member => List.mem_takeWhile_imp member,
    fun c member => List.mem_takeWhile_imp (List.mem_reverse.mp member), ?_⟩
  rw [trimChars, List.append_assoc, ← List.reverse_append, rest, List.reverse_reverse, whole]

theorem mem_of_mem_trimChars {text : List Char} {c : Char} (member : c ∈ trimChars text) :
    c ∈ text := by
  rcases exists_margins text with ⟨lead, trail, _, _, whole⟩
  rw [whole]
  exact List.mem_append_left trail (List.mem_append_right lead member)

theorem trimChars_trimChars (text : List Char) : trimChars (trimChars text) = trimChars text := by
  rcases exists_margins text with ⟨lead, trail, leads, trails, whole⟩
  have trimmed := congrArg trimChars whole
  rw [trimChars_append_right trails, trimChars_append_left leads] at trimmed
  exact trimmed.symm

/-- A mark that is no blank stops the blanks on both sides. -/
theorem trimChars_append_cons {mark : Char} (unblank : ¬isBlank mark) (before after : List Char) :
    trimChars (before ++ mark :: after) =
      before.dropWhile isBlank ++ mark :: (after.reverse.dropWhile isBlank).reverse := by
  have stops : ∀ text others : List Char, (text ++ mark :: others).dropWhile isBlank =
      text.dropWhile isBlank ++ mark :: others := by
    intro text others
    rw [List.dropWhile_append, List.dropWhile_cons_of_neg unblank]
    split
    next empty => rw [List.isEmpty_iff.mp empty, List.nil_append]
    next => rfl
  rw [trimChars, stops, List.reverse_append, List.reverse_cons, List.append_assoc,
    List.singleton_append, stops]
  simp

theorem trimChars_dropWhile_isBlank (text : List Char) :
    trimChars (text.dropWhile isBlank) = trimChars text := by
  have whole := List.takeWhile_append_dropWhile (p := isBlank) (l := text)
  calc trimChars (text.dropWhile isBlank)
      = trimChars (text.takeWhile isBlank ++ text.dropWhile isBlank) :=
        (trimChars_append_left (fun c member => List.mem_takeWhile_imp member) _).symm
    _ = trimChars text := by rw [whole]

/-! ## Parts -/

section

variable {separator : Char} (mark : ¬isBlank separator)

include mark

theorem not_mem_of_isBlank {margin : List Char} (blanks : ∀ c ∈ margin, isBlank c) :
    separator ∉ margin :=
  fun member => mark (blanks separator member)

theorem map_trimChars_split_append_right {margin : List Char} (blanks : ∀ c ∈ margin, isBlank c)
    (text : List Char) : (split separator (text ++ margin)).map trimChars =
      (split separator text).map trimChars := by
  rcases exists_split_append text (not_mem_of_isBlank mark blanks) with
    ⟨parts, last, cut, extended⟩
  rw [cut, extended, List.map_append, List.map_append, List.map_singleton, List.map_singleton,
    trimChars_append_right blanks]

theorem map_trimChars_split_append_left {margin : List Char} (blanks : ∀ c ∈ margin, isBlank c)
    (text : List Char) : (split separator (margin ++ text)).map trimChars =
      (split separator text).map trimChars := by
  induction margin with
  | nil => rfl
  | cons c rest induction =>
      have headed := List.forall_mem_cons.mp blanks
      have different : c ≠ separator := fun same => mark (same ▸ headed.1)
      rw [← induction headed.2, List.cons_append, split, if_neg different]
      cases parts : split separator (rest ++ text) with
      | nil => exact absurd parts (split_ne_nil separator _)
      | cons part others =>
          have single : ∀ other ∈ [c], isBlank other := by simpa using headed.1
          exact congrArg (· :: others.map trimChars) (trimChars_append_left single part)

theorem map_trimChars_split_trimChars (text : List Char) :
    (split separator (trimChars text)).map trimChars = (split separator text).map trimChars := by
  rcases exists_margins text with ⟨lead, trail, leads, trails, whole⟩
  calc (split separator (trimChars text)).map trimChars
      = (split separator (lead ++ trimChars text)).map trimChars :=
        (map_trimChars_split_append_left mark leads _).symm
    _ = (split separator (lead ++ trimChars text ++ trail)).map trimChars :=
        (map_trimChars_split_append_right mark trails _).symm
    _ = (split separator text).map trimChars := by rw [← whole]

end

end Text

end HostAttestation
