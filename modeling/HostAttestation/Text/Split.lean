/-! # Cutting texts

The parts of a text between separators. Main statements: joining the parts with the separator
gives the text back, so no part is lost, and cutting it gives them back if no separator is in
them. -/

namespace HostAttestation

namespace Text

/-- The parts between the separators, always at least one. -/
def split (separator : Char) : List Char → List (List Char)
  | [] => [[]]
  | c :: rest =>
      if c = separator then [] :: split separator rest
      else
        match split separator rest with
        | [] => [[c]]
        | part :: parts => (c :: part) :: parts

def splitText (separator : Char) (text : String) : List String :=
  (split separator text.toList).map String.ofList

/-- What stands before and after the first occurrence of a character. -/
def cut? (separator : Char) : List Char → Option (List Char × List Char)
  | [] => none
  | c :: rest =>
      if c = separator then some ([], rest)
      else (cut? separator rest).map fun (before, after) => (c :: before, after)

def join (separator : Char) : List (List Char) → List Char
  | [] => []
  | [part] => part
  | part :: parts => part ++ separator :: join separator parts

theorem split_ne_nil (separator : Char) (text : List Char) : split separator text ≠ [] := by
  cases text with
  | nil => simp [split]
  | cons c rest =>
      rw [split]
      split
      · simp
      · cases Text.split separator rest <;> simp

theorem join_split (separator : Char) (text : List Char) :
    join separator (split separator text) = text := by
  induction text with
  | nil => rfl
  | cons c rest induction =>
      rw [split]
      split
      next equal =>
        subst c
        cases parts : split separator rest with
        | nil => exact absurd parts (split_ne_nil separator rest)
        | cons part others => rw [parts] at induction; simp [join, induction]
      next =>
        cases parts : split separator rest with
        | nil => exact absurd parts (split_ne_nil separator rest)
        | cons part others =>
            rw [parts] at induction
            cases others <;> simp_all [join]

theorem split_append_cons (separator : Char) (first second : List Char) :
    split separator (first ++ separator :: second) =
      split separator first ++ split separator second := by
  induction first with
  | nil => simp [split]
  | cons c rest induction =>
      rw [List.cons_append, split, split, induction]
      split
      · rfl
      · cases parts : split separator rest with
        | nil => exact absurd parts (split_ne_nil separator rest)
        | cons part others => rfl

theorem split_of_not_mem {separator : Char} {text : List Char} (absent : separator ∉ text) :
    split separator text = [text] := by
  induction text with
  | nil => rfl
  | cons c rest induction =>
      rw [List.mem_cons, not_or] at absent
      rw [split, if_neg (Ne.symm absent.1), induction absent.2]

/-- Parts without the separator in them are found again. -/
theorem split_join {separator : Char} {parts : List (List Char)} (filled : parts ≠ [])
    (whole : ∀ part ∈ parts, separator ∉ part) :
    split separator (join separator parts) = parts := by
  induction parts with
  | nil => exact absurd rfl filled
  | cons part rest induction =>
      have wholes := List.forall_mem_cons.mp whole
      cases rest with
      | nil => exact split_of_not_mem wholes.1
      | cons next others =>
          change split separator (part ++ separator :: join separator (next :: others)) = _
          rw [split_append_cons, split_of_not_mem wholes.1,
            induction (List.cons_ne_nil next others) wholes.2, List.singleton_append]

theorem mem_of_mem_split {separator c : Char} {text part : List Char}
    (listed : part ∈ split separator text) (inside : c ∈ part) : c ∈ text ∧ c ≠ separator := by
  induction text generalizing part with
  | nil =>
      rw [split, List.mem_singleton] at listed
      subst listed
      cases inside
  | cons first rest induction =>
      rw [split] at listed
      split at listed
      next =>
        rcases List.mem_cons.mp listed with rfl | later
        · cases inside
        · exact (induction later inside).imp_left (List.mem_cons_of_mem first)
      next different =>
        cases parts : split separator rest with
        | nil => exact absurd parts (split_ne_nil separator rest)
        | cons next others =>
            rw [parts] at listed induction
            rcases List.mem_cons.mp listed with rfl | later
            · rcases List.mem_cons.mp inside with rfl | behind
              · exact ⟨List.mem_cons_self, different⟩
              · exact (induction List.mem_cons_self behind).imp_left (List.mem_cons_of_mem first)
            · exact (induction (List.mem_cons_of_mem next later) inside).imp_left
                (List.mem_cons_of_mem first)

theorem mem_join {separator c : Char} {parts : List (List Char)}
    (member : c ∈ join separator parts) : c = separator ∨ ∃ part ∈ parts, c ∈ part := by
  fun_induction join separator parts with
  | case1 => cases member
  | case2 part => exact .inr ⟨part, List.mem_singleton_self part, member⟩
  | case3 part parts _ induction =>
      rcases List.mem_append.mp member with front | behind
      · exact .inr ⟨part, List.mem_cons_self, front⟩
      · rcases List.mem_cons.mp behind with rfl | later
        · exact .inl rfl
        · rcases induction later with rfl | ⟨other, listed, inside⟩
          · exact .inl rfl
          · exact .inr ⟨other, List.mem_cons_of_mem part listed, inside⟩

/-- Without a separator, what is put at the end belongs to the last part. -/
theorem exists_split_append {separator : Char} (text : List Char) {tail : List Char}
    (absent : separator ∉ tail) : ∃ parts last, split separator text = parts ++ [last] ∧
      split separator (text ++ tail) = parts ++ [last ++ tail] := by
  induction text with
  | nil => exact ⟨[], [], rfl, split_of_not_mem absent⟩
  | cons c rest induction =>
      rcases induction with ⟨parts, last, cut, extended⟩
      rw [List.cons_append, split, split, cut, extended]
      by_cases ends : c = separator
      · rw [if_pos ends, if_pos ends]
        exact ⟨[] :: parts, last, rfl, rfl⟩
      · rw [if_neg ends, if_neg ends]
        cases parts with
        | nil => exact ⟨[], c :: last, rfl, rfl⟩
        | cons part parts => exact ⟨(c :: part) :: parts, last, rfl, rfl⟩

theorem cut?_append_cons {separator : Char} {before : List Char} (absent : separator ∉ before)
    (after : List Char) : cut? separator (before ++ separator :: after) = some (before, after) := by
  induction before with
  | nil => simp [cut?]
  | cons c rest induction =>
      rw [List.mem_cons, not_or] at absent
      rw [List.cons_append, cut?, if_neg (Ne.symm absent.1), induction absent.2]
      rfl

theorem append_cons_of_cut? {separator : Char} {text before after : List Char}
    (cut : cut? separator text = some (before, after)) :
    separator ∉ before ∧ text = before ++ separator :: after := by
  induction text generalizing before with
  | nil => cases cut
  | cons c rest induction =>
      rw [cut?] at cut
      split at cut
      next equal =>
        cases cut
        exact ⟨List.not_mem_nil, congrArg (· :: after) equal⟩
      next different =>
        rcases Option.map_eq_some_iff.mp cut with ⟨⟨front, back⟩, restCut, equal⟩
        cases equal
        rcases induction restCut with ⟨absent, whole⟩
        refine ⟨?_, congrArg (c :: ·) whole⟩
        rw [List.mem_cons, not_or]
        exact ⟨Ne.symm different, absent⟩

theorem splitText_append (separator : Char) (first second : String) :
    splitText separator (first ++ String.singleton separator ++ second) =
      splitText separator first ++ splitText separator second := by
  have chars : (first ++ String.singleton separator ++ second).toList =
      first.toList ++ separator :: second.toList := by simp
  rw [splitText, chars, split_append_cons, List.map_append]
  rfl

theorem splitText_of_not_mem {separator : Char} {text : String}
    (absent : separator ∉ text.toList) : splitText separator text = [text] := by
  rw [splitText, split_of_not_mem absent, List.map_singleton, String.ofList_toList]

/-- A last part without a separator in it stays whole. -/
theorem getLast?_splitText_append {separator : Char} {part : String} (text : String)
    (whole : separator ∉ part.toList) :
    (splitText separator (text ++ String.singleton separator ++ part)).getLast? = some part := by
  rw [splitText_append, splitText_of_not_mem whole, List.getLast?_concat]

theorem toList_intercalate (separator : Char) (texts : List String) :
    (String.intercalate (String.singleton separator) texts).toList =
      join separator (texts.map String.toList) := by
  rw [String.toList_intercalate, String.toList_singleton]
  induction texts with
  | nil => rfl
  | cons text rest induction =>
      cases rest with
      | nil => simp [List.intercalate, join]
      | cons next others =>
          rw [List.map_cons, List.map_cons, List.intercalate_cons_cons, ← List.map_cons, induction,
            List.append_assoc, List.singleton_append]
          rfl

/-- A text is known by its parts. -/
theorem splitText_injective {separator : Char} {left right : String}
    (same : splitText separator left = splitText separator right) : left = right := by
  have parts : split separator left.toList = split separator right.toList :=
    (List.map_inj_right fun _ _ => String.ofList_injective).mp same
  have joined := congrArg (join separator) parts
  rw [join_split, join_split] at joined
  exact String.toList_inj.mp joined

end Text

end HostAttestation
