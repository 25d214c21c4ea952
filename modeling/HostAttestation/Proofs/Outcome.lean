import Mathlib.Data.List.Forall2

/-! # Outcomes of checked steps

When a chain of steps that may fail succeeds, every step of it has succeeded, and the chain fails
with the first step that does. -/

namespace HostAttestation

namespace Outcome

variable {ε δ α β : Type}

theorem bind_eq_ok_iff {first : Except ε α} {next : α → Except ε β} {result : β} :
    first >>= next = .ok result ↔ ∃ value, first = .ok value ∧ next value = .ok result := by
  cases first with
  | error fault => simp [bind, Except.bind]
  | ok value => simp [bind, Except.bind]

theorem bind_eq_error_iff {first : Except ε α} {next : α → Except ε β} {fault : ε} :
    first >>= next = .error fault ↔
      first = .error fault ∨ ∃ value, first = .ok value ∧ next value = .error fault := by
  cases first with
  | error other => simp [bind, Except.bind]
  | ok value => simp [bind, Except.bind]

theorem map_eq_ok_iff {first : Except ε α} {transform : α → β} {result : β} :
    first.map transform = .ok result ↔ ∃ value, first = .ok value ∧ transform value = result := by
  cases first with
  | error fault => simp [Except.map]
  | ok value => simp [Except.map]

theorem mapError_eq_ok_iff {first : Except ε α} {transform : ε → δ} {result : α} :
    first.mapError transform = .ok result ↔ first = .ok result := by
  cases first with
  | error fault => simp [Except.mapError]
  | ok value => simp [Except.mapError]

theorem mapError_eq_error_iff {first : Except ε α} {transform : ε → δ} {result : δ} :
    first.mapError transform = .error result ↔
      ∃ fault, first = .error fault ∧ transform fault = result := by
  cases first with
  | error fault => simp [Except.mapError]
  | ok value => simp [Except.mapError]

theorem map_mapError (outcome : Except ε α) (transform : α → β) (blame : ε → δ) :
    (outcome.mapError blame).map transform = (outcome.map transform).mapError blame := by
  cases outcome with
  | error fault => rfl
  | ok value => rfl

theorem ok_or_error (outcome : Except ε α) :
    (∃ value, outcome = .ok value) ∨ ∃ fault, outcome = .error fault := by
  cases outcome with
  | error fault => exact .inr ⟨fault, rfl⟩
  | ok value => exact .inl ⟨value, rfl⟩

theorem forM_eq_ok_iff {check : α → Except ε Unit} {items : List α} :
    items.forM check = .ok () ↔ ∀ item ∈ items, check item = .ok () := by
  induction items with
  | nil => simp [pure, Except.pure]
  | cons item rest induction =>
      rw [List.forM_eq_forM] at induction ⊢
      rw [List.forM_cons, bind_eq_ok_iff, List.forall_mem_cons, induction]
      constructor
      · rintro ⟨⟨⟩, checked, remaining⟩
        exact ⟨checked, remaining⟩
      · rintro ⟨checked, remaining⟩
        exact ⟨(), checked, remaining⟩

/-- A chain of steps over a list fails with the first step that does. -/
theorem foldlM_eq_error_iff {step : β → α → Except ε β} {items : List α} {start : β} {fault : ε} :
    items.foldlM step start = .error fault ↔
      ∃ before item after, items = before ++ item :: after ∧
        ∃ reached, before.foldlM step start = .ok reached ∧ step reached item = .error fault := by
  constructor
  · intro fails
    induction items generalizing start with
    | nil => cases fails
    | cons item rest induction =>
        rw [List.foldlM_cons] at fails
        rcases bind_eq_error_iff.mp fails with failed | ⟨next, stepped, later⟩
        · exact ⟨[], item, rest, rfl, start, rfl, failed⟩
        · rcases induction later with ⟨before, failing, after, rfl, reached, passed, failed⟩
          refine ⟨item :: before, failing, after, rfl, reached, ?_, failed⟩
          rw [List.foldlM_cons, stepped]
          exact passed
  · rintro ⟨before, item, after, rfl, reached, passed, failed⟩
    rw [List.foldlM_append, passed]
    change (item :: after).foldlM step reached = .error fault
    rw [List.foldlM_cons, failed]
    rfl

theorem forM_eq_foldlM (check : α → Except ε Unit) (items : List α) :
    items.forM check = items.foldlM (fun _ item => check item) () := by
  induction items with
  | nil => rfl
  | cons item rest induction =>
      rw [List.forM_eq_forM] at induction ⊢
      rw [List.forM_cons, List.foldlM_cons, induction]

theorem forM_eq_error_iff {check : α → Except ε Unit} {items : List α} {fault : ε} :
    items.forM check = .error fault ↔
      ∃ before item after, items = before ++ item :: after ∧
        (∀ other ∈ before, check other = .ok ()) ∧ check item = .error fault := by
  rw [forM_eq_foldlM, foldlM_eq_error_iff]
  refine exists_congr fun before => exists_congr fun item => exists_congr fun after =>
    and_congr_right fun _ => ?_
  rw [← forM_eq_ok_iff, forM_eq_foldlM]
  exact ⟨fun ⟨⟨⟩, reached⟩ => reached, fun reached => ⟨(), reached⟩⟩

theorem forM_congr {check other : α → Except ε Unit} {items : List α}
    (same : ∀ item ∈ items, check item = other item) : items.forM check = items.forM other := by
  induction items with
  | nil => rfl
  | cons item rest induction =>
      have headed := List.forall_mem_cons.mp same
      have remaining := induction headed.2
      simp only [List.forM_eq_forM] at remaining ⊢
      rw [List.forM_cons, List.forM_cons, headed.1, remaining]

/-- A list of checked items is the list of their results. -/
theorem mapM_eq_ok_iff {check : α → Except ε β} {items : List α} {results : List β} :
    items.mapM check = .ok results ↔
      List.Forall₂ (fun item result => check item = .ok result) items results := by
  induction items generalizing results with
  | nil =>
      rw [List.mapM_nil]
      constructor
      · intro equal
        cases equal
        exact .nil
      · intro related
        cases related
        rfl
  | cons item rest induction =>
      rw [List.mapM_cons, bind_eq_ok_iff]
      constructor
      · rintro ⟨first, checked, remaining⟩
        rcases bind_eq_ok_iff.mp remaining with ⟨others, restChecked, equal⟩
        cases equal
        exact .cons checked (induction.mp restChecked)
      · intro related
        cases related with
        | cons checked restRelated =>
            exact ⟨_, checked, bind_eq_ok_iff.mpr ⟨_, induction.mpr restRelated, rfl⟩⟩

theorem exists_mapM_eq_ok_iff {check : α → Except ε β} {items : List α} :
    (∃ results, items.mapM check = .ok results) ↔
      ∀ item ∈ items, ∃ result, check item = .ok result := by
  induction items with
  | nil => exact ⟨fun _ _ member => absurd member List.not_mem_nil, fun _ => ⟨[], rfl⟩⟩
  | cons item rest induction =>
      rw [List.forall_mem_cons, ← induction]
      constructor
      · rintro ⟨results, all⟩
        cases mapM_eq_ok_iff.mp all with
        | cons checked others => exact ⟨⟨_, checked⟩, _, mapM_eq_ok_iff.mpr others⟩
      · rintro ⟨⟨result, checked⟩, results, others⟩
        exact ⟨result :: results, mapM_eq_ok_iff.mpr (.cons checked (mapM_eq_ok_iff.mp others))⟩

/-- A list of checked items fails with the first item that does. -/
theorem mapM_eq_error_iff {check : α → Except ε β} {items : List α} {fault : ε} :
    items.mapM check = .error fault ↔
      ∃ before item after, items = before ++ item :: after ∧
        (∀ other ∈ before, ∃ result, check other = .ok result) ∧ check item = .error fault := by
  induction items with
  | nil =>
      constructor
      · intro fails
        cases fails
      · rintro ⟨before, item, after, split, _⟩
        cases before <;> cases split
  | cons first rest induction =>
      rw [List.mapM_cons, bind_eq_error_iff]
      constructor
      · rintro (failed | ⟨result, checked, later⟩)
        · exact ⟨[], first, rest, rfl, by simp, failed⟩
        · rcases bind_eq_error_iff.mp later with failed | ⟨others, _, impossible⟩
          · rcases induction.mp failed with ⟨before, item, after, rfl, passed, fails⟩
            exact ⟨first :: before, item, after, rfl,
              List.forall_mem_cons.mpr ⟨⟨result, checked⟩, passed⟩, fails⟩
          · cases impossible
      · rintro ⟨before, item, after, split, passed, fails⟩
        cases before with
        | nil =>
            cases split
            exact .inl fails
        | cons own before =>
            cases split
            rcases List.forall_mem_cons.mp passed with ⟨⟨result, checked⟩, others⟩
            have failed := induction.mpr ⟨before, item, after, rfl, others, fails⟩
            exact .inr ⟨result, checked, bind_eq_error_iff.mpr (.inl failed)⟩

/-! ## Items that may be missing -/

theorem mapM_eq_some_iff {read : α → Option β} {items : List α} {results : List β} :
    items.mapM read = some results ↔
      List.Forall₂ (fun item result => read item = some result) items results := by
  induction items generalizing results with
  | nil => simp [eq_comm]
  | cons item rest induction =>
      rw [List.mapM_cons]
      constructor
      · intro all
        rcases Option.bind_eq_some_iff.mp all with ⟨first, single, more⟩
        rcases Option.bind_eq_some_iff.mp more with ⟨others, later, equal⟩
        cases equal
        exact .cons single (induction.mp later)
      · rintro (_ | ⟨single, later⟩)
        rw [single, induction.mpr later]
        rfl

theorem exists_of_mem_mapM {read : α → Option β} {items : List α} {results : List β}
    (all : items.mapM read = some results) {result : β} (member : result ∈ results) :
    ∃ item ∈ items, read item = some result := by
  replace all := mapM_eq_some_iff.mp all
  induction all with
  | nil => cases member
  | @cons item first rest results single _ induction =>
      rcases List.mem_cons.mp member with rfl | behind
      · exact ⟨item, List.mem_cons_self, single⟩
      · rcases induction behind with ⟨source, listed, equal⟩
        exact ⟨source, List.mem_cons_of_mem item listed, equal⟩

theorem map_eq_of_mapM {read : α → Option β} {write : β → α} {items : List α} {results : List β}
    (all : items.mapM read = some results)
    (restores : ∀ item ∈ items, ∀ result, read item = some result → write result = item) :
    results.map write = items := by
  replace all := mapM_eq_some_iff.mp all
  induction all with
  | nil => rfl
  | @cons item result rest results single _ induction =>
      rcases List.forall_mem_cons.mp restores with ⟨first, others⟩
      rw [List.map_cons, first result single, induction others]

/-- Results that are written so that each is read back are all read back. -/
theorem mapM_map_eq_some {read : α → Option β} {write : β → α} {results : List β}
    (restores : ∀ result ∈ results, read (write result) = some result) :
    (results.map write).mapM read = some results :=
  mapM_eq_some_iff.mpr (List.forall₂_map_left_iff.mpr (List.forall₂_same.mpr restores))

end Outcome

end HostAttestation
