import HostAttestation.Proofs.Outcome

/-! # Runs of calls

A call may fail and may change a state either way. What a composed call does is told by what its
parts do one after the other: a part that fails ends the call where it stands. -/

namespace HostAttestation

variable {σ ε δ α β : Type}

def runFrom (call : ExceptT ε (StateM σ) α) (before : σ) : Except ε α × σ :=
  call.run.run before

/-- Run from one state, the call gives the result and leaves the other state. -/
def Runs (call : ExceptT ε (StateM σ) α) (before : σ) (result : Except ε α) (after : σ) : Prop :=
  runFrom call before = (result, after)

theorem runFrom_bind_of_error {call : ExceptT ε (StateM σ) α} {next : α → ExceptT ε (StateM σ) β}
    {before middle : σ} {error : ε} (failed : Runs call before (.error error) middle) :
    runFrom (call >>= next) before = (.error error, middle) := by
  unfold Runs runFrom at failed
  rw [runFrom, ExceptT.run_bind, StateT.run_bind, failed]
  rfl

theorem runFrom_bind_of_ok {call : ExceptT ε (StateM σ) α} {next : α → ExceptT ε (StateM σ) β}
    {before middle : σ} {value : α} (succeeded : Runs call before (.ok value) middle) :
    runFrom (call >>= next) before = runFrom (next value) middle := by
  unfold Runs runFrom at succeeded
  rw [runFrom, ExceptT.run_bind, StateT.run_bind, succeeded]
  rfl

theorem runFrom_adapt (transform : ε → δ) (call : ExceptT ε (StateM σ) α) (before : σ) :
    runFrom (ExceptT.adapt transform call) before =
      ((runFrom call before).1.mapError transform, (runFrom call before).2) := by
  change (Except.mapError transform <$> call.run).run before = _
  rw [StateT.run_map]
  rfl

namespace Runs

variable {call : ExceptT ε (StateM σ) α} {next : α → ExceptT ε (StateM σ) β} {before after : σ}

/-- Nothing else decides how a run goes. -/
theorem unique {result other : Except ε α} {left right : σ} (run : Runs call before result left)
    (again : Runs call before other right) : result = other ∧ left = right :=
  Prod.mk.inj (run.symm.trans again)

theorem pure_iff {value : α} {result : Except ε α} :
    Runs (pure value) before result after ↔ result = .ok value ∧ after = before := by
  change (Except.ok value, before) = (result, after) ↔ _
  rw [Prod.mk.injEq, eq_comm, eq_comm (a := before)]

theorem throw_iff {error : ε} {result : Except ε α} :
    Runs (throw error) before result after ↔ result = .error error ∧ after = before := by
  change (Except.error error, before) = (result, after) ↔ _
  rw [Prod.mk.injEq, eq_comm, eq_comm (a := before)]

theorem liftExcept_iff {step result : Except ε α} :
    Runs (liftExcept step) before result after ↔ result = step ∧ after = before := by
  cases step with
  | ok value => exact pure_iff
  | error error => exact throw_iff

theorem get_iff {result : Except ε σ} :
    Runs get before result after ↔ result = .ok before ∧ after = before := by
  change (Except.ok before, before) = (result, after) ↔ _
  rw [Prod.mk.injEq, eq_comm, eq_comm (a := before)]

theorem set_iff {state : σ} {result : Except ε PUnit} :
    Runs (set state) before result after ↔ result = .ok ⟨⟩ ∧ after = state := by
  change (Except.ok PUnit.unit, state) = (result, after) ↔ _
  rw [Prod.mk.injEq, eq_comm, eq_comm (a := state)]

theorem modify_iff {change : σ → σ} {result : Except ε PUnit} :
    Runs (modify change) before result after ↔ result = .ok ⟨⟩ ∧ after = change before := by
  change (Except.ok PUnit.unit, change before) = (result, after) ↔ _
  rw [Prod.mk.injEq, eq_comm, eq_comm (a := change before)]

/-- The next part runs from where the first one has left the state, if that has succeeded. -/
theorem bind_iff {result : Except ε β} :
    Runs (call >>= next) before result after ↔
      (∃ error, Runs call before (.error error) after ∧ result = .error error) ∨
        ∃ value middle, Runs call before (.ok value) middle ∧
          Runs (next value) middle result after := by
  rcases first : runFrom call before with ⟨error | value, middle⟩
  · rw [Runs, runFrom_bind_of_error first]
    simp [Runs, first, eq_comm, and_comm]
  · rw [Runs, runFrom_bind_of_ok first]
    simp [Runs, first]

theorem bind {value : α} {middle : σ} {result : Except ε β}
    (first : Runs call before (.ok value) middle) (rest : Runs (next value) middle result after) :
    Runs (call >>= next) before result after :=
  bind_iff.mpr (.inr ⟨value, middle, first, rest⟩)

theorem bind_ok_iff {result : β} :
    Runs (call >>= next) before (.ok result) after ↔
      ∃ value middle, Runs call before (.ok value) middle ∧
        Runs (next value) middle (.ok result) after := by
  rw [bind_iff]
  simp

/-- What follows cannot change the state. -/
theorem bind_liftExcept_iff {step : α → Except ε β} {result : Except ε β} :
    Runs (call >>= fun value => liftExcept (step value)) before result after ↔
      ∃ inner, Runs call before inner after ∧ result = inner >>= step := by
  rw [bind_iff]
  constructor
  · intro run
    rcases run with ⟨error, failed, rfl⟩ | ⟨value, middle, succeeded, rest⟩
    · exact ⟨_, failed, rfl⟩
    · rcases liftExcept_iff.mp rest with ⟨rfl, rfl⟩
      exact ⟨_, succeeded, rfl⟩
  · intro run
    rcases run with ⟨inner, ran, rfl⟩
    cases inner with
    | error error => exact .inl ⟨error, ran, rfl⟩
    | ok value => exact .inr ⟨value, after, ran, liftExcept_iff.mpr ⟨rfl, rfl⟩⟩

theorem adapt_iff {transform : ε → δ} {result : Except δ α} :
    Runs (ExceptT.adapt transform call) before result after ↔
      ∃ inner, Runs call before inner after ∧ result = inner.mapError transform := by
  rcases first : runFrom call before with ⟨inner, middle⟩
  rw [Runs, runFrom_adapt]
  simp [Runs, first, eq_comm, and_comm]

end Runs

end HostAttestation
