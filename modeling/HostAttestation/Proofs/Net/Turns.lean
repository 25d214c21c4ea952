import HostAttestation.Proofs.Net.Exchange
import Mathlib.Algebra.GroupWithZero.Nat

/-! # One turn after the other

What every turn keeps to and passes on holds of a whole run of turns. What a turn gains it has to
pay for, but for what is at hand at the end. -/

namespace HostAttestation

variable {σ ι τ α : Type} {step : σ → ι → τ × σ} {state : σ}

/-- Takes the inputs one after the other and tells what came of each. -/
def inTurn (step : σ → ι → τ × σ) : σ → List ι → List τ
  | _, [] => []
  | state, input :: rest => (step state input).1 :: inTurn step (step state input).2 rest

/-- The invariant is kept by every step, and a turn that starts from it keeps to the property,
given all that was logged before. -/
theorem throughout_inTurn {log : σ → List α} {logged : τ → List α} {Invariant : σ → Prop}
    {Property : List α → τ → Prop}
    (logs : ∀ state input, log (step state input).2 = log state ++ logged (step state input).1)
    (keeps : ∀ state input, Invariant state → Invariant (step state input).2)
    (holds : ∀ state input, Invariant state → Property (log state) (step state input).1)
    (initial : Invariant state) (inputs : List ι) :
    Throughout (fun earlier turn _ => Property (log state ++ earlier.flatMap logged) turn)
      (inTurn step state inputs) := by
  induction inputs generalizing state with
  | nil => exact throughout_nil
  | cons input rest induction =>
      rw [inTurn, throughout_cons_iff]
      constructor
      · rw [List.flatMap_nil, List.append_nil]
        exact holds state input initial
      · refine (induction (keeps state input initial)).imp fun earlier turn _ property => ?_
        rw [logs, List.append_assoc] at property
        exact property

/-- Each turn begins with what the one before has ended with. -/
theorem begins_inTurn {held : σ → α} {before after : τ → α}
    (begins : ∀ state input, before (step state input).1 = held state)
    (ends : ∀ state input, after (step state input).1 = held (step state input).2)
    (inputs : List ι) :
    Throughout (fun earlier turn _ => before turn = earlier.getLast?.elim (held state) after)
      (inTurn step state inputs) := by
  induction inputs generalizing state with
  | nil => exact throughout_nil
  | cons input rest induction =>
      rw [inTurn, throughout_cons_iff]
      refine ⟨begins state input, induction.imp fun earlier turn _ begun => ?_⟩
      rw [begun, List.getLast?_cons, Option.elim_some]
      cases earlier.getLast? with
      | none => exact (ends state input).symm
      | some previous => rfl

theorem sum_gains_le {held : σ → Nat} {gains losses : τ → Nat} {bound : Nat}
    (balance : ∀ state input, gains (step state input).1 + held state =
      losses (step state input).1 + held (step state input).2)
    (bounded : ∀ state, held state ≤ bound) (inputs : List ι) :
    ((inTurn step state inputs).map gains).sum + held state ≤
      ((inTurn step state inputs).map losses).sum + bound := by
  induction inputs generalizing state with
  | nil => simpa [inTurn] using bounded state
  | cons input rest induction =>
      have first := balance state input
      have others := @induction (step state input).2
      rw [inTurn, List.map_cons, List.map_cons, List.sum_cons, List.sum_cons]
      omega

end HostAttestation
