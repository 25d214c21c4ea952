import HostAttestation.Proofs.Net.Renewal
import HostAttestation.Proofs.Run

/-! # Calls that renew their token

A call that asks for a token when it has none, makes an attempt, and makes another one if its
token was rejected and can be renewed, takes the course of an errand. Where its state keeps the
token and what was exchanged is left open. -/

namespace HostAttestation

namespace Http

/-- An interrupted request is no rejection. -/
theorem isUnauthorized_of_interrupted {ε : Type} {interrupted : Interruption → ε}
    {exchange : Exchange} {error : ε}
    (failed : .error error = exchange.outcome.mapError interrupted) :
    exchange.isUnauthorized = false := by
  cases outcome : exchange.outcome with
  | error interruption => simp [Exchange.isUnauthorized, Exchange.status?, outcome]
  | ok reply =>
      rw [outcome] at failed
      cases failed

theorem isUnauthorized_iff_of_replied {ε : Type} {interrupted : Interruption → ε}
    {exchange : Exchange} {reply : Reply}
    (answered : .ok reply = exchange.outcome.mapError interrupted) :
    exchange.isUnauthorized ↔ reply.status = unauthorized := by
  have replied := Outcome.mapError_eq_ok_iff.mp answered.symm
  simp [Exchange.isUnauthorized, Exchange.status?, replied, unauthorized]

/-! ## Coming by a token -/

namespace Issuance

variable {issuance : Issuance} {σ ε β : Type} {token : σ → Option String}
  {log : σ → List Exchange} {interrupted : Interruption → ε} {ask : ExceptT ε (StateM σ) String}

/-- Every run of the call fails at once, or asks for a token and gives the one that it is given.
It leaves the token at hand alone. -/
def Asks (issuance : Issuance) (token : σ → Option String) (log : σ → List Exchange)
    (ask : ExceptT ε (StateM σ) String) : Prop :=
  ∀ before result after, Runs ask before result after →
    (∃ error, result = .error error ∧ after = before) ∨
      ∃ exchange, issuance.asks exchange ∧ token after = token before ∧
        log after = log before ++ [exchange] ∧
        ∀ value, issuance.given? exchange = some value ↔ result = .ok value

theorem asks_of_request {send : ExceptT ε (StateM σ) Reply} {settle : Reply → Except ε String}
    (sends : ∀ before result after, Runs send before result after →
      ∃ exchange, issuance.asks exchange ∧ token after = token before ∧
        log after = log before ++ [exchange] ∧ result = exchange.outcome.mapError interrupted)
    (given : ∀ exchange, issuance.asks exchange → ∀ value,
      issuance.given? exchange = some value ↔
        exchange.outcome.mapError interrupted >>= settle = .ok value) :
    issuance.Asks token log (send >>= fun reply => liftExcept (settle reply)) := by
  intro before result after run
  rcases Runs.bind_liftExcept_iff.mp run with ⟨inner, sent, rfl⟩
  rcases sends _ _ _ sent with ⟨exchange, asks, kept, logged, rfl⟩
  exact .inr ⟨exchange, asks, kept, logged, given exchange asks⟩

theorem Asks.after_liftExcept {url : Type} {found : Except ε url}
    {next : url → ExceptT ε (StateM σ) String}
    (asks : ∀ value, found = .ok value → issuance.Asks token log (next value)) :
    issuance.Asks token log (liftExcept found >>= next) := by
  intro before result after run
  rcases Runs.bind_iff.mp run with ⟨error, failed, rfl⟩ | ⟨value, _, succeeded, rest⟩
  · exact .inl ⟨error, rfl, (Runs.liftExcept_iff.mp failed).2⟩
  · rcases Runs.liftExcept_iff.mp succeeded with ⟨same, rfl⟩
    exact asks value same.symm _ _ _ rest

/-- A token that is given is stored, and there is none at hand if it is refused. -/
theorem authorizes_of_stored (asks : issuance.Asks token log ask) (renewable : issuance.renewable)
    {store : String → σ → σ} {wrap : String → β} {before after : σ} {result : Except ε β}
    (tokenless : token before = none)
    (run : Runs (do
      let value ← ask
      modify (store value)
      pure (wrap value)) before result after)
    (stored : ∀ value state, token (store value state) = some value ∧
      log (store value state) = log state) :
    ∃ asked, log after = log before ++ asked ∧
      ((∃ error, result = .error error ∧
          issuance.Authorizes none asked (.error error : Except ε _) (token after)) ∨
        ∃ value, result = .ok (wrap value) ∧
          issuance.Authorizes none asked (.ok (some value) : Except ε _) (token after)) := by
  rcases Runs.bind_iff.mp run with ⟨error, failed, rfl⟩ | ⟨value, middle, succeeded, stores⟩
  · rcases asks _ _ _ failed with ⟨_, _, rfl⟩ | ⟨exchange, requests, kept, logged, given⟩
    · rw [tokenless]
      exact ⟨[], by simp, .inl ⟨error, rfl, .nowhere error renewable⟩⟩
    · have refused : issuance.given? exchange = none := by
        apply Option.eq_none_iff_forall_ne_some.mpr
        intro value obtained
        cases (given value).mp obtained
      rw [kept, tokenless]
      exact ⟨[exchange], logged, .inl ⟨error, rfl, .refused exchange error requests refused⟩⟩
  · rcases asks _ _ _ succeeded with ⟨_, impossible, _⟩ | ⟨exchange, _, _, logged, given⟩
    · cases impossible
    rcases Runs.bind_iff.mp stores with ⟨_, failed, _⟩ | ⟨_, _, stores, rest⟩
    · cases (Runs.modify_iff.mp failed).1
    rcases Runs.modify_iff.mp stores with ⟨_, rfl⟩
    rcases Runs.pure_iff.mp rest with ⟨rfl, rfl⟩
    rw [(stored value middle).1, (stored value middle).2]
    exact ⟨[exchange], logged, .inr ⟨value, rfl, .obtained exchange value ((given value).mpr rfl)⟩⟩

end Issuance

/-! ## Making a request -/

namespace Errand

variable {issuance : Issuance} {σ ε α : Type} {errand : Errand issuance ε α}
  {token : σ → Option String} {log : σ → List Exchange} {interrupted : Interruption → ε}
  {call : ExceptT ε (StateM σ) Reply} {settle : Reply → Except ε α} {before after : σ}
  {attempted : Except ε Exchange} {result : Except ε α}

/-- Every run of the call makes an attempt and gives the reply to the request. -/
def Tries (errand : Errand issuance ε α) (token : σ → Option String) (log : σ → List Exchange)
    (interrupted : Interruption → ε) (call : ExceptT ε (StateM σ) Reply) : Prop :=
  ∀ before result after, Runs call before result after →
    ∃ exchanges attempted, log after = log before ++ exchanges ∧
      errand.Attempt (token before) exchanges attempted (token after) ∧
      result = attempted >>= fun exchange => exchange.outcome.mapError interrupted

/-- The answer is what is settled on for the reply. -/
def Settles (errand : Errand issuance ε α) (interrupted : Interruption → ε)
    (settle : Reply → Except ε α) : Prop :=
  ∀ exchange, errand.answer exchange = exchange.outcome.mapError interrupted >>= settle

theorem settles_attempted (settles : errand.Settles interrupted settle)
    (attempted : Except ε Exchange) :
    (attempted >>= fun exchange => exchange.outcome.mapError interrupted) >>= settle =
      attempted >>= errand.answer := by
  cases attempted with
  | error error => rfl
  | ok exchange => exact (settles exchange).symm

/-- The second attempt, whatever comes of it, is the last one. -/
theorem attempt_of_last (tries : errand.Tries token log interrupted call)
    (settles : errand.Settles interrupted settle)
    (run : Runs (call >>= fun last => liftExcept (settle last)) before result after) :
    ∃ exchanges attempted, log after = log before ++ exchanges ∧
      errand.Attempt (token before) exchanges attempted (token after) ∧
      result = attempted >>= errand.answer := by
  rcases Runs.bind_liftExcept_iff.mp run with ⟨inner, tried, rfl⟩
  rcases tries _ _ _ tried with ⟨exchanges, attempted, logged, attempt, rfl⟩
  exact ⟨exchanges, attempted, logged, attempt, settles_attempted settles attempted⟩

/-- Only the rejection of a token that can be renewed leads to a second attempt. -/
theorem course_of_retry (tries : errand.Tries token log interrupted call)
    (settles : errand.Settles interrupted settle) {drop : σ → σ} {again : Reply → Prop}
    [DecidablePred again]
    (run : Runs (call >>= fun first =>
      if again first then do
        modify drop
        let second ← call
        liftExcept (settle second)
      else liftExcept (settle first)) before result after)
    (dropped : ∀ state, token (drop state) = none ∧ log (drop state) = log state)
    (renews : ∀ reply, again reply ↔ reply.status = unauthorized ∧ issuance.renewable) :
    ∃ exchanges, log after = log before ++ exchanges ∧
      errand.Course (token before) exchanges result (token after) := by
  rcases Runs.bind_iff.mp run with ⟨error, failed, rfl⟩ | ⟨reply, middle, replied, decides⟩
  · rcases tries _ _ _ failed with ⟨exchanges, attempted, logged, attempt, same⟩
    have answered := settles_attempted settles attempted
    rw [← same] at answered
    change Except.error error = _ at answered
    refine ⟨exchanges, logged, ?_⟩
    rw [answered]
    refine .settled attempted attempt fun exchange made => .inl ?_
    rw [made] at same
    exact isUnauthorized_of_interrupted same
  rcases tries _ _ _ replied with ⟨exchanges, attempted, logged, attempt, same⟩
  split at decides
  next rejected =>
    cases attempted with
    | error error => cases same
    | ok first =>
        have refused := (renews reply).mp rejected
        have unauthorized := (isUnauthorized_iff_of_replied same).mpr refused.1
        rcases Runs.bind_iff.mp decides with ⟨_, failed, _⟩ | ⟨_, _, drops, retries⟩
        · cases (Runs.modify_iff.mp failed).1
        rcases Runs.modify_iff.mp drops with ⟨_, rfl⟩
        rcases attempt_of_last tries settles retries with ⟨later, second, relogged, retry, rfl⟩
        rw [(dropped middle).1] at retry
        refine ⟨exchanges ++ later, ?_, .renewed first second attempt unauthorized refused.2 retry⟩
        rw [relogged, (dropped middle).2, logged, List.append_assoc]
  next settled =>
    rcases Runs.liftExcept_iff.mp decides with ⟨rfl, rfl⟩
    have answered := settles_attempted settles attempted
    rw [← same] at answered
    change settle reply = _ at answered
    refine ⟨exchanges, logged, ?_⟩
    rw [answered]
    refine .settled attempted attempt fun first made => ?_
    rw [made] at same
    rw [renews, Decidable.not_and_iff_or_not] at settled
    rw [← Bool.not_eq_true, isUnauthorized_iff_of_replied same]
    exact settled.imp id Bool.eq_false_iff.mpr

end Errand

end Http

end HostAttestation
