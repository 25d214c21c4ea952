import HostAttestation.Proofs.Net.Exchange
import Mathlib.Data.List.TakeWhile

/-! # Tokens that are renewed

A client presents a token with every request and asks for one when it has none. A request that is
rejected costs the token its place and is made once more. What follows for the exchanges of one
such errand is the same for every client that asks for its tokens in this way. -/

namespace HostAttestation

namespace Http

/-- How a client comes by its tokens and how it presents them. -/
structure Issuance where
  /-- Tokens are asked for. -/
  renewable : Bool
  /-- What is presented if tokens are never asked for. -/
  fixed : Option String
  asks : Exchange → Bool
  /-- The token that an exchange has given. -/
  given? : Exchange → Option String
  presents : Option String → Request → Prop
  asks_of_given? : ∀ {exchange token}, given? exchange = some token → asks exchange
  renewable_of_asks : ∀ {exchange}, asks exchange → renewable

/-- A request that needs a token, and what is made of the answer to it. -/
structure Errand (issuance : Issuance) (ε α : Type) where
  requests : Exchange → Bool
  answer : Exchange → Except ε α
  not_asks_of_requests : ∀ {exchange}, requests exchange → issuance.asks exchange = false

variable {issuance : Issuance} {ε α : Type} {before after : Option String}

namespace Issuance

/-- The newest token that was given. -/
def latest? (issuance : Issuance) (log : List Exchange) : Option String :=
  (log.filterMap issuance.given?).getLast?

/-- The token to present after so many exchanges. -/
def due? (issuance : Issuance) (log : List Exchange) : Option String :=
  if issuance.renewable then issuance.latest? log else issuance.fixed

/-- A request presents what is due, and that is a token if tokens are asked for. -/
structure Identifies (issuance : Issuance) (log : List Exchange) (exchange : Exchange) : Prop where
  presents : issuance.presents (issuance.due? log) exchange.request
  known : issuance.renewable → (issuance.due? log).isSome

/-- A token that is at hand and can be renewed is the newest one. -/
def Fresh (issuance : Issuance) (held : Option String) (log : List Exchange) : Prop :=
  issuance.renewable → ∀ token, held = some token → issuance.latest? log = some token

/-- How a token is come by: the token at hand before, what is exchanged, the token to present or
the error, and the token at hand afterwards. -/
inductive Authorizes (issuance : Issuance) :
    Option String → List Exchange → Except ε (Option String) → Option String → Prop
  | fixed (before : Option String) (unrenewable : issuance.renewable = false) :
      Authorizes issuance before [] (.ok issuance.fixed) before
  | held (token : String) (renewable : issuance.renewable) :
      Authorizes issuance (some token) [] (.ok (some token)) (some token)
  | nowhere (error : ε) (renewable : issuance.renewable) :
      Authorizes issuance none [] (.error error) none
  | obtained (exchange : Exchange) (token : String)
      (obtained : issuance.given? exchange = some token) :
      Authorizes issuance none [exchange] (.ok (some token)) (some token)
  | refused (exchange : Exchange) (error : ε) (asks : issuance.asks exchange)
      (refused : issuance.given? exchange = none) :
      Authorizes issuance none [exchange] (.error error) none

theorem fresh_none (log : List Exchange) : issuance.Fresh none log := by
  intro _ token held
  cases held

theorem latest?_append_of_nothing {log rest : List Exchange}
    (nothing : rest.filterMap issuance.given? = []) :
    issuance.latest? (log ++ rest) = issuance.latest? log := by
  rw [latest?, List.filterMap_append, nothing, List.append_nil, latest?]

theorem given?_eq_none {exchange : Exchange} (unasked : issuance.asks exchange = false) :
    issuance.given? exchange = none := by
  cases given : issuance.given? exchange with
  | none => rfl
  | some token =>
      have asks := issuance.asks_of_given? given
      rw [unasked] at asks
      cases asks

/-! ## Tokens that are come by -/

namespace Authorizes

variable {asked : List Exchange} {result : Except ε (Option String)}

theorem asks (authorized : issuance.Authorizes before asked result after) :
    ∀ exchange ∈ asked, issuance.asks exchange := by
  cases authorized with
  | obtained exchange token obtained => simpa using issuance.asks_of_given? obtained
  | refused exchange error asks refused => simpa using asks
  | _ => simp

theorem starts (authorized : issuance.Authorizes before asked result after) :
    Throughout (fun earlier _ _ => earlier = [] ∧ before = none) asked := by
  cases authorized with
  | obtained exchange token obtained => simp [throughout_singleton_iff]
  | refused exchange error asks refused => simp [throughout_singleton_iff]
  | _ => exact throughout_nil

theorem refuses (authorized : issuance.Authorizes before asked result after) :
    Throughout (fun _ exchange later => issuance.given? exchange = none →
      later = [] ∧ after = none ∧ ∃ error, result = .error error) asked := by
  cases authorized with
  | obtained exchange token obtained => simp [throughout_singleton_iff, obtained]
  | refused exchange error asks refused => simp [throughout_singleton_iff]
  | _ => exact throughout_nil

theorem length_le (authorized : issuance.Authorizes before asked result after) :
    asked.length ≤ 1 := by
  cases authorized <;> simp

/-- Every token that is given is at hand afterwards. -/
theorem balance (renewable : issuance.renewable)
    (authorized : issuance.Authorizes before asked result after) :
    (asked.filterMap issuance.given?).length + before.toList.length = after.toList.length := by
  cases authorized with
  | fixed _ unrenewable => rw [renewable] at unrenewable; cases unrenewable
  | held token => rfl
  | nowhere error => rfl
  | obtained exchange token obtained => simp [obtained]
  | refused exchange error asks refused => simp [refused]

theorem after_eq_none {error : ε}
    (failed : issuance.Authorizes before asked (.error error) after) : after = none := by
  cases failed with
  | nowhere error => rfl
  | refused exchange error asks refused => rfl

/-- What is presented is at hand. -/
theorem after_eq {token : Option String} (renewable : issuance.renewable)
    (authorized : issuance.Authorizes before asked (.ok token : Except ε _) after) :
    after = token ∧ token.isSome := by
  cases authorized with
  | fixed _ unrenewable => rw [renewable] at unrenewable; cases unrenewable
  | held token => simp
  | obtained exchange token obtained => simp

theorem eq_fixed {token : Option String} (unrenewable : issuance.renewable = false)
    (authorized : issuance.Authorizes before asked (.ok token : Except ε _) after) :
    token = issuance.fixed := by
  cases authorized with
  | fixed _ _ => rfl
  | held token renewable => rw [unrenewable] at renewable; cases renewable
  | obtained exchange token obtained =>
      have renewable := issuance.renewable_of_asks (issuance.asks_of_given? obtained)
      rw [unrenewable] at renewable
      cases renewable

/-- The token at hand stays the newest one. -/
theorem fresh {log : List Exchange} (fresh : issuance.Fresh before log)
    (authorized : issuance.Authorizes before asked result after) :
    issuance.Fresh after (log ++ asked) := by
  cases authorized with
  | obtained exchange token obtained =>
      intro _ other held
      rw [← held, latest?, List.filterMap_append]
      simp [obtained]
  | refused exchange error asks refused => exact fresh_none _
  | _ => simpa using fresh

/-- What is presented is the newest token, or the fixed one. -/
theorem eq_due? {token : Option String} {log : List Exchange} (fresh : issuance.Fresh before log)
    (authorized : issuance.Authorizes before asked (.ok token : Except ε _) after) :
    token = issuance.due? (log ++ asked) ∧ (issuance.renewable → token.isSome) := by
  unfold due?
  cases renewable : issuance.renewable with
  | false => exact ⟨authorized.eq_fixed renewable, by simp⟩
  | true =>
      rcases authorized.after_eq renewable with ⟨same, known⟩
      rcases Option.isSome_iff_exists.mp known with ⟨value, valued⟩
      have newest := authorized.fresh fresh renewable value (by rw [same, valued])
      rw [if_pos rfl, newest]
      exact ⟨valued, fun _ => known⟩

end Authorizes

end Issuance

/-! ## One attempt -/

/-- The first request was answered with a rejection. -/
def isRejected (requests : Exchange → Bool) (exchanges : List Exchange) : Bool :=
  (exchanges.find? requests).any Exchange.isUnauthorized

/-- What is exchanged after the first request. -/
def followUp (requests : Exchange → Bool) (exchanges : List Exchange) : List Exchange :=
  (exchanges.dropWhile fun exchange => !requests exchange).tail

/-- The token that was given right after the first request. -/
def renewal? (issuance : Issuance) (requests : Exchange → Bool) (exchanges : List Exchange) :
    Option String :=
  (followUp requests exchanges).head?.bind issuance.given?

section

variable {requests : Exchange → Bool} {first second : List Exchange}

theorem find?_of_absent (absent : ∀ exchange ∈ first, requests exchange = false) :
    first.find? requests = none :=
  List.find?_eq_none.mpr fun exchange member => by simp [absent exchange member]

theorem isRejected_of_absent (absent : ∀ exchange ∈ first, requests exchange = false) :
    isRejected requests first = false := by
  rw [isRejected, find?_of_absent absent]
  rfl

theorem isRejected_append_of_absent_left
    (absent : ∀ exchange ∈ first, requests exchange = false) :
    isRejected requests (first ++ second) = isRejected requests second := by
  rw [isRejected, List.find?_append, find?_of_absent absent, Option.none_or, isRejected]

theorem isRejected_append_of_absent_right
    (absent : ∀ exchange ∈ second, requests exchange = false) :
    isRejected requests (first ++ second) = isRejected requests first := by
  rw [isRejected, List.find?_append, find?_of_absent absent, Option.or_none, isRejected]

theorem renewal?_append_of_absent_left
    (absent : ∀ exchange ∈ first, requests exchange = false) :
    renewal? issuance requests (first ++ second) = renewal? issuance requests second := by
  rw [renewal?, followUp, List.dropWhile_append_of_pos (by simpa using absent), renewal?, followUp]

/-- What comes later does not count as a renewal unless it begins with one. -/
theorem renewal?_append_of_isRejected (rejected : isRejected requests first)
    (nothing : second.head?.bind issuance.given? = none) :
    renewal? issuance requests (first ++ second) = renewal? issuance requests first := by
  have requested : (first.dropWhile fun exchange => !requests exchange) ≠ [] := by
    intro exhausted
    have absent : ∀ exchange ∈ first, requests exchange = false := by
      simpa [List.dropWhile_eq_nil_iff] using exhausted
    rw [isRejected_of_absent absent] at rejected
    cases rejected
  rw [renewal?, followUp, List.dropWhile_append, if_neg (by simpa using requested),
    List.tail_append_of_ne_nil requested, List.head?_append, renewal?, followUp]
  cases (first.dropWhile fun exchange => !requests exchange).tail.head? with
  | none => exact nothing
  | some exchange => rfl

end

namespace Errand

variable {errand : Errand issuance ε α} {exchanges later : List Exchange}
  {attempted : Except ε Exchange} {exchange : Exchange}

/-- The exchange makes the request and presents the token. -/
structure Carries (errand : Errand issuance ε α) (token : Option String) (exchange : Exchange) :
    Prop where
  requests : errand.requests exchange
  presents : issuance.presents token exchange.request

/-- An attempt comes by a token and makes the request. -/
inductive Attempt (errand : Errand issuance ε α) :
    Option String → List Exchange → Except ε Exchange → Option String → Prop
  | unauthorized {before after : Option String} {asked : List Exchange} {error : ε}
      (failed : issuance.Authorizes before asked (.error error : Except ε _) after) :
      Attempt errand before asked (.error error) after
  | made {before after token : Option String} {asked : List Exchange} {exchange : Exchange}
      (authorized : issuance.Authorizes before asked (.ok token : Except ε _) after)
      (carries : errand.Carries token exchange) :
      Attempt errand before (asked ++ [exchange]) (.ok exchange) after

theorem not_requests_of_asks (asks : issuance.asks exchange) :
    errand.requests exchange = false := by
  cases requests : errand.requests exchange with
  | false => rfl
  | true =>
      rw [errand.not_asks_of_requests requests] at asks
      cases asks

theorem Carries.not_asks {token : Option String} (carries : errand.Carries token exchange) :
    issuance.asks exchange = false :=
  errand.not_asks_of_requests carries.requests

namespace Attempt

theorem destinations (attempt : errand.Attempt before exchanges attempted after) :
    ∀ exchange ∈ exchanges, issuance.asks exchange ≠ errand.requests exchange := by
  intro exchange member
  cases attempt with
  | unauthorized failed =>
      have asks := failed.asks exchange member
      rw [asks, not_requests_of_asks asks]
      decide
  | made authorized carries =>
      rcases List.mem_append.mp member with asked | last
      · have asks := authorized.asks exchange asked
        rw [asks, not_requests_of_asks asks]
        decide
      · rw [List.mem_singleton.mp last, carries.requests, carries.not_asks]
        decide

/-- An attempt that makes its request does so at the end. -/
theorem ends (attempt : errand.Attempt before exchanges (.ok exchange) after) :
    ∃ asked, exchanges = asked ++ [exchange] ∧ (∀ other ∈ asked, issuance.asks other) ∧
      errand.requests exchange := by
  cases attempt with
  | made authorized carries => exact ⟨_, rfl, authorized.asks, carries.requests⟩

theorem filter_requests_of_asks (asks : ∀ other ∈ exchanges, issuance.asks other) :
    exchanges.filter errand.requests = [] := by
  apply List.filter_eq_nil_iff.mpr
  intro other member
  rw [not_requests_of_asks (asks other member)]
  decide

theorem requests (attempt : errand.Attempt before exchanges attempted after) :
    exchanges.filter errand.requests = attempted.toOption.toList := by
  cases attempt with
  | unauthorized failed => exact filter_requests_of_asks failed.asks
  | made authorized carries =>
      rw [List.filter_append, filter_requests_of_asks authorized.asks,
        List.filter_cons_of_pos carries.requests]
      rfl

/-- A token is asked for only when there is none, and at once. -/
theorem asks (attempt : errand.Attempt before exchanges attempted after) :
    Throughout (fun earlier exchange _ => issuance.asks exchange → earlier = [] ∧ before = none)
      exchanges := by
  cases attempt with
  | unauthorized failed => exact failed.starts.imp fun _ _ _ start _ => start
  | made authorized carries =>
      rw [throughout_append_iff, throughout_singleton_iff, carries.not_asks]
      exact ⟨authorized.starts.imp fun _ _ _ start _ => start, by simp⟩

/-- A token that is refused ends the attempt. -/
theorem refuses (attempt : errand.Attempt before exchanges attempted after) :
    Throughout (fun _ exchange later => issuance.asks exchange → issuance.given? exchange = none →
      later = [] ∧ after = none ∧ ∃ error, attempted = .error error) exchanges := by
  cases attempt with
  | unauthorized failed =>
      refine failed.refuses.imp fun _ _ _ refuses _ refused => ?_
      rcases refuses refused with ⟨last, lost, _⟩
      exact ⟨last, lost, _, rfl⟩
  | made authorized carries =>
      rw [throughout_append_iff, throughout_singleton_iff, carries.not_asks]
      refine ⟨authorized.refuses.imp fun _ _ _ refuses _ refused => ?_, by simp⟩
      rcases refuses refused with ⟨_, _, error, impossible⟩
      cases impossible

theorem length_asks_le (attempt : errand.Attempt before exchanges attempted after) :
    (exchanges.filter issuance.asks).length ≤ 1 := by
  cases attempt with
  | unauthorized failed => exact Nat.le_trans (List.length_filter_le _ _) failed.length_le
  | made authorized carries =>
      rw [List.filter_append, List.filter_cons_of_neg (by simp [carries.not_asks]),
        List.filter_nil, List.append_nil]
      exact Nat.le_trans (List.length_filter_le _ _) authorized.length_le

theorem balance (renewable : issuance.renewable)
    (attempt : errand.Attempt before exchanges attempted after) :
    (exchanges.filterMap issuance.given?).length + before.toList.length =
      after.toList.length := by
  cases attempt with
  | unauthorized failed => exact failed.balance renewable
  | made authorized carries =>
      rw [List.filterMap_append,
        List.filterMap_cons_none (Issuance.given?_eq_none carries.not_asks), List.filterMap_nil,
        List.append_nil]
      exact authorized.balance renewable

/-- There is a token at hand exactly if the request was made. -/
theorem length_toList (renewable : issuance.renewable)
    (attempt : errand.Attempt before exchanges attempted after) :
    after.toList.length = attempted.toOption.toList.length := by
  cases attempt with
  | unauthorized failed =>
      rw [failed.after_eq_none]
      rfl
  | made authorized carries =>
      rcases authorized.after_eq renewable with ⟨rfl, known⟩
      rcases Option.isSome_iff_exists.mp known with ⟨token, rfl⟩
      rfl

/-- Without a token at hand the request is made exactly if the first exchange gives one. -/
theorem isSome_given? (renewable : issuance.renewable)
    (attempt : errand.Attempt none exchanges attempted after) :
    (exchanges.head?.bind issuance.given?).isSome = attempted.toOption.isSome := by
  cases attempt with
  | unauthorized failed =>
      cases failed with
      | nowhere => rfl
      | refused exchange _ _ refused => simp [refused, Except.toOption]
  | made authorized carries =>
      cases authorized with
      | fixed _ unrenewable => rw [renewable] at unrenewable; cases unrenewable
      | obtained exchange token obtained => simp [obtained, Except.toOption]

theorem succeeds {value : α} (attempt : errand.Attempt before exchanges attempted after)
    (succeeded : attempted >>= errand.answer = .ok value) :
    (∃ last ∈ exchanges, errand.requests last ∧ errand.answer last = .ok value) ∧
      (issuance.renewable → after.isSome) := by
  cases attempt with
  | unauthorized failed => cases succeeded
  | made authorized carries =>
      refine ⟨⟨_, by simp, carries.requests, succeeded⟩, fun renewable => ?_⟩
      rcases authorized.after_eq renewable with ⟨rfl, known⟩
      exact known

theorem identifies {log : List Exchange} (fresh : issuance.Fresh before log)
    (attempt : errand.Attempt before exchanges attempted after) :
    Throughout (fun earlier exchange _ => errand.requests exchange →
      issuance.Identifies (log ++ earlier) exchange) exchanges := by
  have unrequested : ∀ {asked : List Exchange} {P : List Exchange → Exchange → Prop},
      (∀ exchange ∈ asked, issuance.asks exchange) →
        Throughout (fun earlier exchange _ => errand.requests exchange → P earlier exchange)
          asked := by
    intro asked P asks
    apply throughout_of_forall_mem
    intro exchange member _ _ requests
    rw [not_requests_of_asks (asks exchange member)] at requests
    cases requests
  cases attempt with
  | unauthorized failed => exact unrequested failed.asks
  | made authorized carries =>
      rw [throughout_append_iff, throughout_singleton_iff, List.append_nil]
      refine ⟨unrequested authorized.asks, fun _ => ?_⟩
      rcases authorized.eq_due? fresh with ⟨due, known⟩
      rw [due] at known
      refine ⟨?_, known⟩
      rw [← due]
      exact carries.presents

theorem fresh {log : List Exchange} (fresh : issuance.Fresh before log)
    (attempt : errand.Attempt before exchanges attempted after) :
    issuance.Fresh after (log ++ exchanges) := by
  cases attempt with
  | unauthorized failed => exact failed.fresh fresh
  | made authorized carries =>
      have kept := authorized.fresh fresh
      unfold Issuance.Fresh at kept ⊢
      rw [← List.append_assoc, Issuance.latest?_append_of_nothing]
      · exact kept
      · rw [List.filterMap_cons_none (Issuance.given?_eq_none carries.not_asks),
          List.filterMap_nil]

end Attempt

/-! ## Two attempts -/

/-- How an errand goes: the token at hand before, what is exchanged, the result, and the token at
hand afterwards. -/
inductive Course (errand : Errand issuance ε α) :
    Option String → List Exchange → Except ε α → Option String → Prop
  | nowhere (before : Option String) (error : ε) :
      Course errand before [] (.error error) before
  | settled {before after : Option String} {exchanges : List Exchange}
      (attempted : Except ε Exchange) (attempt : errand.Attempt before exchanges attempted after)
      (final : ∀ exchange, attempted = .ok exchange →
        exchange.isUnauthorized = false ∨ issuance.renewable = false) :
      Course errand before exchanges (attempted >>= errand.answer) after
  | renewed {before middle after : Option String} {exchanges later : List Exchange}
      (rejected : Exchange) (attempted : Except ε Exchange)
      (first : errand.Attempt before exchanges (.ok rejected) middle)
      (unauthorized : rejected.isUnauthorized) (renewable : issuance.renewable)
      (second : errand.Attempt none later attempted after) :
      Course errand before (exchanges ++ later) (attempted >>= errand.answer) after

theorem Attempt.isRejected (attempt : errand.Attempt before exchanges attempted after) :
    Http.isRejected errand.requests exchanges =
      attempted.toOption.any Exchange.isUnauthorized := by
  rw [Http.isRejected, ← List.head?_filter, attempt.requests]
  cases attempted <;> rfl

theorem Attempt.isRejected_append (attempt : errand.Attempt before exchanges (.ok exchange) after)
    (later : List Exchange) :
    Http.isRejected errand.requests (exchanges ++ later) = exchange.isUnauthorized := by
  rw [Http.isRejected, ← List.head?_filter, List.filter_append, attempt.requests]
  rfl

theorem Attempt.followUp_append (attempt : errand.Attempt before exchanges (.ok exchange) after)
    (later : List Exchange) : followUp errand.requests (exchanges ++ later) = later := by
  rcases attempt.ends with ⟨asked, rfl, asks, requests⟩
  rw [followUp, List.append_assoc, List.dropWhile_append_of_pos, List.singleton_append,
    List.dropWhile_cons_of_neg, List.tail_cons]
  · simp [requests]
  · intro other member
    simp [not_requests_of_asks (asks other member)]

namespace Course

variable {result : Except ε α}

/-- Every exchange either asks for a token or makes the request. -/
theorem destinations (course : errand.Course before exchanges result after) :
    ∀ exchange ∈ exchanges, issuance.asks exchange ≠ errand.requests exchange := by
  intro exchange member
  cases course with
  | nowhere error => cases member
  | settled attempted attempt final => exact attempt.destinations exchange member
  | renewed rejected attempted first unauthorized renewable second =>
      rcases List.mem_append.mp member with early | late
      · exact first.destinations exchange early
      · exact second.destinations exchange late

/-- The last request decides about the result, unless there is none or the token could not be
renewed. -/
theorem requests (course : errand.Course before exchanges result after) :
    (exchanges.filter errand.requests = [] ∧ isRejected errand.requests exchanges = false) ∨
    (∃ only, exchanges.filter errand.requests = [only] ∧
      (followUp errand.requests exchanges).filterMap issuance.given? = [] ∧
      (issuance.renewable = false → result = errand.answer only)) ∨
    ∃ first last, exchanges.filter errand.requests = [first, last] ∧ issuance.renewable ∧
      isRejected errand.requests exchanges ∧
      (followUp errand.requests exchanges).filterMap issuance.given? ≠ [] ∧
      result = errand.answer last := by
  cases course with
  | nowhere error => exact .inl ⟨rfl, rfl⟩
  | settled attempted attempt final =>
      cases attempted with
      | error error => exact .inl ⟨attempt.requests, attempt.isRejected⟩
      | ok only =>
          have nothing := attempt.followUp_append []
          rw [List.append_nil] at nothing
          exact .inr (.inl ⟨only, attempt.requests, by rw [nothing]; rfl, fun _ => rfl⟩)
  | renewed rejected attempted first unauthorized renewable second =>
      have given := second.balance renewable
      -- The second attempt starts without a token, so it was given one if it made its request.
      rw [Option.toList_none, List.length_nil, Nat.add_zero,
        second.length_toList renewable] at given
      rw [List.filter_append, first.requests, second.requests, first.isRejected_append,
        first.followUp_append]
      cases attempted with
      | error error =>
          refine .inr (.inl ⟨rejected, rfl, List.eq_nil_of_length_eq_zero given, fun fixed => ?_⟩)
          rw [renewable] at fixed
          cases fixed
      | ok last =>
          refine .inr (.inr ⟨rejected, last, rfl, renewable, unauthorized, fun nothing => ?_, rfl⟩)
          rw [nothing] at given
          cases given

theorem length_requests_le (course : errand.Course before exchanges result after) :
    (exchanges.filter errand.requests).length ≤ 2 := by
  rcases course.requests with ⟨requests, _⟩ | ⟨only, requests, _⟩ | ⟨first, last, requests, _⟩
  · simp [requests]
  · simp [requests]
  · simp [requests]

theorem second_iff (course : errand.Course before exchanges result after) :
    (exchanges.filter errand.requests).length = 2 ↔
      issuance.renewable ∧ isRejected errand.requests exchanges ∧
        (followUp errand.requests exchanges).filterMap issuance.given? ≠ [] := by
  rcases course.requests with ⟨requests, rejected⟩ | ⟨only, requests, given, _⟩ |
    ⟨first, last, requests, renewable, rejected, given, _⟩
  · simp [requests, rejected]
  · simp [requests, given]
  · simp [requests, renewable, rejected, given]

/-- A rejection of a token that can be renewed is never the end of a settled errand. -/
theorem isRejected_eq_false_of_settled (renewable : issuance.renewable)
    (attempt : errand.Attempt before exchanges attempted after)
    (final : ∀ exchange, attempted = .ok exchange →
      exchange.isUnauthorized = false ∨ issuance.renewable = false) :
    isRejected errand.requests exchanges = false := by
  rw [attempt.isRejected]
  cases attempted with
  | error error => rfl
  | ok exchange => exact (final exchange rfl).resolve_right (by simp [renewable])

/-- The second request is made exactly if the first one was rejected and a token was given right
after it. -/
theorem second_iff_renewal (renewable : issuance.renewable)
    (course : errand.Course before exchanges result after) :
    (exchanges.filter errand.requests).length = 2 ↔
      isRejected errand.requests exchanges ∧
        (renewal? issuance errand.requests exchanges).isSome := by
  cases course with
  | nowhere error => simp [isRejected]
  | settled attempted attempt final =>
      rw [attempt.requests, isRejected_eq_false_of_settled renewable attempt final]
      cases attempted <;> simp [Except.toOption]
  | renewed rejected attempted first unauthorized _ second =>
      rw [List.filter_append, first.requests, second.requests, first.isRejected_append,
        renewal?, first.followUp_append, second.isSome_given? renewable]
      cases attempted <;> simp [Except.toOption, unauthorized]

/-- A value is the answer to a request, and leaves a token at hand. -/
theorem succeeds {value : α} (course : errand.Course before exchanges result after)
    (succeeded : result = .ok value) :
    (∃ last ∈ exchanges, errand.requests last ∧ errand.answer last = .ok value) ∧
      (issuance.renewable → after.isSome) := by
  cases course with
  | nowhere error => cases succeeded
  | settled attempted attempt final => exact attempt.succeeds succeeded
  | renewed rejected attempted first unauthorized renewable second =>
      rcases second.succeeds succeeded with ⟨⟨last, member, answered⟩, held⟩
      exact ⟨⟨last, List.mem_append_right _ member, answered⟩, held⟩

/-- A token is asked for at the beginning, if there is none at hand, or right after the first
request has been rejected and its token has been given up. -/
theorem asks (course : errand.Course before exchanges result after) :
    Throughout (fun earlier exchange _ => issuance.asks exchange →
      (earlier = [] ∧ before = none) ∨
        ∃ preceding first, earlier = preceding ++ [first] ∧ errand.requests first ∧
          first.isUnauthorized ∧ preceding.filter errand.requests = []) exchanges := by
  cases course with
  | nowhere error => exact throughout_nil
  | settled attempted attempt final =>
      exact attempt.asks.imp fun _ _ _ start asks => .inl (start asks)
  | renewed rejected attempted first unauthorized renewable second =>
      rw [throughout_append_iff]
      refine ⟨first.asks.imp fun _ _ _ start asks => .inl (start asks), ?_⟩
      refine second.asks.imp fun _ _ _ start asks => .inr ?_
      rcases first.ends with ⟨asked, rfl, before, requests⟩
      rw [(start asks).1, List.append_nil]
      exact ⟨asked, _, rfl, requests, unauthorized, Attempt.filter_requests_of_asks before⟩

/-- With a token at hand the first exchange gives none. -/
theorem head_given?_eq_none (held : before.isSome)
    (course : errand.Course before exchanges result after) :
    exchanges.head?.bind issuance.given? = none := by
  cases exchanges with
  | nil => rfl
  | cons head rest =>
      apply Issuance.given?_eq_none
      rw [← Bool.not_eq_true]
      intro asks
      rcases course.asks [] head rest rfl asks with ⟨_, tokenless⟩ | ⟨preceding, first, nothing, _⟩
      · rw [tokenless] at held
        cases held
      · simp at nothing

/-- A token that is refused ends the errand. -/
theorem refuses (course : errand.Course before exchanges result after) :
    Throughout (fun _ exchange later => issuance.asks exchange → issuance.given? exchange = none →
      later = [] ∧ after = none ∧ ∃ error, result = .error error) exchanges := by
  have fails : ∀ {attempted : Except ε Exchange}, (∃ error, attempted = .error error) →
      ∃ error, (attempted >>= errand.answer) = .error error := by
    intro attempted failed
    rcases failed with ⟨error, rfl⟩
    exact ⟨error, rfl⟩
  cases course with
  | nowhere error => exact throughout_nil
  | settled attempted attempt final =>
      refine attempt.refuses.imp fun _ _ _ refuses asks refused => ?_
      rcases refuses asks refused with ⟨last, lost, failed⟩
      exact ⟨last, lost, fails failed⟩
  | renewed rejected attempted first unauthorized renewable second =>
      rw [throughout_append_iff]
      constructor
      · refine first.refuses.imp fun _ _ _ refuses asks refused => ?_
        rcases refuses asks refused with ⟨_, _, _, impossible⟩
        cases impossible
      · refine second.refuses.imp fun _ _ _ refuses asks refused => ?_
        rcases refuses asks refused with ⟨last, lost, failed⟩
        exact ⟨last, lost, fails failed⟩

theorem identifies {log : List Exchange} (fresh : issuance.Fresh before log)
    (course : errand.Course before exchanges result after) :
    Throughout (fun earlier exchange _ => errand.requests exchange →
      issuance.Identifies (log ++ earlier) exchange) exchanges := by
  cases course with
  | nowhere error => exact throughout_nil
  | settled attempted attempt final => exact attempt.identifies fresh
  | renewed rejected attempted first unauthorized renewable second =>
      rw [throughout_append_iff]
      refine ⟨first.identifies fresh, ?_⟩
      simp only [← List.append_assoc]
      exact second.identifies (Issuance.fresh_none _)

theorem fresh {log : List Exchange} (fresh : issuance.Fresh before log)
    (course : errand.Course before exchanges result after) :
    issuance.Fresh after (log ++ exchanges) := by
  cases course with
  | nowhere error =>
      rw [List.append_nil]
      exact fresh
  | settled attempted attempt final => exact attempt.fresh fresh
  | renewed rejected attempted first unauthorized renewable second =>
      rw [← List.append_assoc]
      exact second.fresh (Issuance.fresh_none _)

/-- A token that is given takes the place of one that was given up, or stays. -/
theorem balance (renewable : issuance.renewable)
    (course : errand.Course before exchanges result after) :
    (exchanges.filterMap issuance.given?).length + before.toList.length =
      (isRejected errand.requests exchanges).toNat + after.toList.length := by
  cases course with
  | nowhere error => rfl
  | settled attempted attempt final =>
      rw [attempt.balance renewable, isRejected_eq_false_of_settled renewable attempt final,
        Bool.toNat_false, Nat.zero_add]
  | renewed rejected attempted first unauthorized _ second =>
      -- The first attempt ends with one token at hand, which the rejection uses up.
      have given := first.balance renewable
      have held := first.length_toList renewable
      have regiven := second.balance renewable
      rw [first.isRejected_append, unauthorized, List.filterMap_append, List.length_append]
      change _ = 1 at held
      change _ + 0 = _ at regiven
      change _ = 1 + _
      omega

theorem length_asks_le (course : errand.Course before exchanges result after) :
    (exchanges.filter issuance.asks).length ≤ 2 := by
  cases course with
  | nowhere error => simp
  | settled attempted attempt final => exact Nat.le_trans attempt.length_asks_le (by decide)
  | renewed rejected attempted first unauthorized renewable second =>
      rw [List.filter_append, List.length_append]
      exact Nat.add_le_add first.length_asks_le second.length_asks_le

/-- A rejection is the answer to the errand only if the token cannot be renewed or was. -/
theorem answers (course : errand.Course before exchanges result after) {last : Exchange}
    (ends : (exchanges.filter errand.requests).getLast? = some last)
    (final : issuance.renewable → (exchanges.filter errand.requests).length = 2) :
    result = errand.answer last := by
  rcases course.requests with ⟨requests, _⟩ | ⟨only, requests, _, answered⟩ |
    ⟨first, other, requests, _, _, _, answered⟩
  · rw [requests] at ends
    cases ends
  · rw [requests] at ends final
    cases ends
    apply answered
    rw [← Bool.not_eq_true]
    intro renewable
    cases final renewable
  · rw [requests] at ends
    cases ends
    exact answered

/-- The last request settles the errand, unless it was rejected and no token was given for
another one. -/
theorem settles (course : errand.Course before exchanges result after) :
    (exchanges.filter errand.requests = [] ∧ ∃ error, result = .error error) ∨
      ∃ last, (exchanges.filter errand.requests).getLast? = some last ∧
        (result = errand.answer last ∨
          last.isUnauthorized ∧ ∃ error, result = .error error) := by
  cases course with
  | nowhere error => exact .inl ⟨rfl, error, rfl⟩
  | settled attempted attempt final =>
      rw [attempt.requests]
      cases attempted with
      | error error => exact .inl ⟨rfl, error, rfl⟩
      | ok only => exact .inr ⟨only, rfl, .inl rfl⟩
  | renewed rejected attempted first unauthorized renewable second =>
      rw [List.filter_append, first.requests, second.requests]
      cases attempted with
      | error error => exact .inr ⟨rejected, rfl, .inr ⟨unauthorized, error, rfl⟩⟩
      | ok other => exact .inr ⟨other, rfl, .inl rfl⟩

theorem answers_of_accepted (course : errand.Course before exchanges result after)
    {last : Exchange} (ends : (exchanges.filter errand.requests).getLast? = some last)
    (accepted : last.isUnauthorized = false) : result = errand.answer last := by
  rcases course.settles with ⟨nothing, _⟩ | ⟨other, same, answered | ⟨rejected, _⟩⟩
  · rw [nothing] at ends
    cases ends
  · rw [ends] at same
    cases same
    exact answered
  · rw [ends] at same
    cases same
    rw [accepted] at rejected
    cases rejected

theorem ends_of_succeeded {value : α} (course : errand.Course before exchanges (.ok value) after) :
    ∃ last, (exchanges.filter errand.requests).getLast? = some last ∧
      errand.answer last = .ok value := by
  rcases course.settles with ⟨_, error, failed⟩ | ⟨last, ends, answered | ⟨_, error, failed⟩⟩
  · cases failed
  · exact ⟨last, ends, answered.symm⟩
  · cases failed

end Course

end Errand

end Http

end HostAttestation
