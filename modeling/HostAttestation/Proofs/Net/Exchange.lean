import HostAttestation.Net.Bus
import HostAttestation.Net.Http

/-! # Exchanges

A network that answers each request in any way it likes, which may depend on all that came before,
and keeps what was exchanged. Every script of outcomes is such a network. A request counts as made
when it is handed to the network; one that the network does not carry has failed. -/

namespace HostAttestation

/-! ## Positions in a list -/

section

variable {α : Type} {P : List α → α → List α → Prop}

/-- Every item of the list is as it should be, given the items before it and behind it. -/
def Throughout (P : List α → α → List α → Prop) (list : List α) : Prop :=
  ∀ earlier item later, list = earlier ++ item :: later → P earlier item later

theorem throughout_nil : Throughout P [] := by
  intro earlier item later split
  have empty := congrArg List.length split
  simp at empty

theorem Throughout.imp {Q : List α → α → List α → Prop} {list : List α}
    (throughout : Throughout P list)
    (implies : ∀ earlier item later, P earlier item later → Q earlier item later) :
    Throughout Q list := by
  intro earlier item later split
  exact implies earlier item later (throughout earlier item later split)

theorem throughout_of_forall_mem {list : List α}
    (every : ∀ item ∈ list, ∀ earlier later, P earlier item later) : Throughout P list := by
  intro earlier item later split
  exact every item (by simp [split]) earlier later

theorem throughout_append_iff (first second : List α) :
    Throughout P (first ++ second) ↔
      Throughout (fun earlier item later => P earlier item (later ++ second)) first ∧
        Throughout (fun earlier item later => P (first ++ earlier) item later) second := by
  constructor
  · intro throughout
    constructor
    · intro earlier item later split
      exact throughout earlier item (later ++ second) (by simp [split])
    · intro earlier item later split
      exact throughout (first ++ earlier) item later (by simp [split])
  · intro parts earlier item later split
    rcases List.append_eq_append_iff.mp split with ⟨middle, rfl, rfl⟩ | ⟨middle, rfl, rest⟩
    · exact parts.2 middle item later rfl
    · cases middle with
      | nil =>
          have behind := parts.2 [] item later (by simpa using rest.symm)
          simpa using behind
      | cons head others =>
          cases rest
          exact parts.1 earlier item others rfl

theorem throughout_cons_iff (head : α) (rest : List α) :
    Throughout P (head :: rest) ↔
      P [] head rest ∧
        Throughout (fun earlier item later => P (head :: earlier) item later) rest := by
  constructor
  · intro throughout
    constructor
    · exact throughout [] head rest rfl
    · intro earlier item later split
      exact throughout (head :: earlier) item later (by simp [split])
  · intro parts earlier item later split
    cases earlier with
    | nil =>
        cases split
        exact parts.1
    | cons other others =>
        cases split
        exact parts.2 others item later rfl

theorem throughout_singleton_iff (item : α) : Throughout P [item] ↔ P [] item [] := by
  rw [throughout_cons_iff]
  exact and_iff_left throughout_nil

end

namespace Http

/-- A request and what came of it. -/
structure Exchange where
  request : Request
  outcome : Outcome

namespace Exchange

/-- The status of the reply, if there was one. -/
def status? (exchange : Exchange) : Option Nat :=
  match exchange.outcome with
  | .ok reply => some reply.status
  | .error _ => none

def isUnauthorized (exchange : Exchange) : Bool :=
  exchange.status? = some 401

/-- The body of a reply that tells of success, read to its end. -/
def content? (exchange : Exchange) : Option Bytes :=
  match exchange.outcome with
  | .ok reply =>
      match reply.body with
      | .ok body => if 200 ≤ reply.status ∧ reply.status < 300 then some body else none
      | .error _ => none
  | .error _ => none

theorem isUnauthorized_iff (exchange : Exchange) :
    exchange.isUnauthorized ↔ ∃ reply, exchange.outcome = .ok reply ∧ reply.status = 401 := by
  unfold isUnauthorized status?
  cases exchange.outcome with
  | error interruption => simp
  | ok reply => simp

theorem content?_eq_some_iff (exchange : Exchange) (body : Bytes) :
    exchange.content? = some body ↔
      ∃ reply, exchange.outcome = .ok reply ∧ reply.body = .ok body ∧ reply.isSuccess := by
  unfold content?
  cases exchange.outcome with
  | error interruption => simp
  | ok reply =>
      cases read : reply.body with
      | error interruption => simp [read]
      | ok other =>
          by_cases success : 200 ≤ reply.status ∧ reply.status < 300
          · simp [read, success, Reply.isSuccess]
          · simp [read, success, Reply.isSuccess]

theorem isUnauthorized_of_content? {exchange : Exchange} {body : Bytes}
    (content : exchange.content? = some body) : exchange.isUnauthorized = false := by
  rcases (exchange.content?_eq_some_iff body).mp content with ⟨reply, replied, _, success⟩
  rw [← Bool.not_eq_true, isUnauthorized_iff]
  intro rejected
  rcases rejected with ⟨other, same, status⟩
  rw [replied] at same
  cases same
  simp [Reply.isSuccess, status] at success

end Exchange

def answering (answer : List Exchange → Request → Outcome) : Network (List Exchange) :=
  fun request log => (answer log request, log ++ [⟨request, answer log request⟩])

end Http

namespace Bus

/-- A request and what came of it. -/
structure Exchange where
  request : Request
  outcome : Outcome

/-- Every credentials file can be used or not, as the bus likes. -/
def answering (hasCredentials : String → Bool) (answer : List Exchange → Request → Outcome) :
    Network (List Exchange) where
  hasCredentials := hasCredentials
  exchange request log := (answer log request, log ++ [⟨request, answer log request⟩])

end Bus

end HostAttestation
