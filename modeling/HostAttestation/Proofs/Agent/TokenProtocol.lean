import HostAttestation.Proofs.Agent.Action
import HostAttestation.Proofs.Agent.Authorization
import HostAttestation.Proofs.Net.Turns

/-! # The token protocol over whole runs

A client that is asked for one operation after the other keeps its token from one to the next.
Whatever agent and service answer, every operation keeps to the protocol, and the run gets along
with as many tokens as operations had theirs rejected, and one more. -/

namespace HostAttestation

namespace Agent

namespace HttpAgent

variable {agent : HttpAgent} {operation : Operation}

/-- What a request to the agent has to carry after so many exchanges. -/
def credentials (agent : HttpAgent) (log : List Http.Exchange) : Option Http.Credentials :=
  match agent.authentication with
  | .none => none
  | .bearer token => some (.bearer token)
  | .service _ _ _ => (agent.issuance.latest? log).map .bearer

/-- The request says who asks: the client has a token if it needs one, and sends it. -/
structure Identifies (agent : HttpAgent) (log : List Http.Exchange) (exchange : Http.Exchange) :
    Prop where
  credentials : exchange.request.credentials = agent.credentials log
  known : agent.mayRenew → (agent.issuance.latest? log).isSome

theorem credentials_eq (agent : HttpAgent) (log : List Http.Exchange) :
    agent.credentials log = (agent.issuance.due? log).map .bearer := by
  unfold credentials Http.Issuance.due? issuance
  cases authentication : agent.authentication with
  | none => simp [mayRenew, authentication, Authentication.fixed]
  | bearer token => simp [mayRenew, authentication, Authentication.fixed]
  | service url username password => simp [mayRenew, authentication]

theorem identifies_of_issuance {log : List Http.Exchange} {exchange : Http.Exchange}
    (identifies : agent.issuance.Identifies log exchange) : agent.Identifies log exchange := by
  constructor
  · rw [credentials_eq]
    exact identifies.presents
  · intro mayRenew
    have renewable : agent.issuance.renewable := mayRenew
    have known := identifies.known renewable
    rw [Http.Issuance.due?, if_pos renewable] at known
    exact known

/-- The operation fails on its way to the agent, or in time if the body of the last reply does not
arrive in time. -/
def Fails {α : Type} (agent : HttpAgent) (operation : Operation) (last : Http.Exchange)
    (result : Except Error α) : Prop :=
  (∃ causes, result = .error (.transport operation causes)) ∨
    (∃ reply, last.outcome = .ok reply ∧ reply.body = .error .timedOut) ∧
      ∃ causes, result = .error (.timeout operation agent.timeout causes)

theorem fails_answerOf {exchange : Http.Exchange} (rejected : exchange.isUnauthorized) :
    agent.Fails operation exchange (agent.answerOf operation exchange) := by
  rcases (exchange.isUnauthorized_iff).mp rejected with ⟨reply, replied, status⟩
  rw [answerOf, replied]
  change agent.Fails operation exchange (agent.bodyOfReply operation reply)
  have unsuccessful : reply.isSuccess = false := by simp [Http.Reply.isSuccess, status]
  unfold bodyOfReply
  cases body : reply.body with
  | ok bytes =>
      left
      rw [unsuccessful]
      exact ⟨_, rfl⟩
  | error interruption =>
      cases interruption with
      | failed => exact .inl ⟨_, rfl⟩
      | timedOut => exact .inr ⟨⟨reply, replied, body⟩, _, rfl⟩

end HttpAgent

/-- One operation of a run: the token at hand before, what was exchanged, the result, and the
token at hand afterwards. -/
structure Turn where
  action : Action
  before : Option String
  exchanges : List Http.Exchange
  result : Except Error Unit
  after : Option String

namespace Turn

def operation (turn : Turn) : Operation :=
  turn.action.operation

/-- The requests to the agent, in their order. -/
def requests (agent : HttpAgent) (turn : Turn) : List Http.Exchange :=
  turn.exchanges.filter (agent.isRequest turn.operation)

/-- The tokens that the service gave. -/
def tokens (agent : HttpAgent) (turn : Turn) : List String :=
  turn.exchanges.filterMap agent.obtained?

/-- The first request to the agent was rejected. -/
def isRejected (agent : HttpAgent) (turn : Turn) : Bool :=
  Http.isRejected (agent.isRequest turn.operation) turn.exchanges

/-- The protocol of one operation, given what was exchanged in the operations before it. -/
structure Follows (agent : HttpAgent) (log : List Http.Exchange) (turn : Turn) : Prop where
  /-- Every exchange is with the service or with the agent, whichever it is addressed to. -/
  destinations : ∀ exchange ∈ turn.exchanges,
    agent.isTokenRequest exchange ≠ agent.isRequest turn.operation exchange
  atMostTwice : (turn.requests agent).length ≤ 2
  /-- The agent is asked again exactly if it has rejected the first request and the service has
  given a token since. -/
  again : (turn.requests agent).length = 2 ↔
    agent.mayRenew ∧ turn.isRejected agent ∧
      (Http.followUp (agent.isRequest turn.operation) turn.exchanges).filterMap
        agent.obtained? ≠ []
  /-- A token is asked for only when there is none: at the beginning, or right after the first
  request to the agent was rejected, which costs the token its place. -/
  tokenless : Throughout (fun earlier exchange _ => agent.isTokenRequest exchange →
    (earlier = [] ∧ turn.before = none) ∨
      ∃ preceding first, earlier = preceding ++ [first] ∧
        agent.isRequest turn.operation first ∧ first.isUnauthorized ∧
        preceding.filter (agent.isRequest turn.operation) = []) turn.exchanges
  askedAtMostTwice : (turn.exchanges.filter agent.isTokenRequest).length ≤ 2
  /-- Every request to the agent carries what the authentication demands. -/
  identifies : Throughout (fun earlier exchange _ => agent.isRequest turn.operation exchange →
    agent.Identifies (log ++ earlier) exchange) turn.exchanges
  /-- A refused token ends the operation and leaves none at hand. -/
  refused : Throughout (fun _ exchange later => agent.isTokenRequest exchange →
    agent.obtained? exchange = none →
      later = [] ∧ turn.after = none ∧ ∃ error, turn.result = .error error) turn.exchanges
  /-- A rejection that is the last word fails the operation. -/
  rejected : ∀ last, (turn.requests agent).getLast? = some last → last.isUnauthorized →
    (agent.mayRenew → (turn.requests agent).length = 2) →
      agent.Fails turn.operation last turn.result

end Turn

namespace HttpAgent

variable {agent : HttpAgent} {answer : List Http.Exchange → Http.Request → Http.Outcome}
  {session : Session (List Http.Exchange)} {action : Action}

/-- Carries out an operation and tells what came of it. -/
def turn (agent : HttpAgent) (answer : List Http.Exchange → Http.Request → Http.Outcome)
    (session : Session (List Http.Exchange)) (action : Action) :
    Turn × Session (List Http.Exchange) :=
  let (result, next) := runFrom (action.perform (agent.client (Http.answering answer))) session
  (⟨action, session.token, next.network.drop session.network.length, result, next.token⟩, next)

/-- Carries out operations one after the other. -/
def turns (agent : HttpAgent) (answer : List Http.Exchange → Http.Request → Http.Outcome) :
    Session (List Http.Exchange) → List Action → List Turn
  | _, [] => []
  | session, action :: rest =>
      (agent.turn answer session action).1 ::
        agent.turns answer (agent.turn answer session action).2 rest

/-- A client that has not been used yet. -/
def Session.unused : Session (List Http.Exchange) :=
  ⟨none, []⟩

/-! ## One operation -/

/-- An operation takes its course; if that fails, so does the operation. -/
theorem course_of_turn (agent : HttpAgent)
    (answer : List Http.Exchange → Http.Request → Http.Outcome)
    (session : Session (List Http.Exchange)) (action : Action) :
    (agent.turn answer session action).2.network =
        session.network ++ (agent.turn answer session action).1.exchanges ∧
      ∃ inner,
        (agent.errand action.operation action.operation_ne_authenticate).Course session.token
          (agent.turn answer session action).1.exchanges inner
          (agent.turn answer session action).2.token ∧
        ∀ error, inner = .error error →
          (agent.turn answer session action).1.result = .error error := by
  rcases performed : runFrom (action.perform (agent.client (Http.answering answer))) session with
    ⟨result, next⟩
  have turned : agent.turn answer session action =
      (⟨action, session.token, next.network.drop session.network.length, result, next.token⟩,
        next) := by
    rw [turn, performed]
  rw [turned]
  rcases conveys_perform (agent.transport (Http.answering answer)) (some agent.baseUrl) action
    session result next performed with ⟨error, rfl, rfl⟩ | ⟨payload, inner, sent, fails⟩
  · refine ⟨by simp, .error error, ?_, fun other same => ?_⟩
    · rw [List.drop_length]
      exact .nowhere next.token error
    · cases same
      rfl
  · rcases course_of_runs action.operation_ne_authenticate sent with ⟨exchanges, logged, course⟩
    have exchanged : next.network.drop session.network.length = exchanges := by
      rw [logged, List.drop_left]
    dsimp only
    rw [exchanged]
    exact ⟨logged, inner, course, fails⟩

theorem follows_turn (fresh : agent.issuance.Fresh session.token session.network) :
    (agent.turn answer session action).1.Follows agent session.network := by
  rcases course_of_turn agent answer session action with ⟨_, inner, course, fails⟩
  constructor
  · exact course.destinations
  · exact course.length_requests_le
  · exact course.second_iff
  · exact course.asks
  · exact course.length_asks_le
  · refine (course.identifies fresh).imp fun _ _ _ identifies requests => ?_
    exact identifies_of_issuance (identifies requests)
  · refine course.refuses.imp fun _ _ _ refuses asks refused => ?_
    rcases refuses asks refused with ⟨ends, lost, error, failed⟩
    exact ⟨ends, lost, error, fails error failed⟩
  · intro last ends rejected final
    have answered := course.answers ends final
    have failed : agent.Fails action.operation last inner := by
      rw [answered]
      exact fails_answerOf rejected
    rcases failed with ⟨causes, failed⟩ | ⟨late, causes, failed⟩
    · exact .inl ⟨causes, fails _ failed⟩
    · exact .inr ⟨late, causes, fails _ failed⟩

theorem fresh_turn (fresh : agent.issuance.Fresh session.token session.network) :
    agent.issuance.Fresh (agent.turn answer session action).2.token
      (agent.turn answer session action).2.network := by
  rcases course_of_turn agent answer session action with ⟨logged, _, course, _⟩
  rw [logged]
  exact course.fresh fresh

theorem balance_turn (renewable : agent.mayRenew)
    (answer : List Http.Exchange → Http.Request → Http.Outcome)
    (session : Session (List Http.Exchange)) (action : Action) :
    ((agent.turn answer session action).1.tokens agent).length + session.token.toList.length =
      ((agent.turn answer session action).1.isRejected agent).toNat +
        (agent.turn answer session action).2.token.toList.length := by
  rcases course_of_turn agent answer session action with ⟨_, _, course, _⟩
  exact course.balance renewable

theorem tokens_of_unrenewable (unrenewable : agent.mayRenew = false) (turn : Turn) :
    turn.tokens agent = [] := by
  apply List.filterMap_eq_nil_iff.mpr
  intro exchange _
  have unasked : agent.isTokenRequest exchange = false := by
    rw [← Bool.not_eq_true]
    intro asks
    have renewable := mayRenew_of_isTokenRequest asks
    rw [unrenewable] at renewable
    cases renewable
  rw [obtained?, unasked]
  rfl

/-! ## Whole runs -/

theorem turns_eq_inTurn (actions : List Action) :
    agent.turns answer session actions = inTurn (agent.turn answer) session actions := by
  induction actions generalizing session with
  | nil => rfl
  | cons action rest induction => rw [turns, inTurn, induction]

/-- The invariant is that a token at hand is the newest one of all that was exchanged so far. -/
theorem follows_turns_from (fresh : agent.issuance.Fresh session.token session.network)
    (actions : List Action) :
    Throughout (fun earlier turn _ =>
      turn.Follows agent (session.network ++ earlier.flatMap Turn.exchanges))
      (agent.turns answer session actions) := by
  have keeps : ∀ (session : Session (List Http.Exchange)) action,
      agent.issuance.Fresh session.token session.network →
        agent.issuance.Fresh (agent.turn answer session action).2.token
          (agent.turn answer session action).2.network :=
    fun _ _ fresh => fresh_turn fresh
  rw [turns_eq_inTurn]
  exact throughout_inTurn (fun session action => (course_of_turn agent answer session action).1)
    keeps (fun _ _ fresh => follows_turn fresh) fresh actions

/-- Each turn begins with the token with which the one before has ended. -/
theorem before_turns_from (actions : List Action) :
    Throughout (fun earlier turn _ =>
      turn.before = earlier.getLast?.elim session.token Turn.after)
      (agent.turns answer session actions) := by
  have starts : ∀ session action,
      (agent.turn answer session action).1.before = session.token := fun _ _ => rfl
  have ends : ∀ session action, (agent.turn answer session action).1.after =
      (agent.turn answer session action).2.token := fun _ _ => rfl
  rw [turns_eq_inTurn]
  exact begins_inTurn starts ends actions

/-- A token that is obtained, or was at hand at first, is used up by a rejection, but for one. -/
theorem length_tokens_le_from (renewable : agent.mayRenew) (actions : List Action) :
    ((agent.turns answer session actions).flatMap (Turn.tokens agent)).length +
        session.token.toList.length ≤
      (agent.turns answer session actions).countP (Turn.isRejected agent) + 1 := by
  induction actions generalizing session with
  | nil =>
      rw [turns, List.flatMap_nil, List.length_nil, List.countP_nil]
      cases session.token <;> simp
  | cons action rest induction =>
      have first := balance_turn renewable answer session action
      have others := @induction (agent.turn answer session action).2
      have counted :
          (if (agent.turn answer session action).1.isRejected agent = true then 1 else 0) =
            ((agent.turn answer session action).1.isRejected agent).toNat := by
        cases (agent.turn answer session action).1.isRejected agent <;> rfl
      rw [turns, List.flatMap_cons, List.length_append, List.countP_cons, counted]
      omega

/-- Whatever the authentication, the operations and the answers are. -/
theorem follows_turns (agent : HttpAgent)
    (answer : List Http.Exchange → Http.Request → Http.Outcome) (actions : List Action) :
    Throughout (fun earlier turn _ =>
      turn.before = earlier.getLast?.bind Turn.after ∧
        turn.Follows agent (earlier.flatMap Turn.exchanges))
      (agent.turns answer .unused actions) ∧
    ((agent.turns answer .unused actions).flatMap (Turn.tokens agent)).length ≤
      (agent.turns answer .unused actions).countP (Turn.isRejected agent) + 1 ∧
    (agent.mayRenew = false →
      (agent.turns answer .unused actions).flatMap (Turn.tokens agent) = []) := by
  have fresh : agent.issuance.Fresh Session.unused.token Session.unused.network :=
    Http.Issuance.fresh_none _
  have unrenewed : agent.mayRenew = false →
      (agent.turns answer .unused actions).flatMap (Turn.tokens agent) = [] := by
    intro unrenewable
    apply List.flatMap_eq_nil_iff.mpr
    intro turn _
    exact tokens_of_unrenewable unrenewable turn
  refine ⟨?_, ?_, unrenewed⟩
  · intro earlier turn later split
    constructor
    · rw [before_turns_from actions earlier turn later split]
      cases earlier.getLast? with
      | none => rfl
      | some previous => rfl
    · exact follows_turns_from fresh actions earlier turn later split
  · cases renewable : agent.mayRenew with
    | true => exact Nat.le_trans (Nat.le_add_right _ _) (length_tokens_le_from renewable actions)
    | false => simp [unrenewed renewable]

/-! ## A run in which a token expires -/

def secure (host : String) (path : List String) : Url where
  scheme := "https"
  authority := some ⟨"", "", .name host, none⟩
  isGuarded := false
  path := .segments path
  query := none
  fragment := none

def renewing : HttpAgent :=
  ⟨secure "agent" ["v2"], .service (secure "service" ["aas"]) "user" "secret", .ofSeconds 30⟩

/-- The first token is rejected, in a reply without an end, and the second one is accepted. -/
def expiry (log : List Http.Exchange) (_ : Http.Request) : Http.Outcome :=
  [.ok ⟨200, .ok [0x61]⟩, .ok ⟨401, .error .failed⟩, .ok ⟨200, .ok [0x62]⟩, .ok ⟨200, .ok [0x30]⟩,
    .ok ⟨200, .ok [0x30]⟩][log.length]?.getD (.error .failed)

theorem follows_turns_renewing :
    (renewing.turns expiry .unused [.aik, .bindingKeyCertificate]).map (fun turn =>
        ((turn.requests renewing).length, turn.tokens renewing, turn.before, turn.after)) =
      [(2, ["a", "b"], none, some "b"), (1, [], some "b", some "b")] ∧
    Throughout (fun earlier turn _ =>
      turn.before = earlier.getLast?.bind Turn.after ∧
        turn.Follows renewing (earlier.flatMap Turn.exchanges))
      (renewing.turns expiry .unused [.aik, .bindingKeyCertificate]) ∧
    ({ renewing with authentication := .bearer "t" } : HttpAgent).mayRenew = false ∧
    (({ renewing with authentication := .bearer "t" } : HttpAgent).turns expiry .unused
      [.aik]).flatMap (Turn.tokens { renewing with authentication := .bearer "t" }) = [] :=
  ⟨rfl, (follows_turns renewing expiry _).1, rfl, (follows_turns _ expiry _).2.2 rfl⟩

end HttpAgent

end Agent

end HostAttestation
