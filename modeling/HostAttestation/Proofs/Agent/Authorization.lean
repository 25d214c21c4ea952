import HostAttestation.Agent.Http
import HostAttestation.Proofs.Net.Retry
import HostAttestation.Proofs.Url.Path

/-! # The requests of one operation

An operation asks the agent once, or twice if its token is rejected and renewed. Before each
request it asks the service for a token if there is none at hand. -/

namespace HostAttestation

namespace Agent

theorem Operation.isPlain_last (operation : Operation) :
    ∃ last, operation.path.getLast? = some last ∧ Url.isPlain last := by
  cases operation <;> exact ⟨_, rfl, by decide⟩

theorem Operation.last_injective {left right : Operation}
    (same : left.path.getLast? = right.path.getLast?) : left = right := by
  cases left <;> cases right <;> simp_all [path]

/-- No two operations share an address, whatever the addresses that they are below. -/
theorem Operation.eq_of_below? {left right : Operation} {leftBase rightBase url : Url}
    (leftBelow : leftBase.below? left.path = some url)
    (rightBelow : rightBase.below? right.path = some url) : left = right := by
  rcases left.isPlain_last with ⟨leftLast, leftEnds, leftPlain⟩
  rcases right.isPlain_last with ⟨rightLast, rightEnds, rightPlain⟩
  apply Operation.last_injective
  rw [leftEnds, rightEnds, ← Url.lastSegment_of_below? leftBelow leftEnds leftPlain,
    ← Url.lastSegment_of_below? rightBelow rightEnds rightPlain]

namespace Authentication

/-- The token of a client that always sends the same one. -/
def fixed : Authentication → Option String
  | .none => Option.none
  | .bearer token => some token
  | .service _ _ _ => Option.none

/-- The address at which tokens are asked for. -/
def address? : Authentication → Option Url
  | .none => Option.none
  | .bearer _ => Option.none
  | .service url _ _ => url.below? Operation.authenticate.path

end Authentication

namespace HttpAgent

variable {agent : HttpAgent} {operation : Operation} {exchange : Http.Exchange}

/-! ## Requests by their destination -/

/-- The exchange asks the service for a token. -/
def isTokenRequest (agent : HttpAgent) (exchange : Http.Exchange) : Bool :=
  agent.authentication.address? = some exchange.request.url

/-- The exchange asks the agent to carry out an operation. -/
def isRequest (agent : HttpAgent) (operation : Operation) (exchange : Http.Exchange) : Bool :=
  agent.baseUrl.below? operation.path = some exchange.request.url

/-- The token that the service has given in an exchange. -/
def obtained? (agent : HttpAgent) (exchange : Http.Exchange) : Option String :=
  if agent.isTokenRequest exchange then
    (exchange.content?.map fun body => Text.trim (Utf8.lossy body)).filter (· ≠ "")
  else none

theorem isTokenRequest_of_obtained? {token : String}
    (obtained : agent.obtained? exchange = some token) : agent.isTokenRequest exchange := by
  unfold obtained? at obtained
  split at obtained
  next asks => exact asks
  next => cases obtained

theorem mayRenew_of_isTokenRequest (asks : agent.isTokenRequest exchange) : agent.mayRenew := by
  unfold isTokenRequest at asks
  unfold mayRenew
  cases authentication : agent.authentication with
  | none => simp [authentication, Authentication.address?] at asks
  | bearer token => simp [authentication, Authentication.address?] at asks
  | service url username password => rfl

theorem not_isTokenRequest_of_isRequest (different : operation ≠ .authenticate)
    (requests : agent.isRequest operation exchange) : agent.isTokenRequest exchange = false := by
  have below := of_decide_eq_true requests
  unfold isTokenRequest
  cases authentication : agent.authentication with
  | none => simp [Authentication.address?]
  | bearer token => simp [Authentication.address?]
  | service url username password =>
      apply decide_eq_false
      intro asks
      exact different (Operation.eq_of_below? below asks)

/-- What an operation makes of the answer to its last request. -/
def answerOf (agent : HttpAgent) (operation : Operation) (exchange : Http.Exchange) :
    Except Error Bytes := do
  let reply ← exchange.outcome.mapError (agent.interrupted operation)
  agent.bodyOfReply operation reply

/-- The service issues tokens, if there is a service. -/
def issuance (agent : HttpAgent) : Http.Issuance where
  renewable := agent.mayRenew
  fixed := agent.authentication.fixed
  asks := agent.isTokenRequest
  given? := agent.obtained?
  presents token request := request.credentials = token.map .bearer
  asks_of_given? := isTokenRequest_of_obtained?
  renewable_of_asks := mayRenew_of_isTokenRequest

def errand (agent : HttpAgent) (operation : Operation) (different : operation ≠ .authenticate) :
    Http.Errand agent.issuance Error Bytes where
  requests := agent.isRequest operation
  answer := agent.answerOf operation
  not_asks_of_requests := not_isTokenRequest_of_isRequest different

/-! ## Every run is the course of an errand -/

variable {answer : List Http.Exchange → Http.Request → Http.Outcome}
  {before after : Session (List Http.Exchange)}

theorem exchange_of_runs {request : Http.Request} {result : Except Error Http.Reply}
    (run : Runs (agent.exchange (Http.answering answer) operation request) before result after) :
    ∃ exchange : Http.Exchange, exchange.request = request ∧
      result = exchange.outcome.mapError (agent.interrupted operation) ∧
      after = ⟨before.token, before.network ++ [exchange]⟩ := by
  rcases Runs.bind_iff.mp run with ⟨_, failed, _⟩ | ⟨session, _, found, sends⟩
  · cases (Runs.get_iff.mp failed).1
  rcases Runs.get_iff.mp found with ⟨same, still⟩
  rw [Except.ok.inj same, still] at sends
  rcases Runs.bind_iff.mp sends with ⟨_, failed, _⟩ | ⟨_, _, stored, replies⟩
  · cases (Runs.set_iff.mp failed).1
  rcases Runs.set_iff.mp stored with ⟨_, rfl⟩
  rcases Runs.liftExcept_iff.mp replies with ⟨rfl, rfl⟩
  exact ⟨⟨request, answer before.network request⟩, rfl, rfl, rfl⟩

theorem below?_of_join {base url : Url} {path : List String} (joined : join base path = .ok url) :
    base.below? path = some url := by
  unfold join at joined
  split at joined
  next found => rw [found, Except.ok.inj joined]
  next => cases joined

theorem tokenOfReply_eq_ok_iff (reply : Http.Reply) (token : String) :
    agent.tokenOfReply reply = .ok token ↔
      ∃ body, reply.body = .ok body ∧ reply.isSuccess ∧ Text.trim (Utf8.lossy body) = token ∧
        token ≠ "" := by
  unfold tokenOfReply
  rw [Outcome.bind_eq_ok_iff]
  simp only [Outcome.mapError_eq_ok_iff]
  constructor
  · intro given
    rcases given with ⟨body, read, rest⟩
    split at rest
    next success =>
      split at rest
      next => cases rest
      next visible =>
        cases rest
        exact ⟨body, read, success, rfl, visible⟩
    next => cases rest
  · intro given
    rcases given with ⟨body, read, success, rfl, visible⟩
    refine ⟨body, read, ?_⟩
    rw [if_pos success, if_neg visible]
    rfl

theorem obtained?_eq_some_iff (asks : agent.isTokenRequest exchange) (token : String) :
    agent.obtained? exchange = some token ↔
      exchange.outcome.mapError (agent.interrupted .authenticate) >>= agent.tokenOfReply =
        .ok token := by
  rw [obtained?, if_pos asks, Outcome.bind_eq_ok_iff]
  simp only [Outcome.mapError_eq_ok_iff, tokenOfReply_eq_ok_iff, Option.filter_eq_some_iff,
    Option.map_eq_some_iff, Http.Exchange.content?_eq_some_iff, decide_eq_true_eq]
  constructor
  · intro given
    rcases given with ⟨⟨body, ⟨reply, replied, read, success⟩, trimmed⟩, visible⟩
    exact ⟨reply, replied, body, read, success, trimmed, visible⟩
  · intro given
    rcases given with ⟨reply, replied, body, read, success, trimmed, visible⟩
    exact ⟨⟨body, ⟨reply, replied, read, success⟩, trimmed⟩, visible⟩

theorem asks_requestToken {url : Url} {username password : String}
    (service : agent.authentication = .service url username password) :
    agent.issuance.Asks Session.token Session.network
      (agent.requestToken (Http.answering answer) url username password) := by
  apply Http.Issuance.Asks.after_liftExcept
  intro endpoint joined
  apply Http.Issuance.asks_of_request _ fun exchange asks token => obtained?_eq_some_iff asks token
  intro before result after run
  rcases exchange_of_runs run with ⟨exchange, sent, answered, rfl⟩
  refine ⟨exchange, ?_, rfl, rfl, answered⟩
  simp [issuance, isTokenRequest, service, Authentication.address?, below?_of_join joined, sent]

theorem authorizes_fixed {held token : Option String} (unrenewable : agent.mayRenew = false)
    (fixed : agent.authentication.fixed = token) :
    agent.issuance.Authorizes held [] (.ok token : Except Error _) held := by
  rw [← fixed]
  exact Http.Issuance.Authorizes.fixed held unrenewable

theorem authorizes_of_runs {result : Except Error (Option String)}
    (run : Runs (agent.bearerToken (Http.answering answer)) before result after) :
    ∃ asked, after.network = before.network ++ asked ∧
      agent.issuance.Authorizes before.token asked result after.token := by
  unfold bearerToken at run
  cases authentication : agent.authentication with
  | none =>
      rw [authentication] at run
      rcases Runs.pure_iff.mp run with ⟨rfl, rfl⟩
      exact ⟨[], by simp, authorizes_fixed (by rw [mayRenew, authentication])
        (by rw [authentication]; rfl)⟩
  | bearer token =>
      rw [authentication] at run
      rcases Runs.pure_iff.mp run with ⟨rfl, rfl⟩
      exact ⟨[], by simp, authorizes_fixed (by rw [mayRenew, authentication])
        (by rw [authentication]; rfl)⟩
  | service url username password =>
      rw [authentication] at run
      have renewable : agent.mayRenew := by rw [mayRenew, authentication]
      rcases Runs.bind_iff.mp run with ⟨_, failed, _⟩ | ⟨session, _, found, rest⟩
      · cases (Runs.get_iff.mp failed).1
      rcases Runs.get_iff.mp found with ⟨same, still⟩
      rw [Except.ok.inj same, still] at rest
      cases held : before.token with
      | some token =>
          rw [held] at rest
          rcases Runs.pure_iff.mp rest with ⟨rfl, rfl⟩
          rw [held]
          exact ⟨[], by simp, .held token renewable⟩
      | none =>
          rw [held] at rest
          rcases Http.Issuance.authorizes_of_stored (asks_requestToken authentication) renewable
            held rest (fun _ _ => ⟨rfl, rfl⟩) with
            ⟨asked, logged, ⟨error, rfl, authorized⟩ | ⟨token, rfl, authorized⟩⟩
          · exact ⟨asked, logged, authorized⟩
          · exact ⟨asked, logged, authorized⟩

/-- The request of an attempt. -/
def requestWith (method : Http.Method) (accept : String) (body : Option Json) (url : Url)
    (token : Option String) : Http.Request where
  method := method
  url := url
  accept := accept
  userAgent := userAgent
  credentials := token.map .bearer
  session := none
  body := body

section

variable {errand : Http.Errand agent.issuance Error Bytes} {method : Http.Method}
  {accept : String} {body : Option Json} {url : Url}

/-- The request is made with the token that was come by. -/
theorem tries_attempt
    (requests : ∀ exchange token, exchange.request = requestWith method accept body url token →
      errand.requests exchange) :
    errand.Tries Session.token Session.network (agent.interrupted operation)
      (agent.attempt (Http.answering answer) operation method accept body url) := by
  intro before result after run
  rcases Runs.bind_iff.mp run with ⟨error, failed, rfl⟩ | ⟨token, _, given, sends⟩
  · rcases authorizes_of_runs failed with ⟨asked, logged, authorized⟩
    exact ⟨asked, .error error, logged, .unauthorized authorized, rfl⟩
  · rcases authorizes_of_runs given with ⟨asked, logged, authorized⟩
    rcases exchange_of_runs sends with ⟨exchange, sent, answered, rfl⟩
    refine ⟨asked ++ [exchange], .ok exchange, ?_, .made authorized ⟨?_, ?_⟩, answered⟩
    · dsimp only
      rw [logged, List.append_assoc]
    · exact requests exchange token sent
    · rw [sent]
      rfl

theorem course_of_send (answers : errand.answer = agent.answerOf operation)
    (requests : ∀ url, agent.baseUrl.below? operation.path = some url → ∀ exchange token,
      exchange.request = requestWith method accept body url token → errand.requests exchange)
    {result : Except Error Bytes}
    (run : Runs (agent.send (Http.answering answer) operation method accept body) before result
      after) :
    ∃ exchanges, after.network = before.network ++ exchanges ∧
      errand.Course before.token exchanges result after.token := by
  rcases Runs.bind_iff.mp run with ⟨error, failed, rfl⟩ | ⟨url, _, joined, sends⟩
  · rw [(Runs.liftExcept_iff.mp failed).2]
    exact ⟨[], by simp, .nowhere before.token error⟩
  rcases Runs.liftExcept_iff.mp joined with ⟨below, rfl⟩
  have settles : errand.Settles (agent.interrupted operation) (agent.bodyOfReply operation) := by
    intro exchange
    rw [answers]
    rfl
  exact Http.Errand.course_of_retry (tries_attempt (requests url (below?_of_join below.symm)))
    settles sends (fun _ => ⟨rfl, rfl⟩) (fun _ => Iff.rfl)

end

theorem course_of_runs (different : operation ≠ .authenticate) {method : Http.Method}
    {accept : String} {body : Option Json} {result : Except Error Bytes}
    (run : Runs (agent.send (Http.answering answer) operation method accept body) before result
      after) :
    ∃ exchanges, after.network = before.network ++ exchanges ∧
      (agent.errand operation different).Course before.token exchanges result after.token := by
  refine course_of_send rfl (fun url below exchange token sent => ?_) run
  simp [errand, isRequest, below, sent, requestWith]

end HttpAgent

end Agent

end HostAttestation
