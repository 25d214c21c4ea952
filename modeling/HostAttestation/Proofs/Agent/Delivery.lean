import HostAttestation.Json.Printer
import HostAttestation.Proofs.Agent.Action
import HostAttestation.Proofs.Agent.Authorization

/-! # Calls over requests

A call that reaches its agent by requests sends the same document with each of them. Its result is
made of the reply that accepts it, whatever was rejected and renewed before. -/

namespace HostAttestation

namespace Agent

/-- What came of a call, and what was exchanged for it. -/
structure Delivery (action : Action) (ε : Type) where
  result : Except Error action.Answer
  exchanges : List ε

/-- The bytes that go over the wire for a payload. -/
def wire : Option Json → Bytes
  | none => []
  | some document => Utf8.encode document.render

namespace HttpAgent

variable {agent : HttpAgent} {action : Action} {operation : Operation} {payload : Option Json}
  {answer : List Http.Exchange → Http.Request → Http.Outcome}
  {session : Session (List Http.Exchange)} {exchange : Http.Exchange} {body : Bytes}

/-- Calls the agent over a network that answers in any way. -/
def deliver (agent : HttpAgent) (answer : List Http.Exchange → Http.Request → Http.Outcome)
    (session : Session (List Http.Exchange)) (action : Action) : Delivery action Http.Exchange :=
  let (result, next) := runFrom (action.call (agent.client (Http.answering answer))) session
  ⟨result, next.network.drop session.network.length⟩

/-- The requests to the agent, in their order. -/
def requests (agent : HttpAgent) (delivery : Delivery action Http.Exchange) :
    List Http.Exchange :=
  delivery.exchanges.filter (agent.isRequest action.operation)

theorem answerOf_eq_ok_iff : agent.answerOf operation exchange = .ok body ↔
    exchange.content? = some body := by
  rw [Http.Exchange.content?_eq_some_iff, answerOf, Outcome.bind_eq_ok_iff]
  simp only [Outcome.mapError_eq_ok_iff, bodyOfReply, Outcome.bind_eq_ok_iff]
  constructor
  · intro answered
    rcases answered with ⟨reply, replied, read, same, rest⟩
    split at rest
    next success =>
      cases rest
      exact ⟨reply, replied, same, success⟩
    next => cases rest
  · intro content
    rcases content with ⟨reply, replied, read, success⟩
    refine ⟨reply, replied, body, read, ?_⟩
    rw [if_pos success]
    rfl

/-! ## Every request carries the payload -/

/-- The errand of sending the payload. -/
def errandOf (agent : HttpAgent) (operation : Operation) (different : operation ≠ .authenticate)
    (payload : Option Json) : Http.Errand agent.issuance Error Bytes where
  requests exchange :=
    agent.isRequest operation exchange && wire exchange.request.body = wire payload
  answer := agent.answerOf operation
  not_asks_of_requests requests :=
    not_isTokenRequest_of_isRequest different (Bool.and_eq_true_iff.mp requests).1

theorem requests_iff_of_course {different : operation ≠ .authenticate}
    {before after : Option String} {exchanges : List Http.Exchange} {reply : Except Error Bytes}
    (course : (agent.errandOf operation different payload).Course before exchanges reply after)
    (member : exchange ∈ exchanges) :
    (agent.errandOf operation different payload).requests exchange =
      agent.isRequest operation exchange := by
  have apart := course.destinations exchange member
  cases requests : agent.isRequest operation exchange with
  | false => simp [errandOf, requests]
  | true =>
      have unasked : agent.issuance.asks exchange = false :=
        not_isTokenRequest_of_isRequest different requests
      rw [unasked] at apart
      exact Bool.of_not_eq_false apart.symm

theorem filter_requests_of_course {different : operation ≠ .authenticate}
    {before after : Option String} {exchanges : List Http.Exchange} {reply : Except Error Bytes}
    (course : (agent.errandOf operation different payload).Course before exchanges reply after) :
    exchanges.filter (agent.errandOf operation different payload).requests =
      exchanges.filter (agent.isRequest operation) :=
  List.filter_congr fun _ member => requests_iff_of_course course member

theorem deliver_of_runs {result : Except Error action.Answer}
    {next : Session (List Http.Exchange)} {exchanges : List Http.Exchange}
    (run : Runs (action.call (agent.client (Http.answering answer))) session result next)
    (logged : next.network = session.network ++ exchanges) :
    agent.deliver answer session action = ⟨result, exchanges⟩ := by
  rw [deliver, run]
  dsimp only
  rw [logged, List.drop_left]

theorem course_of_deliver (accepted : action.fault? = none) {reply : Except Error Bytes}
    {next : Session (List Http.Exchange)}
    (run : Runs (agent.transport (Http.answering answer) action.operation action.payload?) session
      reply next) :
    (agent.errandOf action.operation action.operation_ne_authenticate action.payload?).Course
        session.token (agent.deliver answer session action).exchanges reply next.token ∧
      (agent.deliver answer session action).result = reply >>= action.answerOf := by
  have called : Runs (action.call (agent.client (Http.answering answer))) session
      (reply >>= action.answerOf) next := by
    rw [client, call_ofTransport]
    exact (runs_convey_of_accepted accepted).mpr ⟨reply, run, rfl⟩
  have course : ∃ exchanges, next.network = session.network ++ exchanges ∧
      (agent.errandOf action.operation action.operation_ne_authenticate action.payload?).Course
        session.token exchanges reply next.token := by
    refine course_of_send rfl (fun url below exchange token sent => ?_) run
    simp [errandOf, isRequest, below, sent, requestWith]
  rcases course with ⟨exchanges, logged, course⟩
  rw [deliver_of_runs called logged]
  exact ⟨course, rfl⟩

theorem deliver_of_refused {fault : ArgumentFault} (refused : action.fault? = some fault) :
    agent.deliver answer session action = ⟨.error (.invalidArgument fault), []⟩ := by
  apply deliver_of_runs _ (List.append_nil _).symm
  rw [client, call_ofTransport]
  exact (runs_convey_of_refused refused).mpr ⟨rfl, rfl⟩

theorem wire_of_mem_requests
    (sent : exchange ∈ agent.requests (agent.deliver answer session action)) :
    wire exchange.request.body = wire action.payload? := by
  cases accepted : action.fault? with
  | some fault =>
      rw [deliver_of_refused accepted] at sent
      cases sent
  | none =>
      rcases ran : runFrom (agent.transport (Http.answering answer) action.operation
        action.payload?) session with ⟨reply, next⟩
      have course := (course_of_deliver accepted ran).1
      rw [requests, ← filter_requests_of_course course] at sent
      have requests := (List.mem_filter.mp sent).2
      exact of_decide_eq_true (Bool.and_eq_true_iff.mp requests).2

/-- The last request is the one that is answered. -/
theorem result_of_content
    (content : (agent.requests (agent.deliver answer session action)).getLast?.bind
      Http.Exchange.content? = some body) :
    (agent.deliver answer session action).result = action.answerOf body := by
  rcases Option.bind_eq_some_iff.mp content with ⟨last, ends, content⟩
  cases accepted : action.fault? with
  | some fault =>
      rw [deliver_of_refused accepted] at ends
      cases ends
  | none =>
      rcases ran : runFrom (agent.transport (Http.answering answer) action.operation
        action.payload?) session with ⟨reply, next⟩
      rcases course_of_deliver accepted ran with ⟨course, answered⟩
      rw [requests, ← filter_requests_of_course course] at ends
      have replied := course.answers_of_accepted ends
        (Http.Exchange.isUnauthorized_of_content? content)
      rw [answered, replied]
      have settled : agent.answerOf action.operation last = .ok body :=
        answerOf_eq_ok_iff.mpr content
      change agent.answerOf action.operation last >>= _ = _
      rw [settled]
      rfl

/-! ## Agents that serve everybody -/

/-- The addresses can be used, the service gives tokens, and the agent answers with the body. -/
structure Serves (agent : HttpAgent) (operation : Operation) (body : Bytes)
    (answer : List Http.Exchange → Http.Request → Http.Outcome) : Prop where
  addressed : (agent.baseUrl.below? operation.path).isSome
  issues : agent.mayRenew → ∃ url, agent.authentication.address? = some url ∧
    ∀ log request, request.url = url →
      ∃ reply token, answer log request = .ok reply ∧ agent.tokenOfReply reply = .ok token
  answers : ∀ log request, agent.baseUrl.below? operation.path = some request.url →
    ∃ status, answer log request = .ok ⟨status, .ok body⟩ ∧ 200 ≤ status ∧ status < 300

theorem runs_exchange (answer : List Http.Exchange → Http.Request → Http.Outcome)
    (agent : HttpAgent) (operation : Operation) (request : Http.Request)
    (session : Session (List Http.Exchange)) :
    Runs (agent.exchange (Http.answering answer) operation request) session
      ((answer session.network request).mapError (agent.interrupted operation))
      ⟨session.token, session.network ++ [⟨request, answer session.network request⟩]⟩ :=
  (Runs.get_iff.mpr ⟨rfl, rfl⟩).bind
    ((Runs.set_iff.mpr ⟨rfl, rfl⟩).bind (Runs.liftExcept_iff.mpr ⟨rfl, rfl⟩))

theorem join_of_below? {base url : Url} {path : List String} (below : base.below? path = some url) :
    join base path = .ok url := by
  rw [join, below]

theorem runs_requestToken_of_serves (serves : agent.Serves operation body answer) {url : Url}
    {username password : String} (service : agent.authentication = .service url username password)
    (session : Session (List Http.Exchange)) :
    ∃ token next, Runs (agent.requestToken (Http.answering answer) url username password) session
      (.ok token) next := by
  rcases serves.issues (by rw [mayRenew, service]) with ⟨endpoint, addressed, issues⟩
  rw [service] at addressed
  unfold requestToken
  rw [join_of_below? addressed]
  let request : Http.Request := ⟨.post, endpoint, Http.anything, userAgent, none, none,
    some (.object [("username", .string username), ("password", .string password)])⟩
  rcases issues session.network request rfl with ⟨reply, token, replied, given⟩
  have sent := runs_exchange answer agent .authenticate request session
  rw [replied] at sent
  have joined :
      Runs (liftExcept (.ok endpoint : Except Error Url)) session (.ok endpoint) session :=
    Runs.liftExcept_iff.mpr ⟨rfl, rfl⟩
  exact ⟨token, _, joined.bind (sent.bind (Runs.liftExcept_iff.mpr ⟨given.symm, rfl⟩))⟩

theorem runs_bearerToken_of_serves (serves : agent.Serves operation body answer)
    (session : Session (List Http.Exchange)) :
    ∃ token next, Runs (agent.bearerToken (Http.answering answer)) session (.ok token) next := by
  unfold bearerToken
  cases authentication : agent.authentication with
  | none => exact ⟨none, session, Runs.pure_iff.mpr ⟨rfl, rfl⟩⟩
  | bearer token => exact ⟨some token, session, Runs.pure_iff.mpr ⟨rfl, rfl⟩⟩
  | service url username password =>
      have found : Runs get session (.ok session : Except Error _) session :=
        Runs.get_iff.mpr ⟨rfl, rfl⟩
      cases held : session.token with
      | some token =>
          refine ⟨some token, session, found.bind ?_⟩
          rw [held]
          exact Runs.pure_iff.mpr ⟨rfl, rfl⟩
      | none =>
          rcases runs_requestToken_of_serves serves authentication session with ⟨token, next, given⟩
          refine ⟨some token, { next with token := some token }, found.bind ?_⟩
          rw [held]
          exact given.bind
            ((Runs.modify_iff.mpr ⟨rfl, rfl⟩).bind (Runs.pure_iff.mpr ⟨rfl, rfl⟩))

theorem runs_attempt_of_serves (serves : agent.Serves operation body answer) {url : Url}
    (below : agent.baseUrl.below? operation.path = some url) (method : Http.Method)
    (accept : String) (payload : Option Json) (session : Session (List Http.Exchange)) :
    ∃ status next, Runs (agent.attempt (Http.answering answer) operation method accept payload url)
      session (.ok ⟨status, .ok body⟩) next ∧ 200 ≤ status ∧ status < 300 := by
  rcases runs_bearerToken_of_serves serves session with ⟨token, middle, given⟩
  rcases serves.answers middle.network (requestWith method accept payload url token) below with
    ⟨status, answered, success⟩
  have sent := runs_exchange answer agent operation
    (requestWith method accept payload url token) middle
  rw [answered] at sent
  exact ⟨status, _, given.bind sent, success⟩

/-- The first attempt succeeds. -/
theorem runs_send_of_serves (serves : agent.Serves operation body answer) (method : Http.Method)
    (accept : String) (payload : Option Json) (session : Session (List Http.Exchange)) :
    ∃ next, Runs (agent.send (Http.answering answer) operation method accept payload) session
      (.ok body) next := by
  rcases Option.isSome_iff_exists.mp serves.addressed with ⟨url, below⟩
  rcases runs_attempt_of_serves serves below method accept payload session with
    ⟨status, next, attempted, success⟩
  have accepted : ¬(status = Http.unauthorized ∧ agent.mayRenew) := by
    intro rejected
    have unsuccessful := rejected.1
    unfold Http.unauthorized at unsuccessful
    omega
  have settled : agent.bodyOfReply operation ⟨status, .ok body⟩ = .ok body := by
    change (if Http.Reply.isSuccess ⟨status, .ok body⟩ then Except.ok body else _) = _
    rw [if_pos (by simp [Http.Reply.isSuccess, success])]
  refine ⟨next, ?_⟩
  unfold send
  rw [join_of_below? below]
  refine (Runs.liftExcept_iff.mpr ⟨rfl, rfl⟩).bind (attempted.bind ?_)
  rw [if_neg accepted, settled]
  exact Runs.pure_iff.mpr ⟨rfl, rfl⟩

theorem content_of_serves (accepted : action.fault? = none)
    (serves : agent.Serves action.operation body answer) :
    (agent.requests (agent.deliver answer session action)).getLast?.bind
      Http.Exchange.content? = some body := by
  rcases runs_send_of_serves serves (if action.payload?.isSome then .post else .get)
    (HttpAgent.accepted action.operation) action.payload? session with ⟨next, sent⟩
  have course := (course_of_deliver accepted sent).1
  rcases course.ends_of_succeeded with ⟨last, ends, answered⟩
  rw [filter_requests_of_course course] at ends
  rw [requests, ends]
  exact answerOf_eq_ok_iff.mp answered

end HttpAgent

end Agent

end HostAttestation
