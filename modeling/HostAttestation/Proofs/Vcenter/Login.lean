import HostAttestation.Proofs.Net.Retry
import HostAttestation.Vcenter.Client

/-! # The requests of one fetch

A fetch asks a vCenter for one thing, once, or twice if its session is rejected and another one is
opened. Before each request the client logs in if it has no session. -/

namespace HostAttestation

namespace Vcenter

open Connector (Error Operation)

namespace Client

variable {client : Client} {operation : Operation} {url : Url} {exchange : Http.Exchange}
  {α : Type} {read : Decoding α}

/-- What a body holds, if it is a document of the form. -/
def document? (read : Decoding α) (body : Bytes) : Option α :=
  ((Json.parse body).read read).toOption

theorem document?_eq_some_iff (body : Bytes) (value : α) :
    document? read body = some value ↔ decodeReply operation read body = .ok value := by
  rw [document?, decodeReply, Outcome.mapError_eq_ok_iff]
  cases (Json.parse body).read read with
  | error fault => simp [Except.toOption]
  | ok other => simp [Except.toOption]

/-! ## Requests by their purpose -/

/-- The exchange opens a session. -/
def isLogin (client : Client) (exchange : Http.Exchange) : Bool :=
  exchange.request.method = .post ∧
    (client.endpoint "api/session").toOption = some exchange.request.url

def isFetch (exchange : Http.Exchange) : Bool :=
  exchange.request.method = .get

/-- The exchange asks for what is at an address. -/
def isFetchOf (url : Url) (exchange : Http.Exchange) : Bool :=
  isFetch exchange ∧ exchange.request.url = url

/-- The session that an exchange has opened. -/
def opened? (client : Client) (exchange : Http.Exchange) : Option String :=
  if client.isLogin exchange then exchange.content?.bind (document? Json.Reader.text) else none

theorem isLogin_of_opened? {id : String} (opened : client.opened? exchange = some id) :
    client.isLogin exchange := by
  unfold opened? at opened
  split at opened
  next opens => exact opens
  next => cases opened

theorem not_isLogin_of_isFetch (fetches : isFetch exchange) : client.isLogin exchange = false := by
  have get := of_decide_eq_true fetches
  simp [isLogin, get]

theorem isFetch_of_isFetchOf (fetches : isFetchOf url exchange) : isFetch exchange :=
  (of_decide_eq_true fetches).1

/-- Sessions are always asked for. -/
def issuance (client : Client) : Http.Issuance where
  renewable := true
  fixed := none
  asks := client.isLogin
  given? := client.opened?
  presents id request := request.session = id
  asks_of_given? := isLogin_of_opened?
  renewable_of_asks _ := rfl

/-- What a fetch makes of the answer to its last request. -/
def answerOf (operation : Operation) (read : Decoding α) (exchange : Http.Exchange) :
    Except Error α := do
  let reply ← exchange.outcome.mapError (interrupted operation)
  valueOfReply operation read reply

def errand (client : Client) (operation : Operation) (read : Decoding α) (url : Url) :
    Http.Errand client.issuance Error α where
  requests := isFetchOf url
  answer := answerOf operation read
  not_asks_of_requests fetches := not_isLogin_of_isFetch (isFetch_of_isFetchOf fetches)

theorem opened?_eq_some_iff (opens : client.isLogin exchange) (id : String) :
    client.opened? exchange = some id ↔
      exchange.outcome.mapError (interrupted operation) >>= idOfReply operation = .ok id := by
  rw [opened?, if_pos opens, Option.bind_eq_some_iff, Outcome.bind_eq_ok_iff]
  simp only [Http.Exchange.content?_eq_some_iff, Outcome.mapError_eq_ok_iff]
  constructor
  · intro opened
    rcases opened with ⟨body, ⟨reply, replied, read, success⟩, decoded⟩
    refine ⟨reply, replied, ?_⟩
    rw [idOfReply, read]
    change (if reply.isSuccess then decodeReply operation _ body else _) = _
    rw [if_pos success]
    exact (document?_eq_some_iff body id).mp decoded
  · intro opened
    rcases opened with ⟨reply, replied, settled⟩
    rcases Outcome.bind_eq_ok_iff.mp settled with ⟨body, read, rest⟩
    split at rest
    next success =>
      exact ⟨body, ⟨reply, replied, Outcome.mapError_eq_ok_iff.mp read, success⟩,
        (document?_eq_some_iff body id).mpr rest⟩
    next => cases rest

/-- An answer is the document in the body of a success. -/
theorem content?_of_answerOf_eq_ok {value : α}
    (answered : answerOf operation read exchange = .ok value) :
    ∃ body, exchange.content? = some body ∧ document? read body = some value := by
  rcases Outcome.bind_eq_ok_iff.mp answered with ⟨reply, replied, settled⟩
  rcases Outcome.bind_eq_ok_iff.mp settled with ⟨body, readBody, rest⟩
  split at rest
  next success =>
    refine ⟨body, ?_, (document?_eq_some_iff body value).mpr rest⟩
    exact (Http.Exchange.content?_eq_some_iff exchange body).mpr
      ⟨reply, Outcome.mapError_eq_ok_iff.mp replied, Outcome.mapError_eq_ok_iff.mp readBody,
        success⟩
  next => cases rest

/-! ## Every run is the course of an errand -/

variable {answer : List Http.Exchange → Http.Request → Http.Outcome}
  {before after : Session (List Http.Exchange)}

theorem exchange_of_runs {request : Http.Request} {result : Except Error Http.Reply}
    (run : Runs (Client.exchange (Http.answering answer) operation request) before result after) :
    ∃ exchange : Http.Exchange, exchange.request = request ∧
      result = exchange.outcome.mapError (interrupted operation) ∧
      after = ⟨before.id, before.network ++ [exchange]⟩ := by
  rcases Runs.bind_iff.mp run with ⟨_, failed, _⟩ | ⟨session, _, found, sends⟩
  · cases (Runs.get_iff.mp failed).1
  rcases Runs.get_iff.mp found with ⟨same, still⟩
  rw [Except.ok.inj same, still] at sends
  rcases Runs.bind_iff.mp sends with ⟨_, failed, _⟩ | ⟨_, _, stored, replies⟩
  · cases (Runs.set_iff.mp failed).1
  rcases Runs.set_iff.mp stored with ⟨_, rfl⟩
  rcases Runs.liftExcept_iff.mp replies with ⟨rfl, rfl⟩
  exact ⟨⟨request, answer before.network request⟩, rfl, rfl, rfl⟩

theorem asks_login :
    client.issuance.Asks Session.id Session.network
      (client.login (Http.answering answer) operation) := by
  apply Http.Issuance.Asks.after_liftExcept
  intro endpoint located
  apply Http.Issuance.asks_of_request _ fun exchange opens id => opened?_eq_some_iff opens id
  intro before result after run
  rcases exchange_of_runs run with ⟨exchange, sent, answered, rfl⟩
  refine ⟨exchange, ?_, rfl, rfl, answered⟩
  simp [issuance, isLogin, located, Except.toOption, sent]

theorem authorizes_of_runs {result : Except Error String}
    (run : Runs (client.sessionId (Http.answering answer) operation) before result after) :
    ∃ asked, after.network = before.network ++ asked ∧
      client.issuance.Authorizes before.id asked (result.map some) after.id := by
  rcases Runs.bind_iff.mp run with ⟨_, failed, _⟩ | ⟨session, _, found, rest⟩
  · cases (Runs.get_iff.mp failed).1
  rcases Runs.get_iff.mp found with ⟨same, still⟩
  rw [Except.ok.inj same, still] at rest
  cases held : before.id with
  | some id =>
      rw [held] at rest
      rcases Runs.pure_iff.mp rest with ⟨rfl, rfl⟩
      rw [held]
      exact ⟨[], by simp, .held id rfl⟩
  | none =>
      rw [held] at rest
      rcases Http.Issuance.authorizes_of_stored asks_login rfl held rest (fun _ _ => ⟨rfl, rfl⟩)
        with ⟨asked, logged, ⟨error, rfl, authorized⟩ | ⟨id, rfl, authorized⟩⟩
      · exact ⟨asked, logged, authorized⟩
      · exact ⟨asked, logged, authorized⟩

/-- The request is made in the session that was found or opened. -/
theorem tries_attempt :
    (client.errand operation read url).Tries Session.id Session.network (interrupted operation)
      (client.attempt (Http.answering answer) operation url) := by
  intro before result after run
  rcases Runs.bind_iff.mp run with ⟨error, failed, rfl⟩ | ⟨id, _, given, sends⟩
  · rcases authorizes_of_runs failed with ⟨asked, logged, authorized⟩
    exact ⟨asked, .error error, logged, .unauthorized authorized, rfl⟩
  · rcases authorizes_of_runs given with ⟨asked, logged, authorized⟩
    rcases exchange_of_runs sends with ⟨exchange, sent, answered, rfl⟩
    refine ⟨asked ++ [exchange], .ok exchange, ?_, .made authorized ⟨?_, ?_⟩, answered⟩
    · dsimp only
      rw [logged, List.append_assoc]
    · simp [errand, isFetchOf, isFetch, sent]
    · rw [sent]
      rfl

theorem course_of_runs {result : Except Error α}
    (run : Runs (client.fetch (Http.answering answer) operation read url) before result after) :
    ∃ exchanges, after.network = before.network ++ exchanges ∧
      (client.errand operation read url).Course before.id exchanges result after.id :=
  Http.Errand.course_of_retry tries_attempt (fun _ => rfl) run (fun _ => ⟨rfl, rfl⟩)
    fun _ => (and_iff_left rfl).symm

end Client

end Vcenter

end HostAttestation
