import HostAttestation.Agent.Bus
import HostAttestation.Proofs.Agent.Delivery
import HostAttestation.Proofs.Agent.Verdict

/-! # Clients of one agent

Whether an agent is reached by requests or on the bus, the same arguments are sent in the same
bytes, and the same reply gives the same result. Arguments that one client refuses are refused by
all of them, also by one that answers from memory, before anything is sent or kept. -/

namespace HostAttestation

namespace Agent

variable {action : Action} {fault : ArgumentFault}

namespace BusAgent

variable {agent : BusAgent} {hasCredentials : String → Bool}
  {answer : List Bus.Exchange → Bus.Request → Bus.Outcome} {log : List Bus.Exchange}

/-- Calls the agent over a bus that answers in any way. -/
def deliver (agent : BusAgent) (hasCredentials : String → Bool)
    (answer : List Bus.Exchange → Bus.Request → Bus.Outcome) (log : List Bus.Exchange)
    (action : Action) : Delivery action Bus.Exchange :=
  let (result, next) :=
    runFrom (action.call (agent.client (Bus.answering hasCredentials answer))) log
  ⟨result, next.drop log.length⟩

/-- What is published for an operation. -/
def message (agent : BusAgent) (action : Action) : Bus.Request :=
  ⟨agent.servers, agent.options.certificateFiles, agent.subject action.operation, action.payload?⟩

def replyOf (agent : BusAgent) (operation : Operation) : Bus.Outcome → Except Error Bytes
  | .reply body => .ok body
  | .failed => .error (.transport operation [.unstated])
  | .timedOut => .error (.timeout operation agent.options.timeout [.unstated])

theorem deliver_of_runs {result : Except Error action.Answer} {exchanges : List Bus.Exchange}
    (run : Runs (action.call (agent.client (Bus.answering hasCredentials answer))) log result
      (log ++ exchanges)) :
    agent.deliver hasCredentials answer log action = ⟨result, exchanges⟩ := by
  rw [deliver, run]
  dsimp only
  rw [List.drop_left]

theorem deliver_of_refused (refused : action.fault? = some fault) :
    agent.deliver hasCredentials answer log action = ⟨.error (.invalidArgument fault), []⟩ := by
  apply deliver_of_runs
  rw [client, call_ofTransport]
  exact (runs_convey_of_refused refused).mpr ⟨rfl, List.append_nil log⟩

theorem runs_request_of_usable (usable : hasCredentials agent.options.credentialsFile) :
    Runs (agent.request (Bus.answering hasCredentials answer) action.operation action.payload?) log
      (agent.replyOf action.operation (answer log (agent.message action)))
      (log ++ [⟨agent.message action, answer log (agent.message action)⟩]) := by
  have published : Runs (liftM ((Bus.answering hasCredentials answer).exchange
        (agent.message action))) log (.ok (answer log (agent.message action)) : Except Error _)
      (log ++ [⟨agent.message action, answer log (agent.message action)⟩]) := rfl
  unfold request
  simp only [Bus.answering, usable, Bool.not_true, Bool.false_eq_true, if_false]
  apply published.bind
  cases answer log (agent.message action) with
  | reply body => exact Runs.pure_iff.mpr ⟨rfl, rfl⟩
  | failed => exact Runs.throw_iff.mpr ⟨rfl, rfl⟩
  | timedOut => exact Runs.throw_iff.mpr ⟨rfl, rfl⟩

theorem runs_request_of_unusable (unusable : hasCredentials agent.options.credentialsFile = false) :
    Runs (agent.request (Bus.answering hasCredentials answer) action.operation action.payload?) log
      (.error (.configuration (.credentialsFile agent.options.credentialsFile))) log := by
  unfold request
  simp only [Bus.answering, unusable, Bool.not_false, if_true]
  rfl

/-- A message is published unless there are no credentials for the bus. -/
theorem deliver_of_accepted (accepted : action.fault? = none) :
    agent.deliver hasCredentials answer log action =
      if hasCredentials agent.options.credentialsFile then
        ⟨agent.replyOf action.operation (answer log (agent.message action)) >>= action.answerOf,
          [⟨agent.message action, answer log (agent.message action)⟩]⟩
      else ⟨.error (.configuration (.credentialsFile agent.options.credentialsFile)), []⟩ := by
  cases usable : hasCredentials agent.options.credentialsFile with
  | true =>
      apply deliver_of_runs
      rw [client, call_ofTransport]
      exact (runs_convey_of_accepted accepted).mpr ⟨_, runs_request_of_usable usable, rfl⟩
  | false =>
      apply deliver_of_runs
      rw [client, call_ofTransport, List.append_nil]
      exact (runs_convey_of_accepted accepted).mpr ⟨_, runs_request_of_unusable usable, rfl⟩

theorem request_of_mem {exchange : Bus.Exchange}
    (sent : exchange ∈ (agent.deliver hasCredentials answer log action).exchanges) :
    exchange.request = agent.message action := by
  cases accepted : action.fault? with
  | some fault =>
      rw [deliver_of_refused accepted] at sent
      cases sent
  | none =>
      rw [deliver_of_accepted accepted] at sent
      split at sent
      next usable => rw [List.mem_singleton.mp sent]
      next unusable => cases sent

theorem result_of_reply {body : Bytes}
    (replied : (agent.deliver hasCredentials answer log action).exchanges.getLast?.map
      Bus.Exchange.outcome = some (.reply body)) :
    (agent.deliver hasCredentials answer log action).result = action.answerOf body := by
  cases accepted : action.fault? with
  | some fault =>
      rw [deliver_of_refused accepted] at replied
      cases replied
  | none =>
      rw [deliver_of_accepted accepted] at replied ⊢
      split at replied
      next usable =>
        have outcome : answer log (agent.message action) = .reply body := Option.some.inj replied
        rw [if_pos usable, outcome]
        rfl
      next unusable => cases replied

end BusAgent

/-! ## Clients that agree -/

namespace Canned

theorem call_of_refused (agent : Canned) (refused : action.fault? = some fault) :
    action.call agent.client = throw (.invalidArgument fault) := by
  cases action with
  | hostInfo => cases refused
  | quote nonce pcrs banks =>
      simp only [Action.call, client, ofNonce_of_refused refused]
      rfl
  | aik => cases refused
  | bindingKeyCertificate => cases refused
  | deployAssetTag hardwareUuid tag =>
      simp only [Action.call, client, ofTexts_of_refused refused]
      rfl
  | deployManifest manifest =>
      simp only [Action.call, client, check_of_refused refused]
      rfl
  | measure manifest =>
      simp only [Action.call, client, check_of_refused refused]
      rfl

end Canned

/-- What an agent that is reached by requests, one on the bus and one that answers from memory have
in common when they are called in the same way. -/
structure Concur (direct : HttpAgent) (onBus : BusAgent) (canned : Canned) (action : Action) :
    Prop where
  /-- Refused arguments are refused by everybody, whatever the networks are like, and nothing is
  sent or kept. -/
  refuses : ∀ fault, action.fault? = some fault →
    (∀ (ν : Type) (network : Http.Network ν) session,
      runFrom (action.call (direct.client network)) session =
        (.error (.invalidArgument fault), session)) ∧
    (∀ (ν : Type) (bus : Bus.Network ν) state,
      runFrom (action.call (onBus.client bus)) state =
        (.error (.invalidArgument fault), state)) ∧
    ∀ log, runFrom (action.call canned.client) log = (.error (.invalidArgument fault), log)
  /-- Other arguments are sent, if the agent is within reach. -/
  sends : action.fault? = none → ∀ body,
    (∀ answer session, direct.Serves action.operation body answer →
      (direct.requests (direct.deliver answer session action)).getLast?.bind
        Http.Exchange.content? = some body) ∧
    ∀ hasCredentials answer log, hasCredentials onBus.options.credentialsFile →
      (∀ log request, answer log request = .reply body) →
        (onBus.deliver hasCredentials answer log action).exchanges.getLast?.map
          Bus.Exchange.outcome = some (.reply body)
  /-- The same bytes are sent on both ways. -/
  carries :
    (∀ answer session, ∀ exchange ∈ direct.requests (direct.deliver answer session action),
      wire exchange.request.body = wire action.payload?) ∧
    ∀ hasCredentials answer log,
      ∀ exchange ∈ (onBus.deliver hasCredentials answer log action).exchanges,
        wire exchange.request.payload = wire action.payload?
  /-- Nothing is sent along when something is only read. -/
  reads : action.IsRead → wire action.payload? = []
  /-- The same reply on both ways gives the same result. -/
  answers : ∀ answer session hasCredentials busAnswer log body,
    (direct.requests (direct.deliver answer session action)).getLast?.bind
      Http.Exchange.content? = some body →
    (onBus.deliver hasCredentials busAnswer log action).exchanges.getLast?.map
      Bus.Exchange.outcome = some (.reply body) →
      (direct.deliver answer session action).result = action.answerOf body ∧
        (onBus.deliver hasCredentials busAnswer log action).result = action.answerOf body
  verdicts : ∀ body, action.Verdict body (action.answerOf body)

/-- Whatever the agents and the arguments are. -/
theorem clients_concur (direct : HttpAgent) (onBus : BusAgent) (canned : Canned) (action : Action) :
    Concur direct onBus canned action where
  refuses := by
    intro fault refused
    refine ⟨fun ν network session => ?_, fun ν bus state => ?_, fun log => ?_⟩
    · rw [HttpAgent.client, call_ofTransport]
      exact (runs_convey_of_refused refused).mpr ⟨rfl, rfl⟩
    · rw [BusAgent.client, call_ofTransport]
      exact (runs_convey_of_refused refused).mpr ⟨rfl, rfl⟩
    · rw [canned.call_of_refused refused]
      exact Runs.throw_iff.mpr ⟨rfl, rfl⟩
  sends := by
    intro accepted body
    refine ⟨fun answer session serves => HttpAgent.content_of_serves accepted serves,
      fun hasCredentials answer log usable replies => ?_⟩
    rw [BusAgent.deliver_of_accepted accepted, if_pos usable, replies]
    rfl
  carries := by
    refine ⟨fun answer session exchange requested => HttpAgent.wire_of_mem_requests requested,
      fun hasCredentials answer log exchange published => ?_⟩
    rw [BusAgent.request_of_mem published]
    rfl
  reads := by
    intro reads
    cases action with
    | hostInfo => rfl
    | aik => rfl
    | bindingKeyCertificate => rfl
    | _ => cases reads
  answers := by
    intro answer session hasCredentials busAnswer log body content replied
    exact ⟨HttpAgent.result_of_content content, BusAgent.result_of_reply replied⟩
  verdicts := action.verdict_answerOf

/-! ## A certificate -/

def servedDirectly : HttpAgent :=
  ⟨⟨"https", some ⟨"", "", .name "agent", none⟩, false, .segments ["v2"], none, none⟩, .none,
    .ofSeconds 30⟩

def servedOnBus : BusAgent :=
  ⟨"host", {}, [⟨"nats", some ⟨"", "", .name "bus", none⟩, false, .segments [], none, none⟩]⟩

theorem clients_concur_certificate :
    (servedDirectly.deliver (fun _ _ => .ok ⟨201, .ok [0x30]⟩) ⟨none, []⟩ .aik).result =
        (servedOnBus.deliver (fun _ => true) (fun _ _ => .reply [0x30]) [] .aik).result ∧
      Action.answerOf .aik [0x30] = .ok [0x30] := by
  rcases (clients_concur servedDirectly servedOnBus {} .aik).answers
    (fun _ _ => .ok ⟨201, .ok [0x30]⟩) ⟨none, []⟩ (fun _ => true) (fun _ _ => .reply [0x30]) []
    [0x30] (by decide +kernel) rfl with ⟨direct, onBus⟩
  exact ⟨direct.trans onBus.symm, rfl⟩

end Agent

end HostAttestation
