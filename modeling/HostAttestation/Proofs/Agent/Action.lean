import HostAttestation.Agent.Client
import HostAttestation.Proofs.Run

/-! # What a client is asked to do

Whichever way a distant agent is reached, an operation asks it once or, if the arguments are
refused, not at all. What is sent, and what is made of the reply, does not depend on the way. -/

namespace HostAttestation

namespace Agent

/-- An operation with its arguments. -/
inductive Action
  | hostInfo
  | quote (nonce : String) (pcrs : List PcrIndex) (banks : List PcrBank)
  | aik
  | bindingKeyCertificate
  | deployAssetTag (hardwareUuid tag : String)
  | deployManifest (manifest : SoftwareManifest)
  | measure (manifest : SoftwareManifest)

namespace Action

def operation : Action → Operation
  | .hostInfo => .getHostInfo
  | .quote _ _ _ => .getTpmQuote
  | .aik => .getAik
  | .bindingKeyCertificate => .getBindingKeyCertificate
  | .deployAssetTag _ _ => .deployAssetTag
  | .deployManifest _ => .deploySoftwareManifest
  | .measure _ => .getMeasurementFromManifest

theorem operation_ne_authenticate (action : Action) : action.operation ≠ .authenticate := by
  cases action <;> simp [operation]

variable {σ : Type}

def forget {α : Type} (call : Call σ α) : Call σ Unit := do
  let _ ← call
  pure ()

/-- Calls the client and forgets the value that it answers with. -/
def perform (client : Client σ) : Action → Call σ Unit
  | .hostInfo => forget client.hostInfo
  | .quote nonce pcrs banks => forget (client.quote nonce pcrs banks)
  | .aik => forget client.aik
  | .bindingKeyCertificate => forget client.bindingKeyCertificate
  | .deployAssetTag hardwareUuid tag => client.deployAssetTag hardwareUuid tag
  | .deployManifest manifest => client.deployManifest manifest
  | .measure manifest => forget (client.measure manifest)

/-! ## Arguments and answers -/

/-- What an operation answers with. -/
def Answer : Action → Type
  | .hostInfo => HostInfo
  | .quote _ _ _ => QuoteResponse
  | .aik => Bytes
  | .bindingKeyCertificate => Bytes
  | .deployAssetTag _ _ => Unit
  | .deployManifest _ => Unit
  | .measure _ => Measurement

def call (client : Client σ) : (action : Action) → Call σ action.Answer
  | .hostInfo => client.hostInfo
  | .quote nonce pcrs banks => client.quote nonce pcrs banks
  | .aik => client.aik
  | .bindingKeyCertificate => client.bindingKeyCertificate
  | .deployAssetTag hardwareUuid tag => client.deployAssetTag hardwareUuid tag
  | .deployManifest manifest => client.deployManifest manifest
  | .measure manifest => client.measure manifest

def manifestFault? (manifest : SoftwareManifest) : Option ArgumentFault :=
  if Text.trim manifest.label = "" then some (.manifest .blankLabel)
  else if Uuid.parse? manifest.uuid = none then some (.manifest (.invalidUuid manifest.uuid))
  else none

/-- What is wrong with the arguments, in the order in which they are looked at. -/
def fault? : Action → Option ArgumentFault
  | .hostInfo => none
  | .quote nonce _ _ => if Base64.decode? nonce = none then some .nonce else none
  | .aik => none
  | .bindingKeyCertificate => none
  | .deployAssetTag hardwareUuid tag =>
      if Uuid.parse? hardwareUuid = none then some (.hardwareUuid hardwareUuid)
      else if Base64.decode? tag = none then some .assetTag
      else none
  | .deployManifest manifest => manifestFault? manifest
  | .measure manifest => manifestFault? manifest

/-- The document that is sent along. -/
def payload? : Action → Option Json
  | .hostInfo => none
  | .quote nonce pcrs banks =>
      (Base64.decode? nonce).map fun bytes => (QuoteRequest.mk bytes pcrs banks).toJson
  | .aik => none
  | .bindingKeyCertificate => none
  | .deployAssetTag hardwareUuid tag =>
      (Uuid.parse? hardwareUuid).bind fun uuid =>
        (Base64.decode? tag).map fun bytes => (TagRequest.mk bytes uuid.text).toJson
  | .deployManifest manifest => some manifest.toJson
  | .measure manifest => some manifest.toJson

/-- What is made of a reply. -/
def answerOf : (action : Action) → Bytes → Except Error action.Answer
  | .hostInfo, body => decodeReply .getHostInfo HostInfo.read body
  | .quote _ _ _, body =>
      decodeReply .getTpmQuote QuoteResponse.read body >>= QuoteResponse.accepted
  | .aik, body => certificateOfReply .getAik body
  | .bindingKeyCertificate, body => certificateOfReply .getBindingKeyCertificate body
  | .deployAssetTag _ _, _ => .ok ()
  | .deployManifest _, _ => .ok ()
  | .measure _, body => decodeReply .getMeasurementFromManifest Measurement.read body

/-- The operation takes no arguments. -/
def IsRead : Action → Prop
  | .hostInfo => True
  | .aik => True
  | .bindingKeyCertificate => True
  | _ => False

/-- Refuses the arguments, or asks once and makes an answer of the reply. -/
def convey (ask : Transport σ) (action : Action) : Call σ action.Answer :=
  match action.fault? with
  | some fault => throw (.invalidArgument fault)
  | none => do
      let body ← ask action.operation action.payload?
      liftExcept (action.answerOf body)

end Action

/-! ## Refused arguments -/

variable {σ α β : Type} {ask : Transport σ} {operation : Operation} {action : Action}
  {fault : ArgumentFault}

theorem ofNonce_of_refused {nonce : String} {pcrs : List PcrIndex} {banks : List PcrBank}
    (refused : (Action.quote nonce pcrs banks).fault? = some fault) :
    QuoteRequest.ofNonce nonce pcrs banks = .error (.invalidArgument fault) := by
  simp only [Action.fault?] at refused
  unfold QuoteRequest.ofNonce
  cases decoded : Base64.decode? nonce with
  | none =>
      rw [if_pos decoded] at refused
      cases refused
      rfl
  | some bytes => simp [decoded] at refused

theorem ofTexts_of_refused {hardwareUuid tag : String}
    (refused : (Action.deployAssetTag hardwareUuid tag).fault? = some fault) :
    TagRequest.ofTexts hardwareUuid tag = .error (.invalidArgument fault) := by
  simp only [Action.fault?] at refused
  unfold TagRequest.ofTexts
  cases parsed : Uuid.parse? hardwareUuid with
  | none =>
      rw [if_pos parsed] at refused
      cases refused
      rfl
  | some uuid =>
      cases decoded : Base64.decode? tag with
      | none =>
          simp only [parsed, decoded] at refused
          cases refused
          rfl
      | some bytes => simp [parsed, decoded] at refused

theorem check_eq (manifest : SoftwareManifest) :
    manifest.check =
      match Action.manifestFault? manifest with
      | none => .ok manifest
      | some fault => .error (.invalidArgument fault) := by
  unfold SoftwareManifest.check SoftwareManifest.validate Action.manifestFault? Text.trim
  by_cases blank : Text.trimChars manifest.label.toList = []
  · simp [blank]
  · cases Uuid.parse? manifest.uuid <;> simp [blank]

theorem check_of_refused {manifest : SoftwareManifest}
    (refused : Action.manifestFault? manifest = some fault) :
    manifest.check = .error (.invalidArgument fault) := by
  rw [check_eq, refused]

/-! ## Every operation is conveyed -/

theorem liftExcept_bind (step : Except Error α) (next : α → Except Error β) :
    (liftExcept (step >>= next) : Call σ β) =
      liftExcept step >>= fun value => liftExcept (next value) := by
  cases step with
  | ok value => rfl
  | error error => rfl

theorem call_ofTransport (ask : Transport σ) (baseUrl : Option Url) (action : Action) :
    action.call (.ofTransport ask baseUrl) = action.convey ask := by
  cases action with
  | hostInfo => rfl
  | quote nonce pcrs banks =>
      simp only [Action.call, Client.ofTransport, QuoteRequest.ofNonce, Action.convey,
        Action.fault?, Action.payload?, Action.operation, Action.answerOf]
      cases Base64.decode? nonce with
      | none => rfl
      | some bytes =>
          change ask .getTpmQuote (some (QuoteRequest.mk bytes pcrs banks).toJson) >>= _ =
            ask .getTpmQuote (some (QuoteRequest.mk bytes pcrs banks).toJson) >>= _
          apply bind_congr
          intro body
          exact (liftExcept_bind _ QuoteResponse.accepted).symm
  | aik => rfl
  | bindingKeyCertificate => rfl
  | deployAssetTag hardwareUuid tag =>
      simp only [Action.call, Client.ofTransport, TagRequest.ofTexts, Action.convey,
        Action.fault?, Action.payload?, Action.operation, Action.answerOf]
      cases Uuid.parse? hardwareUuid with
      | none => rfl
      | some uuid =>
          cases Base64.decode? tag with
          | none => rfl
          | some bytes => rfl
  | deployManifest manifest =>
      simp only [Action.call, Client.ofTransport, check_eq, Action.convey, Action.fault?,
        Action.payload?, Action.operation, Action.answerOf]
      cases Action.manifestFault? manifest with
      | none => rfl
      | some fault => rfl
  | measure manifest =>
      simp only [Action.call, Client.ofTransport, check_eq, Action.convey, Action.fault?,
        Action.payload?, Action.operation, Action.answerOf]
      cases Action.manifestFault? manifest with
      | none => rfl
      | some fault => rfl

theorem runs_convey_of_refused (refused : action.fault? = some fault)
    {before after : σ} {result : Except Error action.Answer} :
    Runs (action.convey ask) before result after ↔
      result = .error (.invalidArgument fault) ∧ after = before := by
  rw [Action.convey, refused]
  exact Runs.throw_iff

theorem runs_convey_of_accepted (accepted : action.fault? = none) {before after : σ}
    {result : Except Error action.Answer} :
    Runs (action.convey ask) before result after ↔
      ∃ reply, Runs (ask action.operation action.payload?) before reply after ∧
        result = reply >>= action.answerOf := by
  rw [Action.convey, accepted]
  exact Runs.bind_liftExcept_iff

/-! ## Calls that ask once -/

/-- The call fails at once, or asks for the operation once and fails if that does. -/
def Conveys (ask : Transport σ) (operation : Operation) (call : Call σ α) : Prop :=
  ∀ before result after, Runs call before result after →
    (∃ error, result = .error error ∧ after = before) ∨
      ∃ payload answer, Runs (ask operation payload) before answer after ∧
        ∀ error, answer = .error error → result = .error error

theorem conveys_convey (ask : Transport σ) (action : Action) :
    Conveys ask action.operation (action.convey ask) := by
  intro before result after run
  cases accepted : action.fault? with
  | some fault =>
      rcases (runs_convey_of_refused accepted).mp run with ⟨refused, still⟩
      exact .inl ⟨_, refused, still⟩
  | none =>
      rcases (runs_convey_of_accepted accepted).mp run with ⟨reply, asked, answered⟩
      refine .inr ⟨_, reply, asked, fun error failed => ?_⟩
      rw [answered, failed]
      rfl

theorem Conveys.forget {call : Call σ α} (conveys : Conveys ask operation call) :
    Conveys ask operation (Action.forget call) := by
  intro before result after run
  rcases Runs.bind_iff.mp run with ⟨error, failed, rfl⟩ | ⟨value, middle, succeeded, rest⟩
  · rcases conveys before _ after failed with ⟨other, same, still⟩ | ⟨payload, answer, asked, fails⟩
    · exact .inl ⟨error, rfl, still⟩
    · refine .inr ⟨payload, answer, asked, fun other same => ?_⟩
      cases fails other same
      rfl
  · rcases Runs.pure_iff.mp rest with ⟨rfl, rfl⟩
    rcases conveys before _ after succeeded with ⟨other, same, _⟩ | ⟨payload, answer, asked, fails⟩
    · cases same
    · refine .inr ⟨payload, answer, asked, fun other same => ?_⟩
      cases fails other same

theorem perform_eq_forget_call (client : Client σ) (action : Action) :
    action.perform client = Action.forget (action.call client) := by
  cases action with
  | deployAssetTag hardwareUuid tag => exact bind_pure_unit.symm
  | deployManifest manifest => exact bind_pure_unit.symm
  | _ => rfl

theorem conveys_perform (ask : Transport σ) (baseUrl : Option Url) (action : Action) :
    Conveys ask action.operation (action.perform (.ofTransport ask baseUrl)) := by
  rw [perform_eq_forget_call, call_ofTransport]
  exact (conveys_convey ask action).forget

end Agent

end HostAttestation
