import HostAttestation.Proofs.Agent.Action

/-! # Replies by what they say

A reply that is malformed or reports an error fails its operation with an error that names the
operation. Every other reply is an answer. -/

namespace HostAttestation

namespace Agent

namespace Action

variable {action : Action}

/-- The reply has not the form of an answer to the operation. -/
def Malformed : Action → Bytes → Prop
  | .hostInfo, body => ∃ fault, (Json.parse body).read HostInfo.read = .error fault
  | .quote _ _ _, body => ∃ fault, (Json.parse body).read QuoteResponse.read = .error fault
  | .aik, body => body = []
  | .bindingKeyCertificate, body => body = []
  | .deployAssetTag _ _, _ => False
  | .deployManifest _, _ => False
  | .measure _, body => ∃ fault, (Json.parse body).read Measurement.read = .error fault

/-- The reply reports an error of the agent. -/
inductive Reports : Action → Bytes → Int → String → Prop
  | quote {nonce : String} {pcrs : List PcrIndex} {banks : List PcrBank} {body : Bytes}
      {response : QuoteResponse} (read : (Json.parse body).read QuoteResponse.read = .ok response)
      (failed : response.errorCode ≠ 0) :
      Reports (.quote nonce pcrs banks) body response.errorCode response.errorMessage

/-- What comes of a reply, which is exactly one of three things. -/
inductive Verdict (action : Action) (body : Bytes) : Except Error action.Answer → Prop
  | malformed {causes : List Cause} (malformed : action.Malformed body) :
      Verdict action body (.error (.decode action.operation causes))
  | reported {code : Int} {message : String} (wellFormed : ¬action.Malformed body)
      (reports : action.Reports body code message) :
      Verdict action body (.error (.reported action.operation code message))
  | answered {answer : action.Answer} (wellFormed : ¬action.Malformed body)
      (silent : ∀ code message, ¬action.Reports body code message) :
      Verdict action body (.ok answer)

section

variable {body : Bytes} (silent : ∀ code message, ¬action.Reports body code message)

include silent

theorem verdict_of_decodeReply {read : Decoding action.Answer}
    (malformed : action.Malformed body ↔ ∃ fault, (Json.parse body).read read = .error fault) :
    action.Verdict body (decodeReply action.operation read body) := by
  unfold decodeReply
  cases readBody : (Json.parse body).read read with
  | error fault => exact .malformed (malformed.mpr ⟨fault, readBody⟩)
  | ok value =>
      refine .answered (fun failed => ?_) silent
      rcases malformed.mp failed with ⟨fault, failed⟩
      rw [readBody] at failed
      cases failed

theorem verdict_of_certificate {answer : action.Answer}
    (malformed : action.Malformed body ↔ body = []) :
    action.Verdict body
      (if body = [] then .error (.decode action.operation [.stated "empty certificate"])
        else .ok answer) := by
  by_cases empty : body = []
  · rw [if_pos empty]
    exact .malformed (malformed.mpr empty)
  · rw [if_neg empty]
    exact .answered (fun failed => empty (malformed.mp failed)) silent

end

theorem verdict_quote (nonce : String) (pcrs : List PcrIndex) (banks : List PcrBank)
    (body : Bytes) :
    (Action.quote nonce pcrs banks).Verdict body
      ((Action.quote nonce pcrs banks).answerOf body) := by
  cases read : (Json.parse body).read QuoteResponse.read with
  | error fault =>
      have answered : (Action.quote nonce pcrs banks).answerOf body =
          .error (.malformed .getTpmQuote fault) := by
        change decodeReply .getTpmQuote QuoteResponse.read body >>= _ = _
        rw [decodeReply, read]
        rfl
      rw [answered]
      exact .malformed ⟨fault, read⟩
  | ok response =>
      have answered : (Action.quote nonce pcrs banks).answerOf body = response.accepted := by
        change decodeReply .getTpmQuote QuoteResponse.read body >>= _ = _
        rw [decodeReply, read]
        rfl
      have wellFormed : ¬(Action.quote nonce pcrs banks).Malformed body := by
        intro malformed
        rcases malformed with ⟨fault, failed⟩
        rw [read] at failed
        cases failed
      rw [answered, QuoteResponse.accepted]
      by_cases fine : response.errorCode = 0
      · rw [if_pos fine]
        refine .answered wellFormed fun code message reports => ?_
        cases reports with
        | quote other failed =>
            rw [read] at other
            cases other
            exact failed fine
      · rw [if_neg fine]
        exact .reported wellFormed (.quote read fine)

theorem verdict_answerOf (action : Action) (body : Bytes) :
    action.Verdict body (action.answerOf body) := by
  cases action with
  | hostInfo => exact verdict_of_decodeReply (fun _ _ reports => by cases reports) Iff.rfl
  | quote nonce pcrs banks => exact verdict_quote nonce pcrs banks body
  | aik => exact verdict_of_certificate (fun _ _ reports => by cases reports) Iff.rfl
  | bindingKeyCertificate =>
      exact verdict_of_certificate (fun _ _ reports => by cases reports) Iff.rfl
  | deployAssetTag hardwareUuid tag => exact .answered id nofun
  | deployManifest manifest => exact .answered id nofun
  | measure manifest => exact verdict_of_decodeReply (fun _ _ reports => by cases reports) Iff.rfl

end Action

end Agent

end HostAttestation
