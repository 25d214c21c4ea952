import HostAttestation.Agent.Bus
import HostAttestation.Proofs.Outcome

/-! # Subjects of agents on the bus

A subject is cut at its dots into the tokens of the namespace, the host and the operation. No
token has a dot of its own, and the last two are always the host and the operation, so agents share
a subject only if they share all three. -/

namespace HostAttestation

namespace Bus

/-- What may stand between the dots of a subject. -/
structure Token (text : String) : Prop where
  filled : text ≠ ""
  unbroken : ∀ c ∈ text.toList, ¬Text.isBlank c ∧ c ≠ '.' ∧ c ≠ '*' ∧ c ≠ '>'

theorem isToken_iff (text : String) : isToken text.toList ↔ Token text := by
  have filled : (!text.toList.isEmpty) = true ↔ text ≠ "" := by simp
  have unbroken : (text.toList.all fun c =>
      !Text.isBlank c && c ≠ '.' && c ≠ '*' && c ≠ '>') = true ↔
      ∀ c ∈ text.toList, ¬Text.isBlank c ∧ c ≠ '.' ∧ c ≠ '*' ∧ c ≠ '>' := by
    simp [and_assoc]
  rw [isToken, Bool.and_eq_true, filled, unbroken]
  exact ⟨fun token => ⟨token.1, token.2⟩, fun token => ⟨token.filled, token.unbroken⟩⟩

theorem Token.splitText_eq {text : String} (token : Token text) :
    Text.splitText '.' text = [text] :=
  Text.splitText_of_not_mem fun dotted => (token.unbroken '.' dotted).2.1 rfl

end Bus

namespace Agent

open Bus (Token)

theorem Operation.token_subjectToken (operation : Operation) : Token operation.subjectToken := by
  rw [← Bus.isToken_iff]
  cases operation <;> decide

namespace BusAgent

theorem checkToken_eq_ok_iff (role text : String) :
    checkToken role text = .ok () ↔ Token text := by
  rw [checkToken, ← Bus.isToken_iff]
  split
  next valid => simp [valid]
  next invalid => simp [invalid]

/-- The agent listens where it was told to, and that is a place on the bus. -/
structure Addressed (host : String) (options : BusOptions) (agent : BusAgent) : Prop where
  host_eq : agent.host = host
  options_eq : agent.options = options
  hosted : Token host
  named : ∀ text ∈ Text.splitText '.' options.namespaceName, Token text

theorem addressed_of_ofOptions {host : String} {options : BusOptions} {agent : BusAgent}
    (accepted : ofOptions host options = .ok agent) : Addressed host options agent := by
  rcases Outcome.bind_eq_ok_iff.mp accepted with ⟨_, hosted, accepted⟩
  rcases Outcome.bind_eq_ok_iff.mp accepted with ⟨_, named, accepted⟩
  split at accepted
  · cases accepted
  · rcases Outcome.bind_eq_ok_iff.mp accepted with ⟨servers, _, made⟩
    cases made
    have checked := Outcome.forM_eq_ok_iff.mp named
    exact ⟨rfl, rfl, (checkToken_eq_ok_iff _ _).mp hosted,
      fun text member => (checkToken_eq_ok_iff _ _).mp (checked text member)⟩

namespace Addressed

variable {host : String} {options : BusOptions} {agent : BusAgent}

theorem splitText_subject (addressed : Addressed host options agent) (operation : Operation) :
    Text.splitText '.' (agent.subject operation) =
      Text.splitText '.' options.namespaceName ++ [host, operation.subjectToken] := by
  have dot : "." = String.singleton '.' := rfl
  rw [subject, addressed.host_eq, addressed.options_eq, dot, Text.splitText_append,
    Text.splitText_append, addressed.hosted.splitText_eq,
    operation.token_subjectToken.splitText_eq, List.append_assoc, List.singleton_append]

theorem token_of_mem (addressed : Addressed host options agent) {operation : Operation}
    {text : String} (member : text ∈ Text.splitText '.' (agent.subject operation)) :
    Token text := by
  rw [addressed.splitText_subject, List.mem_append] at member
  rcases member with named | last
  · exact addressed.named text named
  · rcases List.mem_pair.mp last with rfl | rfl
    · exact addressed.hosted
    · exact operation.token_subjectToken

end Addressed

/-- What a subject is made of can be read off it. -/
theorem subject_eq_iff_of_addressed {leftHost rightHost : String}
    {leftOptions rightOptions : BusOptions} {left right : BusAgent}
    (leftAddressed : Addressed leftHost leftOptions left)
    (rightAddressed : Addressed rightHost rightOptions right)
    (leftOperation rightOperation : Operation) :
    left.subject leftOperation = right.subject rightOperation ↔
      leftOptions.namespaceName = rightOptions.namespaceName ∧ leftHost = rightHost ∧
        leftOperation = rightOperation := by
  constructor
  · intro same
    have parts := congrArg (Text.splitText '.') same
    rw [leftAddressed.splitText_subject, rightAddressed.splitText_subject] at parts
    -- both lists end in two tokens, however many the namespaces have
    rcases List.append_inj' parts rfl with ⟨names, ends⟩
    rw [List.cons_eq_cons, List.cons_eq_cons] at ends
    exact ⟨Text.splitText_injective names, ends.1,
      Operation.subjectToken_injective ends.2.1⟩
  · intro same
    rcases same with ⟨names, rfl, rfl⟩
    rw [subject, subject, leftAddressed.host_eq, rightAddressed.host_eq,
      leftAddressed.options_eq, rightAddressed.options_eq, names]

/-- A subject leads to one host and one operation, and to no others. -/
theorem subject_unambiguous {leftHost rightHost : String} {leftOptions rightOptions : BusOptions}
    {left right : BusAgent} (leftAccepted : ofOptions leftHost leftOptions = .ok left)
    (rightAccepted : ofOptions rightHost rightOptions = .ok right)
    (leftOperation rightOperation : Operation) :
    (left.subject leftOperation = right.subject rightOperation ↔
      leftOptions.namespaceName = rightOptions.namespaceName ∧ leftHost = rightHost ∧
        leftOperation = rightOperation) ∧
    Text.splitText '.' (left.subject leftOperation) =
      Text.splitText '.' leftOptions.namespaceName ++
        [leftHost, leftOperation.subjectToken] ∧
    ∀ text ∈ Text.splitText '.' (left.subject leftOperation), Token text := by
  have leftAddressed := addressed_of_ofOptions leftAccepted
  have rightAddressed := addressed_of_ofOptions rightAccepted
  exact ⟨subject_eq_iff_of_addressed leftAddressed rightAddressed leftOperation rightOperation,
    leftAddressed.splitText_subject leftOperation, fun _ => leftAddressed.token_of_mem⟩

/-- A host below a namespace, whose name could be taken for the end of a longer one. -/
def optionsBelow (name : String) : BusOptions :=
  { servers := ["10.0.0.1:4222"], namespaceName := name }

theorem subject_unambiguous_nested :
    ∃ left right, ofOptions "node" (optionsBelow "site.rack") = .ok left ∧
      ofOptions "rack" (optionsBelow "site") = .ok right ∧
      left.subject .getAik ≠ right.subject .getAik ∧
      Text.splitText '.' (left.subject .getAik) = ["site", "rack", "node", "aik-request"] := by
  have leftMade : ∃ agent, ofOptions "node" (optionsBelow "site.rack") = .ok agent := ⟨_, rfl⟩
  have rightMade : ∃ agent, ofOptions "rack" (optionsBelow "site") = .ok agent := ⟨_, rfl⟩
  rcases leftMade with ⟨left, leftAccepted⟩
  rcases rightMade with ⟨right, rightAccepted⟩
  rcases subject_unambiguous leftAccepted rightAccepted .getAik .getAik with ⟨same, parts, _⟩
  refine ⟨left, right, leftAccepted, rightAccepted, fun equal => ?_, parts⟩
  exact absurd (same.mp equal).2.1 (by decide)

end BusAgent

end Agent

end HostAttestation
