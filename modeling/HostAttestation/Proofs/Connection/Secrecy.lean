import HostAttestation.Proofs.Connection.Written

/-! # Passwords of connection strings

A password is the value of an option; nothing else of what is read depends on it, and nothing that
is printed, be it a connection or an error. Main statement: of two connection strings that are the
same without their passwords, either both are refused for the same reason, or both are read as
connections that are printed in the same way and differ in the password at most. -/

namespace HostAttestation

namespace Connection

open Connector (ConfigurationFault)

/-! ## Texts without passwords -/

/-- The option has the key of a password, and a value. -/
def GivesPassword (option : List Char) : Prop :=
  ∃ key value, Text.cut? '=' option = some (key, value) ∧
    OptionKey.parse? (String.ofList (Text.trimChars key)) = some .password

/-- Of an option that gives a password, only the key is left. -/
def withoutValue (option : List Char) : List Char :=
  match Text.cut? '=' option with
  | none => option
  | some (key, _) =>
      if OptionKey.parse? (String.ofList (Text.trimChars key)) = some .password then key ++ ['=']
      else option

/-- The parts of a connection string between its semicolons, without the values of passwords. -/
def withoutPasswords (text : String) : List (List Char) :=
  match Text.split ';' text.toList with
  | [] => []
  | address :: options => address :: options.map withoutValue

theorem withoutValue_eq_self_or (option : List Char) :
    (withoutValue option = option ∧ ¬GivesPassword option) ∨
      GivesPassword option ∧ GivesPassword (withoutValue option) := by
  unfold withoutValue
  cases cut : Text.cut? '=' option with
  | none =>
      left
      refine ⟨rfl, ?_⟩
      rintro ⟨key, value, other, _⟩
      cases cut.symm.trans other
  | some parts =>
      dsimp only
      split
      next spelled =>
        right
        have absent := (Text.append_cons_of_cut? cut).1
        exact ⟨⟨parts.1, parts.2, cut, spelled⟩, parts.1, [], Text.cut?_append_cons absent [],
          spelled⟩
      next other =>
        left
        refine ⟨rfl, ?_⟩
        rintro ⟨key, value, same, spelled⟩
        cases cut.symm.trans same
        exact other spelled

/-- Options that are the same without their values are the same, or give a password each. -/
theorem eq_or_givesPassword {left right : List Char}
    (same : withoutValue left = withoutValue right) :
    left = right ∨ GivesPassword left ∧ GivesPassword right := by
  rcases withoutValue_eq_self_or left with ⟨leftSame, leftOpen⟩ | ⟨leftGives, leftKept⟩
  · rcases withoutValue_eq_self_or right with ⟨rightSame, _⟩ | ⟨_, rightKept⟩
    · exact .inl (leftSame.symm.trans (same.trans rightSame))
    · exact absurd (leftSame ▸ same ▸ rightKept) leftOpen
  · rcases withoutValue_eq_self_or right with ⟨rightSame, rightOpen⟩ | ⟨rightGives, _⟩
    · exact absurd (rightSame ▸ same ▸ leftKept) rightOpen
    · exact .inr ⟨leftGives, rightGives⟩

/-! ## Connections without passwords -/

/-- The connection with its password hidden. -/
def masked (connection : Connection) : Connection :=
  { connection with password := connection.password.map fun _ => mask }

theorem summary_masked (connection : Connection) :
    connection.masked.summary = connection.summary := by
  cases connection with
  | mk vendor url host username password => cases password <;> rfl

theorem eq_of_masked {left right : Connection} (same : left.masked = right.masked) :
    right = { left with password := right.password } := by
  cases left
  cases right
  simp_all [masked]

theorem masked_set {left right : Connection} (same : left.masked = right.masked) (key : OptionKey)
    (value : String) : (left.set key value).masked = (right.set key value).masked := by
  cases left
  cases right
  cases key <;> simp_all [masked, set]

theorem masked_set_password {left right : Connection} (same : left.masked = right.masked)
    (leftValue rightValue : String) :
    (left.set .password leftValue).masked = (right.set .password rightValue).masked := by
  cases left
  cases right
  simp_all [masked, set]

/-- The outcomes are the same but for the password of a connection. -/
def Agree {ε : Type} (left right : Except ε Connection) : Prop :=
  left.map masked = right.map masked

theorem Agree.cases {ε : Type} {left right : Except ε Connection} (agree : Agree left right) :
    (∃ fault, left = .error fault ∧ right = .error fault) ∨
      ∃ leftRead rightRead, left = .ok leftRead ∧ right = .ok rightRead ∧
        leftRead.masked = rightRead.masked := by
  unfold Agree at agree
  cases left with
  | error fault =>
      cases right with
      | error other =>
          cases agree
          exact .inl ⟨fault, rfl, rfl⟩
      | ok _ => cases agree
  | ok leftRead =>
      cases right with
      | error _ => cases agree
      | ok rightRead => exact .inr ⟨leftRead, rightRead, rfl, rfl, Except.ok.inj agree⟩

/-! ## Reading -/

theorem agree_parseOption {left right : Connection} (same : left.masked = right.masked)
    (option : List Char) : Agree (parseOption left option) (parseOption right option) := by
  unfold Agree parseOption
  cases Text.cut? '=' option with
  | none => rfl
  | some parts =>
      dsimp only
      cases OptionKey.parse? (String.ofList (Text.trimChars parts.1)) with
      | none => rfl
      | some key => exact congrArg Except.ok (masked_set same key _)

theorem GivesPassword.exists_value {part : List Char} (gives : GivesPassword part) :
    Text.trimChars part ≠ [] ∧ ∃ value, ∀ connection : Connection,
      parseOption connection (Text.trimChars part) = .ok (connection.set .password value) := by
  rcases gives with ⟨key, value, cut, spelled⟩
  rcases Text.append_cons_of_cut? cut with ⟨absent, rfl⟩
  have kept : '=' ∉ key.dropWhile Text.isBlank := fun member =>
    absent ((List.dropWhile_suffix Text.isBlank).mem member)
  rw [Text.trimChars_append_cons (by decide)]
  refine ⟨by simp, String.ofList (value.reverse.dropWhile Text.isBlank).reverse,
    fun connection => ?_⟩
  rw [parseOption, Text.cut?_append_cons kept]
  dsimp only
  rw [Text.trimChars_dropWhile_isBlank, spelled]

theorem agree_parseOptions {left right : Connection} (same : left.masked = right.masked)
    {lefts rights : List (List Char)}
    (options : lefts.map withoutValue = rights.map withoutValue) :
    Agree (parseOptions left lefts) (parseOptions right rights) := by
  induction lefts generalizing rights left right with
  | nil =>
      rw [List.map_nil, eq_comm, List.map_eq_nil_iff] at options
      subst options
      exact congrArg Except.ok same
  | cons part rest induction =>
      rcases List.map_eq_cons_iff.mp options.symm with ⟨other, others, rfl, first, remaining⟩
      rcases eq_or_givesPassword first with rfl | ⟨otherGives, partGives⟩
      · rw [parseOptions, parseOptions]
        split
        next => exact induction same remaining.symm
        next =>
          rcases (agree_parseOption same (Text.trimChars other)).cases with
            ⟨fault, leftFails, rightFails⟩ | ⟨leftNext, rightNext, leftRead, rightRead, nextSame⟩
          · rw [leftFails, rightFails]
            rfl
          · rw [leftRead, rightRead]
            exact induction nextSame remaining.symm
      · rcases partGives.exists_value with ⟨partFilled, partValue, partParsed⟩
        rcases otherGives.exists_value with ⟨otherFilled, otherValue, otherParsed⟩
        rw [parseOptions, parseOptions, if_neg partFilled, if_neg otherFilled, partParsed,
          otherParsed]
        exact induction (masked_set_password same _ _) remaining.symm

theorem agree_ofParts (address : List Char) {lefts rights : List (List Char)}
    (options : lefts.map withoutValue = rights.map withoutValue) :
    Agree (ofParts address lefts) (ofParts address rights) := by
  unfold ofParts
  cases splitVendor (Text.trimChars address) with
  | error fault => rfl
  | ok named =>
      simp only [bind, Except.bind]
      cases Url.parse? (String.ofList named.2) with
      | none => rfl
      | some url =>
          dsimp only
          rcases (agree_parseOptions (rfl : masked ⟨named.1, url, none, none, none⟩ = _)
              options).cases with
            ⟨fault, leftFails, rightFails⟩ | ⟨left, right, leftParsed, rightParsed, same⟩
          · rw [leftFails, rightFails]
            rfl
          · -- Whether a host is missing does not depend on the password.
            rw [leftParsed, rightParsed, eq_of_masked same]
            dsimp only
            split
            next => rfl
            next => exact congrArg Except.ok (same.trans (congrArg masked (eq_of_masked same)))

/-- The text is read part by part; blanks around the whole text are blanks around a part. -/
theorem parse_eq_ofParts {text : String} {address : List Char} {options : List (List Char)}
    (parts : Text.split ';' text.toList = address :: options) :
    parse text = (ofParts address options).mapError .configuration := by
  have unblank : ¬Text.isBlank ';' := by decide
  have trimmed := Text.map_trimChars_split_trimChars unblank text.toList
  rw [parts, List.map_cons] at trimmed
  rw [parse]
  cases cut : Text.split ';' (Text.trimChars text.toList) with
  | nil => exact absurd cut (Text.split_ne_nil _ _)
  | cons first rest =>
      rw [cut, List.map_cons, List.cons_eq_cons] at trimmed
      dsimp only
      rw [← ofParts_map_trimChars, trimmed.1, trimmed.2, ofParts_map_trimChars]

/-- Texts that differ in their passwords at most are refused alike, or read as connections that
differ in the password at most. -/
theorem parse_conceals {left right : String}
    (same : withoutPasswords left = withoutPasswords right) :
    (∃ error, parse left = .error error ∧ parse right = .error error) ∨
      ∃ leftRead rightRead, parse left = .ok leftRead ∧ parse right = .ok rightRead ∧
        rightRead = { leftRead with password := rightRead.password } ∧
        leftRead.summary = rightRead.summary := by
  unfold withoutPasswords at same
  cases leftParts : Text.split ';' left.toList with
  | nil => exact absurd leftParts (Text.split_ne_nil _ _)
  | cons address lefts =>
      cases rightParts : Text.split ';' right.toList with
      | nil => exact absurd rightParts (Text.split_ne_nil _ _)
      | cons other rights =>
          rw [leftParts, rightParts, List.cons_eq_cons] at same
          rcases same with ⟨rfl, options⟩
          rw [parse_eq_ofParts leftParts, parse_eq_ofParts rightParts]
          rcases (agree_ofParts address options).cases with
            ⟨fault, leftFails, rightFails⟩ | ⟨leftRead, rightRead, leftParsed, rightParsed, masked⟩
          · left
            exact ⟨.configuration fault, by rw [leftFails]; rfl, by rw [rightFails]; rfl⟩
          · right
            refine ⟨leftRead, rightRead, by rw [leftParsed]; rfl, by rw [rightParsed]; rfl,
              eq_of_masked masked, ?_⟩
            rw [← summary_masked leftRead, masked, summary_masked]

def administered (password : String) : Connection :=
  ⟨.vmware, ⟨"https", some ⟨"", "", .name "vc", none⟩, false, .segments ["sdk"], none, none⟩,
    some "esx", none, some password⟩

/-- Of two passwords the last one counts, and it ends before the blanks behind it. -/
theorem parse_conceals_twice_given :
    withoutPasswords "VMware:https://vc/sdk;p=;h=esx; password = s=1 " =
        withoutPasswords "VMware:https://vc/sdk;p=old;h=esx; password =x" ∧
      parse "VMware:https://vc/sdk;p=;h=esx; password = s=1 " = .ok (administered " s=1") ∧
      parse "VMware:https://vc/sdk;p=old;h=esx; password =x" = .ok (administered "x") ∧
      (administered " s=1").summary = (administered "x").summary := by
  have same : withoutPasswords "VMware:https://vc/sdk;p=;h=esx; password = s=1 " =
      withoutPasswords "VMware:https://vc/sdk;p=old;h=esx; password =x" := by decide
  have left : parse "VMware:https://vc/sdk;p=;h=esx; password = s=1 " =
      .ok (administered " s=1") := by decide +kernel
  have right : parse "VMware:https://vc/sdk;p=old;h=esx; password =x" =
      .ok (administered "x") := by decide +kernel
  refine ⟨same, left, right, ?_⟩
  rcases parse_conceals same with ⟨error, fails, _⟩ | ⟨leftRead, rightRead, leftParsed, rightParsed,
    _, shown⟩
  · cases left.symm.trans fails
  · cases left.symm.trans leftParsed
    cases right.symm.trans rightParsed
    exact shown

end Connection

end HostAttestation
