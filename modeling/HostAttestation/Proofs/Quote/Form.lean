import HostAttestation.Proofs.Bytes.BigEndian
import HostAttestation.Proofs.Outcome
import HostAttestation.Quote.Signature

/-! # Readers and the forms that they read

A form tells which byte strings stand for which values. A reader reads a form if it succeeds
exactly on a string of the form, whatever follows, takes that string off and gives its value.
Forms of readers that run one after the other are strings one after the other, so the form of a
reader is put together as the reader is. -/

namespace HostAttestation

abbrev Form (α : Type) := Bytes → α → Prop

def Reads (reader : QuoteReader α) (form : Form α) : Prop :=
  ∀ cursor value next, reader.run cursor = .ok (value, next) ↔
    ∃ bytes, form bytes value ∧ cursor.rest = bytes ++ next.rest ∧
      next.offset = cursor.offset + bytes.length

namespace Reads

variable {α β : Type} {reader other : QuoteReader α} {next : α → QuoteReader β}
  {form otherForm : Form α} {nextForm : α → Form β}

/-- What a reader reads is read off from a string of its form. -/
theorem run_append (reads : Reads reader form) {bytes : Bytes} {value : α}
    (formed : form bytes value) (rest : Bytes) (offset : Nat) :
    reader.run ⟨bytes ++ rest, offset⟩ = .ok (value, ⟨rest, offset + bytes.length⟩) :=
  (reads _ _ _).mpr ⟨bytes, formed, rfl, rfl⟩

/-- What comes behind a string of the form is left to the next reader. -/
theorem run_bind_append (reads : Reads reader form) {bytes : Bytes} {value : α}
    (formed : form bytes value) (rest : Bytes) (offset : Nat) :
    (reader >>= next).run ⟨bytes ++ rest, offset⟩ =
      (next value).run ⟨rest, offset + bytes.length⟩ := by
  rw [StateT.run_bind, reads.run_append formed]
  rfl

/-- Strings of a form that begin alike are the same string of the same value. -/
theorem unique (reads : Reads reader form) {left right leftRest rightRest : Bytes}
    {leftValue rightValue : α} (leftFormed : form left leftValue)
    (rightFormed : form right rightValue) (same : left ++ leftRest = right ++ rightRest) :
    left = right ∧ leftValue = rightValue ∧ leftRest = rightRest := by
  have leftRun := reads.run_append leftFormed leftRest 0
  have rightRun := reads.run_append rightFormed rightRest 0
  rw [same, rightRun] at leftRun
  rcases Prod.mk.inj (Except.ok.inj leftRun) with ⟨values, cursors⟩
  have rests : rightRest = leftRest := congrArg Cursor.rest cursors
  subst rests
  exact ⟨List.append_cancel_right same, values.symm, rfl⟩

theorem congr (reads : Reads reader form)
    (same : ∀ bytes value, form bytes value ↔ otherForm bytes value) : Reads reader otherForm := by
  intro cursor value rest
  rw [reads cursor value rest]
  simp only [same]

theorem pure (value : α) :
    Reads (Pure.pure value : QuoteReader α) fun bytes result => bytes = [] ∧ result = value := by
  intro cursor result rest
  change Except.ok (value, cursor) = Except.ok (result, rest) ↔ _
  constructor
  · intro equal
    cases equal
    exact ⟨[], ⟨rfl, rfl⟩, rfl, rfl⟩
  · rintro ⟨_, ⟨rfl, rfl⟩, same, offset⟩
    cases cursor
    cases rest
    simp_all

theorem throw (fault : QuoteFault) :
    Reads (MonadExcept.throw fault : QuoteReader α) fun _ _ => False := by
  intro cursor value rest
  constructor
  · intro equal
    cases equal
  · rintro ⟨_, impossible, _⟩
    exact impossible.elim

/-- A step that reads nothing. -/
theorem lift (step : Except QuoteFault α) :
    Reads (liftM step : QuoteReader α) fun bytes value => bytes = [] ∧ step = .ok value := by
  intro cursor value rest
  cases step with
  | error fault =>
      constructor
      · intro equal
        cases equal
      · rintro ⟨_, ⟨_, impossible⟩, _⟩
        cases impossible
  | ok result =>
      rw [show (liftM (Except.ok result) : QuoteReader α) = Pure.pure result from rfl,
        Reads.pure result cursor value rest]
      simp [eq_comm]

theorem ite (condition : Prop) [Decidable condition] (reads : Reads reader form)
    (otherReads : Reads other otherForm) :
    Reads (if condition then reader else other) fun bytes value =>
      if condition then form bytes value else otherForm bytes value := by
  by_cases holds : condition
  · simpa only [if_pos holds] using reads
  · simpa only [if_neg holds] using otherReads

theorem run_bind_eq_ok_iff {cursor last : Cursor} {result : β} :
    (reader >>= next).run cursor = .ok (result, last) ↔
      ∃ value middle, reader.run cursor = .ok (value, middle) ∧
        (next value).run middle = .ok (result, last) := by
  rw [StateT.run_bind, Outcome.bind_eq_ok_iff, Prod.exists]

theorem bind (reads : Reads reader form) (nextReads : ∀ value, Reads (next value) (nextForm value)) :
    Reads (reader >>= next) fun bytes result => ∃ first value second,
      form first value ∧ nextForm value second result ∧ bytes = first ++ second := by
  intro cursor result last
  rw [run_bind_eq_ok_iff]
  constructor
  · rintro ⟨value, middle, firstRun, secondRun⟩
    rcases (reads _ _ _).mp firstRun with ⟨first, firstFormed, firstRest, firstOffset⟩
    rcases (nextReads value _ _ _).mp secondRun with ⟨second, secondFormed, rest, offset⟩
    refine ⟨first ++ second, ⟨first, value, second, firstFormed, secondFormed, rfl⟩, ?_, ?_⟩
    · rw [firstRest, rest, List.append_assoc]
    · rw [offset, firstOffset, List.length_append, Nat.add_assoc]
  · rintro ⟨_, ⟨first, value, second, firstFormed, secondFormed, rfl⟩, rest, offset⟩
    refine ⟨value, ⟨second ++ last.rest, cursor.offset + first.length⟩,
      (reads _ _ _).mpr ⟨first, firstFormed, ?_, rfl⟩,
      (nextReads value _ _ _).mpr ⟨second, secondFormed, rfl, ?_⟩⟩
    · rw [rest, List.append_assoc]
    · rw [offset, List.length_append, Nat.add_assoc]

end Reads

/-! ## Forms of the cursor -/

namespace Form

/-- A number in as many bytes as its width. -/
def number (width : Nat) : Form Nat := fun bytes value =>
  bytes = BigEndian.encode width value ∧ value < BigEndian.capacity width

/-- A buffer behind its length. -/
def sized : Form Bytes := fun bytes value =>
  bytes = QuoteSignature.sized value ∧ value.length < BigEndian.capacity 2

/-- Strings of a form one after the other. -/
def times (form : Form α) (count : Nat) : Form (List α) := fun bytes values =>
  values.length = count ∧ ∃ parts, List.Forall₂ form parts values ∧ bytes = parts.flatten

end Form

namespace Reads

theorem take (length : Nat) (part : String) :
    Reads (Cursor.take length part) fun bytes value => value = bytes ∧ bytes.length = length := by
  intro cursor value next
  change (if (cursor.rest.take length).length = length then
      Except.ok (cursor.rest.take length, Cursor.mk (cursor.rest.drop length) (cursor.offset + length))
    else .error _) = .ok (value, next) ↔ _
  constructor
  · intro succeeds
    split at succeeds
    next enough =>
      cases succeeds
      exact ⟨_, ⟨rfl, enough⟩, (List.take_append_drop _ _).symm, by rw [enough]⟩
    next => cases succeeds
  · rintro ⟨bytes, ⟨rfl, rfl⟩, rest, offset⟩
    rw [rest, List.take_left, List.drop_left, if_pos rfl, ← offset]

theorem number (width : Nat) (part : String) :
    Reads (Cursor.number width part) (Form.number width) := by
  refine ((take width part).bind fun bytes => Reads.pure (BigEndian.decode bytes)).congr ?_
  intro bytes value
  rw [Form.number, BigEndian.eq_encode_iff]
  constructor
  · rintro ⟨first, _, _, ⟨rfl, width⟩, ⟨rfl, rfl⟩, rfl⟩
    rw [List.append_nil]
    exact ⟨width, rfl⟩
  · rintro ⟨width, rfl⟩
    exact ⟨bytes, bytes, [], ⟨rfl, width⟩, ⟨rfl, rfl⟩, (List.append_nil bytes).symm⟩

/-- A number that must be the expected one. -/
theorem expected (width number : Nat) (fits : number < BigEndian.capacity width) (part : String)
    (fault : QuoteFault) (reads : Reads reader form) :
    Reads (Cursor.number width part >>= fun value =>
        if value ≠ number then MonadExcept.throw fault else reader)
      fun bytes value => ∃ rest, form rest value ∧ bytes = BigEndian.encode width number ++ rest := by
  refine ((Reads.number width part).bind fun value =>
    Reads.ite (value ≠ number) (Reads.throw fault) reads).congr fun bytes value => ?_
  constructor
  · rintro ⟨_, found, rest, ⟨rfl, _⟩, formed, rfl⟩
    split at formed
    next => exact formed.elim
    next same =>
      rw [not_not.mp same]
      exact ⟨rest, formed, rfl⟩
  · rintro ⟨rest, formed, rfl⟩
    exact ⟨_, number, rest, ⟨rfl, fits⟩, by simpa using formed, rfl⟩

theorem sized (part : String) : Reads (Cursor.sized part) Form.sized := by
  refine ((number 2 part).bind fun length => take length part).congr ?_
  intro bytes value
  constructor
  · rintro ⟨_, _, _, ⟨rfl, fits⟩, ⟨rfl, rfl⟩, rfl⟩
    exact ⟨rfl, fits⟩
  · rintro ⟨rfl, fits⟩
    exact ⟨_, _, value, ⟨rfl, fits⟩, ⟨rfl, rfl⟩, rfl⟩

theorem times {reader : QuoteReader α} {form : Form α} (reads : Reads reader form) (count : Nat) :
    Reads (Cursor.times reader count) (Form.times form count) := by
  induction count with
  | zero =>
      refine (Reads.pure []).congr fun bytes values => ?_
      constructor
      · rintro ⟨rfl, rfl⟩
        exact ⟨rfl, [], .nil, rfl⟩
      · rintro ⟨empty, parts, formed, rfl⟩
        rw [List.eq_nil_of_length_eq_zero empty] at formed ⊢
        cases formed
        exact ⟨rfl, rfl⟩
  | succ count induction =>
      refine (reads.bind fun first => induction.bind fun rest => Reads.pure (first :: rest)).congr
        fun bytes values => ?_
      constructor
      · rintro ⟨part, first, _, formed, ⟨_, rest, _, ⟨rfl, parts, restFormed, rfl⟩, ⟨rfl, rfl⟩, rfl⟩,
          rfl⟩
        exact ⟨rfl, part :: parts, .cons formed restFormed, by simp⟩
      · rintro ⟨counted, _, formed, rfl⟩
        cases formed with
        | nil => cases counted
        | @cons part first parts rest firstFormed restFormed =>
            exact ⟨part, first, parts.flatten, firstFormed,
              ⟨parts.flatten, rest, [], ⟨Nat.succ.inj counted, parts, restFormed, rfl⟩, ⟨rfl, rfl⟩,
                (List.append_nil _).symm⟩, rfl⟩

end Reads

end HostAttestation
