import HostAttestation.Proofs.EventLog.Groups
import HostAttestation.Proofs.Run

/-! # Logs built at once or event by event

An entry is built at once, each event being checked at its place in the list, or its events are
pushed one after the other onto an empty entry, each being checked behind those that the entry has
by then. Both ways give the same entry, or the same violation for the first event that does not
fit. A push that fails leaves the entry as it was, so no entry ever has an event that does not
fit. -/

namespace HostAttestation

/-- The first of the events that has not the width of the bank, and the events before it. -/
structure FirstMisfit (bank : PcrBank) (events before : List Event) (event : Event) : Prop where
  listed : ∃ after, events = before ++ event :: after
  fit : ∀ other ∈ before, other.Fits bank
  misfits : ¬event.Fits bank

namespace FirstMisfit

variable {bank : PcrBank} {events before : List Event} {first event : Event}

theorem not_nil : ¬FirstMisfit bank [] before event := by
  rintro ⟨⟨after, split⟩, _, _⟩
  cases before <;> cases split

theorem cons_of_misfit (misfits : ¬first.Fits bank) :
    FirstMisfit bank (first :: events) before event ↔ before = [] ∧ event = first := by
  constructor
  · rintro ⟨⟨after, split⟩, fit, _⟩
    cases before with
    | nil =>
        cases split
        exact ⟨rfl, rfl⟩
    | cons other others =>
        cases split
        exact absurd (fit first List.mem_cons_self) misfits
  · rintro ⟨rfl, rfl⟩
    exact ⟨⟨events, rfl⟩, by simp, misfits⟩

/-- Behind an event that fits the first misfit is that of the others. -/
theorem exists_cons_iff (fits : first.Fits bank) {holds : List Event → Event → Prop} :
    (∃ before event, FirstMisfit bank (first :: events) before event ∧ holds before event) ↔
      ∃ others event, FirstMisfit bank events others event ∧ holds (first :: others) event := by
  constructor
  · rintro ⟨before, event, ⟨⟨after, split⟩, fit, misfits⟩, holding⟩
    cases before with
    | nil =>
        cases split
        exact absurd fits misfits
    | cons other others =>
        cases split
        exact ⟨others, event, ⟨⟨after, rfl⟩, (List.forall_mem_cons.mp fit).2, misfits⟩, holding⟩
  · rintro ⟨others, event, ⟨⟨after, rfl⟩, fit, misfits⟩, holding⟩
    exact ⟨first :: others, event,
      ⟨⟨after, rfl⟩, List.forall_mem_cons.mpr ⟨fits, fit⟩, misfits⟩, holding⟩

end FirstMisfit

namespace EventLogEntry

theorem firstViolation?_eq_some_iff (pcr : PcrId) (position : Nat) (events : List Event)
    (found : Violation) :
    firstViolation? pcr position events = some found ↔
      ∃ before event, FirstMisfit pcr.bank events before event ∧
        found = violation pcr (position + before.length) event := by
  induction events generalizing position with
  | nil => simp [firstViolation?, FirstMisfit.not_nil]
  | cons first rest induction =>
      rw [firstViolation?]
      by_cases fits : first.Fits pcr.bank
      · rw [if_pos fits, induction, FirstMisfit.exists_cons_iff fits]
        simp only [List.length_cons, Nat.add_assoc, Nat.add_comm 1]
      · rw [if_neg fits]
        simp [FirstMisfit.cons_of_misfit fits, eq_comm]

theorem ofEvents_eq_error_iff_firstViolation? (pcr : PcrId) (events : List Event)
    (found : Violation) :
    ofEvents pcr events = .error found ↔ firstViolation? pcr 0 events = some found := by
  unfold ofEvents
  split
  next other outcome => rw [outcome, Except.error.injEq, Option.some.injEq]
  next outcome => simp [outcome]

theorem ofEvents_eq_error_iff (pcr : PcrId) (events : List Event) (found : Violation) :
    ofEvents pcr events = .error found ↔
      ∃ before event, FirstMisfit pcr.bank events before event ∧
        found = violation pcr before.length event := by
  rw [ofEvents_eq_error_iff_firstViolation?, firstViolation?_eq_some_iff]
  simp only [Nat.zero_add]

/-! ## Event by event -/

theorem push_eq_ok_iff (entry : EventLogEntry) (event : Event) (next : EventLogEntry) :
    entry.push event = .ok next ↔
      event.Fits entry.pcr.bank ∧ next.pcr = entry.pcr ∧ next.events = entry.events ++ [event] := by
  unfold push
  constructor
  · intro pushed
    split at pushed
    next fits =>
      cases pushed
      exact ⟨fits, rfl, rfl⟩
    next => cases pushed
  · rintro ⟨fits, pcr, events⟩
    rw [dif_pos fits]
    exact congrArg Except.ok (eq_of_events_eq pcr.symm events.symm)

theorem push_eq_error_iff (entry : EventLogEntry) (event : Event) (found : Violation) :
    entry.push event = .error found ↔
      ¬event.Fits entry.pcr.bank ∧ found = violation entry.pcr entry.events.length event := by
  unfold push
  by_cases fits : event.Fits entry.pcr.bank
  · simp [fits]
  · simp [fits, eq_comm]

theorem pushAll_eq_ok_iff (entry : EventLogEntry) (events : List Event) (result : EventLogEntry) :
    entry.pushAll events = .ok result ↔
      (∀ event ∈ events, event.Fits entry.pcr.bank) ∧ result.pcr = entry.pcr ∧
        result.events = entry.events ++ events := by
  constructor
  · intro pushed
    unfold pushAll at pushed
    induction events generalizing entry with
    | nil =>
        cases pushed
        simp
    | cons event rest induction =>
        rw [List.foldlM_cons] at pushed
        rcases Outcome.bind_eq_ok_iff.mp pushed with ⟨next, stepped, continued⟩
        rcases (push_eq_ok_iff entry event next).mp stepped with ⟨fits, pcr, logged⟩
        rcases induction next continued with ⟨others, samePcr, all⟩
        rw [pcr] at others samePcr
        exact ⟨List.forall_mem_cons.mpr ⟨fits, others⟩, samePcr, by simp [all, logged]⟩
  · rintro ⟨fit, pcr, all⟩
    rcases exists_pushAll_eq_ok entry fit with ⟨other, pushed, otherPcr, otherAll⟩
    rw [pushed, eq_of_events_eq (otherPcr.trans pcr.symm) (otherAll.trans all.symm)]

/-- The events before the first one that does not fit have been pushed when it is found. -/
theorem pushAll_eq_error_iff (entry : EventLogEntry) (events : List Event) (found : Violation) :
    entry.pushAll events = .error found ↔
      ∃ before event, FirstMisfit entry.pcr.bank events before event ∧
        found = violation entry.pcr (entry.events.length + before.length) event := by
  rw [pushAll, Outcome.foldlM_eq_error_iff]
  constructor
  · rintro ⟨before, event, after, split, reached, passed, failed⟩
    rcases (pushAll_eq_ok_iff entry before reached).mp passed with ⟨fit, pcr, logged⟩
    rcases (push_eq_error_iff reached event found).mp failed with ⟨misfits, rfl⟩
    rw [pcr] at misfits
    exact ⟨before, event, ⟨⟨after, split⟩, fit, misfits⟩, by
      rw [pcr, logged, List.length_append]⟩
  · rintro ⟨before, event, ⟨⟨after, split⟩, fit, misfits⟩, rfl⟩
    rcases exists_pushAll_eq_ok entry fit with ⟨reached, passed, pcr, logged⟩
    refine ⟨before, event, after, split, reached, passed, ?_⟩
    rw [push_eq_error_iff, pcr, logged, List.length_append]
    exact ⟨misfits, rfl⟩

theorem ofEvents_eq_pushAll (pcr : PcrId) (events : List Event) :
    ofEvents pcr events = (empty pcr).pushAll events := by
  rcases Outcome.ok_or_error ((empty pcr).pushAll events) with ⟨entry, pushed⟩ | ⟨found, fails⟩
  · rcases (pushAll_eq_ok_iff _ _ _).mp pushed with ⟨_, same, logged⟩
    rw [pushed, ofEvents_eq_ok_iff]
    exact ⟨same, logged⟩
  · rcases (pushAll_eq_error_iff _ _ _).mp fails with ⟨before, event, misfit, rfl⟩
    rw [fails, ofEvents_eq_error_iff]
    exact ⟨before, event, misfit, by rw [empty, List.length_nil, Nat.zero_add]⟩

/-! ## In place

An entry of which nothing is known is made and changed in place. -/

/-- A register and events that may have any width. -/
structure Raw where
  pcr : PcrId
  events : List Event
  deriving DecidableEq

def raw (entry : EventLogEntry) : Raw :=
  ⟨entry.pcr, entry.events⟩

namespace Raw

def checkMeasurement (pcr : PcrId) (position : Nat) (event : Event) : Except Violation Unit :=
  PcrBank.checkDigest pcr.bank (.event position event.typeName pcr) event.measurement

/-- Every event is checked at its place in the list. -/
def ofEvents (pcr : PcrId) (events : List Event) : Except Violation Raw := do
  events.zipIdx.forM fun item => checkMeasurement pcr item.2 item.1
  pure ⟨pcr, events⟩

/-- An event is checked at the end of the log, and appended if nothing is wrong with it. -/
def push (event : Event) : ExceptT Violation (StateM Raw) Unit := do
  let log ← get
  liftExcept (checkMeasurement log.pcr log.events.length event)
  set { log with events := log.events ++ [event] }

def pushAll (events : List Event) : ExceptT Violation (StateM Raw) Unit :=
  events.forM push

theorem checkMeasurement_of_fits {pcr : PcrId} {event : Event} (fits : event.Fits pcr.bank)
    (position : Nat) : checkMeasurement pcr position event = .ok () :=
  if_pos fits

theorem checkMeasurement_of_misfit {pcr : PcrId} {event : Event} (misfits : ¬event.Fits pcr.bank)
    (position : Nat) :
    checkMeasurement pcr position event = .error (violation pcr position event) :=
  if_neg misfits

/-- By induction on the list, of which the first event stands at some position. -/
theorem forM_zipIdx_eq (pcr : PcrId) (position : Nat) (events : List Event) :
    ((events.zipIdx position).forM fun item => checkMeasurement pcr item.2 item.1) =
      match firstViolation? pcr position events with
      | some found => .error found
      | none => .ok () := by
  induction events generalizing position with
  | nil => rfl
  | cons event rest induction =>
      rw [List.forM_eq_forM] at induction ⊢
      rw [List.zipIdx_cons, List.forM_cons, firstViolation?]
      by_cases fits : event.Fits pcr.bank
      · rw [checkMeasurement_of_fits fits, if_pos fits]
        exact induction (position + 1)
      · rw [checkMeasurement_of_misfit fits, if_neg fits]
        rfl

theorem ofEvents_eq (pcr : PcrId) (events : List Event) :
    ofEvents pcr events = (EventLogEntry.ofEvents pcr events).map raw := by
  rw [ofEvents, forM_zipIdx_eq]
  rcases Outcome.ok_or_error (EventLogEntry.ofEvents pcr events) with
    ⟨entry, made⟩ | ⟨found, refused⟩
  · rcases (ofEvents_eq_ok_iff pcr events entry).mp made with ⟨rfl, rfl⟩
    rw [made, (firstViolation?_eq_none_iff entry.pcr 0 entry.events).mpr entry.fit]
    rfl
  · rw [refused, (ofEvents_eq_error_iff_firstViolation? pcr events found).mp refused]
    rfl

/-- An event that fits is appended, and any other one leaves the entry as it was. -/
theorem runs_push_iff (log after : Raw) (event : Event) (result : Except Violation Unit) :
    Runs (push event) log result after ↔
      (event.Fits log.pcr.bank ∧ result = .ok () ∧ after = ⟨log.pcr, log.events ++ [event]⟩) ∨
        ¬event.Fits log.pcr.bank ∧
          result = .error (violation log.pcr log.events.length event) ∧ after = log := by
  unfold push
  rw [Runs.bind_iff]
  simp only [Runs.get_iff, Runs.bind_iff, Runs.liftExcept_iff, Runs.set_iff]
  by_cases fits : event.Fits log.pcr.bank
  · simp [fits, checkMeasurement_of_fits fits]
  · simp [fits, checkMeasurement_of_misfit fits, and_comm]

/-- By induction on the events that are left, the log being whatever was pushed so far. -/
theorem runs_pushAll_iff (log after : Raw) (events : List Event) (result : Except Violation Unit) :
    Runs (pushAll events) log result after ↔
      ((∀ event ∈ events, event.Fits log.pcr.bank) ∧ result = .ok () ∧
          after = ⟨log.pcr, log.events ++ events⟩) ∨
        ∃ before event, FirstMisfit log.pcr.bank events before event ∧
          result = .error (violation log.pcr (log.events.length + before.length) event) ∧
          after = ⟨log.pcr, log.events ++ before⟩ := by
  unfold pushAll
  induction events generalizing log with
  | nil =>
      rw [List.forM_eq_forM, List.forM_nil, Runs.pure_iff]
      simp [FirstMisfit.not_nil]
  | cons first rest induction =>
      rw [List.forM_eq_forM] at induction ⊢
      rw [List.forM_cons, Runs]
      by_cases fits : first.Fits log.pcr.bank
      · have stepped := (runs_push_iff log _ first _).mpr (.inl ⟨fits, rfl, rfl⟩)
        rw [runFrom_bind_of_ok stepped, ← Runs, induction, List.forall_mem_cons,
          FirstMisfit.exists_cons_iff fits]
        simp only [fits, true_and, List.length_append, List.length_cons, List.length_nil,
          List.append_assoc, List.singleton_append, Nat.add_assoc, Nat.zero_add, Nat.add_comm 1]
      · have failed := (runs_push_iff log _ first _).mpr (.inr ⟨fits, rfl, rfl⟩)
        rw [runFrom_bind_of_error failed]
        simp [fits, FirstMisfit.cons_of_misfit fits, eq_comm]

/-- In place, an entry becomes what pushing gives, or stays what it was. -/
theorem runs_push_raw_iff (entry : EventLogEntry) (event : Event) (result : Except Violation Unit)
    (after : Raw) :
    Runs (push event) entry.raw result after ↔
      (∃ next, entry.push event = .ok next ∧ result = .ok () ∧ after = next.raw) ∨
        ∃ found, entry.push event = .error found ∧ result = .error found ∧ after = entry.raw := by
  rw [runs_push_iff]
  simp only [push_eq_error_iff]
  refine or_congr ⟨?_, ?_⟩ (by simp [raw])
  · rintro ⟨fits, rfl, rfl⟩
    rcases exists_pushAll_eq_ok entry (List.forall_mem_singleton.mpr fits) with
      ⟨next, _, pcr, logged⟩
    refine ⟨next, (push_eq_ok_iff entry event next).mpr ⟨fits, pcr, logged⟩, rfl, ?_⟩
    rw [raw, raw, pcr, logged]
  · rintro ⟨next, pushed, rfl, rfl⟩
    rcases (push_eq_ok_iff entry event next).mp pushed with ⟨fits, pcr, logged⟩
    exact ⟨fits, rfl, by rw [raw, raw, pcr, logged]⟩

/-- What can be made at once and then pushed onto, whether a push succeeds or fails. -/
inductive Reachable : Raw → Prop
  | made {pcr : PcrId} {events : List Event} {log : Raw} :
      ofEvents pcr events = .ok log → Reachable log
  | pushed {log after : Raw} {event : Event} {result : Except Violation Unit} :
      Reachable log → Runs (push event) log result after → Reachable after

def Fits (log : Raw) : Prop :=
  ∀ event ∈ log.events, event.Fits log.pcr.bank

theorem fits_raw (entry : EventLogEntry) : entry.raw.Fits :=
  entry.fit

theorem fits_of_push {log after : Raw} {event : Event} {result : Except Violation Unit}
    (fit : log.Fits) (run : Runs (push event) log result after) : after.Fits := by
  rcases (runs_push_iff log after event result).mp run with ⟨fits, -, rfl⟩ | ⟨-, -, rfl⟩
  · intro other member
    rcases List.mem_append.mp member with earlier | last
    · exact fit other earlier
    · exact List.mem_singleton.mp last ▸ fits
  · exact fit

theorem reachable_iff (log : Raw) : Reachable log ↔ log.Fits := by
  constructor
  · intro reachable
    induction reachable with
    | made built =>
        rw [ofEvents_eq] at built
        rcases Outcome.map_eq_ok_iff.mp built with ⟨entry, -, rfl⟩
        exact fits_raw entry
    | pushed _ run fit => exact fits_of_push fit run
  · intro fit
    have built := (ofEvents_eq_ok_iff log.pcr log.events ⟨log.pcr, log.events, fit⟩).mpr ⟨rfl, rfl⟩
    have made : ofEvents log.pcr log.events = .ok log := by
      rw [ofEvents_eq, built]
      rfl
    exact .made made

end Raw

/-- The events can be built into an entry at once or one by one, with one outcome: an entry of all
of them, or the violation of the first one that does not fit. Built in place, the entry is left
with those before it. -/
structure BuildsAlike (pcr : PcrId) (events : List Event) : Prop where
  same : ofEvents pcr events = (empty pcr).pushAll events
  succeeds : (∃ entry, ofEvents pcr events = .ok entry) ↔ ∀ event ∈ events, event.Fits pcr.bank
  entry : ∀ entry, ofEvents pcr events = .ok entry → entry.pcr = pcr ∧ entry.events = events
  fails : ∀ found, ofEvents pcr events = .error found ↔
    ∃ before event, FirstMisfit pcr.bank events before event ∧
      found = .digestLength (.event before.length event.typeName pcr) pcr.bank
        event.measurement.length
  atOnce : Raw.ofEvents pcr events = (ofEvents pcr events).map raw
  inPlace : ∀ result after, Runs (Raw.pushAll events) ⟨pcr, []⟩ result after ↔
    (∃ entry, ofEvents pcr events = .ok entry ∧ result = .ok () ∧ after = entry.raw) ∨
      ∃ before event, FirstMisfit pcr.bank events before event ∧
        ofEvents pcr events = .error (violation pcr before.length event) ∧
        result = .error (violation pcr before.length event) ∧ after = ⟨pcr, before⟩

theorem exists_ofEvents_eq_ok_iff (pcr : PcrId) (events : List Event) :
    (∃ entry, ofEvents pcr events = .ok entry) ↔ ∀ event ∈ events, event.Fits pcr.bank := by
  simp only [ofEvents_eq_ok_iff]
  constructor
  · rintro ⟨entry, rfl, rfl⟩
    exact entry.fit
  · intro fit
    exact ⟨⟨pcr, events, fit⟩, rfl, rfl⟩

theorem buildsAlike (pcr : PcrId) (events : List Event) : BuildsAlike pcr events where
  same := ofEvents_eq_pushAll pcr events
  succeeds := exists_ofEvents_eq_ok_iff pcr events
  entry entry built := (ofEvents_eq_ok_iff pcr events entry).mp built
  fails := ofEvents_eq_error_iff pcr events
  atOnce := Raw.ofEvents_eq pcr events
  inPlace result after := by
    rw [Raw.runs_pushAll_iff]
    simp only [List.length_nil, Nat.zero_add, List.nil_append]
    refine or_congr ⟨?_, ?_⟩ ⟨?_, ?_⟩
    · rintro ⟨fit, rfl, rfl⟩
      exact ⟨⟨pcr, events, fit⟩, (ofEvents_eq_ok_iff _ _ _).mpr ⟨rfl, rfl⟩, rfl, rfl⟩
    · rintro ⟨entry, built, rfl, rfl⟩
      rcases (ofEvents_eq_ok_iff _ _ _).mp built with ⟨rfl, rfl⟩
      exact ⟨entry.fit, rfl, rfl⟩
    · rintro ⟨before, event, misfit, rfl, rfl⟩
      have refused := (ofEvents_eq_error_iff pcr events _).mpr ⟨before, event, misfit, rfl⟩
      exact ⟨before, event, misfit, refused, rfl, rfl⟩
    · rintro ⟨before, event, misfit, -, rfl, rfl⟩
      exact ⟨before, event, misfit, rfl, rfl⟩

/-- Whatever the register and the events are, and whatever an entry holds that is pushed onto. -/
theorem entries_build_alike :
    (∀ pcr events, BuildsAlike pcr events) ∧
    (∀ log event found after, Runs (Raw.push event) log (.error found) after → after = log) ∧
    (∀ entry event result after, Runs (Raw.push event) (raw entry) result after ↔
      (∃ next, entry.push event = .ok next ∧ result = .ok () ∧ after = next.raw) ∨
        ∃ found, entry.push event = .error found ∧ result = .error found ∧ after = entry.raw) ∧
    ∀ log, Raw.Reachable log ↔ log.Fits := by
  refine ⟨buildsAlike, fun log event found after failed => ?_, Raw.runs_push_raw_iff,
    Raw.reachable_iff⟩
  rcases (Raw.runs_push_iff log after event _).mp failed with ⟨-, impossible, -⟩ | ⟨-, -, kept⟩
  · cases impossible
  · exact kept

/-! ## A log that changes its width -/

def widthPcr : PcrId :=
  ⟨⟨19, by decide⟩, .sha1⟩

def eventOfWidth (typeName : String) (width : Nat) : Event :=
  ⟨"0x1", typeName, [], List.replicate width 1⟩

/-- Two events do not fit, and the first of them is told. -/
def changingWidth : List Event :=
  [eventOfWidth "first" 20, eventOfWidth "wider" 32, eventOfWidth "empty" 0]

def firstOnly : Raw :=
  ⟨widthPcr, [eventOfWidth "first" 20]⟩

def tooWide : Violation :=
  .digestLength (.event 1 "wider" widthPcr) .sha1 32

theorem entries_build_alike_changingWidth :
    ofEvents widthPcr changingWidth = .error tooWide ∧
    (empty widthPcr).pushAll changingWidth = .error tooWide ∧
    Runs (Raw.pushAll changingWidth) ⟨widthPcr, []⟩ (.error tooWide) firstOnly ∧
    Runs (Raw.push (eventOfWidth "wider" 32)) firstOnly (.error tooWide)
      (runFrom (Raw.push (eventOfWidth "wider" 32)) firstOnly).2 ∧
    (runFrom (Raw.push (eventOfWidth "wider" 32)) firstOnly).2 = firstOnly ∧
    Raw.Reachable firstOnly := by
  have alike := entries_build_alike.1 widthPcr changingWidth
  have misfit : FirstMisfit .sha1 changingWidth firstOnly.events (eventOfWidth "wider" 32) :=
    ⟨⟨[eventOfWidth "empty" 0], rfl⟩, by decide, by decide⟩
  have refused : ofEvents widthPcr changingWidth = .error tooWide :=
    (alike.fails tooWide).mpr ⟨_, _, misfit, rfl⟩
  have failed : Runs (Raw.push (eventOfWidth "wider" 32)) firstOnly (.error tooWide)
      (runFrom (Raw.push (eventOfWidth "wider" 32)) firstOnly).2 := rfl
  refine ⟨refused, alike.same.symm.trans refused, ?_, failed,
    entries_build_alike.2.1 _ _ _ _ failed, (entries_build_alike.2.2.2 firstOnly).mpr misfit.fit⟩
  exact (alike.inPlace _ _).mpr (.inr ⟨_, _, misfit, refused, rfl, rfl⟩)

end EventLogEntry

end HostAttestation
