import HostAttestation.Pcr.Table

/-! # Event log entries

The events extended into one register, in the order of the platform. Every measurement has the
width of the register's bank. Main statement: a list of events is refused for the first event
that has not. -/

namespace HostAttestation

/-- One measurement extended into a register. -/
structure Event where
  typeId : String
  typeName : String
  tags : List String
  measurement : Bytes
  deriving DecidableEq

def Event.Fits (event : Event) (bank : PcrBank) : Prop :=
  event.measurement.length = bank.digestLength

instance (event : Event) (bank : PcrBank) : Decidable (event.Fits bank) :=
  inferInstanceAs (Decidable (_ = _))

structure EventLogEntry where
  pcr : PcrId
  events : List Event
  fit : ∀ event ∈ events, event.Fits pcr.bank
  deriving DecidableEq

namespace EventLogEntry

def empty (pcr : PcrId) : EventLogEntry :=
  ⟨pcr, [], by simp⟩

/-- What is wrong with an event at a position of the log. -/
def violation (pcr : PcrId) (position : Nat) (event : Event) : Violation :=
  .digestLength (.event position event.typeName pcr) pcr.bank event.measurement.length

/-- The violation of the first event that does not fit, the list starting at a position. -/
def firstViolation? (pcr : PcrId) : (position : Nat) → List Event → Option Violation
  | _, [] => none
  | position, event :: rest =>
      if event.Fits pcr.bank then firstViolation? pcr (position + 1) rest
      else some (violation pcr position event)

theorem firstViolation?_eq_none_iff (pcr : PcrId) (position : Nat) (events : List Event) :
    firstViolation? pcr position events = none ↔ ∀ event ∈ events, event.Fits pcr.bank := by
  induction events generalizing position with
  | nil => simp [firstViolation?]
  | cons event rest induction =>
      rw [firstViolation?]
      split <;> simp_all

def ofEvents (pcr : PcrId) (events : List Event) : Except Violation EventLogEntry :=
  match outcome : firstViolation? pcr 0 events with
  | some violation => .error violation
  | none => .ok ⟨pcr, events, (firstViolation?_eq_none_iff pcr 0 events).mp outcome⟩

/-- Appends an event at the end of the log. -/
def push (entry : EventLogEntry) (event : Event) : Except Violation EventLogEntry :=
  if fits : event.Fits entry.pcr.bank then
    .ok ⟨entry.pcr, entry.events ++ [event], fun other member => by
      rcases List.mem_append.mp member with member | member
      · exact entry.fit other member
      · rw [List.mem_singleton.mp member]; exact fits⟩
  else .error (violation entry.pcr entry.events.length event)

/-- The log continued by another one of the same register. -/
def append (entry other : EventLogEntry) (same : other.pcr = entry.pcr) : EventLogEntry :=
  ⟨entry.pcr, entry.events ++ other.events, fun event member => by
    rcases List.mem_append.mp member with member | member
    · exact entry.fit event member
    · exact same ▸ other.fit event member⟩

/-- Continues the log if the other one is of the same register. -/
def merge (entry other : EventLogEntry) : EventLogEntry :=
  if same : other.pcr = entry.pcr then entry.append other same else entry

@[simp]
theorem pcr_merge (entry other : EventLogEntry) : (entry.merge other).pcr = entry.pcr := by
  unfold merge
  split <;> rfl

end EventLogEntry

/-! ## Documents -/

namespace Event

def fields : Json.Fields Violation Event :=
  Event.mk <$> .required "type_id" Json.Reader.text <*> .required "type_name" Json.Reader.text <*>
    .defaulted "tags" (Json.Reader.list Json.Reader.text) [] <*>
    .required "measurement" (Json.Reader.encoded Hex.decode?)

def read : Decoding Event :=
  fields.read

def toJson (event : Event) : Json :=
  .object ([("type_id", .string event.typeId), ("type_name", .string event.typeName)] ++
    Json.unlessEmpty "tags" Json.texts event.tags ++
    [("measurement", .string (Hex.encode event.measurement))])

end Event

namespace EventLogEntry

/-- The events may also be listed under their older key. -/
def fields : Json.Fields Violation (PcrId × List Event) :=
  Prod.mk <$> .required "pcr" PcrId.read <*>
    .member ["tpm_events", "events"] (Json.Reader.list Event.read) (.ok [])

def read : Decoding EventLogEntry :=
  Json.Reader.checked fields.read fun (pcr, events) => ofEvents pcr events

def toJson (entry : EventLogEntry) : Json :=
  .object [("pcr", entry.pcr.toJson), ("tpm_events", .array (entry.events.map Event.toJson))]

end EventLogEntry

end HostAttestation
