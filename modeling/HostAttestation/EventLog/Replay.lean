import HostAttestation.EventLog.Entry

/-! # Replaying measurements

A register can only be extended, so replaying a complete log from the reset value gives the value
that the platform reports. -/

namespace HostAttestation

namespace Replay

/-- Extends the measurements into a state, the first one being at a position of the log. -/
def continueFrom (bank : PcrBank) : (position : Nat) → (state : Bytes) → List Bytes →
    Except Violation Bytes
  | _, state, [] => .ok state
  | position, state, measurement :: rest => do
      PcrBank.checkDigest bank (.measurement position) measurement
      continueFrom bank (position + 1) (bank.extend state measurement) rest

def measurements (bank : PcrBank) (list : List Bytes) : Except Violation Bytes :=
  continueFrom bank 0 bank.zeroDigest list

end Replay

/-- Replays the events of an entry in the order of the log. -/
def EventLogEntry.replay (entry : EventLogEntry) : Except Violation Bytes :=
  Replay.measurements entry.pcr.bank (entry.events.map Event.measurement)

end HostAttestation
