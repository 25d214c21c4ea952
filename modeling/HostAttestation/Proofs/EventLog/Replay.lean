import HostAttestation.EventLog.Replay

/-! # Replays as folds

A replay is the fold of the extension over the measurements, and it gives a result exactly if
every measurement has the width of the bank. The events of a log entry always have it. -/

namespace HostAttestation

namespace Replay

/-- What a register holds after measurements were extended into a state. -/
def extendAll (bank : PcrBank) (state : Bytes) (list : List Bytes) : Bytes :=
  list.foldl bank.extend state

/-- What a register holds after measurements were extended into it since its reset. -/
def register (bank : PcrBank) (list : List Bytes) : Bytes :=
  extendAll bank bank.zeroDigest list

@[simp]
theorem register_nil (bank : PcrBank) : register bank [] = bank.zeroDigest :=
  rfl

theorem register_concat (bank : PcrBank) (list : List Bytes) (measurement : Bytes) :
    register bank (list ++ [measurement]) = bank.digest (register bank list ++ measurement) := by
  simp [register, extendAll, HashAlgorithm.extend]

theorem length_register (bank : PcrBank) (list : List Bytes) :
    (register bank list).length = bank.digestLength := by
  rcases List.eq_nil_or_concat list with rfl | ⟨before, measurement, rfl⟩
  · simp
  · rw [List.concat_eq_append, register_concat, HashAlgorithm.length_digest]

theorem continueFrom_eq_ok_iff (bank : PcrBank) (position : Nat) (state : Bytes)
    (list : List Bytes) (result : Bytes) :
    continueFrom bank position state list = .ok result ↔
      (∀ measurement ∈ list, measurement.length = bank.digestLength) ∧
        result = extendAll bank state list := by
  induction list generalizing position state with
  | nil => simp [continueFrom, extendAll, eq_comm]
  | cons measurement rest induction =>
      rw [continueFrom, PcrBank.checkDigest, List.forall_mem_cons]
      by_cases width : measurement.length = bank.digestLength
      · rw [if_pos width]
        change continueFrom bank (position + 1) (bank.extend state measurement) rest = .ok result ↔ _
        rw [induction]
        simp [width, extendAll]
      · rw [if_neg width]
        simp [width, bind, Except.bind]

theorem measurements_eq_ok_iff (bank : PcrBank) (list : List Bytes) (result : Bytes) :
    measurements bank list = .ok result ↔
      (∀ measurement ∈ list, measurement.length = bank.digestLength) ∧
        result = register bank list :=
  continueFrom_eq_ok_iff bank 0 bank.zeroDigest list result

end Replay

/-- The register of an entry after its events. -/
def EventLogEntry.register (entry : EventLogEntry) : Bytes :=
  Replay.register entry.pcr.bank (entry.events.map Event.measurement)

theorem EventLogEntry.width_of_mem_measurements (entry : EventLogEntry) :
    ∀ measurement ∈ entry.events.map Event.measurement,
      measurement.length = entry.pcr.bank.digestLength := by
  intro measurement member
  rcases List.mem_map.mp member with ⟨event, eventMember, rfl⟩
  exact entry.fit event eventMember

theorem EventLogEntry.replay_eq (entry : EventLogEntry) : entry.replay = .ok entry.register :=
  (Replay.measurements_eq_ok_iff _ _ _).mpr ⟨entry.width_of_mem_measurements, rfl⟩

end HostAttestation
