import HostAttestation.Proofs.EventLog.Groups
import HostAttestation.Proofs.EventLog.Replay

/-! # Replays that are resumed

A replay stops at the first measurement that has not the width of the bank, and tells its position.
One that came to the end of a list can be resumed with more measurements, as if there had been one
list. So a log that was merged from several ones is replayed part by part. -/

namespace HostAttestation

namespace Replay

/-- Whether a measurement can be extended into a register of the bank. -/
def HasWidth (bank : PcrBank) (measurement : Bytes) : Prop :=
  measurement.length = bank.digestLength

/-- The first measurement that has not the width of the bank stands in the list, behind so many
others, and is so long. -/
def Misfit (bank : PcrBank) (list : List Bytes) (position length : Nat) : Prop :=
  ∃ before measurement after, list = before ++ measurement :: after ∧
    before.length = position ∧ measurement.length = length ∧
    (∀ other ∈ before, HasWidth bank other) ∧ ¬HasWidth bank measurement

theorem misfit_cons_of_not_hasWidth {bank : PcrBank} {measurement : Bytes}
    (misfits : ¬HasWidth bank measurement) (rest : List Bytes) (position length : Nat) :
    Misfit bank (measurement :: rest) position length ↔
      position = 0 ∧ length = measurement.length := by
  constructor
  · intro found
    rcases found with ⟨before, other, after, split, rfl, rfl, wide, -⟩
    cases before with
    | nil =>
        cases split
        exact ⟨rfl, rfl⟩
    | cons first others =>
        cases split
        exact absurd (wide measurement List.mem_cons_self) misfits
  · rintro ⟨rfl, rfl⟩
    exact ⟨[], measurement, rest, rfl, rfl, rfl, by simp, misfits⟩

theorem misfit_cons_of_hasWidth {bank : PcrBank} {measurement : Bytes}
    (wide : HasWidth bank measurement) (rest : List Bytes) (position length : Nat) :
    Misfit bank (measurement :: rest) position length ↔
      ∃ previous, Misfit bank rest previous length ∧ position = previous + 1 := by
  constructor
  · intro found
    rcases found with ⟨before, other, after, split, rfl, rfl, others, misfits⟩
    cases before with
    | nil =>
        cases split
        exact absurd wide misfits
    | cons first before =>
        cases split
        have wideBefore := (List.forall_mem_cons.mp others).2
        exact ⟨before.length, ⟨before, other, after, rfl, rfl, rfl, wideBefore, misfits⟩, rfl⟩
  · rintro ⟨previous, ⟨before, other, after, rfl, rfl, rfl, others, misfits⟩, rfl⟩
    exact ⟨measurement :: before, other, after, rfl, rfl, rfl,
      List.forall_mem_cons.mpr ⟨wide, others⟩, misfits⟩

theorem continueFrom_cons_of_hasWidth {bank : PcrBank} {measurement : Bytes}
    (wide : HasWidth bank measurement) (position : Nat) (state : Bytes) (rest : List Bytes) :
    continueFrom bank position state (measurement :: rest) =
      continueFrom bank (position + 1) (bank.extend state measurement) rest := by
  unfold HasWidth at wide
  rw [continueFrom, PcrBank.checkDigest, if_pos wide]
  rfl

theorem continueFrom_cons_of_not_hasWidth {bank : PcrBank} {measurement : Bytes}
    (misfits : ¬HasWidth bank measurement) (position : Nat) (state : Bytes) (rest : List Bytes) :
    continueFrom bank position state (measurement :: rest) =
      .error (.digestLength (.measurement position) bank measurement.length) := by
  unfold HasWidth at misfits
  rw [continueFrom, PcrBank.checkDigest, if_neg misfits]
  rfl

/-- By induction on the list, the state being whatever was reached and the position counting what
came before. -/
theorem continueFrom_eq_error_iff (bank : PcrBank) (position : Nat) (state : Bytes)
    (list : List Bytes) (violation : Violation) :
    continueFrom bank position state list = .error violation ↔
      ∃ behind length, Misfit bank list behind length ∧
        violation = .digestLength (.measurement (position + behind)) bank length := by
  induction list generalizing position state with
  | nil =>
      constructor
      · intro fails
        cases fails
      · rintro ⟨_, _, ⟨before, _, _, split, _⟩, _⟩
        cases before <;> cases split
  | cons measurement rest induction =>
      by_cases wide : HasWidth bank measurement
      · rw [continueFrom_cons_of_hasWidth wide, induction]
        simp only [misfit_cons_of_hasWidth wide]
        constructor
        · rintro ⟨behind, length, misfit, rfl⟩
          refine ⟨behind + 1, length, ⟨behind, misfit, rfl⟩, ?_⟩
          rw [Nat.add_assoc, Nat.add_comm 1 behind]
        · rintro ⟨_, length, ⟨behind, misfit, rfl⟩, rfl⟩
          refine ⟨behind, length, misfit, ?_⟩
          rw [Nat.add_assoc, Nat.add_comm 1 behind]
      · rw [continueFrom_cons_of_not_hasWidth wide]
        simp [misfit_cons_of_not_hasWidth wide, eq_comm]

theorem continueFrom_append (bank : PcrBank) (position : Nat) (state : Bytes)
    (first second : List Bytes) :
    continueFrom bank position state (first ++ second) =
      continueFrom bank position state first >>= fun reached =>
        continueFrom bank (position + first.length) reached second := by
  induction first generalizing position state with
  | nil => rfl
  | cons measurement rest induction =>
      rw [List.cons_append]
      by_cases wide : HasWidth bank measurement
      · rw [continueFrom_cons_of_hasWidth wide, continueFrom_cons_of_hasWidth wide, induction,
          List.length_cons, Nat.add_assoc, Nat.add_comm 1 rest.length]
      · rw [continueFrom_cons_of_not_hasWidth wide, continueFrom_cons_of_not_hasWidth wide]
        rfl

/-- Exactly the lists of measurements of the right width are replayed, to a digest of that width,
and wherever a list is cut in two, the replay of the first part is resumed with the second one. -/
structure Resumable (bank : PcrBank) (list : List Bytes) : Prop where
  succeeds : (∃ result, measurements bank list = .ok result) ↔
    ∀ measurement ∈ list, HasWidth bank measurement
  fails : ∀ violation, measurements bank list = .error violation ↔
    ∃ position length, Misfit bank list position length ∧
      violation = .digestLength (.measurement position) bank length
  width : ∀ result, measurements bank list = .ok result → result.length = bank.digestLength
  resumed : ∀ result, measurements bank list = .ok result →
    ∀ first second, list = first ++ second →
      ∃ reached, measurements bank first = .ok reached ∧
        continueFrom bank first.length reached second = .ok result ∧
        result = second.foldl bank.extend reached

theorem resumable (bank : PcrBank) (list : List Bytes) : Resumable bank list where
  succeeds := by
    constructor
    · rintro ⟨result, replayed⟩
      exact ((measurements_eq_ok_iff bank list result).mp replayed).1
    · intro wide
      exact ⟨register bank list, (measurements_eq_ok_iff bank list _).mpr ⟨wide, rfl⟩⟩
  fails violation := by
    rw [measurements, continueFrom_eq_error_iff]
    simp only [Nat.zero_add]
  width result replayed := by
    rw [((measurements_eq_ok_iff bank list result).mp replayed).2]
    exact length_register bank list
  resumed result replayed first second split := by
    rw [split, measurements, continueFrom_append] at replayed
    rcases Outcome.bind_eq_ok_iff.mp replayed with ⟨reached, begun, resumed⟩
    rw [Nat.zero_add] at resumed
    exact ⟨reached, begun, resumed, ((continueFrom_eq_ok_iff _ _ _ _ _).mp resumed).2⟩

end Replay

namespace EventLogEntry

/-- The events of all entries of a register are those of the first one, and then those of the
others. -/
theorem eventsOf_of_filter_eq_cons {pcr : PcrId} {entries : List EventLogEntry}
    {first : EventLogEntry} {others : List EventLogEntry}
    (several : (entries.filter fun entry => entry.pcr = pcr) = first :: others) :
    eventsOf pcr entries = first.events ++ others.flatMap events := by
  rw [eventsOf, several, List.flatMap_cons]

theorem mem_map_pcr_of_filter_eq_cons {pcr : PcrId} {entries : List EventLogEntry}
    {first : EventLogEntry} {others : List EventLogEntry}
    (several : (entries.filter fun entry => entry.pcr = pcr) = first :: others) :
    first.pcr = pcr ∧ pcr ∈ entries.map EventLogEntry.pcr := by
  have member : first ∈ entries.filter fun entry => entry.pcr = pcr := by
    rw [several]
    exact List.mem_cons_self
  rcases List.mem_filter.mp member with ⟨listed, named⟩
  have same : first.pcr = pcr := of_decide_eq_true named
  exact ⟨same, List.mem_map.mpr ⟨first, listed, same⟩⟩

/-- The replay of a merged entry is the replay of the first one, resumed with the events of the
others in the order of arrival. -/
theorem replay_gathered {pcr : PcrId} {entries : List EventLogEntry} {first : EventLogEntry}
    {others : List EventLogEntry}
    (several : (entries.filter fun entry => entry.pcr = pcr) = first :: others) :
    (gathered pcr entries).replay =
      .ok (((others.flatMap events).map Event.measurement).foldl pcr.bank.extend
        first.register) := by
  have same := (mem_map_pcr_of_filter_eq_cons several).1
  rw [replay_eq, register, register, same]
  change Except.ok (Replay.register pcr.bank ((eventsOf pcr entries).map Event.measurement)) = _
  rw [eventsOf_of_filter_eq_cons several, List.map_append, Replay.register, Replay.extendAll,
    List.foldl_append]
  rfl

end EventLogEntry

open Replay in
/-- Whatever the measurements are, and whatever entries were merged. -/
theorem replay_is_resumable :
    (∀ bank list, Resumable bank list) ∧
      ∀ (entries : List EventLogEntry) (pcr : PcrId) (first : EventLogEntry)
        (others : List EventLogEntry),
        (entries.filter fun entry => entry.pcr = pcr) = first :: others →
          ∃ groups merged reached, EventLogGroups.ofEntries entries = .ok groups ∧
            groups.lookup? EventLogEntry.pcr pcr = some merged ∧ first.replay = .ok reached ∧
            merged.replay =
              .ok (((others.flatMap EventLogEntry.events).map Event.measurement).foldl
                pcr.bank.extend reached) := by
  refine ⟨resumable, fun entries pcr first others several => ?_⟩
  have listed := (EventLogEntry.mem_map_pcr_of_filter_eq_cons several).2
  refine ⟨_, .gathered pcr entries, first.register, EventLogGroups.ofEntries_eq entries, ?_,
    first.replay_eq, EventLogEntry.replay_gathered several⟩
  rw [PcrTable.lookup?_groups, EventLogMap.find?_ofEntries, if_pos listed]

/-! ## A log in two parts -/

def resumedPcr : PcrId :=
  ⟨⟨16, by decide⟩, .sha1⟩

/-- A log of one event in the bank of the narrowest digests. -/
def singleLog (index : PcrIndex) (byte : UInt8) : EventLogEntry :=
  ⟨⟨index, .sha1⟩, [⟨"0x1", "event", [], List.replicate 20 byte⟩], by
    simp [Event.Fits, HashAlgorithm.digestLength]⟩

/-- Between the two parts of the log stands the log of another register. -/
def interruptedLogs : List EventLogEntry :=
  [singleLog ⟨16, by decide⟩ 1, singleLog ⟨17, by decide⟩ 2, singleLog ⟨16, by decide⟩ 3]

theorem replay_is_resumable_interrupted :
    (interruptedLogs.filter fun entry => entry.pcr = resumedPcr) =
      [singleLog ⟨16, by decide⟩ 1, singleLog ⟨16, by decide⟩ 3] ∧
    (∃ groups merged reached, EventLogGroups.ofEntries interruptedLogs = .ok groups ∧
      groups.lookup? EventLogEntry.pcr resumedPcr = some merged ∧
      (singleLog ⟨16, by decide⟩ 1).replay = .ok reached ∧
      merged.replay = .ok (HashAlgorithm.sha1.extend reached (List.replicate 20 3))) ∧
    Replay.measurements .sha1 [List.replicate 20 1, [2], [3]] =
      .error (.digestLength (.measurement 1) .sha1 1) := by
  have several : (interruptedLogs.filter fun entry => entry.pcr = resumedPcr) =
      [singleLog ⟨16, by decide⟩ 1, singleLog ⟨16, by decide⟩ 3] := by
    rfl
  have misfit : Replay.Misfit .sha1 [List.replicate 20 1, [2], [3]] 1 1 := by
    refine ⟨[List.replicate 20 1], [2], [[3]], rfl, rfl, rfl, ?_, ?_⟩
    · simp [Replay.HasWidth, HashAlgorithm.digestLength]
    · simp [Replay.HasWidth, HashAlgorithm.digestLength]
  exact ⟨several, replay_is_resumable.2 _ resumedPcr _ _ several,
    ((replay_is_resumable.1 _ _).fails _).mpr ⟨1, 1, misfit, rfl⟩⟩

end HostAttestation
