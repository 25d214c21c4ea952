import HostAttestation.Proofs.EventLog.Replay
import HostAttestation.Proofs.Manifest.Verification
import Mathlib.Data.List.Induction

/-! # Tampering with a log

A log that was changed and still replays to the same value gives a collision of the hash away, or
a measurement that takes a register back to its reset value. The two strings that collide are
hashed by the replays themselves, at the same distance from their ends. -/

namespace HostAttestation

namespace Replay

/-- The string hashed in the step that so many others follow: the register so far and the
measurement. -/
def Hashes (bank : PcrBank) (list : List Bytes) (following : Nat) (message : Bytes) : Prop :=
  ∃ before measurement after, list = before ++ measurement :: after ∧ after.length = following ∧
    message = register bank before ++ measurement

/-- Two replays hash different strings to one digest at the same distance from their ends. -/
def Collide (bank : PcrBank) (first second : List Bytes) : Prop :=
  ∃ following left right, Hashes bank first following left ∧ Hashes bank second following right ∧
    left ≠ right ∧ bank.digest left = bank.digest right

/-- Some step of a replay ends in the value of a register after its reset. -/
def ReturnsToReset (bank : PcrBank) (list : List Bytes) : Prop :=
  ∃ before after, before ≠ [] ∧ list = before ++ after ∧ register bank before = bank.zeroDigest

theorem hashes_last (bank : PcrBank) (list : List Bytes) (measurement : Bytes) :
    Hashes bank (list ++ [measurement]) 0 (register bank list ++ measurement) :=
  ⟨list, measurement, [], rfl, rfl, rfl⟩

theorem Hashes.concat {bank : PcrBank} {list : List Bytes} {following : Nat} {message : Bytes}
    (hashed : Hashes bank list following message) (last : Bytes) :
    Hashes bank (list ++ [last]) (following + 1) message := by
  rcases hashed with ⟨before, measurement, after, rfl, rfl, rfl⟩
  exact ⟨before, measurement, after ++ [last], by simp, by simp, rfl⟩

theorem Collide.concat {bank : PcrBank} {first second : List Bytes}
    (collision : Collide bank first second) (firstLast secondLast : Bytes) :
    Collide bank (first ++ [firstLast]) (second ++ [secondLast]) := by
  rcases collision with ⟨following, left, right, hashesLeft, hashesRight, different, same⟩
  exact ⟨following + 1, left, right, hashesLeft.concat firstLast, hashesRight.concat secondLast,
    different, same⟩

theorem ReturnsToReset.concat {bank : PcrBank} {list : List Bytes}
    (returns : ReturnsToReset bank list) (last : Bytes) :
    ReturnsToReset bank (list ++ [last]) := by
  rcases returns with ⟨before, after, nonempty, rfl, reset⟩
  exact ⟨before, after ++ [last], nonempty, by simp, reset⟩

theorem returnsToReset_of_register {bank : PcrBank} {list : List Bytes} (nonempty : list ≠ [])
    (reset : register bank list = bank.zeroDigest) : ReturnsToReset bank list :=
  ⟨list, [], nonempty, by simp, reset⟩

/-- One step backwards: the same digest comes from the same register and measurement, because
the register has the same width on both sides, or from a collision in this step. -/
theorem eq_or_collide_of_register_concat (bank : PcrBank) (first second : List Bytes)
    (firstLast secondLast : Bytes)
    (same : register bank (first ++ [firstLast]) = register bank (second ++ [secondLast])) :
    (register bank first = register bank second ∧ firstLast = secondLast) ∨
      Collide bank (first ++ [firstLast]) (second ++ [secondLast]) := by
  rw [register_concat, register_concat] at same
  by_cases equal : register bank first ++ firstLast = register bank second ++ secondLast
  · have widths : (register bank first).length = (register bank second).length := by
      rw [length_register, length_register]
    exact .inl (List.append_inj equal widths)
  · exact .inr ⟨0, _, _, hashes_last bank first firstLast, hashes_last bank second secondLast,
      equal, same⟩

/-- What two different lists with the same replay give away. -/
def Exposed (bank : PcrBank) (first second : List Bytes) : Prop :=
  Collide bank first second ∨ ReturnsToReset bank first ∨ ReturnsToReset bank second

theorem Exposed.concat {bank : PcrBank} {first second : List Bytes}
    (exposed : Exposed bank first second) (firstLast secondLast : Bytes) :
    Exposed bank (first ++ [firstLast]) (second ++ [secondLast]) := by
  rcases exposed with collision | returns | returns
  · exact .inl (collision.concat firstLast secondLast)
  · exact .inr (.inl (returns.concat firstLast))
  · exact .inr (.inr (returns.concat secondLast))

/-- The induction runs backwards from the last measurements; if one list is used up before the
other, what is left of the other ends in the reset value. -/
theorem eq_or_exposed_of_register_eq (bank : PcrBank) (first second : List Bytes)
    (same : register bank first = register bank second) :
    first = second ∨ Exposed bank first second := by
  induction first using List.reverseRecOn generalizing second with
  | nil =>
      by_cases empty : second = []
      · exact .inl empty.symm
      · exact .inr (.inr (.inr (returnsToReset_of_register empty same.symm)))
  | append_singleton first firstLast induction =>
      rcases List.eq_nil_or_concat second with rfl | ⟨second, secondLast, rfl⟩
      · exact .inr (.inr (.inl (returnsToReset_of_register (by simp) same)))
      · rw [List.concat_eq_append] at same ⊢
        rcases eq_or_collide_of_register_concat bank first second firstLast secondLast same with
          ⟨sameBefore, rfl⟩ | collision
        · rcases induction second sameBefore with rfl | exposed
          · exact .inl rfl
          · exact .inr (exposed.concat _ _)
        · exact .inr (.inl collision)

end Replay

/-- The log of a verified manifest replays to the value reported for its register. -/
theorem PcrManifest.register_eq_of_verified {manifest : PcrManifest}
    (verified : manifest.verifyEventLogs = .ok ()) {pcr : PcrId} {value : PcrValue}
    {entry : EventLogEntry} (reported : manifest.values.find? pcr = some value)
    (logged : manifest.eventLogs.find? pcr = some entry) :
    Replay.register pcr.bank (entry.events.map Event.measurement) = value.digest := by
  rcases (PcrTable.find?_eq_some_iff _ _ _).mp logged with ⟨member, rfl⟩
  rcases (verifyEventLogs_eq_ok_iff manifest).mp verified entry member with
    ⟨other, otherReported, replayed⟩
  rw [reported] at otherReported
  cases otherReported
  exact replayed

/-- Replays to one digest come from one list of measurements, and so do logs that two verified
manifests hold for one register with one value, unless the replays expose a tampering. -/
theorem eq_or_exposed_of_replay_eq :
    (∀ (bank : PcrBank) (first second : List Bytes) (digest : Bytes),
      Replay.measurements bank first = .ok digest →
      Replay.measurements bank second = .ok digest →
      first = second ∨ Replay.Exposed bank first second) ∧
    ∀ (left right : PcrManifest) (pcr : PcrId) (leftValue rightValue : PcrValue)
      (leftEntry rightEntry : EventLogEntry),
      left.verifyEventLogs = .ok () → right.verifyEventLogs = .ok () →
      left.values.find? pcr = some leftValue → right.values.find? pcr = some rightValue →
      leftValue.digest = rightValue.digest →
      left.eventLogs.find? pcr = some leftEntry → right.eventLogs.find? pcr = some rightEntry →
      leftEntry.events.map Event.measurement = rightEntry.events.map Event.measurement ∨
        Replay.Exposed pcr.bank (leftEntry.events.map Event.measurement)
          (rightEntry.events.map Event.measurement) := by
  constructor
  · intro bank first second digest firstReplay secondReplay
    apply Replay.eq_or_exposed_of_register_eq
    rw [← ((Replay.measurements_eq_ok_iff bank first digest).mp firstReplay).2,
      ← ((Replay.measurements_eq_ok_iff bank second digest).mp secondReplay).2]
  · intro left right pcr leftValue rightValue leftEntry rightEntry leftVerified rightVerified
      leftReported rightReported sameValue leftLogged rightLogged
    apply Replay.eq_or_exposed_of_register_eq
    rw [PcrManifest.register_eq_of_verified leftVerified leftReported leftLogged,
      PcrManifest.register_eq_of_verified rightVerified rightReported rightLogged, sameValue]

/-- The value that a log replays to. -/
def EventLogEntry.value (entry : EventLogEntry) : PcrValue :=
  ⟨entry.pcr, entry.register, Replay.length_register _ _⟩

/-- The manifest of a single log. -/
def PcrManifest.ofEntry (entry : EventLogEntry) : PcrManifest where
  values := ⟨[entry.value], by simp⟩
  eventLogs := ⟨[entry], by simp⟩

theorem PcrManifest.verifyEventLogs_ofEntry (entry : EventLogEntry) :
    (ofEntry entry).verifyEventLogs = .ok () := by
  rw [verifyEventLogs_eq_ok_iff]
  intro other member
  rw [List.mem_singleton.mp member]
  exact ⟨entry.value, by simp [ofEntry, PcrTable.find?, EventLogEntry.value], rfl⟩

/-- A log of two events, the second of which may go by any name. -/
def EventLogEntry.named (typeName : String) : EventLogEntry where
  pcr := ⟨⟨18, by decide⟩, .sha256⟩
  events := [⟨"0x402", "HASH", [], List.replicate 32 3⟩, ⟨"0x402", typeName, [], List.replicate 32 7⟩]
  fit := by simp [Event.Fits, HashAlgorithm.digestLength]

/-- The same measurements under different names make different logs that verify with one value. -/
theorem eq_or_exposed_of_renamed_event :
    EventLogEntry.named "HASH" ≠ EventLogEntry.named "SEPARATOR" ∧
    Replay.measurements .sha1 [List.replicate 20 5] =
      .ok (Replay.register .sha1 [List.replicate 20 5]) ∧
    (PcrManifest.ofEntry (.named "HASH")).verifyEventLogs = .ok () ∧
    (PcrManifest.ofEntry (.named "SEPARATOR")).verifyEventLogs = .ok () ∧
    (([List.replicate 20 5] : List Bytes) = [List.replicate 20 5] ∨
      Replay.Exposed .sha1 [List.replicate 20 5] [List.replicate 20 5]) ∧
    ((EventLogEntry.named "HASH").events.map Event.measurement =
        (EventLogEntry.named "SEPARATOR").events.map Event.measurement ∨
      Replay.Exposed .sha256 ((EventLogEntry.named "HASH").events.map Event.measurement)
        ((EventLogEntry.named "SEPARATOR").events.map Event.measurement)) := by
  have replayed : Replay.measurements .sha1 [List.replicate 20 5] =
      .ok (Replay.register .sha1 [List.replicate 20 5]) :=
    (Replay.measurements_eq_ok_iff _ _ _).mpr ⟨by decide, rfl⟩
  have first := PcrManifest.verifyEventLogs_ofEntry (.named "HASH")
  have second := PcrManifest.verifyEventLogs_ofEntry (.named "SEPARATOR")
  refine ⟨by simp [EventLogEntry.named], replayed, first, second,
    eq_or_exposed_of_replay_eq.1 _ _ _ _ replayed replayed,
    eq_or_exposed_of_replay_eq.2 _ _ ⟨⟨18, by decide⟩, .sha256⟩ _ _ _ _ first second rfl rfl rfl
      rfl rfl⟩

end HostAttestation
