import HostAttestation.Proofs.EventLog.Grouping
import HostAttestation.Proofs.Outcome
import HostAttestation.Proofs.Pcr.Value
import HostAttestation.Vcenter.Evidence

/-! # Records of attestation reports

What a value or an event of a report stands for, and that it is accepted exactly if it stands for
something. -/

namespace HostAttestation

namespace Vcenter

variable {α : Type}

theorem causesOf_eq_ok_iff {result : Except Violation α} {value : α} :
    causesOf result = .ok value ↔ result = .ok value :=
  Outcome.mapError_eq_ok_iff

theorem within_eq_ok_iff {record : String} {result : Checked α} {value : α} :
    within record result = .ok value ↔ result = .ok value :=
  Outcome.mapError_eq_ok_iff

theorem index_eq_ok_iff (number : Int) (index : PcrIndex) :
    Vcenter.index number = .ok index ↔ number = index.value := by
  unfold Vcenter.index
  split
  next negative =>
    have different : number ≠ index.value := by omega
    simp [different]
  next => rw [causesOf_eq_ok_iff, PcrIndex.ofInt_eq_ok_iff]

/-! ## Values -/

/-- The register value of a record. -/
structure DigestInfo.Gives (info : DigestInfo) (value : PcrValue) : Prop where
  index : info.pcrNumber = value.pcr.index.value
  bank : HashAlgorithm.parse? info.method = some value.pcr.bank
  digest : info.value = value.digest

theorem DigestInfo.pcrValue_eq_ok_iff (info : DigestInfo) (value : PcrValue) :
    info.pcrValue = .ok value ↔ info.Gives value := by
  rw [pcrValue, within_eq_ok_iff]
  constructor
  · intro succeeds
    rcases Outcome.bind_eq_ok_iff.mp succeeds with ⟨index, indexed, succeeds⟩
    rcases Outcome.bind_eq_ok_iff.mp succeeds with ⟨bank, parsed, checked⟩
    rw [causesOf_eq_ok_iff] at parsed checked
    rcases (PcrValue.ofDigest_eq_ok_iff _ _ _).mp checked with ⟨named, same⟩
    refine ⟨?_, ?_, same.symm⟩
    · rw [named]
      exact (index_eq_ok_iff _ _).mp indexed
    · rw [named]
      exact (PcrBank.parse_eq_ok_iff _ _).mp parsed
  · rintro ⟨indexed, known, same⟩
    refine Outcome.bind_eq_ok_iff.mpr ⟨_, (index_eq_ok_iff _ _).mpr indexed, ?_⟩
    refine Outcome.bind_eq_ok_iff.mpr
      ⟨_, causesOf_eq_ok_iff.mpr ((PcrBank.parse_eq_ok_iff _ _).mpr known), ?_⟩
    exact causesOf_eq_ok_iff.mpr ((PcrValue.ofDigest_eq_ok_iff _ _ _).mpr ⟨rfl, same.symm⟩)

/-! ## Events -/

/-- The bank and the measurement of an event with the given hash method, if any, and digest. -/
inductive Measures :
    (method : Option String) → (digest : Bytes) → PcrBank → (measurement : Bytes) → Prop
  | declared (method : String) (digest : Bytes) (bank : PcrBank)
      (known : HashAlgorithm.parse? method = some bank) : Measures (some method) digest bank digest
  | inferred (digest : Bytes) (bank : PcrBank) (width : digest.length = bank.digestLength) :
      Measures none digest bank digest
  | legacyZero : Measures none (List.replicate 40 0) .sha1 (List.replicate 20 0)

theorem isLegacyZero_iff (digest : Bytes) :
    isLegacyZero digest ↔ digest = List.replicate 40 0 := by
  rw [List.eq_replicate_iff, isLegacyZero, Bool.and_eq_true, decide_eq_true_iff]
  simp [legacyZeroLength]

theorem eventBank_eq_ok_iff (method : Option String) (digest : Bytes) (bank : PcrBank)
    (measurement : Bytes) :
    eventBank method digest = .ok (bank, measurement) ↔
      Measures method digest bank measurement := by
  cases method with
  | some name =>
      rw [eventBank, Outcome.map_eq_ok_iff]
      constructor
      · rintro ⟨parsed, succeeds, equal⟩
        cases equal
        rw [causesOf_eq_ok_iff, PcrBank.parse_eq_ok_iff] at succeeds
        exact .declared name digest bank succeeds
      · intro measures
        cases measures with
        | declared _ _ _ known =>
            exact ⟨bank, causesOf_eq_ok_iff.mpr ((PcrBank.parse_eq_ok_iff _ _).mpr known), rfl⟩
  | none =>
      by_cases legacy : digest = List.replicate 40 0
      · subst legacy
        constructor
        · intro succeeds
          cases succeeds
          exact .legacyZero
        · intro measures
          cases measures with
          | inferred _ _ width =>
              -- No bank has the width of the digest.
              cases bank <;> simp [HashAlgorithm.digestLength] at width
          | legacyZero => rfl
      · have kept : ¬isLegacyZero digest := fun zero => legacy ((isLegacyZero_iff digest).mp zero)
        rw [eventBank, if_neg kept]
        constructor
        · intro succeeds
          split at succeeds
          next found =>
            cases succeeds
            exact .inferred digest bank
              ((HashAlgorithm.ofDigestLength?_eq_some_iff _ _).mp found).symm
          next => cases succeeds
        · intro measures
          cases measures with
          | inferred _ _ width =>
              rw [(HashAlgorithm.ofDigestLength?_eq_some_iff _ _).mpr width.symm]
          | legacyZero => exact absurd rfl legacy

/-- The register that an event was extended into, and its canonical form. -/
structure EventRecord.Gives (record : EventRecord) (pcr : PcrId) (event : Event) : Prop where
  index : record.pcrIndex = pcr.index.value
  typeId : event.typeId = record.details.detail.typeId
  typeName : event.typeName = record.details.detail.typeName
  tags : event.tags = record.details.detail.tags
  measured : Measures record.details.method record.details.digest pcr.bank event.measurement
  fits : event.Fits pcr.bank

namespace EventRecord

theorem entry_eq_ok_iff (record : EventRecord) (entry : EventLogEntry) :
    record.entry = .ok entry ↔ ∃ event, entry.events = [event] ∧ record.Gives entry.pcr event := by
  constructor
  · intro succeeds
    rcases Outcome.bind_eq_ok_iff.mp succeeds with ⟨index, indexed, succeeds⟩
    rcases Outcome.bind_eq_ok_iff.mp succeeds with ⟨⟨bank, measurement⟩, measured, checked⟩
    rw [within_eq_ok_iff, eventBank_eq_ok_iff] at measured
    rw [causesOf_eq_ok_iff, EventLogEntry.ofEvents_eq_ok_iff] at checked
    rcases checked with ⟨named, events⟩
    refine ⟨_, events, ?_, rfl, rfl, rfl, ?_, entry.fit _ (by simp [events])⟩
    · rw [named]
      exact (index_eq_ok_iff _ _).mp indexed
    · rw [named]
      exact measured
  · rintro ⟨⟨typeId, typeName, tags, measurement⟩, events, indexed, rfl, rfl, rfl, measured, fits⟩
    refine Outcome.bind_eq_ok_iff.mpr ⟨_, (index_eq_ok_iff _ _).mpr indexed, ?_⟩
    refine Outcome.bind_eq_ok_iff.mpr
      ⟨(_, _), within_eq_ok_iff.mpr ((eventBank_eq_ok_iff _ _ _ _).mpr measured), ?_⟩
    exact causesOf_eq_ok_iff.mpr ((EventLogEntry.ofEvents_eq_ok_iff _ _ _).mpr ⟨rfl, events⟩)

/-- The entry of a record that gives an event. -/
theorem entry_of_gives {record : EventRecord} {pcr : PcrId} {event : Event}
    (gives : record.Gives pcr event) :
    record.entry = .ok ⟨pcr, [event], by simpa using gives.fits⟩ :=
  (record.entry_eq_ok_iff _).mpr ⟨event, rfl, gives⟩

theorem eq_of_gives {record : EventRecord} {pcr otherPcr : PcrId} {event otherEvent : Event}
    (gives : record.Gives pcr event) (otherGives : record.Gives otherPcr otherEvent) :
    pcr = otherPcr ∧ event = otherEvent := by
  have same := entry_of_gives gives
  rw [entry_of_gives otherGives] at same
  cases same
  exact ⟨rfl, rfl⟩

end EventRecord

end Vcenter

end HostAttestation
