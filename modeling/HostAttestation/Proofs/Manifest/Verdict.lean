import HostAttestation.Proofs.EventLog.Tampering
import HostAttestation.Proofs.Manifest.Groups

/-! # Verdicts on manifests

The logs of a manifest are judged one by one in the order of the registers. A log passes if its
register is reported with the value that the events give, one extended after the other into the
reset value. The verdict is what the first log that does not pass has against it. -/

namespace HostAttestation

theorem EventLogEntry.register_eq_foldl (entry : EventLogEntry) :
    entry.register = entry.events.foldl
      (fun state event => entry.pcr.bank.digest (state ++ event.measurement))
      entry.pcr.bank.zeroDigest := by
  rw [register, Replay.register, Replay.extendAll, List.foldl_map]
  rfl

namespace PcrManifest

/-- The register of the log is reported with the value that its events give. -/
def Confirms (manifest : PcrManifest) (entry : EventLogEntry) : Prop :=
  ∃ value ∈ manifest.values.items, value.pcr = entry.pcr ∧ value.digest = entry.register

/-- What a log has against it: its register is not reported, or with another value. -/
inductive Refuses (manifest : PcrManifest) (entry : EventLogEntry) : Violation → Prop
  | missing (unreported : ∀ value ∈ manifest.values.items, value.pcr ≠ entry.pcr) :
      Refuses manifest entry (.missingValue entry.pcr)
  | mismatch {value : PcrValue} (reported : value ∈ manifest.values.items)
      (named : value.pcr = entry.pcr) (different : value.digest ≠ entry.register) :
      Refuses manifest entry (.replayMismatch entry.pcr value.digest entry.register)

variable (manifest : PcrManifest)

/-! ## One log -/

theorem verifyEntry_eq_ok_iff_confirms (entry : EventLogEntry) :
    verifyEntry manifest.values entry = .ok () ↔ manifest.Confirms entry := by
  rw [verifyEntry_eq_ok_iff]
  refine exists_congr fun value => ?_
  rw [PcrTable.find?_eq_some_iff, and_assoc, eq_comm (b := value.digest)]

theorem verifyEntry_eq_error_iff (entry : EventLogEntry) (violation : Violation) :
    verifyEntry manifest.values entry = .error violation ↔ manifest.Refuses entry violation := by
  rw [verifyEntry, entry.replay_eq]
  constructor
  · intro refused
    cases found : manifest.values.find? entry.pcr with
    | none =>
        rw [found] at refused
        cases refused
        exact .missing ((PcrTable.find?_eq_none_iff _ _).mp found)
    | some value =>
        rw [found] at refused
        rcases (PcrTable.find?_eq_some_iff _ _ _).mp found with ⟨reported, named⟩
        by_cases same : entry.register = value.digest
        · simp [same] at refused
        · have violated : .replayMismatch entry.pcr value.digest entry.register = violation := by
            simpa [same] using refused
          rw [← violated]
          exact .mismatch reported named (Ne.symm same)
  · intro refuses
    cases refuses with
    | missing unreported =>
        rw [(PcrTable.find?_eq_none_iff _ _).mpr unreported]
    | mismatch reported named different =>
        rw [(PcrTable.find?_eq_some_iff _ _ _).mpr ⟨reported, named⟩]
        exact if_neg (Ne.symm different)

/-! ## All logs -/

theorem verifyEventLogs_eq_error_iff (violation : Violation) :
    manifest.verifyEventLogs = .error violation ↔
      ∃ entry ∈ manifest.eventLogs.items, manifest.Refuses entry violation ∧
        ∀ earlier ∈ manifest.eventLogs.items, earlier.pcr.Before entry.pcr →
          manifest.Confirms earlier := by
  rw [verifyEventLogs, Outcome.forM_eq_error_iff]
  simp only [verifyEntry_eq_ok_iff_confirms, verifyEntry_eq_error_iff]
  constructor
  · rintro ⟨front, entry, rest, split, confirmed, refused⟩
    refine ⟨entry, by simp [split], refused, fun earlier member before => ?_⟩
    exact confirmed earlier ((PcrTable.mem_front_iff split earlier).mpr ⟨member, before⟩)
  · rintro ⟨entry, member, refused, confirmed⟩
    rcases List.append_of_mem member with ⟨front, rest, split⟩
    refine ⟨front, entry, rest, split, fun earlier inFront => ?_, refused⟩
    have placed := (PcrTable.mem_front_iff split earlier).mp inFront
    exact confirmed earlier placed.1 placed.2

/-- Values of registers without a log do not matter. -/
theorem verifyEventLogs_eq_of_logged {manifest other : PcrManifest}
    (logs : other.eventLogs = manifest.eventLogs)
    (same : ∀ value : PcrValue, value.pcr ∈ manifest.eventLogs.items.map EventLogEntry.pcr →
      (value ∈ other.values.items ↔ value ∈ manifest.values.items)) :
    other.verifyEventLogs = manifest.verifyEventLogs := by
  rw [verifyEventLogs, verifyEventLogs, logs]
  refine Outcome.forM_congr fun entry member => ?_
  have found : other.values.find? entry.pcr = manifest.values.find? entry.pcr := by
    refine Option.ext fun value => ?_
    rw [PcrTable.find?_eq_some_iff, PcrTable.find?_eq_some_iff]
    refine and_congr_left fun named => same value ?_
    rw [named]
    exact List.mem_map_of_mem member
  rw [verifyEntry, verifyEntry, found]

/-- A manifest is accepted exactly if it confirms all of its logs, and otherwise refused for the
first one that it does not confirm. A replay never fails, so that this is all that can be wrong;
without events it ends where it starts. Nothing but the logs and the values of their registers
counts, and it does not matter whether they are kept in tables or in groups. -/
theorem verdict_on_logs (manifest : PcrManifest) :
    (manifest.verifyEventLogs = .ok () ↔
      ∀ entry ∈ manifest.eventLogs.items, manifest.Confirms entry) ∧
    (∀ violation, manifest.verifyEventLogs = .error violation ↔
      ∃ entry ∈ manifest.eventLogs.items, manifest.Refuses entry violation ∧
        ∀ earlier ∈ manifest.eventLogs.items, earlier.pcr.Before entry.pcr →
          manifest.Confirms earlier) ∧
    (∀ pcr reported replayed, (Violation.replayMismatch pcr reported replayed).message =
      "event log replay of " ++ pcr.name ++ " gives " ++ Hex.encode replayed ++
        ", the reported PCR value is " ++ Hex.encode reported) ∧
    (∀ entry : EventLogEntry, entry.replay = .ok entry.register ∧
      entry.register = entry.events.foldl
        (fun state event => entry.pcr.bank.digest (state ++ event.measurement))
        (List.replicate entry.pcr.bank.digestLength 0)) ∧
    (∀ entry : EventLogEntry, entry.events = [] →
      (manifest.Confirms entry ↔ ∃ value ∈ manifest.values.items, value.pcr = entry.pcr ∧
        value.digest = List.replicate entry.pcr.bank.digestLength 0)) ∧
    (∀ other : PcrManifest, other.eventLogs = manifest.eventLogs →
      (∀ value : PcrValue, value.pcr ∈ manifest.eventLogs.items.map EventLogEntry.pcr →
        (value ∈ other.values.items ↔ value ∈ manifest.values.items)) →
      other.verifyEventLogs = manifest.verifyEventLogs) ∧
    manifest.grouped.verifyEventLogs = manifest.verifyEventLogs := by
  refine ⟨?_, manifest.verifyEventLogs_eq_error_iff, fun _ _ _ => rfl,
    fun entry => ⟨entry.replay_eq, entry.register_eq_foldl⟩, ?_,
    fun other => verifyEventLogs_eq_of_logged, manifest.verifyEventLogs_grouped⟩
  · rw [verifyEventLogs, Outcome.forM_eq_ok_iff]
    simp only [verifyEntry_eq_ok_iff_confirms]
  · intro entry empty
    rw [Confirms, entry.register_eq_foldl, empty, List.foldl_nil, HashAlgorithm.zeroDigest]

/-- Register 4 has a log but no value, register 9 a value but no log, and the value of register 18
is not that of its log. -/
def partly : PcrManifest where
  values :=
    ⟨[⟨⟨⟨2, by decide⟩, .sha1⟩, List.replicate 20 0, by decide⟩,
      ⟨⟨⟨9, by decide⟩, .sha1⟩, List.replicate 20 9, by decide⟩,
      ⟨(EventLogEntry.named "HASH").pcr, List.replicate 32 0, by decide⟩], by decide⟩
  eventLogs :=
    ⟨[.empty ⟨⟨2, by decide⟩, .sha1⟩, .empty ⟨⟨4, by decide⟩, .sha1⟩, .named "HASH"], by decide⟩

/-- The value of register 9 is left out. -/
def partlyLogged : PcrManifest where
  values := partly.values.filter fun value => value.pcr.index.value != 9
  eventLogs := partly.eventLogs

theorem verdict_on_logs_partly :
    partly.verifyEventLogs = .error (.missingValue ⟨⟨4, by decide⟩, .sha1⟩) ∧
    partly.Confirms (.empty ⟨⟨2, by decide⟩, .sha1⟩) ∧
    partlyLogged.verifyEventLogs = partly.verifyEventLogs := by
  rcases verdict_on_logs partly with ⟨-, refusedIff, -, -, emptyIff, unlogged, -⟩
  have confirmed : partly.Confirms (.empty ⟨⟨2, by decide⟩, .sha1⟩) :=
    (emptyIff _ rfl).mpr ⟨_, List.mem_cons_self, rfl, rfl⟩
  refine ⟨(refusedIff _).mpr ?_, confirmed, unlogged partlyLogged rfl ?_⟩
  · refine ⟨.empty ⟨⟨4, by decide⟩, .sha1⟩, by decide, .missing (by decide), ?_⟩
    intro earlier member before
    rcases List.mem_cons.mp member with rfl | later
    · exact confirmed
    · rcases List.mem_cons.mp later with rfl | later
      · exact absurd before (by simp [PcrId.Before])
      · cases List.mem_singleton.mp later
        exact absurd before (by simp [PcrId.Before, EventLogEntry.named, HashAlgorithm.rank,
          EventLogEntry.empty])
  · intro value logged
    have named : ∀ pcr ∈ partly.eventLogs.items.map EventLogEntry.pcr, pcr.index.value ≠ 9 := by
      decide
    have kept : value ∈ partlyLogged.values.items ↔
        value ∈ partly.values.items ∧ (value.pcr.index.value != 9) = true := List.mem_filter
    rw [kept, bne_iff_ne]
    exact and_iff_left (named value.pcr logged)

end PcrManifest

end HostAttestation
