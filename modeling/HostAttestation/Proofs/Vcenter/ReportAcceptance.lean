import HostAttestation.Proofs.Manifest.Verification
import HostAttestation.Proofs.Vcenter.Records

/-! # Accepted reports

A manifest is given out exactly if the report is reliable and decodes, each of its records stands
for something, and the records of the wanted registers agree. What the manifest holds is told in
terms of the records. -/

namespace HostAttestation

open EventLogEntry (eventsOf)

/-- An empty list asks for every register or bank. -/
def PcrId.IsAsked (pcrs : List PcrIndex) (banks : List PcrBank) (pcr : PcrId) : Prop :=
  (pcrs = [] ∨ pcr.index ∈ pcrs) ∧ (banks = [] ∨ pcr.bank ∈ banks)

namespace Vcenter

theorem isWanted_iff (pcrs : List PcrIndex) (banks : List PcrBank) (pcr : PcrId) :
    isWanted pcrs banks pcr ↔ pcr.IsAsked pcrs banks := by
  simp [isWanted, Connector.isSelected, PcrId.IsAsked]

/-! ## Canonical logs -/

open Classical in
/-- The events are given, one for one and in the order of the report, by the records of the
register. -/
def Logs (records : List EventRecord) (pcr : PcrId) (events : List Event) : Prop :=
  List.Forall₂ (fun record event => record.Gives pcr event)
    (records.filter fun record => ∃ event, record.Gives pcr event) events

theorem logs_cons_of_gives {record : EventRecord} {pcr : PcrId} {event : Event}
    (gives : record.Gives pcr event) (records : List EventRecord) (events : List Event) :
    Logs (record :: records) pcr events ↔
      ∃ others, Logs records pcr others ∧ events = event :: others := by
  have listed : ∃ event, record.Gives pcr event := ⟨event, gives⟩
  rw [Logs, List.filter_cons_of_pos (by simpa using listed), List.forall₂_cons_left_iff]
  constructor
  · rintro ⟨other, others, otherGives, related, rfl⟩
    exact ⟨others, related, by rw [(EventRecord.eq_of_gives gives otherGives).2]⟩
  · rintro ⟨others, related, rfl⟩
    exact ⟨event, others, gives, related, rfl⟩

theorem logs_cons_of_ne {record : EventRecord} {pcr otherPcr : PcrId} {event : Event}
    (gives : record.Gives otherPcr event) (different : otherPcr ≠ pcr)
    (records : List EventRecord) (events : List Event) :
    Logs (record :: records) pcr events ↔ Logs records pcr events := by
  have unlisted : ¬∃ event, record.Gives pcr event := by
    rintro ⟨other, otherGives⟩
    exact different (EventRecord.eq_of_gives gives otherGives).1
  rw [Logs, List.filter_cons_of_neg (by simpa using unlisted), Logs]

/-- The entries of records, one for one. -/
def Entered (records : List EventRecord) (entries : List EventLogEntry) : Prop :=
  List.Forall₂ (fun record entry => record.entry = .ok entry) records entries

theorem exists_entered {records : List EventRecord}
    (sound : ∀ record ∈ records, ∃ pcr event, record.Gives pcr event) :
    ∃ entries, Entered records entries := by
  induction records with
  | nil => exact ⟨[], .nil⟩
  | cons record rest induction =>
      have soundEach := List.forall_mem_cons.mp sound
      rcases soundEach.1 with ⟨pcr, event, gives⟩
      rcases induction soundEach.2 with ⟨entries, entered⟩
      exact ⟨_, .cons (EventRecord.entry_of_gives gives) entered⟩

theorem Entered.gives {records : List EventRecord} {entries : List EventLogEntry}
    (entered : Entered records entries) :
    ∀ record ∈ records, ∃ pcr event, record.Gives pcr event := by
  induction entered with
  | nil => simp
  | cons enters _ induction =>
      rcases (EventRecord.entry_eq_ok_iff _ _).mp enters with ⟨event, -, gives⟩
      exact List.forall_mem_cons.mpr ⟨⟨_, event, gives⟩, induction⟩

/-- Induction on the report: its first record adds an event to the log of one register. -/
theorem Entered.logs_iff {records : List EventRecord} {entries : List EventLogEntry}
    (entered : Entered records entries) (pcr : PcrId) (events : List Event) :
    Logs records pcr events ↔ events = eventsOf pcr entries := by
  induction entered generalizing events with
  | nil => simp [Logs]
  | @cons record entry records entries enters entered induction =>
      rcases (record.entry_eq_ok_iff entry).mp enters with ⟨event, single, gives⟩
      rw [EventLogEntry.eventsOf_cons]
      by_cases named : entry.pcr = pcr
      · subst named
        rw [if_pos rfl, single, logs_cons_of_gives gives]
        simp [induction]
      · rw [if_neg named, logs_cons_of_ne gives named, induction, List.nil_append]

theorem Entered.eventsOf_ne_nil_iff {records : List EventRecord} {entries : List EventLogEntry}
    (entered : Entered records entries) (pcr : PcrId) :
    eventsOf pcr entries ≠ [] ↔ pcr ∈ entries.map EventLogEntry.pcr := by
  induction entered with
  | nil => simp
  | @cons record entry records entries enters entered induction =>
      rcases (record.entry_eq_ok_iff entry).mp enters with ⟨event, single, -⟩
      rw [EventLogEntry.eventsOf_cons]
      by_cases named : entry.pcr = pcr
      · simp [named, single]
      · have different : pcr ≠ entry.pcr := fun same => named same.symm
        simpa [named, different] using induction

/-! ## The outcome of a verification -/

/-- The values of the wanted registers. -/
def wantedValues (wanted : PcrId → Bool) (values : List PcrValue) : List PcrValue :=
  values.filter fun value => wanted value.pcr

theorem mem_wantedValues_iff (wanted : PcrId → Bool) (values : List PcrValue) (value : PcrValue) :
    value ∈ wantedValues wanted values ↔ value ∈ values ∧ wanted value.pcr :=
  List.mem_filter

/-- Every record of the content gives something, the values as listed. Of the wanted registers
none is reported twice, and each with a log is reported with the value that its log replays to. -/
structure ReportContent.Accepted (content : ReportContent) (wanted : PcrId → Bool)
    (values : List PcrValue) : Prop where
  given : List.Forall₂ DigestInfo.Gives content.values values
  sound : ∀ record ∈ content.events, ∃ pcr event, record.Gives pcr event
  distinct : ((wantedValues wanted values).map PcrValue.pcr).Nodup
  replayed : ∀ pcr events, wanted pcr → Logs content.events pcr events → events ≠ [] →
    ∃ value ∈ values, value.pcr = pcr ∧
      value.digest = Replay.register pcr.bank (events.map Event.measurement)

/-- The manifest has the values and the canonical logs of the wanted registers and nothing else. -/
structure ReportContent.ShownBy (content : ReportContent) (wanted : PcrId → Bool)
    (values : List PcrValue) (manifest : PcrManifest) : Prop where
  values : manifest.values.items.Perm (wantedValues wanted values)
  logs : ∀ pcr events, Logs content.events pcr events →
    (manifest.eventLogs.items.filter fun entry => entry.pcr = pcr).map EventLogEntry.events =
      if wanted pcr ∧ events ≠ [] then [events] else []

namespace ReportContent

variable {content : ReportContent} {entries : List EventLogEntry}

theorem accepted_iff_of_entered (entered : Entered content.events entries)
    (wanted : PcrId → Bool) (values : List PcrValue) :
    content.Accepted wanted values ↔
      List.Forall₂ DigestInfo.Gives content.values values ∧
        PcrManifest.Consistent (wantedValues wanted values) wanted entries := by
  constructor
  · rintro ⟨given, -, distinct, replayed⟩
    refine ⟨given, distinct, fun pcr kept listed => ?_⟩
    rcases replayed pcr _ kept ((entered.logs_iff pcr _).mpr rfl)
      ((entered.eventsOf_ne_nil_iff pcr).mpr listed) with ⟨value, member, rfl, digest⟩
    exact ⟨value, (mem_wantedValues_iff wanted values value).mpr ⟨member, kept⟩, rfl, digest⟩
  · rintro ⟨given, distinct, replayed⟩
    refine ⟨given, entered.gives, distinct, fun pcr events kept logs nonempty => ?_⟩
    rw [(entered.logs_iff pcr events).mp logs] at nonempty ⊢
    rcases replayed pcr kept ((entered.eventsOf_ne_nil_iff pcr).mp nonempty) with
      ⟨value, member, named, digest⟩
    exact ⟨value, ((mem_wantedValues_iff wanted values value).mp member).1, named, digest⟩

theorem shownBy_iff_of_entered (entered : Entered content.events entries)
    (wanted : PcrId → Bool) (values : List PcrValue) (manifest : PcrManifest) :
    content.ShownBy wanted values manifest ↔
      manifest.Holds (wantedValues wanted values) wanted entries := by
  constructor
  · rintro ⟨same, logs⟩
    refine ⟨same, fun pcr => ?_⟩
    rw [logs pcr _ ((entered.logs_iff pcr _).mpr rfl)]
    simp only [entered.eventsOf_ne_nil_iff pcr]
  · rintro ⟨same, groups⟩
    refine ⟨same, fun pcr events logs => ?_⟩
    rw [groups pcr, (entered.logs_iff pcr events).mp logs]
    simp only [entered.eventsOf_ne_nil_iff pcr]

theorem evidence_eq_ok_iff (content : ReportContent) (pcrs : List PcrIndex)
    (banks : List PcrBank) (manifest : PcrManifest) :
    content.evidence pcrs banks = .ok manifest ↔
      ∃ values, content.Accepted (isWanted pcrs banks) values ∧
        content.ShownBy (isWanted pcrs banks) values manifest := by
  have given : ∀ values, content.values.mapM DigestInfo.pcrValue = .ok values ↔
      List.Forall₂ DigestInfo.Gives content.values values := by
    intro values
    rw [Outcome.mapM_eq_ok_iff]
    simp only [DigestInfo.pcrValue_eq_ok_iff]
  constructor
  · intro succeeds
    rcases Outcome.bind_eq_ok_iff.mp succeeds with ⟨values, valued, succeeds⟩
    rcases Outcome.bind_eq_ok_iff.mp succeeds with ⟨entries, entered, succeeds⟩
    rcases Outcome.bind_eq_ok_iff.mp succeeds with ⟨built, collected, succeeds⟩
    rcases Outcome.bind_eq_ok_iff.mp succeeds with ⟨⟨⟩, replayed, equal⟩
    cases equal
    rw [causesOf_eq_ok_iff] at collected replayed
    have entered : Entered content.events entries := Outcome.mapM_eq_ok_iff.mp entered
    rcases (PcrManifest.verified_iff _ _ _ _).mp ⟨collected, replayed⟩ with ⟨consistent, holds⟩
    exact ⟨values,
      (accepted_iff_of_entered entered _ _).mpr ⟨(given values).mp valued, consistent⟩,
      (shownBy_iff_of_entered entered _ _ _).mpr holds⟩
  · rintro ⟨values, accepted, shown⟩
    rcases exists_entered accepted.sound with ⟨entries, entered⟩
    have consistent := ((accepted_iff_of_entered entered _ _).mp accepted).2
    have holds := (shownBy_iff_of_entered entered _ _ _).mp shown
    rcases (PcrManifest.verified_iff _ _ _ _).mpr ⟨consistent, holds⟩ with ⟨collected, replayed⟩
    refine Outcome.bind_eq_ok_iff.mpr ⟨values, (given values).mpr accepted.given, ?_⟩
    refine Outcome.bind_eq_ok_iff.mpr ⟨entries, Outcome.mapM_eq_ok_iff.mpr entered, ?_⟩
    refine Outcome.bind_eq_ok_iff.mpr ⟨manifest, causesOf_eq_ok_iff.mpr collected, ?_⟩
    exact Outcome.bind_eq_ok_iff.mpr ⟨(), causesOf_eq_ok_iff.mpr replayed, rfl⟩

theorem exists_shownBy {wanted : PcrId → Bool} {values : List PcrValue}
    (accepted : content.Accepted wanted values) :
    ∃ manifest, content.ShownBy wanted values manifest := by
  rcases exists_entered accepted.sound with ⟨entries, entered⟩
  rcases PcrManifest.exists_holds accepted.distinct wanted entries with ⟨manifest, holds⟩
  exact ⟨manifest, (shownBy_iff_of_entered entered _ _ _).mpr holds⟩

theorem pcrManifest_eq_ok_iff (content : ReportContent) (pcrs : List PcrIndex)
    (banks : List PcrBank) (manifest : PcrManifest) :
    content.pcrManifest pcrs banks = .ok manifest ↔ content.evidence pcrs banks = .ok manifest :=
  Outcome.mapError_eq_ok_iff

end ReportContent

namespace AttestationReport

theorem pcrManifest_eq_ok_iff (report : AttestationReport) (pcrs : List PcrIndex)
    (banks : List PcrBank) (manifest : PcrManifest) :
    report.pcrManifest pcrs banks = .ok manifest ↔
      report.logReliable ∧ ∃ content, report.decode = .ok content ∧
        content.pcrManifest pcrs banks = .ok manifest := by
  unfold pcrManifest
  cases report.logReliable with
  | false => simp
  | true => cases report.decode <;> simp

end AttestationReport

end Vcenter

end HostAttestation
