import HostAttestation.Proofs.Connector.Selection

/-! # Asking for fewer registers

The values and the events of a report are selected before they are grouped and verified. The
outcome is the same as if all of them were verified and the manifest restricted afterwards: a log
is kept exactly if its value is. -/

namespace HostAttestation

namespace PcrManifest

/-- The values and the whole logs of the registers asked for, as the other manifest has them, and
nothing else. -/
structure IsPart (part whole : PcrManifest) (asked : PcrId → Prop) : Prop where
  values : ∀ value, value ∈ part.values.items ↔ value ∈ whole.values.items ∧ asked value.pcr
  eventLogs : ∀ entry,
    entry ∈ part.eventLogs.items ↔ entry ∈ whole.eventLogs.items ∧ asked entry.pcr

end PcrManifest

namespace Vcenter

namespace ReportContent

variable {content : ReportContent} {wider narrower : PcrId → Bool} {values : List PcrValue}

/-- The value that a kept log replays to is kept with it, for both have the same register. -/
theorem Accepted.fewer (accepted : content.Accepted wider values)
    (fewer : ∀ pcr, narrower pcr → wider pcr) : content.Accepted narrower values where
  given := accepted.given
  sound := accepted.sound
  distinct := by
    have fewerValues : (wantedValues narrower values).Sublist (wantedValues wider values) :=
      List.monotone_filter_right values fun value => fewer value.pcr
    exact accepted.distinct.sublist (fewerValues.map PcrValue.pcr)
  replayed pcr events kept := accepted.replayed pcr events (fewer pcr kept)

theorem isPart_of_shownBy {part whole : PcrManifest}
    (sound : ∀ record ∈ content.events, ∃ pcr event, record.Gives pcr event)
    (partShown : content.ShownBy narrower values part)
    (wholeShown : content.ShownBy wider values whole)
    (fewer : ∀ pcr, narrower pcr → wider pcr) : part.IsPart whole fun pcr => narrower pcr := by
  rcases exists_entered sound with ⟨entries, entered⟩
  have partHolds := (shownBy_iff_of_entered entered narrower values part).mp partShown
  have wholeHolds := (shownBy_iff_of_entered entered wider values whole).mp wholeShown
  have both : ∀ (pcr : PcrId) (present : Prop),
      present ∧ narrower pcr ↔ (present ∧ wider pcr) ∧ narrower pcr := by
    intro pcr present
    constructor
    · rintro ⟨holds, kept⟩
      exact ⟨⟨holds, fewer pcr kept⟩, kept⟩
    · rintro ⟨⟨holds, -⟩, kept⟩
      exact ⟨holds, kept⟩
  constructor
  · intro value
    rw [partHolds.values.mem_iff, wholeHolds.values.mem_iff, mem_wantedValues_iff,
      mem_wantedValues_iff]
    exact both value.pcr _
  · intro entry
    rw [(EventLogMap.groups_iff _ _ _).mp partHolds.logs,
      (EventLogMap.groups_iff _ _ _).mp wholeHolds.logs, EventLogMap.mem_ofEntries_filter_iff,
      EventLogMap.mem_ofEntries_filter_iff]
    exact both entry.pcr _

/-- What is verified for some registers is verified for any fewer of them. -/
theorem exists_part_of_fewer {widerPcrs pcrs : List PcrIndex} {widerBanks banks : List PcrBank}
    {whole : PcrManifest} (verified : content.pcrManifest widerPcrs widerBanks = .ok whole)
    (fewer : ∀ pcr : PcrId, pcr.IsAsked pcrs banks → pcr.IsAsked widerPcrs widerBanks) :
    ∃ part, content.pcrManifest pcrs banks = .ok part ∧
      part.IsPart whole (PcrId.IsAsked pcrs banks) := by
  have fewerWanted : ∀ pcr, isWanted pcrs banks pcr → isWanted widerPcrs widerBanks pcr := by
    simpa only [isWanted_iff] using fewer
  simp only [pcrManifest_eq_ok_iff, evidence_eq_ok_iff] at verified ⊢
  rcases verified with ⟨values, accepted, shown⟩
  have fewerAccepted := accepted.fewer fewerWanted
  rcases exists_shownBy fewerAccepted with ⟨part, partShown⟩
  have partOf := isPart_of_shownBy accepted.sound partShown shown fewerWanted
  simp only [isWanted_iff] at partOf
  exact ⟨part, ⟨values, fewerAccepted, partShown⟩, partOf⟩

/-- A report that is verified as a whole is verified for every selection, and the manifest is then
the part of the whole one that was asked for. -/
theorem isPart_of_verified (content : ReportContent) (whole : PcrManifest)
    (verified : content.pcrManifest [] [] = .ok whole) (pcrs : List PcrIndex)
    (banks : List PcrBank) :
    ∃ part, content.pcrManifest pcrs banks = .ok part ∧
      part.IsPart whole (PcrId.IsAsked pcrs banks) :=
  exists_part_of_fewer verified fun _ _ => ⟨.inl rfl, .inl rfl⟩

/-- Values and events of two registers. The first event is one of an old release, without a method
and with too wide a digest. -/
def twoRegisters : ReportContent where
  values :=
    [⟨8, "SHA1", HashAlgorithm.sha1.digest (List.replicate 40 0)⟩,
      ⟨10, "SHA256", HashAlgorithm.sha256.digest (List.replicate 32 0 ++ List.replicate 32 7)⟩]
  events :=
    [⟨8, List.replicate 40 0, none, .unknown⟩,
      ⟨10, List.replicate 32 7, some "SHA256", .commandLine "quiet"⟩]

def firstLog : EventLogEntry where
  pcr := ⟨⟨8, by decide⟩, .sha1⟩
  events := [⟨"vim.HostTpmEventDetails", "HostTpmEvent", [], List.replicate 20 0⟩]
  fit := by decide

def secondLog : EventLogEntry where
  pcr := ⟨⟨10, by decide⟩, .sha256⟩
  events :=
    [⟨"vim.HostTpmCommandEventDetails", "HostTpmCommandEvent", ["quiet"], List.replicate 32 7⟩]
  fit := by decide

def twoRegistersShown : PcrManifest where
  values :=
    ⟨[⟨firstLog.pcr, HashAlgorithm.sha1.digest (List.replicate 40 0),
        HashAlgorithm.length_digest _ _⟩,
      ⟨secondLog.pcr, HashAlgorithm.sha256.digest (List.replicate 32 0 ++ List.replicate 32 7),
        HashAlgorithm.length_digest _ _⟩], by decide⟩
  eventLogs := ⟨[firstLog, secondLog], by decide⟩

/-- Of the two logs only the first is in a bank that is asked for. -/
theorem isPart_of_verified_twoRegisters :
    twoRegisters.pcrManifest [] [] = .ok twoRegistersShown ∧
    ∃ part, twoRegisters.pcrManifest [] [.sha1, .sha512] = .ok part ∧
      ∀ entry, entry ∈ part.eventLogs.items ↔ entry = firstLog := by
  have verified : twoRegisters.pcrManifest [] [] = .ok twoRegistersShown := by decide +kernel
  rcases isPart_of_verified _ _ verified [] [.sha1, .sha512] with ⟨part, shown, partOf⟩
  refine ⟨verified, part, shown, fun entry => ?_⟩
  rw [partOf.eventLogs]
  constructor
  · rintro ⟨member, -, asked⟩
    rcases List.mem_pair.mp member with rfl | rfl
    · rfl
    · exact absurd asked (by decide)
  · rintro rfl
    exact ⟨List.mem_cons_self, .inl rfl, .inr List.mem_cons_self⟩

end ReportContent

end Vcenter

end HostAttestation
