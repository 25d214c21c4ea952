import HostAttestation.Proofs.Connector.Restriction
import HostAttestation.Proofs.EventLog.Rearrangement
import HostAttestation.Proofs.EventLog.Tampering
import HostAttestation.Proofs.Vcenter.Documents
import Mathlib.Data.List.Perm.Basic

/-! # Evidence in another order

Records arrive in some order, but only the order of the events of one register is evidence.
Reports that differ in the rest give the same manifest or none. Event logs that differ in the rest,
or in what they tell of registers that are not quoted, have the same outcome with one quote. -/

namespace HostAttestation

namespace Vcenter

/-- The index and the bank that the record names are those of the register, whether or not its
digest has the width of the bank. -/
structure EventRecord.Names (record : EventRecord) (pcr : PcrId) : Prop where
  index : record.pcrIndex = pcr.index.value
  bank : ∃ measurement,
    Measures record.details.method record.details.digest pcr.bank measurement

theorem EventRecord.names_of_gives {record : EventRecord} {pcr : PcrId} {event : Event}
    (gives : record.Gives pcr event) : record.Names pcr :=
  ⟨gives.index, _, gives.measured⟩

namespace ReportContent

open Classical in
/-- Other reports of the same values and the same events, those of one register in the same
order. -/
structure Rearranges (left right : ReportContent) : Prop where
  values : left.values.Perm right.values
  events : left.events.Perm right.events
  order : ∀ pcr, (left.events.filter fun record => record.Names pcr) =
    right.events.filter fun record => record.Names pcr

namespace Rearranges

variable {left right : ReportContent} {wanted : PcrId → Bool}

theorem symm (rearranges : left.Rearranges right) : right.Rearranges left :=
  ⟨rearranges.values.symm, rearranges.events.symm, fun pcr => (rearranges.order pcr).symm⟩

open Classical in
/-- The records of a log are among those that name the register. -/
theorem logs_iff (rearranges : left.Rearranges right) (pcr : PcrId) (events : List Event) :
    Logs left.events pcr events ↔ Logs right.events pcr events := by
  have among : ∀ records : List EventRecord,
      (records.filter fun record => ∃ event, record.Gives pcr event) =
        (records.filter fun record => record.Names pcr).filter
          fun record => ∃ event, record.Gives pcr event := by
    intro records
    rw [List.filter_filter]
    refine List.filter_congr fun record _ => ?_
    by_cases given : ∃ event, record.Gives pcr event
    · rcases given with ⟨event, gives⟩
      have named := EventRecord.names_of_gives gives
      simp [named]
    · simp [given]
  rw [Logs, Logs, among, among right.events, rearranges.order pcr]

theorem accepted (rearranges : left.Rearranges right) {values : List PcrValue}
    (accepted : left.Accepted wanted values) :
    ∃ others, others.Perm values ∧ right.Accepted wanted others := by
  rcases List.perm_comp_forall₂ rearranges.values.symm accepted.given with ⟨others, given, same⟩
  have wantedSame : (wantedValues wanted others).Perm (wantedValues wanted values) :=
    same.filter _
  refine ⟨others, same, given, fun record member => ?_, ?_, fun pcr events kept logs some => ?_⟩
  · exact accepted.sound record (rearranges.events.mem_iff.mpr member)
  · exact (wantedSame.map PcrValue.pcr).nodup_iff.mpr accepted.distinct
  · rcases accepted.replayed pcr events kept ((rearranges.logs_iff pcr events).mpr logs) some with
      ⟨value, member, named, digest⟩
    exact ⟨value, same.mem_iff.mpr member, named, digest⟩

theorem shownBy (rearranges : left.Rearranges right) {values others : List PcrValue}
    {manifest : PcrManifest} (same : others.Perm values)
    (shown : left.ShownBy wanted values manifest) : right.ShownBy wanted others manifest where
  values := shown.values.trans (same.filter _).symm
  logs pcr events logs := shown.logs pcr events ((rearranges.logs_iff pcr events).mpr logs)

theorem pcrManifest_eq_ok (rearranges : left.Rearranges right) {pcrs : List PcrIndex}
    {banks : List PcrBank} {manifest : PcrManifest}
    (verified : left.pcrManifest pcrs banks = .ok manifest) :
    right.pcrManifest pcrs banks = .ok manifest := by
  rw [pcrManifest_eq_ok_iff, evidence_eq_ok_iff] at verified ⊢
  rcases verified with ⟨values, accepted, shown⟩
  rcases rearranges.accepted accepted with ⟨others, same, othersAccepted⟩
  exact ⟨others, othersAccepted, rearranges.shownBy same shown⟩

end Rearranges

end ReportContent

/-- Asked for a report on the host now, the vCenter sends this content. -/
def Api.Reports {σ : Type} (api : Api σ) (host : String) (before : σ) (content : ReportContent) :
    Prop :=
  ∃ report middle, Runs (api.attestationReport host) before (.ok report) middle ∧
    report.decode = .ok content

end Vcenter

namespace Connector

open Vcenter.ReportContent (twoRegisters twoRegistersShown)

variable {σ : Type}

/-- Of a reliable report the content decides. -/
theorem Hypervisor.shown_of_runs {api : Vcenter.Api σ} {name : String} {pcrs : List PcrIndex}
    {banks : List PcrBank} {before after : σ} {content : Vcenter.ReportContent}
    {manifest : HostManifest} (reports : api.Reports name before content)
    (run : Runs (Hypervisor.manifest api name pcrs banks) before (.ok manifest) after) :
    content.pcrManifest pcrs banks = .ok manifest.pcrManifest ∧
      manifest.quoteDigest = Hex.encode (manifest.pcrManifest.digest .sha256) := by
  rcases reports with ⟨report, middle, reported, decoded⟩
  rcases Hypervisor.pcrManifest_of_runs run with ⟨other, _, otherReported, verified, digest⟩
  obtain rfl : report = other := Except.ok.inj (reported.unique otherReported).1
  rcases (report.pcrManifest_eq_ok_iff _ _ _).mp verified with ⟨-, told, same, shown⟩
  cases decoded.symm.trans same
  exact ⟨shown, digest⟩

/-- Only with one quote do the logs of the agent count. -/
theorem TrustAgent.pcrManifest_eq_of_alike {nonce : Bytes} {left right : Agent.QuoteResponse}
    {entries others : List EventLogEntry} (sameQuote : left.quote = right.quote)
    (logged : eventLog left.eventLog = .ok entries)
    (relogged : eventLog right.eventLog = .ok others)
    (alike : ∀ quote, TpmQuote.parse left.quote = .ok quote →
      EventLogEntry.Alike quote.quotes entries others) :
    pcrManifest nonce left = pcrManifest nonce right := by
  unfold pcrManifest
  rw [← sameQuote, logged, relogged]
  cases parsed : TpmQuote.parse left.quote with
  | error fault => rfl
  | ok quote =>
      have grouped := EventLogMap.ofEntries_filter_eq_of_alike (alike quote parsed)
      unfold TpmQuote.quotes at grouped
      simp only [step, Except.mapError, bind, Except.bind, grouped]

/-- The same manifest is given out or none at all, by both hosts of a report; and the outcome is the
same, with the same error if there is one, for both logs of a quote. -/
theorem manifest_of_rearranged :
    (∀ (left right : Vcenter.ReportContent), left.Rearranges right →
      ∀ (pcrs : List PcrIndex) (banks : List PcrBank),
        (∃ manifest, left.pcrManifest pcrs banks = .ok manifest ∧
          right.pcrManifest pcrs banks = .ok manifest) ∨
        ∃ error otherError, left.pcrManifest pcrs banks = .error error ∧
          right.pcrManifest pcrs banks = .error otherError) ∧
    (∀ (api otherApi : Vcenter.Api σ) (name nonce : String) (pcrs : List PcrIndex)
      (banks : List PcrBank) (before otherBefore after otherAfter : σ)
      (left right : Vcenter.ReportContent) (manifest otherManifest : HostManifest),
      api.Reports name before left → otherApi.Reports name otherBefore right →
      left.Rearranges right →
      Runs ((Hypervisor.host api name).manifest nonce pcrs banks) before (.ok manifest) after →
      Runs ((Hypervisor.host otherApi name).manifest nonce pcrs banks) otherBefore
        (.ok otherManifest) otherAfter →
        manifest.pcrManifest = otherManifest.pcrManifest ∧
          manifest.quoteDigest = otherManifest.quoteDigest) ∧
    ∀ (nonce : Bytes) (left right : Agent.QuoteResponse) (entries others : List EventLogEntry),
      left.quote = right.quote → TrustAgent.eventLog left.eventLog = .ok entries →
      TrustAgent.eventLog right.eventLog = .ok others →
      (∀ quote, TpmQuote.parse left.quote = .ok quote →
        EventLogEntry.Alike quote.quotes entries others) →
        TrustAgent.pcrManifest nonce left = TrustAgent.pcrManifest nonce right := by
  refine ⟨fun left right rearranges pcrs banks => ?_, ?_, ?_⟩
  · rcases Outcome.ok_or_error (left.pcrManifest pcrs banks) with
      ⟨manifest, verified⟩ | ⟨error, refused⟩
    · exact .inl ⟨manifest, verified, rearranges.pcrManifest_eq_ok verified⟩
    · rcases Outcome.ok_or_error (right.pcrManifest pcrs banks) with
        ⟨manifest, verified⟩ | ⟨otherError, otherRefused⟩
      · rw [rearranges.symm.pcrManifest_eq_ok verified] at refused
        cases refused
      · exact .inr ⟨error, otherError, refused, otherRefused⟩
  · intro api otherApi name nonce pcrs banks before otherBefore after otherAfter left right manifest
      otherManifest reports otherReports rearranges run otherRun
    rcases Hypervisor.shown_of_runs reports run with ⟨shown, digest⟩
    rcases Hypervisor.shown_of_runs otherReports otherRun with ⟨otherShown, otherDigest⟩
    rw [rearranges.pcrManifest_eq_ok shown] at otherShown
    have same := Except.ok.inj otherShown
    exact ⟨same, by rw [digest, otherDigest, same]⟩
  · intro nonce left right entries others sameQuote logged relogged alike
    exact TrustAgent.pcrManifest_eq_of_alike sameQuote logged relogged alike

/-! ## The same evidence twice -/

/-- A vCenter that reports the content. -/
def telling (content : Vcenter.ReportContent) : Vcenter.Canned where
  report :=
    { logReliable := true
      content := [("tpmPcrValues", .array (content.values.map Vcenter.DigestInfo.toJson)),
        ("tpmEvents", .array (content.events.map Vcenter.EventRecord.toJson))] }

theorem decode_telling {content : Vcenter.ReportContent} (inRange : content.InRange) :
    (telling content).report.decode = .ok content :=
  content.returns_read.eq_ok_iff.mpr inRange

theorem reports_telling {content : Vcenter.ReportContent} (inRange : content.InRange)
    (host : String) : (telling content).api.Reports host {} content :=
  ⟨(telling content).report, { report := 1 }, rfl, decode_telling inRange⟩

theorem exists_runs_telling {content : Vcenter.ReportContent} (inRange : content.InRange)
    {pcrs : List PcrIndex} {banks : List PcrBank} {shown : PcrManifest}
    (verified : content.pcrManifest pcrs banks = .ok shown) (name nonce : String) :
    ∃ manifest after, Runs ((Hypervisor.host (telling content).api name).manifest nonce pcrs banks)
      {} (.ok manifest) after ∧ manifest.pcrManifest = shown := by
  apply Hypervisor.exists_runs_canned (fun _ => rfl)
  exact (Vcenter.AttestationReport.pcrManifest_eq_ok_iff _ _ _ _).mpr
    ⟨rfl, content, decode_telling inRange, verified⟩

/-- The two registers the other way round. -/
def turned : Vcenter.ReportContent where
  values := twoRegisters.values.reverse
  events := twoRegisters.events.reverse

theorem rearranges_turned : twoRegisters.Rearranges turned where
  values := (List.reverse_perm _).symm
  events := (List.reverse_perm _).symm
  order pcr := by
    have two : ∃ first second : Vcenter.EventRecord, twoRegisters.events = [first, second] ∧
        first.pcrIndex ≠ second.pcrIndex := ⟨_, _, rfl, by decide⟩
    rcases two with ⟨first, second, both, different⟩
    rw [turned, both]
    by_cases named : first.Names pcr
    · have other : ¬second.Names pcr := fun names => different (named.index.trans names.index.symm)
      simp [named, other]
    · simp [List.filter_cons, named]

theorem inRange_twoRegisters : twoRegisters.InRange := by
  simp [Vcenter.ReportContent.InRange, twoRegisters, Vcenter.DigestInfo.InRange,
    Vcenter.EventRecord.InRange, Json.IsSigned, Json.capacity]

theorem inRange_turned : turned.InRange := by
  simpa [Vcenter.ReportContent.InRange, turned] using inRange_twoRegisters

/-- One event without a name. -/
def extendedLog : EventLogEntry where
  pcr := ⟨⟨13, by decide⟩, .sha1⟩
  events := [⟨"", "", [], List.replicate 20 0⟩]
  fit := by simp [Event.Fits, HashAlgorithm.digestLength]

def idleLog : EventLogEntry :=
  .empty ⟨⟨14, by decide⟩, .sha1⟩

def unquotedLog : EventLogEntry :=
  .empty ⟨⟨15, by decide⟩, .sha1⟩

/-- The values of a register with one event and of another one without events. -/
def twoValues : List PcrValue :=
  [extendedLog.value, idleLog.value]

/-- A quote of both values. -/
def twoQuoted : TpmQuote where
  qualifiedSigner := []
  extraData := [0xAB]
  firmwareVersion := 7
  selections := [⟨.sha1, [extendedLog.pcr.index, idleLog.pcr.index]⟩]
  pcrDigest := HashAlgorithm.sha256.digest (twoValues.flatMap PcrValue.digest)
  signature := ⟨0x0010, 0, []⟩
  values := twoValues

theorem parse_twoQuoted : TpmQuote.parse twoQuoted.encode = .ok twoQuoted := by
  have ascending : ∀ selection ∈ twoQuoted.selections, PcrSelection.Ascending selection.pcrs := by
    simp [twoQuoted, PcrSelection.Ascending, extendedLog, idleLog, EventLogEntry.empty]
  have wellFormed : twoQuoted.WellFormed :=
    ⟨ascending, (PcrSelection.coverInTurn_iff _ _).mpr rfl, .inl ⟨rfl, rfl, rfl⟩⟩
  have short : twoQuoted.attestedLength ≤ 65535 := by
    simp [twoQuoted, TpmQuote.attestedLength, HashAlgorithm.digestLength]
  exact (TpmQuote.parse_eq_ok_iff _ _).mpr (TpmQuote.form_encode wellFormed short)

namespace TrustAgent

theorem trim_encode (bytes : Bytes) : Text.trim (Base64.encode bytes) = Base64.encode bytes := by
  have printed : ∀ value < 64, 0x21 ≤ (Base64.digit value).toNat ∧
      (Base64.digit value).toNat ≤ 0x7E := by decide
  have visible : ∀ c ∈ Base64.encodeChars bytes, ¬Text.isBlank c := by
    intro c member
    rw [Base64.encodeChars_eq, List.mem_append] at member
    rcases member with digit | padding
    · rcases List.mem_map.mp digit with ⟨value, written, rfl⟩
      have bounds := printed value (Base64.lt_of_mem_encodeValues bytes value written)
      exact Text.not_isBlank_of_printed bounds.1 bounds.2
    · rw [List.eq_of_mem_replicate padding]
      decide
  rw [Text.trim, Base64.encode, String.toList_ofList, Text.trimChars_eq_self visible]

/-- A text in base64 has no blanks around it. -/
theorem lists_encode {bytes : Bytes} {entries : List EventLogEntry}
    (read : (Json.parse bytes).read (Json.Reader.list EventLogEntry.read) = .ok entries) :
    Lists (some (Base64.encode bytes)) entries :=
  .listed _ bytes entries (trim_encode bytes) read

end TrustAgent

def extendedText (index : String) : String :=
  "[[" ++ index ++ ",\"SHA1\"],[[\"\",\"\",[],\"0000000000000000000000000000000000000000\"]]]"

def idleText (index : String) : String :=
  "[[" ++ index ++ ",\"SHA1\"]]"

/-- An answer with the quote and these entries. -/
def logging (entries : String) : Agent.QuoteResponse where
  quote := twoQuoted.encode
  eventLog := some (Base64.encode (Utf8.encode ("[" ++ entries ++ "]")))

/-- The registers in the order of the quote. -/
def inOrder : List EventLogEntry :=
  [extendedLog, idleLog]

/-- The other register first, then one that is not quoted, and the log of the first one in two
parts, of which one has no events. -/
def scattered : List EventLogEntry :=
  [idleLog, unquotedLog, .empty extendedLog.pcr, extendedLog]

def inOrderText : String :=
  extendedText "13" ++ "," ++ idleText "14"

def scatteredText : String :=
  idleText "14" ++ "," ++ idleText "15" ++ "," ++ idleText "13" ++ "," ++ extendedText "13"

theorem lists_inOrder : TrustAgent.Lists (logging inOrderText).eventLog inOrder :=
  TrustAgent.lists_encode (by decide +kernel)

theorem lists_scattered : TrustAgent.Lists (logging scatteredText).eventLog scattered :=
  TrustAgent.lists_encode (by decide +kernel)

theorem alike_scattered : EventLogEntry.Alike twoQuoted.quotes inOrder scattered := by
  have unquoted : ¬twoQuoted.quotes unquotedLog.pcr := by decide
  have joined : EventLogEntry.Rearranged twoQuoted.quotes scattered
      [idleLog, unquotedLog, extendedLog] :=
    .joined [idleLog, unquotedLog] (.empty extendedLog.pcr) extendedLog [] rfl
  have dropped : EventLogEntry.Rearranged twoQuoted.quotes [idleLog, unquotedLog, extendedLog]
      [idleLog, extendedLog] :=
    .dropped [idleLog] unquotedLog [extendedLog] unquoted
  have swapped : EventLogEntry.Rearranged twoQuoted.quotes [idleLog, extendedLog] inOrder :=
    .swapped [] idleLog extendedLog [] (by decide)
  exact .symm _ _ (.trans _ _ _ (.rel _ _ joined)
    (.trans _ _ _ (.rel _ _ dropped) (.rel _ _ swapped)))

/-- A value is what the entries replay to if its log is what they tell of its register. -/
theorem digest_value_eq {entry : EventLogEntry} {entries : List EventLogEntry}
    (own : EventLogEntry.eventsOf entry.pcr entries = entry.events) :
    entry.value.digest = Replay.register entry.value.pcr.bank
      ((EventLogEntry.eventsOf entry.value.pcr entries).map Event.measurement) := by
  change entry.register = Replay.register entry.pcr.bank
    ((EventLogEntry.eventsOf entry.pcr entries).map Event.measurement)
  rw [own, EventLogEntry.register]

theorem verified_inOrder :
    TrustAgent.Verified [0xAB] (logging inOrderText) twoQuoted inOrder where
  parsed := parse_twoQuoted
  answers := rfl
  attested := ⟨.sha256,
    (HashAlgorithm.length_digest .sha256 (twoValues.flatMap PcrValue.digest)).symm,
    by simp only [twoQuoted]⟩
  logged := lists_inOrder
  distinct := by decide
  replayed := by
    intro value member _
    rcases List.mem_pair.mp member with rfl | rfl
    · exact digest_value_eq (by decide)
    · exact digest_value_eq (by decide)

/-- Two reports and two logs that differ, with what is given out for both. -/
theorem manifest_of_rearranged_turned_and_scattered :
    (∃ manifest, twoRegisters.pcrManifest [] [] = .ok manifest ∧
      turned.pcrManifest [] [] = .ok manifest) ∧
    (∃ manifest otherManifest after otherAfter,
      Runs ((Hypervisor.host (telling twoRegisters).api "esx-01").manifest "" [] []) {}
        (.ok manifest) after ∧
      Runs ((Hypervisor.host (telling turned).api "esx-01").manifest "" [] []) {}
        (.ok otherManifest) otherAfter ∧
      manifest.pcrManifest = otherManifest.pcrManifest ∧
      manifest.quoteDigest = otherManifest.quoteDigest) ∧
    ∃ result,
      TrustAgent.pcrManifest [0xAB] (logging inOrderText) = .ok result ∧
      TrustAgent.pcrManifest [0xAB] (logging scatteredText) = .ok result := by
  have verified : twoRegisters.pcrManifest [] [] = .ok twoRegistersShown := by decide +kernel
  have turnedVerified := rearranges_turned.pcrManifest_eq_ok verified
  refine ⟨?_, ?_, ?_⟩
  · rcases (manifest_of_rearranged (σ := Unit)).1 _ _ rearranges_turned [] [] with
      same | ⟨_, _, refused, _⟩
    · exact same
    · rw [verified] at refused
      cases refused
  · rcases exists_runs_telling inRange_twoRegisters verified "esx-01" "" with ⟨_, _, run, _⟩
    rcases exists_runs_telling inRange_turned turnedVerified "esx-01" "" with
      ⟨_, _, otherRun, _⟩
    exact ⟨_, _, _, _, run, otherRun, manifest_of_rearranged.2.1 _ _ _ _ _ _ _ _ _ _ _ _ _ _
      (reports_telling inRange_twoRegisters _) (reports_telling inRange_turned _) rearranges_turned
      run otherRun⟩
  · rcases PcrManifest.exists_holds verified_inOrder.distinct twoQuoted.quotes inOrder with
      ⟨manifest, holds⟩
    have shown := (TrustAgent.pcrManifest_eq_ok_iff _ _ _ _).mpr
      ⟨_, _, verified_inOrder, holds, rfl⟩
    have alike : ∀ quote, TpmQuote.parse (logging inOrderText).quote = .ok quote →
        EventLogEntry.Alike quote.quotes inOrder scattered := by
      intro quote parsed
      have equal : twoQuoted = quote := Except.ok.inj (parse_twoQuoted.symm.trans parsed)
      exact equal ▸ alike_scattered
    have same := (manifest_of_rearranged (σ := Unit)).2.2 [0xAB] (logging inOrderText)
      (logging scatteredText) inOrder scattered rfl
      ((TrustAgent.eventLog_eq_ok_iff _ _).mpr lists_inOrder)
      ((TrustAgent.eventLog_eq_ok_iff _ _).mpr lists_scattered) alike
    exact ⟨_, shown, same ▸ shown⟩

end Connector

end HostAttestation
