import HostAttestation.Connector.TrustAgent
import HostAttestation.Proofs.Bytes.Base64
import HostAttestation.Proofs.Manifest.Verification
import HostAttestation.Proofs.Quote.Checks
import HostAttestation.Proofs.Text.Blank

/-! # Accepted quotes

A manifest is given out exactly if the quote answers the nonce, its digest attests its values and
the logs of the quoted registers replay to them. The first check that fails decides between a
malformed payload and a verification that failed. -/

namespace HostAttestation

open EventLogEntry (eventsOf)

namespace Connector

namespace TrustAgent

variable {ε α : Type}

/-- The entries that an event log stands for. -/
inductive Lists : (log : Option String) → List EventLogEntry → Prop
  | absent : Lists none []
  | blank (text : String) (blanks : ∀ c ∈ text.toList, Text.isBlank c) : Lists (some text) []
  | listed (text : String) (bytes : Bytes) (entries : List EventLogEntry)
      (written : Text.trim text = Base64.encode bytes)
      (read : (Json.parse bytes).read (Json.Reader.list EventLogEntry.read) = .ok entries) :
      Lists (some text) entries

theorem eventLog_of_blank {text : String} (blanks : ∀ c ∈ text.toList, Text.isBlank c) :
    eventLog (some text) = .ok [] := by
  rw [eventLog, Option.map_some, (Text.trim_eq_empty_iff text).mpr blanks]
  rfl

theorem eventLog_eq_ok_iff_of_trim_ne {text : String} (visible : Text.trim text ≠ "")
    (entries : List EventLogEntry) :
    eventLog (some text) = .ok entries ↔
      ∃ bytes, Text.trim text = Base64.encode bytes ∧
        (Json.parse bytes).read (Json.Reader.list EventLogEntry.read) = .ok entries := by
  rw [eventLog, Option.map_some]
  split
  next absent => cases absent
  next empty => exact absurd (Option.some.inj empty) visible
  next trimmed equal =>
    cases equal
    cases decoded : Base64.decode? (Text.trim text) with
    | none =>
        have unwritten : ∀ bytes, Text.trim text ≠ Base64.encode bytes := by
          intro bytes written
          rw [(Base64.decode?_eq_some_iff _ bytes).mpr written] at decoded
          cases decoded
        simp [unwritten]
    | some bytes =>
        have written := (Base64.decode?_eq_some_iff _ bytes).mp decoded
        constructor
        · intro succeeds
          refine ⟨bytes, written, ?_⟩
          cases read : (Json.parse bytes).read (Json.Reader.list EventLogEntry.read) with
          | ok others => simpa [read] using succeeds
          | error fault => simp [read] at succeeds
        · rintro ⟨others, othersWritten, read⟩
          rw [(Base64.decode?_eq_some_iff _ others).mpr othersWritten] at decoded
          cases decoded
          simp only [read]

theorem eventLog_eq_ok_iff (log : Option String) (entries : List EventLogEntry) :
    eventLog log = .ok entries ↔ Lists log entries := by
  constructor
  · intro succeeds
    cases log with
    | none =>
        cases succeeds
        exact .absent
    | some text =>
        by_cases empty : Text.trim text = ""
        · have blanks := (Text.trim_eq_empty_iff text).mp empty
          rw [eventLog_of_blank blanks] at succeeds
          cases succeeds
          exact .blank text blanks
        · rcases (eventLog_eq_ok_iff_of_trim_ne empty entries).mp succeeds with
            ⟨bytes, written, read⟩
          exact .listed text bytes entries written read
  · intro lists
    cases lists with
    | absent => rfl
    | blank text blanks => exact eventLog_of_blank blanks
    | listed text bytes entries written read =>
        refine (eventLog_eq_ok_iff_of_trim_ne ?_ entries).mpr ⟨bytes, written, read⟩
        -- No list is written in an empty text.
        intro empty
        have decoded := (Base64.decode?_eq_some_iff _ bytes).mpr written
        rw [empty] at decoded
        cases decoded
        cases read

/-! ## The outcome of a verification -/

/-- A quote that answers the request, and entries that replay to its values. -/
structure Verified (nonce : Bytes) (response : Agent.QuoteResponse) (quote : TpmQuote)
    (entries : List EventLogEntry) : Prop where
  parsed : TpmQuote.parse response.quote = .ok quote
  answers : quote.extraData = nonce
  attested : quote.Attests
  logged : Lists response.eventLog entries
  distinct : (quote.values.map PcrValue.pcr).Nodup
  replayed : ∀ value ∈ quote.values, value.pcr ∈ entries.map EventLogEntry.pcr →
    value.digest =
      Replay.register value.pcr.bank ((eventsOf value.pcr entries).map Event.measurement)

/-- The payload is malformed: there is no quote in it, or one that answers the request but comes
without a list of entries. -/
inductive Malformed (nonce : Bytes) (response : Agent.QuoteResponse) : Prop
  | quote (unparsed : ∀ quote, TpmQuote.parse response.quote ≠ .ok quote)
  | eventLog (quote : TpmQuote) (parsed : TpmQuote.parse response.quote = .ok quote)
      (answers : quote.extraData = nonce) (attested : quote.Attests)
      (unlisted : ∀ entries, ¬Lists response.eventLog entries)

theorem consistent_iff (quote : TpmQuote) (entries : List EventLogEntry) :
    PcrManifest.Consistent quote.values quote.quotes entries ↔
      (quote.values.map PcrValue.pcr).Nodup ∧
        ∀ value ∈ quote.values, value.pcr ∈ entries.map EventLogEntry.pcr →
          value.digest =
            Replay.register value.pcr.bank ((eventsOf value.pcr entries).map Event.measurement) := by
  constructor
  · rintro ⟨distinct, replayed⟩
    refine ⟨distinct, fun value member listed => ?_⟩
    have quoted : quote.quotes value.pcr := (quote.quotes_iff _).mpr ⟨value, member, rfl⟩
    rcases replayed value.pcr quoted listed with ⟨other, otherMember, same, digest⟩
    have equal : other = value := List.inj_on_of_nodup_map distinct otherMember member same
    exact equal ▸ digest
  · rintro ⟨distinct, replayed⟩
    refine ⟨distinct, fun pcr quoted listed => ?_⟩
    rcases (quote.quotes_iff pcr).mp quoted with ⟨value, member, rfl⟩
    exact ⟨value, member, rfl, replayed value member listed⟩

theorem step_eq_ok_iff {failure : Failure} {causes : ε → List Cause} {result : Except ε α}
    {value : α} : step failure causes result = .ok value ↔ result = .ok value :=
  Outcome.mapError_eq_ok_iff

/-- A step that fails gives the error its kind. -/
theorem kind_of_step_eq_error {failure : Failure} {causes : ε → List Cause} {result : Except ε α}
    {error : Error} (fails : step failure causes result = .error error) :
    (∃ causes, manifestError failure causes = error) ∧ ∀ value, result ≠ .ok value := by
  rcases Outcome.mapError_eq_error_iff.mp fails with ⟨fault, refused, equal⟩
  exact ⟨⟨_, equal⟩, by simp [refused]⟩

theorem verified_iff (nonce : Bytes) (response : Agent.QuoteResponse) (quote : TpmQuote)
    (entries : List EventLogEntry) :
    Verified nonce response quote entries ↔
      TpmQuote.parse response.quote = .ok quote ∧ quote.verifyNonce nonce = .ok () ∧
        quote.verifyPcrDigest = .ok quote.pcrDigest ∧ eventLog response.eventLog = .ok entries ∧
        PcrManifest.Consistent quote.values quote.quotes entries := by
  rw [quote.verifyNonce_eq_ok_iff, quote.verifyPcrDigest_eq_ok_iff, eventLog_eq_ok_iff,
    consistent_iff]
  constructor
  · rintro ⟨parsed, answers, attested, logged, distinct, replayed⟩
    exact ⟨parsed, answers, ⟨attested, rfl⟩, logged, distinct, replayed⟩
  · rintro ⟨parsed, answers, ⟨attested, -⟩, logged, distinct, replayed⟩
    exact ⟨parsed, answers, attested, logged, distinct, replayed⟩

theorem pcrManifest_eq_ok_iff (nonce : Bytes) (response : Agent.QuoteResponse)
    (manifest : PcrManifest) (digest : String) :
    pcrManifest nonce response = .ok (manifest, digest) ↔
      ∃ quote entries, Verified nonce response quote entries ∧
        manifest.Holds quote.values quote.quotes entries ∧
        digest = Hex.encode quote.pcrDigest := by
  simp only [verified_iff]
  constructor
  · intro succeeds
    rcases Outcome.bind_eq_ok_iff.mp succeeds with ⟨quote, parsed, succeeds⟩
    rcases Outcome.bind_eq_ok_iff.mp succeeds with ⟨⟨⟩, answers, succeeds⟩
    rcases Outcome.bind_eq_ok_iff.mp succeeds with ⟨attested, attests, succeeds⟩
    rcases Outcome.bind_eq_ok_iff.mp succeeds with ⟨entries, logged, succeeds⟩
    rcases Outcome.bind_eq_ok_iff.mp succeeds with ⟨built, values, succeeds⟩
    rcases Outcome.bind_eq_ok_iff.mp succeeds with ⟨⟨⟩, replayed, equal⟩
    cases equal
    rw [step_eq_ok_iff] at parsed answers attests logged values replayed
    rcases (quote.verifyPcrDigest_eq_ok_iff attested).mp attests with ⟨-, rfl⟩
    rcases (PcrManifest.verified_iff _ quote.quotes _ _).mp ⟨values, replayed⟩ with
      ⟨consistent, holds⟩
    exact ⟨quote, entries, ⟨parsed, answers, attests, logged, consistent⟩, holds, rfl⟩
  · rintro ⟨quote, entries, ⟨parsed, answers, attests, logged, consistent⟩, holds, rfl⟩
    rcases (PcrManifest.verified_iff _ _ _ _).mpr ⟨consistent, holds⟩ with ⟨values, replayed⟩
    refine Outcome.bind_eq_ok_iff.mpr ⟨quote, step_eq_ok_iff.mpr parsed, ?_⟩
    refine Outcome.bind_eq_ok_iff.mpr ⟨(), step_eq_ok_iff.mpr answers, ?_⟩
    refine Outcome.bind_eq_ok_iff.mpr ⟨_, step_eq_ok_iff.mpr attests, ?_⟩
    refine Outcome.bind_eq_ok_iff.mpr ⟨entries, step_eq_ok_iff.mpr logged, ?_⟩
    refine Outcome.bind_eq_ok_iff.mpr ⟨manifest, step_eq_ok_iff.mpr values, ?_⟩
    exact Outcome.bind_eq_ok_iff.mpr ⟨(), step_eq_ok_iff.mpr replayed, rfl⟩

theorem malformed_iff_of_parsed {nonce : Bytes} {response : Agent.QuoteResponse} {quote : TpmQuote}
    (parsed : TpmQuote.parse response.quote = .ok quote) :
    Malformed nonce response ↔
      quote.extraData = nonce ∧ quote.Attests ∧ ∀ entries, ¬Lists response.eventLog entries := by
  constructor
  · intro malformed
    cases malformed with
    | quote unparsed => exact absurd parsed (unparsed quote)
    | eventLog other otherParsed answers attested unlisted =>
        rw [parsed] at otherParsed
        cases otherParsed
        exact ⟨answers, attested, unlisted⟩
  · rintro ⟨answers, attested, unlisted⟩
    exact .eventLog quote parsed answers attested unlisted

theorem Verified.not_malformed {nonce : Bytes} {response : Agent.QuoteResponse} {quote : TpmQuote}
    {entries : List EventLogEntry} (verified : Verified nonce response quote entries) :
    ¬Malformed nonce response := by
  rw [malformed_iff_of_parsed verified.parsed]
  exact fun malformed => malformed.2.2 entries verified.logged

/-- What fails first decides the kind of the error. -/
theorem kind_of_pcrManifest_eq_error {nonce : Bytes} {response : Agent.QuoteResponse}
    {error : Error} (fails : pcrManifest nonce response = .error error) :
    (Malformed nonce response ∧ ∃ causes, manifestError .decode causes = error) ∨
      (¬Malformed nonce response ∧ ∃ causes, manifestError .validation causes = error) := by
  rcases Outcome.bind_eq_error_iff.mp fails with fails | ⟨quote, parses, fails⟩
  · rcases kind_of_step_eq_error fails with ⟨kind, unparsed⟩
    exact .inl ⟨.quote unparsed, kind⟩
  rw [malformed_iff_of_parsed (step_eq_ok_iff.mp parses)]
  rcases Outcome.bind_eq_error_iff.mp fails with fails | ⟨⟨⟩, names, fails⟩
  · rcases kind_of_step_eq_error fails with ⟨kind, stale⟩
    refine .inr ⟨fun malformed => ?_, kind⟩
    exact stale () ((quote.verifyNonce_eq_ok_iff nonce).mpr malformed.1)
  have answers := (quote.verifyNonce_eq_ok_iff nonce).mp (step_eq_ok_iff.mp names)
  rcases Outcome.bind_eq_error_iff.mp fails with fails | ⟨digest, attests, fails⟩
  · rcases kind_of_step_eq_error fails with ⟨kind, unattested⟩
    refine .inr ⟨fun malformed => ?_, kind⟩
    exact unattested _ ((quote.verifyPcrDigest_eq_ok_iff _).mpr ⟨malformed.2.1, rfl⟩)
  have attested := ((quote.verifyPcrDigest_eq_ok_iff digest).mp (step_eq_ok_iff.mp attests)).1
  rcases Outcome.bind_eq_error_iff.mp fails with fails | ⟨entries, logs, fails⟩
  · rcases kind_of_step_eq_error fails with ⟨kind, unread⟩
    refine .inl ⟨⟨answers, attested, fun entries lists => ?_⟩, kind⟩
    exact unread entries ((eventLog_eq_ok_iff _ entries).mpr lists)
  have logged := (eventLog_eq_ok_iff _ entries).mp (step_eq_ok_iff.mp logs)
  refine .inr ⟨fun malformed => malformed.2.2 entries logged, ?_⟩
  rcases Outcome.bind_eq_error_iff.mp fails with fails | ⟨manifest, -, fails⟩
  · exact (kind_of_step_eq_error fails).1
  rcases Outcome.bind_eq_error_iff.mp fails with fails | ⟨⟨⟩, -, fails⟩
  · exact (kind_of_step_eq_error fails).1
  cases fails

/-- A verification succeeds, finds the payload malformed, or fails otherwise. -/
theorem pcrManifest_of_quote_iff (nonce : Bytes) (response : Agent.QuoteResponse) :
    ((∃ result, pcrManifest nonce response = .ok result) ↔
      ∃ quote entries, Verified nonce response quote entries) ∧
    (∀ manifest digest, pcrManifest nonce response = .ok (manifest, digest) ↔
      ∃ quote entries, Verified nonce response quote entries ∧
        manifest.Holds quote.values quote.quotes entries ∧
        digest = Hex.encode quote.pcrDigest) ∧
    ((∃ causes, pcrManifest nonce response = .error (.failed .decode .getHostManifest causes)) ↔
      Malformed nonce response) ∧
    ((∃ causes,
        pcrManifest nonce response = .error (.failed .validation .getHostManifest causes)) ↔
      ¬Malformed nonce response ∧ ¬∃ quote entries, Verified nonce response quote entries) := by
  have accepted : (∃ result, pcrManifest nonce response = .ok result) ↔
      ∃ quote entries, Verified nonce response quote entries := by
    constructor
    · rintro ⟨⟨manifest, digest⟩, succeeds⟩
      rcases (pcrManifest_eq_ok_iff _ _ _ _).mp succeeds with ⟨quote, entries, verified, -⟩
      exact ⟨quote, entries, verified⟩
    · rintro ⟨quote, entries, verified⟩
      rcases PcrManifest.exists_holds verified.distinct quote.quotes entries with ⟨manifest, holds⟩
      exact ⟨(manifest, _),
        (pcrManifest_eq_ok_iff _ _ _ _).mpr ⟨quote, entries, verified, holds, rfl⟩⟩
  refine ⟨accepted, pcrManifest_eq_ok_iff nonce response, ?_⟩
  rw [← accepted]
  rcases Outcome.ok_or_error (pcrManifest nonce response) with ⟨result, succeeds⟩ | ⟨error, fails⟩
  · rcases accepted.mp ⟨result, succeeds⟩ with ⟨quote, entries, verified⟩
    simp [succeeds, verified.not_malformed]
  · rcases kind_of_pcrManifest_eq_error fails with
      ⟨malformed, causes, rfl⟩ | ⟨wellFormed, causes, rfl⟩
    · simp [fails, malformed, manifestError]
    · simp [fails, wellFormed, manifestError]

/-- A quote that answers the nonce AB. -/
def staleResponse : Agent.QuoteResponse where
  quote := [0, 42, 0xFF, 0x54, 0x43, 0x47, 0x80, 0x18, 0, 0, 0, 1, 0xAB] ++ List.replicate 17 5 ++
    [0, 0, 0, 0, 0, 0, 0, 7, 0, 0, 0, 0, 0, 0] ++ [0, 0x14, 0, 0x0B, 0, 0]

/-- A quote that answers another request is not verified, but no malformed payload. -/
theorem pcrManifest_of_quote_iff_stale :
    (∃ causes, pcrManifest [0xCD] staleResponse =
      .error (.failed .validation .getHostManifest causes)) ∧
    ¬Malformed [0xCD] staleResponse ∧
    ¬∃ quote entries, Verified [0xCD] staleResponse quote entries := by
  have fails : ∃ causes, pcrManifest [0xCD] staleResponse =
      .error (.failed .validation .getHostManifest causes) := ⟨_, rfl⟩
  exact ⟨fails, (pcrManifest_of_quote_iff [0xCD] staleResponse).2.2.2.mp fails⟩

end TrustAgent

end Connector

end HostAttestation
