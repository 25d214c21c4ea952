import HostAttestation.Proofs.Url.Placement
import HostAttestation.Proofs.Vcenter.SessionProtocol

/-! # Where a host is asked for

The identifier of a host stands in the path that something of the host is fetched from. An
identifier without slashes and without characters that addresses skip, and not made of dots, is
one segment of the path, and no two of these are asked for at one address. Any other identifier
leads elsewhere, but neither out of the part of the interface that is below the two first segments
nor to an address that something else is asked for at. -/

namespace HostAttestation

namespace Vcenter

open Connector (Error)

/-- What a call fetches of a host. -/
def Inquiry.hostPart? : Inquiry → Option String
  | .hostInfo _ => some "summary"
  | .attestationReport _ => some "tpm-attestation-report"
  | .clusterHosts _ => none

namespace Client

variable {client : Client} {inquiry : Inquiry} {part : String} {url : Url}

/-- The segments that an identifier of a host leads to. -/
def hostSegments (client : Client) (id part : String) : List String :=
  client.baseUrl.stem ++ ["api", "esx"] ++
    Url.placeAll client.baseUrl.scheme ["hosts"] (Text.splitText '/' id) ++ [part]

/-- The segments of an identifier that is one of them. -/
def directSegments (client : Client) (id part : String) : List String :=
  client.baseUrl.stem ++
    ["api", "esx", "hosts", Url.encodeSegment client.baseUrl.scheme id.toList, part]

/-- How an address belongs to a part of the host of an identifier. -/
structure Leads (client : Client) (id part : String) (url : Url) : Prop where
  located : url = { client.baseUrl with path := .segments (client.hostSegments id part) }
  direct : url.path = .segments (client.directSegments id part) ↔ Url.isWhole id

theorem parts_of_hostPart? (client : Client) (asks : inquiry.hostPart? = some part) :
    Url.isPlain part ∧ '/' ∉ part.toList ∧
      ∀ id, inquiry.target client id = client.endpoint ("api/esx/hosts/" ++ id ++ "/" ++ part) := by
  cases inquiry with
  | hostInfo host => cases asks; exact ⟨by decide, by decide, fun _ => rfl⟩
  | attestationReport host => cases asks; exact ⟨by decide, by decide, fun _ => rfl⟩
  | clusterHosts cluster => cases asks

theorem splitText_host (id : String) {part : String} (whole : '/' ∉ part.toList) :
    Text.splitText '/' ("api/esx/hosts/" ++ id ++ "/" ++ part) =
      ["api", "esx"] ++ "hosts" :: (Text.splitText '/' id ++ [part]) := by
  have ends := Text.splitText_append '/' ("api/esx/hosts" ++ String.singleton '/' ++ id) part
  have begins := Text.splitText_append '/' "api/esx/hosts" id
  rw [begins, Text.splitText_of_not_mem whole] at ends
  exact ends

theorem hostSegments_eq_iff (client : Client) (id : String) (part : String) :
    client.hostSegments id part = client.directSegments id part ↔ Url.isWhole id := by
  rw [← Url.placeAll_eq_iff client.baseUrl.scheme (by decide : Url.isPlain "hosts") id]
  have direct : client.directSegments id part = client.baseUrl.stem ++ ["api", "esx"] ++
      ["hosts", Url.encodeSegment client.baseUrl.scheme id.toList] ++ [part] := by
    simp [directSegments]
  rw [direct, hostSegments, List.append_left_inj, List.append_right_inj]

/-- Whether and where a host is asked for. -/
theorem target_eq (asks : inquiry.hostPart? = some part) (id : String) :
    inquiry.target client id =
      if client.baseUrl.isBase then
        .ok { client.baseUrl with path := .segments (client.hostSegments id part) }
      else .error (.configuration (.notBase client.baseUrl.text)) := by
  rcases parts_of_hostPart? client asks with ⟨plain, whole, targets⟩
  have names : ∀ segment ∈ ["api", "esx"], Url.isUnreserved segment := by decide
  have found := Url.below?_behind_names client.baseUrl names (by decide : Url.isUnreserved "hosts")
    (Text.splitText '/' id ++ [part])
  rw [Url.placeAll_of_isPlain _ _ _ plain, ← List.append_assoc] at found
  rw [targets, endpoint, splitText_host id whole, found]
  cases client.baseUrl.isBase with
  | false => rfl
  | true => rfl

theorem leads_of_target (asks : inquiry.hostPart? = some part) {id : String}
    (targeted : inquiry.target client id = .ok url) : client.Leads id part url := by
  rw [target_eq asks] at targeted
  split at targeted
  next =>
    cases targeted
    refine ⟨rfl, ?_⟩
    rw [← hostSegments_eq_iff client id part]
    exact ⟨Url.Path.segments.inj, congrArg Url.Path.segments⟩
  next => cases targeted

/-- Different parts and different identifiers that are whole are told apart. -/
theorem eq_of_leads {id other otherPart : String} (leads : client.Leads id part url)
    (otherLeads : client.Leads other otherPart url) :
    part = otherPart ∧ (Url.isWhole id → Url.isWhole other → id = other) := by
  have same : client.hostSegments id part = client.hostSegments other otherPart := by
    have paths := congrArg Url.path (leads.located.symm.trans otherLeads.located)
    exact Url.Path.segments.inj paths
  rcases List.append_inj' same rfl with ⟨fronts, parts⟩
  refine ⟨List.cons.inj parts |>.1, fun whole otherWhole => ?_⟩
  rw [List.append_right_inj, Url.placeAll_of_isWhole _ _ whole,
    Url.placeAll_of_isWhole _ _ otherWhole, List.append_right_inj] at fronts
  exact String.toList_inj.mp (Url.encodeSegment_injective _ (List.cons.inj fronts).1)

/-! ## Other endpoints -/

theorem Leads.lastSegment {id : String} (leads : client.Leads id part url) :
    url.lastSegment = part := by
  rw [leads.located, Url.lastSegment]
  dsimp only
  rw [hostSegments, List.getLast?_concat]
  rfl

/-- What is asked for at the address that a part of a host is fetched from is never anything
else. -/
theorem elsewhere_of_leads (asks : inquiry.hostPart? = some part) {id : String}
    (leads : client.Leads id part url) : client.endpoint "api/session" ≠ .ok url ∧
      (∀ other : Inquiry, other.lookup client ≠ .ok url) ∧
      ∀ cluster clusterId, (Inquiry.clusterHosts cluster).target client clusterId ≠ .ok url := by
  have apart : part ∉ ["session", "host", "cluster"] := by
    cases inquiry with
    | hostInfo host => cases asks; decide
    | attestationReport host => cases asks; decide
    | clusterHosts cluster => cases asks
  have other {last : String} (listed : last ∈ ["session", "host", "cluster"]) :
      url.lastSegment ≠ last := by
    rw [leads.lastSegment]
    rintro rfl
    exact apart listed
  refine ⟨fun located => ?_, fun inquiry located => ?_, fun cluster clusterId located => ?_⟩
  · exact other (by decide) (lastSegment_of_endpoint located (by rfl : _ = some "session") (by decide))
  · cases inquiry with
    | hostInfo host =>
        exact other (by decide) (lastSegment_of_search located (by rfl : _ = some "host") (by decide))
    | attestationReport host =>
        exact other (by decide) (lastSegment_of_search located (by rfl : _ = some "host") (by decide))
    | clusterHosts cluster =>
        exact other (by decide)
          (lastSegment_of_search located (by rfl : _ = some "cluster") (by decide))
  · exact other (by decide) (lastSegment_of_search located (by rfl : _ = some "host") (by decide))

end Client

/-! ## Whole runs -/

/-- Every fetch but the lookup goes to a part of a host that an answer to the lookup listed. -/
def Visit.AsksHosts (client : Client) (part : String) (visit : Visit) : Prop :=
  Throughout (fun earlier exchange _ => Client.isFetch exchange →
    visit.inquiry.lookup client = .ok exchange.request.url ∨
      ∃ lookup ∈ earlier, visit.inquiry.lookup client = .ok lookup.request.url ∧
        ∃ body id, lookup.content? = some body ∧ visit.inquiry.listed? body = some id ∧
          client.Leads id part exchange.request.url) visit.exchanges

namespace Client

theorem asksHosts_of_visits (client : Client)
    (answer : List Http.Exchange → Http.Request → Http.Outcome) (inquiries : List Inquiry)
    {visit : Visit} (made : visit ∈ client.visits answer inquiries) {part : String}
    (asks : visit.inquiry.hostPart? = some part) : visit.AsksHosts client part := by
  have fresh : client.issuance.Fresh Session.unused.id Session.unused.network :=
    Http.Issuance.fresh_none _
  rcases List.append_of_mem made with ⟨earlier, later, split⟩
  have follows := follows_visits_from fresh inquiries earlier visit later split
  refine follows.directed.imp fun _ exchange _ directed fetches => ?_
  rcases directed fetches with looks | ⟨lookupUrl, located, lookup, before, fetchesLookup, body, id,
    content, lists, targeted⟩
  · exact .inl looks
  · have own : lookup.request.url = lookupUrl := (of_decide_eq_true fetchesLookup).2
    exact .inr ⟨lookup, before, own ▸ located, body, id, content, lists,
      leads_of_target asks targeted⟩

/-- Whatever a vCenter lists as the identifier of a host. -/
theorem leads_of_requests (client : Client) :
    (∀ inquiry part, Inquiry.hostPart? inquiry = some part → ∀ id,
      ((∃ url, inquiry.target client id = .ok url) ↔ client.baseUrl.isBase) ∧
        ∀ url, inquiry.target client id = .ok url → client.Leads id part url) ∧
    (∀ id part other otherPart url, client.Leads id part url → client.Leads other otherPart url →
      part = otherPart ∧ (Url.isWhole id → Url.isWhole other → id = other)) ∧
    (∀ inquiry part, Inquiry.hostPart? inquiry = some part → ∀ id url, client.Leads id part url →
      client.endpoint "api/session" ≠ .ok url ∧ (∀ other : Inquiry, other.lookup client ≠ .ok url) ∧
        ∀ cluster clusterId,
          (Inquiry.clusterHosts cluster).target client clusterId ≠ .ok url) ∧
    ∀ answer inquiries, ∀ visit ∈ client.visits answer inquiries, ∀ part,
      visit.inquiry.hostPart? = some part → visit.AsksHosts client part := by
  refine ⟨fun inquiry part asks id => ⟨?_, fun url => leads_of_target asks⟩,
    fun id part other otherPart url => eq_of_leads,
    fun inquiry part asks id url => elsewhere_of_leads asks,
    fun answer inquiries visit made part => asksHosts_of_visits client answer inquiries made⟩
  rw [target_eq asks]
  split
  next isBase => simp [isBase]
  next unbased => simp [unbased]

/-! ## A run in which a host is listed -/

/-- Everybody who has a session is answered, with a list of one host or with an empty record. -/
def listing (id : String) (log : List Http.Exchange) : Http.Outcome :=
  .ok ⟨200, .ok (Utf8.encode
    (["\"a\"", "[\x7b\"host\":\"" ++ id ++ "\",\"name\":\"esx\"\x7d]"][log.length]?.getD
      "\x7b\x7d"))⟩

/-- The paths of all that was asked for in a run. -/
def pathsAsked (visits : List Visit) : List Url.Path :=
  visits.flatMap fun visit => visit.exchanges.map fun exchange => exchange.request.url.path

theorem leads_of_requests_listed :
    pathsAsked (administered.visits (fun log _ => listing "host-1" log) [.hostInfo "esx"]) =
      [.segments ["api", "session"], .segments ["api", "vcenter", "host"],
        .segments (administered.directSegments "host-1" "summary")] ∧
    (∀ visit ∈ administered.visits (fun log _ => listing "host-1" log) [.hostInfo "esx"],
      visit.AsksHosts administered "summary") ∧
    ∀ other url, (Inquiry.hostInfo "esx").target administered "host-1" = .ok url →
      administered.Leads other "summary" url → Url.isWhole other → other = "host-1" := by
  rcases leads_of_requests administered with ⟨leads, apart, _, asked⟩
  refine ⟨by decide +kernel, fun visit made => asked _ _ visit made _ ?_, ?_⟩
  · have all : ∀ visit ∈ administered.visits (fun log _ => listing "host-1" log)
        [.hostInfo "esx"], visit.inquiry.hostPart? = some "summary" := by decide +kernel
    exact all visit made
  · intro other url targeted otherLeads whole
    have own := (leads (.hostInfo "esx") "summary" rfl "host-1").2 url targeted
    exact (apart _ _ _ _ _ otherLeads own).2 whole (by decide)

/-- A slash in an identifier parts it, and a part that is a dot is lost. -/
theorem not_direct_of_slash :
    pathsAsked (administered.visits (fun log _ => listing "a/b" log) [.hostInfo "esx"]) =
      [.segments ["api", "session"], .segments ["api", "vcenter", "host"],
        .segments ["api", "esx", "hosts", "a", "b", "summary"]] ∧
    administered.directSegments "a/b" "summary" = ["api", "esx", "hosts", "a%2Fb", "summary"] ∧
    (Inquiry.hostInfo "esx").target administered "a/." =
      (Inquiry.hostInfo "esx").target administered "a" := by
  decide +kernel

end Client

end Vcenter

end HostAttestation
