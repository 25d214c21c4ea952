import HostAttestation.Proofs.Url.Path
import HostAttestation.Proofs.Vcenter.Login

/-! # What a vCenter is asked

A call of the interface looks up a host or a cluster by its name and then fetches what belongs to
it, at an address that the lookup has to tell. -/

namespace HostAttestation

namespace Vcenter

open Connector (Call Error Operation)

/-- A call of the interface with its argument. -/
inductive Inquiry
  | hostInfo (host : String)
  | attestationReport (host : String)
  | clusterHosts (cluster : String)
  deriving DecidableEq, Repr

namespace Inquiry

variable {σ : Type}

/-- Makes the call and forgets the value that it answers with. -/
def perform (api : Api σ) : Inquiry → Call σ Unit
  | .hostInfo host => do
      let _ ← api.hostInfo host
      pure ()
  | .attestationReport host => do
      let _ ← api.attestationReport host
      pure ()
  | .clusterHosts cluster => do
      let _ ← api.clusterHosts cluster
      pure ()

/-- The address of the lookup. -/
def lookup (client : Client) : Inquiry → Except Error Url
  | .hostInfo host => client.search "api/vcenter/host" "names" host
  | .attestationReport host => client.search "api/vcenter/host" "names" host
  | .clusterHosts cluster => client.search "api/vcenter/cluster" "names" cluster

/-- The identifier of the first host of the name that a body lists. -/
def listedHost? (name : String) (body : Bytes) : Option String := do
  let hosts ← Client.document? (Json.Reader.list HostReference.read) body
  let host ← hosts.find? fun host => host.name = name
  pure host.host

/-- The identifier of the first cluster of the name that a body lists. -/
def listedCluster? (name : String) (body : Bytes) : Option String := do
  let clusters ← Client.document? (Json.Reader.list ClusterReference.read) body
  let cluster ← clusters.find? fun cluster => cluster.name = name
  pure cluster.cluster

/-- What the call is looking for in the answer to its lookup. -/
def listed? : Inquiry → Bytes → Option String
  | .hostInfo host => listedHost? host
  | .attestationReport host => listedHost? host
  | .clusterHosts cluster => listedCluster? cluster

/-- The address of what belongs to an identifier. -/
def target (client : Client) (id : String) : Inquiry → Except Error Url
  | .hostInfo _ => client.endpoint ("api/esx/hosts/" ++ id ++ "/" ++ "summary")
  | .attestationReport _ =>
      client.endpoint ("api/esx/hosts/" ++ id ++ "/" ++ "tpm-attestation-report")
  | .clusterHosts _ => client.search "api/vcenter/host" "clusters" id

end Inquiry

namespace Client

variable {client : Client} {operation : Operation} {url : Url}

/-! ## Addresses apart -/

theorem lastSegment_of_endpoint {path last : String} (located : client.endpoint path = .ok url)
    (ends : (Text.splitText '/' path).getLast? = some last) (plain : Url.isPlain last) :
    url.lastSegment = last := by
  unfold endpoint at located
  split at located
  next other below =>
    cases located
    exact Url.lastSegment_of_below? below ends plain
  next => cases located

theorem lastSegment_of_search {path key value last : String}
    (located : client.search path key value = .ok url)
    (ends : (Text.splitText '/' path).getLast? = some last) (plain : Url.isPlain last) :
    url.lastSegment = last := by
  rcases Outcome.map_eq_ok_iff.mp located with ⟨base, found, rfl⟩
  change base.lastSegment = last
  exact lastSegment_of_endpoint found ends plain

theorem lastSegment_of_host {id part : String}
    (located : client.endpoint ("api/esx/hosts/" ++ id ++ "/" ++ part) = .ok url)
    (whole : '/' ∉ part.toList) (plain : Url.isPlain part) : url.lastSegment = part :=
  lastSegment_of_endpoint located (Text.getLast?_splitText_append _ whole) plain

/-- A lookup is never sent where its result is fetched. -/
theorem lookup_ne_target {inquiry : Inquiry} {id : String} {lookupUrl targetUrl : Url}
    (looked : inquiry.lookup client = .ok lookupUrl)
    (targeted : inquiry.target client id = .ok targetUrl) : lookupUrl ≠ targetUrl := by
  have apart : lookupUrl.lastSegment ≠ targetUrl.lastSegment := by
    cases inquiry with
    | hostInfo host =>
        rw [lastSegment_of_search looked (by rfl : _ = some "host") (by decide),
          lastSegment_of_host targeted (by decide) (by decide)]
        decide
    | attestationReport host =>
        rw [lastSegment_of_search looked (by rfl : _ = some "host") (by decide),
          lastSegment_of_host targeted (by decide) (by decide)]
        decide
    | clusterHosts cluster =>
        rw [lastSegment_of_search looked (by rfl : _ = some "cluster") (by decide),
          lastSegment_of_search targeted (by rfl : _ = some "host") (by decide)]
        decide
  intro same
  rw [same] at apart
  exact apart rfl

/-! ## Every run is a journey -/

/-- How a call goes: the session at hand before, what is exchanged, the result, and the session at
hand afterwards. -/
inductive Journey (client : Client) (inquiry : Inquiry) :
    Option String → List Http.Exchange → Except Error Unit → Option String → Prop
  | nowhere (before : Option String) (error : Error) :
      Journey client inquiry before [] (.error error) before
  | astray {before after : Option String} {looked : List Http.Exchange} {lookupUrl : Url}
      {operation : Operation} {α : Type} {read : Decoding α} {inner : Except Error α}
      (error : Error) (located : inquiry.lookup client = .ok lookupUrl)
      (lookup : (client.errand operation read lookupUrl).Course before looked inner after) :
      Journey client inquiry before looked (.error error) after
  | arrived {before middle after : Option String} {looked fetched : List Http.Exchange}
      {lookupUrl targetUrl : Url} {operation : Operation} {α β : Type} {readListed : Decoding α}
      {read : Decoding β} {value : α} {inner : Except Error β} {result : Except Error Unit}
      {id : String}
      (located : inquiry.lookup client = .ok lookupUrl)
      (lookup : (client.errand operation readListed lookupUrl).Course before looked (.ok value)
        middle)
      (listed : ∃ last ∈ looked, isFetchOf lookupUrl last ∧
        ∃ body, last.content? = some body ∧ inquiry.listed? body = some id)
      (targeted : inquiry.target client id = .ok targetUrl)
      (fetch : (client.errand operation read targetUrl).Course middle fetched inner after)
      (fails : ∀ error, inner = .error error → result = .error error) :
      Journey client inquiry before (looked ++ fetched) result after

variable {answer : List Http.Exchange → Http.Request → Http.Outcome}
  {before after : Session (List Http.Exchange)} {α β : Type} {read : Decoding α}

/-- A fetch that goes on with what it was answered. -/
theorem course_of_fetching {located : Except Error Url}
    {next : α → Call (Session (List Http.Exchange)) β} {result : Except Error β}
    (run : Runs (do
      let url ← liftExcept located
      let value ← client.fetch (Http.answering answer) operation read url
      next value) before result after) :
    (∃ error, result = .error error ∧ after = before) ∨
      ∃ url exchanges inner middle, located = .ok url ∧
        middle.network = before.network ++ exchanges ∧
        (client.errand operation read url).Course before.id exchanges inner middle.id ∧
        ((∃ error, inner = .error error ∧ result = .error error ∧ after = middle) ∨
          ∃ value, inner = .ok value ∧ Runs (next value) middle result after) := by
  rcases Runs.bind_iff.mp run with ⟨error, failed, rfl⟩ | ⟨url, _, found, rest⟩
  · exact .inl ⟨error, rfl, (Runs.liftExcept_iff.mp failed).2⟩
  rcases Runs.liftExcept_iff.mp found with ⟨same, rfl⟩
  right
  rcases Runs.bind_iff.mp rest with ⟨error, failed, rfl⟩ | ⟨value, middle, fetched, rest⟩
  · rcases course_of_runs failed with ⟨exchanges, logged, course⟩
    exact ⟨url, exchanges, _, after, same.symm, logged, course, .inl ⟨error, rfl, rfl, rfl⟩⟩
  · rcases course_of_runs fetched with ⟨exchanges, logged, course⟩
    exact ⟨url, exchanges, _, middle, same.symm, logged, course, .inr ⟨value, rfl, rest⟩⟩

section

variable {inquiry : Inquiry} {found? : α → Option String} {result : Except Error Unit}
  (lists : ∀ body value, document? read body = some value → inquiry.listed? body = found? value)

include lists

/-- What was found stands in the body of an answer to the lookup. -/
theorem listed_of_course {lookupUrl : Url} {value : α} {id : String} {before after : Option String}
    {looked : List Http.Exchange}
    (lookup : (client.errand operation read lookupUrl).Course before looked (.ok value) after)
    (found : found? value = some id) :
    ∃ last ∈ looked, isFetchOf lookupUrl last ∧
      ∃ body, last.content? = some body ∧ inquiry.listed? body = some id := by
  rcases (lookup.succeeds rfl).1 with ⟨last, member, fetches, answered⟩
  rcases content?_of_answerOf_eq_ok answered with ⟨body, content, decoded⟩
  exact ⟨last, member, fetches, body, content, (lists body value decoded).trans found⟩

/-- The second half of a journey, after the lookup. -/
theorem journey_of_fetch {lookupUrl : Url} {value : α} {id : String} {first : Option String}
    {looked : List Http.Exchange} {readTarget : Decoding β}
    {last : β → Call (Session (List Http.Exchange)) Unit}
    (located : inquiry.lookup client = .ok lookupUrl)
    (lookup : (client.errand operation read lookupUrl).Course first looked (.ok value) before.id)
    (found : found? value = some id)
    (still : ∀ value before result after, Runs (last value) before result after → after = before)
    (run : Runs (do
      let url ← liftExcept (inquiry.target client id)
      let value ← client.fetch (Http.answering answer) operation readTarget url
      last value) before result after) :
    ∃ fetched, after.network = before.network ++ fetched ∧
      client.Journey inquiry first (looked ++ fetched) result after.id := by
  rcases course_of_fetching run with ⟨error, rfl, rfl⟩ |
    ⟨url, fetched, inner, middle, targeted, logged, fetch, rest⟩
  · refine ⟨[], by simp, ?_⟩
    rw [List.append_nil]
    exact .astray error located lookup
  · have listed := listed_of_course lists lookup found
    rcases rest with ⟨error, rfl, rfl, rfl⟩ | ⟨value, rfl, rest⟩
    · refine ⟨fetched, logged, .arrived located lookup listed targeted fetch fun other same => ?_⟩
      cases same
      rfl
    · rw [still value middle result after rest]
      refine ⟨fetched, logged, .arrived located lookup listed targeted fetch fun other same => ?_⟩
      cases same

variable (found?) in
/-- A lookup that finds nothing ends the call. -/
theorem journey_of_lookup {next : α → Call (Session (List Http.Exchange)) Unit}
    (readTarget : Decoding β) (last : β → Call (Session (List Http.Exchange)) Unit)
    (run : Runs (do
      let url ← liftExcept (inquiry.lookup client)
      let value ← client.fetch (Http.answering answer) operation read url
      next value) before result after)
    (lost : ∀ value, found? value = none → ∃ error, next value = throw error)
    (reaches : ∀ value id, found? value = some id → next value = do
      let url ← liftExcept (inquiry.target client id)
      let value ← client.fetch (Http.answering answer) operation readTarget url
      last value)
    (still : ∀ value before result after, Runs (last value) before result after → after = before) :
    ∃ exchanges, after.network = before.network ++ exchanges ∧
      client.Journey inquiry before.id exchanges result after.id := by
  rcases course_of_fetching run with ⟨error, rfl, rfl⟩ |
    ⟨url, looked, inner, middle, located, logged, lookup, rest⟩
  · exact ⟨[], by simp, .nowhere _ error⟩
  rcases rest with ⟨error, rfl, rfl, rfl⟩ | ⟨value, rfl, rest⟩
  · exact ⟨looked, logged, .astray error located lookup⟩
  cases found : found? value with
  | none =>
      rcases lost value found with ⟨error, throws⟩
      rw [throws] at rest
      rcases Runs.throw_iff.mp rest with ⟨rfl, rfl⟩
      exact ⟨looked, logged, .astray error located lookup⟩
  | some id =>
      rw [reaches value id found] at rest
      rcases journey_of_fetch lists located lookup found still rest with
        ⟨fetched, relogged, journey⟩
      exact ⟨looked ++ fetched, by rw [relogged, logged, List.append_assoc], journey⟩

end

theorem journey_of_fetchOfHost {inquiry : Inquiry} {name part : String} {readPart : Decoding β}
    {result : Except Error Unit} {last : β → Call (Session (List Http.Exchange)) Unit}
    (looks : inquiry.lookup client = client.search "api/vcenter/host" "names" name)
    (lists : inquiry.listed? = Inquiry.listedHost? name)
    (targets : ∀ id,
      inquiry.target client id = client.endpoint ("api/esx/hosts/" ++ id ++ "/" ++ part))
    (still : ∀ value before result after, Runs (last value) before result after → after = before)
    (run : Runs (do
      let value ← client.fetchOfHost (Http.answering answer) operation readPart name part
      last value) before result after) :
    ∃ exchanges, after.network = before.network ++ exchanges ∧
      client.Journey inquiry before.id exchanges result after.id := by
  simp only [fetchOfHost, hostId, bind_assoc] at run
  rw [← looks] at run
  refine journey_of_lookup
    (fun hosts => (hosts.find? fun host => host.name = name).map HostReference.host) ?_ readPart
    last run ?_ ?_ still
  · intro body hosts decoded
    rw [lists, Inquiry.listedHost?, decoded]
    exact Option.map_eq_bind.symm
  · intro hosts found
    rw [Option.map_eq_none_iff.mp found]
    exact ⟨_, rfl⟩
  · intro hosts id found
    rcases Option.map_eq_some_iff.mp found with ⟨host, first, rfl⟩
    rw [first, targets, pure_bind]

/-- Every call is a journey. -/
theorem journey_of_runs {inquiry : Inquiry} {result : Except Error Unit}
    (run : Runs (inquiry.perform (client.api (Http.answering answer))) before result after) :
    ∃ exchanges, after.network = before.network ++ exchanges ∧
      client.Journey inquiry before.id exchanges result after.id := by
  cases inquiry with
  | hostInfo host =>
      simp only [Inquiry.perform, api, bind_assoc] at run
      exact journey_of_fetchOfHost rfl rfl (fun _ => rfl)
        (fun _ _ _ _ pure => (Runs.pure_iff.mp pure).2) run
  | attestationReport host =>
      simp only [Inquiry.perform, api] at run
      exact journey_of_fetchOfHost rfl rfl (fun _ => rfl)
        (fun _ _ _ _ pure => (Runs.pure_iff.mp pure).2) run
  | clusterHosts cluster =>
      simp only [Inquiry.perform, api, bind_assoc] at run
      refine journey_of_lookup
        (fun clusters =>
          (clusters.find? fun other => other.name = cluster).map ClusterReference.cluster)
        ?_ (Json.Reader.list HostReference.read) (fun _ => pure ()) run ?_ ?_
        fun _ _ _ _ pure => (Runs.pure_iff.mp pure).2
      · intro body clusters decoded
        rw [Inquiry.listed?, Inquiry.listedCluster?, decoded]
        exact Option.map_eq_bind.symm
      · intro clusters found
        rw [Option.map_eq_none_iff.mp found]
        exact ⟨_, rfl⟩
      · intro clusters id found
        rcases Option.map_eq_some_iff.mp found with ⟨other, first, rfl⟩
        rw [first]
        simp only [bind_assoc]
        rfl

end Client

end Vcenter

end HostAttestation
