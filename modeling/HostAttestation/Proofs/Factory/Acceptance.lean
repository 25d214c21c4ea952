import HostAttestation.Factory
import HostAttestation.Proofs.Agent.Subjects
import HostAttestation.Proofs.Connection.Secrecy
import HostAttestation.Proofs.Url.Extension
import HostAttestation.Proofs.Url.Unescaped
import HostAttestation.Proofs.Url.Unread

/-! # What connectors are made of

Every reason for which no connector is made is a fault of the configuration, so that trying again
is of no use. A connector for a vCenter needs a host, a name and a password; one for a trust agent
needs complete credentials or none, and a way to the agent. The address of an agent is read twice,
the second time from its own text. -/

namespace HostAttestation

/-! ## Addresses of agents -/

namespace Agent

theorem Address.isSome_baseUrl? (url : Url) (version : String) :
    (baseUrl? url version).isSome = url.isBase := by
  rw [baseUrl?]
  split
  next base =>
    dsimp only
    split
    next => exact base.symm
    next => rw [Option.isSome_map, Url.isSome_append?, Url.isBase_trimmed]
  next base =>
    rw [Bool.not_eq_true] at base
    exact base.symm

namespace BusAgent

/-- An agent on the bus needs a name, a namespace, and servers, each of them a proper one. -/
structure IsListed (host : String) (options : BusOptions) : Prop where
  hosted : Bus.Token host
  named : ∀ text ∈ Text.splitText '.' options.namespaceName, Bus.Token text
  served : options.servers ≠ []
  servers : ∀ server ∈ options.servers, (Bus.server? server).isSome

theorem exists_checkServer_iff (server : String) :
    (∃ url, checkServer server = .ok url) ↔ (Bus.server? server).isSome := by
  rw [checkServer]
  cases Bus.server? server <;> simp

theorem exists_ofOptions_iff {host : String} {options : BusOptions} :
    (∃ agent, ofOptions host options = .ok agent) ↔ IsListed host options := by
  have servers : (∃ urls, options.servers.mapM checkServer = .ok urls) ↔
      ∀ server ∈ options.servers, (Bus.server? server).isSome := by
    simp only [Outcome.exists_mapM_eq_ok_iff, exists_checkServer_iff]
  constructor
  · rintro ⟨agent, accepted⟩
    have addressed := addressed_of_ofOptions accepted
    rcases Outcome.bind_eq_ok_iff.mp accepted with ⟨_, _, accepted⟩
    rcases Outcome.bind_eq_ok_iff.mp accepted with ⟨_, _, accepted⟩
    split at accepted
    · cases accepted
    next served =>
      rcases Outcome.bind_eq_ok_iff.mp accepted with ⟨urls, checked, _⟩
      exact ⟨addressed.hosted, addressed.named, served, servers.mp ⟨urls, checked⟩⟩
  · rintro ⟨hosted, named, served, checked⟩
    rcases servers.mpr checked with ⟨urls, checked⟩
    have tokens := Outcome.forM_eq_ok_iff.mpr fun text member =>
      (checkToken_eq_ok_iff "subject namespace" text).mpr (named text member)
    refine ⟨⟨host, options, urls⟩, ?_⟩
    rw [ofOptions, (checkToken_eq_ok_iff _ _).mpr hosted, tokens, if_neg served, checked]
    rfl

end BusAgent

namespace Endpoint

/-- On the bus the host matters, and otherwise the path and the certificates. -/
def IsServed (url : Url) (certificates : List String) (bus : BusOptions) : Prop :=
  if url.scheme = Address.busScheme then
    ∃ host, url.hostText? = some host ∧ BusAgent.IsListed host bus
  else url.isBase ∧ ∀ certificate ∈ certificates, Certificate.isUsable certificate

theorem exists_ofAddress_iff {address : String} {url : Url}
    (read : Url.parse? (Text.trim address) = some url) (options : EndpointOptions) :
    (∃ endpoint, ofAddress address options = .ok endpoint) ↔
      IsServed url options.certificates options.bus := by
  rw [ofAddress, Address.parse, read, IsServed]
  dsimp only
  split
  next =>
    cases url.hostText? with
    | none => simp [bind, Except.bind]
    | some host =>
        simp only [Option.some.injEq, exists_eq_left', ← BusAgent.exists_ofOptions_iff]
        constructor
        · rintro ⟨endpoint, made⟩
          rcases Outcome.bind_eq_ok_iff.mp made with ⟨_, ⟨⟩, made⟩
          rcases Outcome.bind_eq_ok_iff.mp made with ⟨agent, accepted, _⟩
          exact ⟨agent, accepted⟩
        · rintro ⟨agent, accepted⟩
          refine ⟨.onBus agent, ?_⟩
          exact Outcome.bind_eq_ok_iff.mpr ⟨_, rfl, Outcome.bind_eq_ok_iff.mpr ⟨agent, accepted, rfl⟩⟩
  next =>
    have based := Address.isSome_baseUrl? url options.http.version
    cases base : Address.baseUrl? url options.http.version with
    | none =>
        rw [base] at based
        rw [← based]
        simp [bind, Except.bind]
    | some baseUrl =>
        rw [base] at based
        rw [← based, ← List.all_eq_true]
        constructor
        · rintro ⟨endpoint, made⟩
          rcases Outcome.bind_eq_ok_iff.mp made with ⟨_, ⟨⟩, made⟩
          dsimp only at made
          split at made
          next usable => exact ⟨rfl, usable⟩
          next => cases made
        · rintro ⟨_, usable⟩
          refine ⟨.direct ⟨baseUrl, options.authentication, options.http.timeout⟩, ?_⟩
          exact Outcome.bind_eq_ok_iff.mpr ⟨_, rfl, if_pos usable⟩

theorem ofAddress_of_not_read {address : String} {options : EndpointOptions}
    (unread : Url.parse? (Text.trim address) = none) (endpoint : Endpoint) :
    ofAddress address options ≠ .ok endpoint := by
  rw [ofAddress, Address.parse, unread]
  rintro ⟨⟩

end Endpoint

end Agent

/-! ## Reading the address again -/

namespace Connection

theorem url_set (connection : Connection) (key : OptionKey) (value : String) :
    (connection.set key value).url = connection.url := by
  cases key <;> rfl

theorem url_of_parseOption {connection read : Connection} {option : List Char}
    (parsed : parseOption connection option = .ok read) : read.url = connection.url := by
  rw [parseOption] at parsed
  split at parsed
  next => cases parsed
  next =>
    dsimp only at parsed
    split at parsed
    next => cases parsed
    next =>
      cases parsed
      exact url_set connection _ _

theorem url_of_parseOptions {connection read : Connection} {options : List (List Char)}
    (parsed : parseOptions connection options = .ok read) : read.url = connection.url := by
  induction options generalizing connection with
  | nil =>
      cases parsed
      rfl
  | cons option rest induction =>
      rw [parseOptions] at parsed
      split at parsed
      next => exact induction parsed
      next =>
        split at parsed
        next given => exact (induction parsed).trans (url_of_parseOption given)
        next => cases parsed

theorem mem_of_splitVendor {address rest : List Char} {vendor : Vendor}
    (parted : splitVendor address = .ok (vendor, rest)) {c : Char} (member : c ∈ rest) :
    c ∈ address := by
  rw [splitVendor] at parted
  split at parted
  next =>
    cases parted
    exact member
  next tag behind cut =>
    split at parted
    next =>
      cases parted
      exact member
    next =>
      split at parted
      next =>
        cases parted
        rw [(Text.append_cons_of_cut? cut).2]
        exact List.mem_append_right tag (List.mem_cons_of_mem ':' member)
      next => cases parted

/-- The address is read from a part of the text. -/
theorem exists_parse?_url {text : String} {connection : Connection}
    (parsed : parse text = .ok connection) : ∃ address : List Char,
      (∀ c ∈ address, c ∈ text.toList) ∧
        Url.parse? (String.ofList address) = some connection.url := by
  cases parts : Text.split ';' text.toList with
  | nil => exact absurd parts (Text.split_ne_nil _ _)
  | cons address options =>
      rw [parse_eq_ofParts parts] at parsed
      rcases Outcome.bind_eq_ok_iff.mp (Outcome.mapError_eq_ok_iff.mp parsed) with
        ⟨⟨vendor, rest⟩, parted, parsed⟩
      dsimp only at parsed
      split at parsed
      next => cases parsed
      next url read =>
        rcases Outcome.bind_eq_ok_iff.mp parsed with ⟨given, named, parsed⟩
        split at parsed
        next => cases parsed
        next =>
          cases parsed
          refine ⟨rest, fun c member => ?_, by rw [url_of_parseOptions named, read]⟩
          have inside := Text.mem_of_mem_trimChars (mem_of_splitVendor parted member)
          exact (Text.mem_of_mem_split (by rw [parts]; exact List.mem_cons_self) inside).1

theorem isRead_url {text : String} {connection : Connection}
    (parsed : parse text = .ok connection) : connection.url.IsRead := by
  rcases exists_parse?_url parsed with ⟨_, _, read⟩
  exact Url.isRead_of_parse? read

/-- A label of ideographs without options names a trust agent. -/
theorem parse_of_isIdeograph {label : List Char} (ideographs : ∀ c ∈ label, Text.IsIdeograph c)
    {url : Url} (read : Url.parse? (String.ofList ("https://".toList ++ label)) = some url) :
    parse (String.ofList ("https://".toList ++ label)) =
      .ok ⟨.intel, url, none, none, none⟩ := by
  have whole : ';' ∉ "https://".toList ++ label := by
    intro member
    rcases List.mem_append.mp member with front | behind
    · exact absurd front (by decide)
    · exact Domain.not_mem_of_isIdeograph ideographs (by decide) behind
  have visible : ∀ c ∈ "https://".toList ++ label, ¬Text.isBlank c :=
    List.forall_mem_append.mpr
      ⟨fun c member => (Url.isVisible_of_mem Url.isClean_lead member).not_isBlank,
        fun c member => Bool.eq_false_iff.mp (ideographs c member).isBlank_eq_false⟩
  have parts := Text.split_of_not_mem whole
  rw [← String.toList_ofList (l := "https://".toList ++ label)] at parts
  have parted : splitVendor ("https://".toList ++ label) =
      .ok (.intel, "https://".toList ++ label) := rfl
  rw [parse_eq_ofParts parts, String.toList_ofList, ofParts, Text.trimChars_eq_self visible, parted]
  dsimp only [bind, Except.bind]
  rw [read]
  rfl

/-- An address in ASCII without escapes can be read again, and so can one whose scheme is not well
known. -/
theorem isSome_parse?_text_url {text : String} {connection : Connection}
    (parsed : parse text = .ok connection)
    (plain : Url.IsUnescaped text.toList ∨ Url.isSpecial connection.url.scheme = false) :
    (Url.parse? connection.url.text).isSome := by
  rcases exists_parse?_url parsed with ⟨address, inside, read⟩
  have settled : connection.url.IsSettled := by
    rcases plain with unescaped | general
    · apply Url.isSettled_of_isUnescaped _ read
      rw [String.toList_ofList]
      exact unescaped.subset inside
    · exact Url.isSettled_of_not_isSpecial general
  rw [Url.parse?_text_again (Url.isRead_of_parse? read) settled]
  rfl

end Connection

namespace Url

/-- Addresses that are read from one text agree in what matters to a client. -/
structure IsLike (left right : Url) : Prop where
  scheme : left.scheme = right.scheme
  isBase : left.isBase = right.isBase
  host : isSpecial left.scheme = false → left.hostText? = right.hostText?

theorem isBase_again (url : Url) :
    ({ url with path := url.path.again url.scheme } : Url).isBase = url.isBase := by
  rcases url with ⟨scheme, authority, isGuarded, path, query, fragment⟩
  cases path with
  | verbatim => rfl
  | segments list =>
      cases list with
      | nil => rfl
      | cons segment rest =>
          have filled : ∀ text, (segmentsOf scheme text).isEmpty = false := fun text => by
            rw [List.isEmpty_eq_false_iff]
            exact segmentsOf_ne_nil scheme text
          simp [isBase, Path.again, filled]

theorem isBase_of_isSpecial {url : Url} (read : url.IsRead) (special : isSpecial url.scheme) :
    url.isBase := by
  have located := read.located special
  have path := read.path
  rcases url with ⟨scheme, _ | authority, isGuarded, path, query, fragment⟩
  · cases located
  · cases path <;> rfl

theorem isLike_of_parse?_text {url again : Url} (read : url.IsRead)
    (readAgain : parse? url.text = some again) : again.IsLike url := by
  have scheme := scheme_of_parse?_text read readAgain
  cases special : isSpecial url.scheme with
  | false =>
      rw [parse?_text_again read (isSettled_of_not_isSpecial special)] at readAgain
      cases readAgain
      exact ⟨rfl, isBase_again url, fun _ => rfl⟩
  | true =>
      refine ⟨scheme, ?_, fun plain => ?_⟩
      · rw [isBase_of_isSpecial (isRead_of_parse? readAgain) (by rw [scheme, special]),
          isBase_of_isSpecial read special]
      · rw [scheme, special] at plain
        cases plain

end Url

namespace ConnectorPlan

open Connector (Error)

/-! ## What a plan needs -/

/-- Name and password that count are given, and a service that exchanges them, or neither is. -/
def AreComplete (connection : Connection) (trust : TrustMaterial) (settings : AgentSettings) :
    Prop :=
  ((connection.username <|> settings.username).isSome ∧
      (connection.password <|> settings.password).isSome ∧ trust.serviceUrl.isSome) ∨
    ((connection.username <|> settings.username) = none ∧
      (connection.password <|> settings.password) = none)

/-- A login to a vCenter, which is made over a channel that certificates secure. -/
structure IsLogin (connection : Connection) (trust : TrustMaterial) : Prop where
  host : connection.host.isSome
  username : connection.username.isSome
  password : connection.password.isSome
  certificates : ∀ certificate ∈ trust.certificates, Certificate.isUsable certificate

/-- What the makers of a descriptor have to see to. -/
def IsUsable (connection : Connection) (trust : TrustMaterial) (settings : Settings) : Prop :=
  match connection.vendor with
  | .vmware => IsLogin connection trust
  | .intel =>
      AreComplete connection trust settings.agent ∧
        Agent.Endpoint.IsServed connection.url trust.certificates settings.bus

section

variable {connection : Connection} {trust : TrustMaterial} {settings : Settings}

theorem exists_authentication_iff {settings : AgentSettings} :
    (∃ given, authentication connection trust settings = .ok given) ↔
      AreComplete connection trust settings := by
  unfold authentication AreComplete
  cases connection.username <|> settings.username with
  | none =>
      cases connection.password <|> settings.password with
      | none => cases settings.bearerToken <;> simp
      | some _ => simp
  | some _ =>
      cases connection.password <|> settings.password with
      | none => simp
      | some _ => cases trust.serviceUrl <;> simp

theorem exists_ofVcenter_iff :
    (∃ plan, ofVcenter connection trust = .ok plan) ↔ IsLogin connection trust := by
  rw [ofVcenter]
  constructor
  · rintro ⟨plan, made⟩
    split at made
    next host username password =>
      rcases Outcome.bind_eq_ok_iff.mp made with ⟨client, trusted, _⟩
      rw [Vcenter.Client.trusting] at trusted
      split at trusted
      next usable =>
        refine ⟨by rw [host]; rfl, by rw [username]; rfl, by rw [password]; rfl, ?_⟩
        exact List.all_eq_true.mp usable
      next => cases trusted
    next => cases made
  · rintro ⟨host, username, password, usable⟩
    rcases Option.isSome_iff_exists.mp host with ⟨host, hosted⟩
    rcases Option.isSome_iff_exists.mp username with ⟨username, named⟩
    rcases Option.isSome_iff_exists.mp password with ⟨password, given⟩
    rw [hosted, named, given]
    dsimp only
    rw [Vcenter.Client.trusting, if_pos (List.all_eq_true.mpr usable)]
    exact ⟨_, rfl⟩

theorem isServed_of_isLike {again url : Url} (like : again.IsLike url) (certificates : List String)
    (bus : Agent.BusOptions) :
    Agent.Endpoint.IsServed again certificates bus ↔
      Agent.Endpoint.IsServed url certificates bus := by
  rw [Agent.Endpoint.IsServed, Agent.Endpoint.IsServed, like.scheme, like.isBase]
  split
  next onBus =>
    have plain : Url.isSpecial again.scheme = false := by
      rw [like.scheme, onBus]
      decide
    rw [like.host plain]
  next => rfl

theorem exists_ofAgent_iff (read : connection.url.IsRead) :
    (∃ plan, ofAgent connection trust settings = .ok plan) ↔
      AreComplete connection trust settings.agent ∧
        Agent.Endpoint.IsServed connection.url trust.certificates settings.bus ∧
        (Url.parse? connection.url.text).isSome := by
  have trimmed := Url.trim_text read
  constructor
  · rintro ⟨plan, made⟩
    rcases Outcome.bind_eq_ok_iff.mp made with ⟨given, authentic, made⟩
    rcases Outcome.bind_eq_ok_iff.mp made with ⟨endpoint, addressed, _⟩
    replace addressed := Outcome.mapError_eq_ok_iff.mp addressed
    cases readAgain : Url.parse? connection.url.text with
    | none =>
        rw [← trimmed] at readAgain
        exact absurd addressed (Agent.Endpoint.ofAddress_of_not_read readAgain endpoint)
    | some again =>
        have like := Url.isLike_of_parse?_text read readAgain
        rw [← trimmed] at readAgain
        have served := (Agent.Endpoint.exists_ofAddress_iff readAgain _).mp ⟨endpoint, addressed⟩
        exact ⟨exists_authentication_iff.mp ⟨given, authentic⟩,
          (isServed_of_isLike like _ _).mp served, rfl⟩
  · rintro ⟨complete, served, readAgain⟩
    rcases exists_authentication_iff.mpr complete with ⟨given, authentic⟩
    rcases Option.isSome_iff_exists.mp readAgain with ⟨again, readAgain⟩
    have like := Url.isLike_of_parse?_text read readAgain
    rw [← trimmed] at readAgain
    rcases (Agent.Endpoint.exists_ofAddress_iff readAgain
        ⟨given, settings.agent.http, settings.bus, trust.certificates⟩).mpr
      ((isServed_of_isLike like _ _).mpr served) with ⟨endpoint, addressed⟩
    exact ⟨.agent endpoint, Outcome.bind_eq_ok_iff.mpr ⟨given, authentic,
      Outcome.bind_eq_ok_iff.mpr ⟨endpoint, Outcome.mapError_eq_ok_iff.mpr addressed, rfl⟩⟩⟩

theorem isConfiguration_of_authentication {settings : AgentSettings} {error : Error}
    (failed : authentication connection trust settings = .error error) :
    ∃ fault, error = .configuration fault := by
  unfold authentication at failed
  split at failed
  next =>
    split at failed
    next => cases failed
    next => cases failed; exact ⟨_, rfl⟩
  next => split at failed <;> cases failed
  next => cases failed; exact ⟨_, rfl⟩

theorem isConfiguration_of_ofAgent {error : Error}
    (failed : ofAgent connection trust settings = .error error) :
    ∃ fault, error = .configuration fault := by
  rcases Outcome.bind_eq_error_iff.mp failed with unauthentic | ⟨given, _, failed⟩
  · exact isConfiguration_of_authentication unauthentic
  · rcases Outcome.bind_eq_error_iff.mp failed with unaddressed | ⟨endpoint, _, impossible⟩
    · rcases Outcome.mapError_eq_error_iff.mp unaddressed with ⟨fault, _, rfl⟩
      exact ⟨_, rfl⟩
    · cases impossible

theorem isConfiguration_of_ofVcenter {error : Error}
    (failed : ofVcenter connection trust = .error error) :
    ∃ fault, error = .configuration fault := by
  rw [ofVcenter] at failed
  split at failed
  next =>
    rcases Outcome.bind_eq_error_iff.mp failed with untrusted | ⟨client, _, impossible⟩
    · rw [Vcenter.Client.trusting] at untrusted
      split at untrusted
      next => cases untrusted
      next => cases untrusted; exact ⟨_, rfl⟩
    · cases impossible
  next => cases failed; exact ⟨_, rfl⟩

end

theorem isConfiguration_of_parse {text : String} {error : Error}
    (failed : Connection.parse text = .error error) : ∃ fault, error = .configuration fault := by
  rw [Connection.parse] at failed
  split at failed
  next => cases failed; exact ⟨_, rfl⟩
  next =>
    rcases Outcome.mapError_eq_error_iff.mp failed with ⟨fault, _, rfl⟩
    exact ⟨fault, rfl⟩

theorem isConfiguration_of_ofText {text : String} {trust : TrustMaterial} {settings : Settings}
    {error : Error} (failed : ofText text trust settings = .error error) :
    ∃ fault, error = .configuration fault := by
  rcases Outcome.bind_eq_error_iff.mp failed with unread | ⟨connection, _, failed⟩
  · exact isConfiguration_of_parse unread
  · rw [ofConnection] at failed
    split at failed
    next => exact isConfiguration_of_ofAgent failed
    next => exact isConfiguration_of_ofVcenter failed

/-- A descriptor that is refused is at fault itself, and those that are accepted are the usable
ones, of which the address of an agent can be read again. It always can if the text is in ASCII
without escapes or the scheme is not well known. -/
theorem ofText_accepts_usable (text : String) (trust : TrustMaterial) (settings : Settings) :
    (∀ error, ofText text trust settings = .error error →
        error.kind = "Configuration" ∧ error.isRetryable = false) ∧
      ((∃ plan, ofText text trust settings = .ok plan) ↔
        ∃ connection, Connection.parse text = .ok connection ∧
          IsUsable connection trust settings ∧
          (connection.vendor = .intel → (Url.parse? connection.url.text).isSome)) ∧
      ∀ connection, Connection.parse text = .ok connection →
        Url.IsUnescaped text.toList ∨ Url.isSpecial connection.url.scheme = false →
        (Url.parse? connection.url.text).isSome := by
  refine ⟨?_, ?_, fun connection => Connection.isSome_parse?_text_url⟩
  · intro error failed
    rcases isConfiguration_of_ofText failed with ⟨fault, rfl⟩
    exact ⟨rfl, rfl⟩
  · have each (connection : Connection) (parsed : Connection.parse text = .ok connection) :
        (∃ plan, ofConnection connection trust settings = .ok plan) ↔
          IsUsable connection trust settings ∧
            (connection.vendor = .intel → (Url.parse? connection.url.text).isSome) := by
      rw [ofConnection, IsUsable]
      cases connection.vendor with
      | intel => simp [exists_ofAgent_iff (Connection.isRead_url parsed), and_assoc]
      | vmware => simp [exists_ofVcenter_iff]
    constructor
    · rintro ⟨plan, made⟩
      rcases Outcome.bind_eq_ok_iff.mp made with ⟨connection, parsed, made⟩
      exact ⟨connection, parsed, (each connection parsed).mp ⟨plan, made⟩⟩
    · rintro ⟨connection, parsed, usable⟩
      rcases (each connection parsed).mpr usable with ⟨plan, made⟩
      exact ⟨plan, Outcome.bind_eq_ok_iff.mpr ⟨connection, parsed, made⟩⟩

/-- Nothing is wrong with the descriptor but that the domain is too long once it is encoded. -/
theorem not_accepted_of_sparse :
    ∃ connection, Connection.parse (Url.sparseText 900) = .ok connection ∧
      IsUsable connection {} {} ∧ ¬∃ plan, ofText (Url.sparseText 900) {} {} = .ok plan := by
  have most : 900 ≤ Domain.meaningLimit := by decide
  have read := Url.parse?_sparseText most (by decide)
  have unread := Url.parse?_text_eq_none_of_sparse most (by decide)
    (Url.isRead_of_parse? read) rfl rfl
  have parsed := Connection.parse_of_isIdeograph (fun c => Url.isIdeograph_of_mem_sparse most) read
  refine ⟨_, parsed, ⟨.inr ⟨rfl, rfl⟩, ?_⟩, ?_⟩
  · rw [Agent.Endpoint.IsServed, if_neg (by decide)]
    exact ⟨rfl, fun certificate trusted => by cases trusted⟩
  · rintro ⟨plan, made⟩
    rcases Outcome.bind_eq_ok_iff.mp made with ⟨connection, parsedAgain, made⟩
    have same : Except.ok _ = Except.ok connection := parsed.symm.trans parsedAgain
    cases same
    have usable := (exists_ofAgent_iff (Connection.isRead_url parsed)).mp ⟨plan, made⟩
    rw [unread] at usable
    cases usable.2.2

end ConnectorPlan

end HostAttestation
