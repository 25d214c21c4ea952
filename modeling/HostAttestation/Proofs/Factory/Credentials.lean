import HostAttestation.Factory
import HostAttestation.Proofs.Outcome

/-! # Where credentials come from

A name and a password may stand in the connection string and in the settings, and what stands in
the connection string counts. It counts for each of the two on its own: only after they were put
together they are counted, so a connection string that gives one of them gets the other one from
the settings. Main statements: these are all the ways in which credentials come together, and one
of them sends the password of the settings for a name that only the connection string gives. -/

namespace HostAttestation

namespace ConnectorPlan

/-- A source gives the name together with the password. -/
def Gives (givenName givenPassword : Option String) (username password : String) : Prop :=
  givenName = some username ∧ givenPassword = some password

section

variable (connection : Connection) (settings : AgentSettings) (username password : String)

def HaveOneSource : Prop :=
  Gives connection.username connection.password username password ∨
    Gives settings.username settings.password username password

/-- One half is from the connection string, and the other half is missing there. -/
def AreMixed : Prop :=
  (connection.password = none ∧ Gives connection.username settings.password username password) ∨
    (connection.username = none ∧ Gives settings.username connection.password username password)

end

section

variable {connection : Connection} {trust : TrustMaterial} {settings : AgentSettings} {url : Url}
  {username password : String}

theorem authentication_eq_service_iff :
    authentication connection trust settings = .ok (.service url username password) ↔
      trust.serviceUrl = some url ∧
        Gives (connection.username <|> settings.username)
          (connection.password <|> settings.password) username password := by
  unfold authentication Gives
  cases connection.username <|> settings.username with
  | none =>
      cases connection.password <|> settings.password with
      | none => cases settings.bearerToken <;> simp
      | some _ => simp
  | some _ =>
      cases connection.password <|> settings.password with
      | none => simp
      | some _ => cases trust.serviceUrl <;> simp

/-- The connection string gives both or neither, or else the credentials are mixed. -/
theorem gives_orElse_iff :
    Gives (connection.username <|> settings.username) (connection.password <|> settings.password)
        username password ↔
      Gives connection.username connection.password username password ∨
        (connection.username = none ∧ connection.password = none ∧
          Gives settings.username settings.password username password) ∨
        AreMixed connection settings username password := by
  unfold AreMixed Gives
  cases connection.username with
  | none => cases connection.password <;> simp
  | some _ => cases connection.password <;> simp

theorem service_iff_sources :
    authentication connection trust settings = .ok (.service url username password) ↔
      trust.serviceUrl = some url ∧
        (Gives connection.username connection.password username password ∨
          (connection.username = none ∧ connection.password = none ∧
            Gives settings.username settings.password username password) ∨
          AreMixed connection settings username password) := by
  rw [authentication_eq_service_iff, gives_orElse_iff]

end

/-! ## A name without a password -/

def service : Url :=
  ⟨"https", some ⟨"", "", .name "aas", none⟩, false, .segments ["aas", "v1"], none, none⟩

/-- The connection string `https://ta;u=admin`. -/
def named : Connection :=
  ⟨.intel, ⟨"https", some ⟨"", "", .name "ta", none⟩, false, .segments [""], none, none⟩, none,
    some "admin", none⟩

/-- A password is configured, but no name that it belongs to. -/
def nameless : AgentSettings :=
  { password := some "configured" }

def mixing : Agent.HttpAgent :=
  ⟨⟨"https", some ⟨"", "", .name "ta", none⟩, false, .segments ["v2"], none, none⟩,
    .service service "admin" "configured", .ofSeconds 30⟩

/-- The service issues a token. -/
def issuing : Agent.HttpAgent.Session Http.Peer :=
  ⟨none, ⟨[.ok ⟨200, .ok [0x61]⟩], []⟩⟩

/-- The configured password goes to the service with the name of the connection string. -/
theorem not_haveOneSource_of_name :
    Connection.parse "https://ta;u=admin" = .ok named ∧
      authentication named { serviceUrl := some service } nameless =
        .ok (.service service "admin" "configured") ∧
      ¬HaveOneSource named nameless "admin" "configured" ∧
      ofText "https://ta;u=admin" { serviceUrl := some service } { agent := nameless } =
        .ok (.agent (.direct mixing)) ∧
      ((mixing.client Http.Peer.network).hostInfo.run issuing).2.network.received.head?.map
          Http.Request.body =
        some (some (.object [("username", .string "admin"), ("password", .string "configured")])) := by
  refine ⟨by decide +kernel, rfl, ?_, by decide +kernel, rfl⟩
  unfold HaveOneSource Gives
  decide

end ConnectorPlan

end HostAttestation
