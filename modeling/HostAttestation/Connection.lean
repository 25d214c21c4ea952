import HostAttestation.Connector.Error
import HostAttestation.Text.Quoted
import HostAttestation.Url.Parser

/-! # Connection strings

A connection string names a vendor, the address of an agent or of a vCenter, and options. The
vendor may be left out. Its printed form shows that there is a password but not which one. -/

namespace HostAttestation

structure Connection where
  vendor : Vendor
  url : Url
  host : Option String
  username : Option String
  password : Option String
  deriving DecidableEq

namespace Connection

open Connector (ConfigurationFault)

inductive OptionKey
  | host
  | username
  | password
  deriving DecidableEq, Repr

def OptionKey.parse? (key : String) : Option OptionKey :=
  if key = "h" ∨ key = "hostname" then some .host
  else if key = "u" ∨ key = "username" then some .username
  else if key = "p" ∨ key = "password" then some .password
  else none

/-- Of options with one key the last one counts. -/
def set (connection : Connection) (key : OptionKey) (value : String) : Connection :=
  match key with
  | .host => { connection with host := some value }
  | .username => { connection with username := some value }
  | .password => { connection with password := some value }

/-- An address in which two slashes follow the first colon names no vendor. -/
def splitVendor (address : List Char) : Except ConfigurationFault (Vendor × List Char) :=
  match Text.cut? ':' address with
  | none => .ok (.intel, address)
  | some (tag, rest) =>
      if ['/', '/'].isPrefixOf rest then .ok (.intel, address)
      else
        match Vendor.parse? (String.ofList tag) with
        | some vendor => .ok (vendor, rest)
        | none => .error (.unknownVendor (String.ofList tag))

def parseOption (connection : Connection) (option : List Char) :
    Except ConfigurationFault Connection :=
  match Text.cut? '=' option with
  | none => .error (.optionForm (String.ofList option))
  | some (key, value) =>
      let key := String.ofList (Text.trimChars key)
      match OptionKey.parse? key with
      | none => .error (.unknownOption key)
      | some key => .ok (connection.set key (String.ofList value))

/-- Blank options are passed over. -/
def parseOptions (connection : Connection) : List (List Char) →
    Except ConfigurationFault Connection
  | [] => .ok connection
  | part :: rest =>
      let option := Text.trimChars part
      if option = [] then parseOptions connection rest
      else
        match parseOption connection option with
        | .ok connection => parseOptions connection rest
        | .error fault => .error fault

def ofParts (address : List Char) (options : List (List Char)) :
    Except ConfigurationFault Connection := do
  let (vendor, address) ← splitVendor (Text.trimChars address)
  match Url.parse? (String.ofList address) with
  | none => throw (.invalidAddress (String.ofList address))
  | some url => do
      let connection ← parseOptions ⟨vendor, url, none, none, none⟩ options
      if connection.vendor = .vmware ∧ connection.host = none then throw .missingHost
      else pure connection

def parse (text : String) : Except Connector.Error Connection :=
  match Text.split ';' (Text.trimChars text.toList) with
  | [] => .error (.configuration (.invalidAddress ""))
  | address :: options => (ofParts address options).mapError .configuration

/-! ## Printed form -/

def shown : Option String → String
  | none => "None"
  | some text => "Some(" ++ Text.quoted text ++ ")"

/-- Stands for a password. -/
def mask : String := "***"

def summary (connection : Connection) : String :=
  "ConnectionString \x7b vendor: " ++ connection.vendor.title ++ ", url: " ++
    Text.quoted connection.url.text ++ ", host_name: " ++ shown connection.host ++
    ", username: " ++ shown connection.username ++ ", password: " ++
    shown (connection.password.map fun _ => mask) ++ " \x7d"

end Connection

end HostAttestation
