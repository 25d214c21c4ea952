import HostAttestation.Pcr.Basic
import HostAttestation.Bytes.Hex

/-! # Violations of the evidence model

What can be wrong with an index, a bank, a digest, a set of values or an event log. Every
violation names the field or the register that was rejected. -/

namespace HostAttestation

/-- The field that holds a digest. -/
inductive DigestField
  /-- The value of a register. -/
  | value (pcr : PcrId)
  /-- A measurement in a bare list. -/
  | measurement (position : Nat)
  /-- The measurement of an event in the log of a register. -/
  | event (position : Nat) (typeName : String) (pcr : PcrId)
  deriving DecidableEq, Repr

inductive Violation
  | invalidIndex (text : String)
  | unsupportedBank (name : String)
  | invalidHex (field : DigestField) (text : String)
  | digestLength (field : DigestField) (bank : PcrBank) (actual : Nat)
  | duplicateValue (pcr : PcrId)
  | duplicateEventLog (pcr : PcrId)
  | bankMismatch (pcr : PcrId) (bank : PcrBank)
  | missingValue (pcr : PcrId)
  | replayMismatch (pcr : PcrId) (reported replayed : Bytes)
  deriving DecidableEq, Repr

def DigestField.name : DigestField → String
  | .value pcr => "value of " ++ pcr.name
  | .measurement position => s!"measurement of event #{position}"
  | .event position typeName pcr =>
      s!"measurement of event #{position} ({typeName}) in " ++ pcr.name

def Violation.message : Violation → String
  | .invalidIndex text => s!"invalid PCR index `{text}`: must be pcr_0 to pcr_23"
  | .unsupportedBank name => s!"unsupported PCR bank `{name}`"
  | .invalidHex field text => field.name ++ s!": `{text}` is not a hex encoded digest"
  | .digestLength field bank actual =>
      field.name ++ s!": digest is {actual} bytes but bank " ++ bank.bankName ++
        s!" requires {bank.digestLength}"
  | .duplicateValue pcr => "duplicate PCR value for " ++ pcr.name
  | .duplicateEventLog pcr => "duplicate event log for " ++ pcr.name
  | .bankMismatch pcr bank => pcr.name ++ " is listed under bank " ++ bank.bankName
  | .missingValue pcr => "event log for " ++ pcr.name ++ " has no reported PCR value"
  | .replayMismatch pcr reported replayed =>
      "event log replay of " ++ pcr.name ++ " gives " ++ Hex.encode replayed ++
        ", the reported PCR value is " ++ Hex.encode reported

end HostAttestation
