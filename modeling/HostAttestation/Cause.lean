import HostAttestation.Json.Fields
import HostAttestation.Pcr.Violation

/-! # Causes

What stands behind an error, outermost first. A reason that somebody else gave in words of their
own is told apart from none at all, but its words are not repeated. -/

namespace HostAttestation

inductive Cause
  | stated (text : String)
  | violation (reason : Violation)
  | unstated
  deriving DecidableEq, Repr

namespace Cause

/-- Stands for words that are not repeated. -/
def elsewhere : String := "*"

def text : Cause → String
  | .stated words => words
  | .violation reason => reason.message
  | .unstated => elsewhere

/-- Why a document was not taken in. -/
def ofFault : Json.Fault Violation → Cause
  | .malformed => .unstated
  | .refused reason => .violation reason

end Cause

end HostAttestation
