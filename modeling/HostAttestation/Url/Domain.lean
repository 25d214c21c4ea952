import HostAttestation.Text.Split
import HostAttestation.Url.Domain.Direction
import HostAttestation.Url.Domain.Label

/-! # Domain names

A domain is a list of labels with full stops between them. To write it, its characters are folded
and composed first, so that domains which count as the same are written the same. -/

namespace HostAttestation

namespace Domain

/-- The written form of a domain. -/
def write? (text : List Char) : Option (List Char) := do
  let folded ← foldAll? text
  let labels ← (Text.split '.' (Text.compose folded)).mapM Label.ofFolded?
  let written := Text.join '.' (labels.map Label.written)
  if !written.isEmpty && directionsFit (labels.map Label.meaning) then some written else none

end Domain

end HostAttestation
