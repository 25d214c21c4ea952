import HostAttestation.Config.Conversion
import HostAttestation.Config.Place
import HostAttestation.Config.Toml.Document
import HostAttestation.Text.Blank

/-! # Configuration files

A file holds one table, in one of two forms. The members of the table are put at the places that
their keys name. This is done twice, so that a key is taken for a place also if only its small
letters are one. -/

namespace HostAttestation

namespace Settings

inductive FileForm
  | json
  | toml
  deriving DecidableEq, Repr

def FileForm.parse? (form : FileForm) (text : List Char) : Option Json :=
  match form with
  | .json =>
      match (Json.parseText (String.ofList text)).read (Json.Reader.json : Json.Reader Unit Json) with
      | .ok value => some value
      | .error _ => none
  | .toml => Toml.parse? text

/-- Settings are read from a table only. -/
def ofFile? (form : FileForm) (text : String) : Option Settings :=
  match form.parse? (Text.withoutByteOrderMark text.toList) with
  | some (.object members) =>
      let table := (Json.object members).sorted.placed.sorted.placed
      match Conversion.dialect.record (fields Conversion.dialect) table.toSource with
      | .ok settings => some settings
      | .error _ => none
  | _ => none

end Settings

end HostAttestation
