import Roster.Document.Ini
import Roster.Document.Json
import Roster.Document.Json5
import Roster.Document.Ron
import Roster.Document.Toml.Lines
import Roster.Document.Yaml.Node

/-!
# Formats of documents

The format of a document is known from the name of its file.

* `Format.ofExtension?` is the format that an extension stands for.
* `Format.read?` is the data of a document.
-/

namespace Roster.Document

/-- How a document is written. -/
inductive Format
  | ini
  | json
  | json5
  | ron
  | toml
  | yaml
deriving DecidableEq

namespace Format

/-- The format that an extension stands for; case matters. -/
def ofExtension? (extension : String) : Option Format :=
  match extension with
  | "ini" => some ini
  | "json" => some json
  | "json5" => some json5
  | "ron" => some ron
  | "toml" => some toml
  | "yaml" | "yml" => some yaml
  | _ => none

/-- The data of a document. -/
def read? (format : Format) (cs : List Char) : Option Data :=
  match format with
  | ini => Ini.document? cs
  | json => Json.document? cs
  | json5 => Json5.document? cs
  | ron => Ron.document? cs
  | toml => Toml.document? cs
  | yaml => Yaml.document? cs

end Format

end Roster.Document
