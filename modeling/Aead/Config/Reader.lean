import Aead.Config
import Aead.Error
import Aead.Toml.Document

/-!
# Reading settings

A document may give any of the settings, each at most once; the others keep their defaults. Names
and sections that are no settings are read and passed over. A text or a file without settings is a
failure of the settings; the wording of such a failure is this library's own, and no promise.
-/

namespace Aead.Config

open Toml (Document Table Value)

/-- The names of the settings. -/
def settingNames : List String :=
  ["prefix", "export_precompute", "export_constants", "allow_software_aes", "algorithms"]

/-- The text of a string; other values have none. -/
def textOf? : Value → Option String
  | .text s => some s
  | _ => none

/-- The truth value of a boolean; other values have none. -/
def boolOf? : Value → Option Bool
  | .bool b => some b
  | _ => none

/-- The texts of an array of strings; other values have none. -/
def textsOf? : Value → Option (List String)
  | .array items => items.mapM textOf?
  | _ => none

/-- The settings with the value of one name set. -/
def set? (config : Config) (name : String) (value : Value) : Option Config :=
  match name with
  | "prefix" => (textOf? value).map fun s => { config with namePrefix := s }
  | "export_precompute" => (boolOf? value).map fun b => { config with exportPrecompute := b }
  | "export_constants" => (boolOf? value).map fun b => { config with exportConstants := b }
  | "allow_software_aes" => (boolOf? value).map fun b => { config with allowSoftwareAes := b }
  | "algorithms" => (textsOf? value).map fun names => { config with algorithms := names }
  | _ => some config

/-- No setting stands twice in a table. -/
def givesOnce (table : Table) : Bool :=
  settingNames.all fun name => (table.filter (·.1 = name)).length ≤ 1

/-- The settings that a document gives. -/
def ofDocument? (document : Document) : Option Config :=
  if givesOnce document.root &&
      document.sections.all fun (header, _) =>
        header.path.head?.all fun name => !settingNames.contains name
  then document.root.foldlM (fun config (name, value) => config.set? name value) {}
  else none

/-- The settings of a text. -/
def ofText (text : String) : Except Error Config :=
  match Document.ofText? text with
  | none => .error (.config "the document is malformed")
  | some document =>
    match ofDocument? document with
    | some config => .ok config
    | none => .error (.config "a setting has a value of the wrong kind or stands twice")

/-- The settings of a file with the given contents, or of one that cannot be read. -/
def ofFile (contents : Option ByteArray) : Except Error Config :=
  match contents with
  | none => .error (.config "the file cannot be read")
  | some bytes =>
    match String.fromUTF8? bytes with
    | some text => ofText text
    | none => .error (.config "the file does not hold UTF-8 text")

end Aead.Config
