import ApiStencil.Error
import ApiStencil.Text.Utf8

/-!
The configuration of an environment: where its templates are and how they are rendered.
-/

namespace ApiStencil

open Json

/-- The path of a directory: a text, or bytes that encode none. -/
inductive DirectoryPath where
  | text (s : String)
  | raw (bytes : ByteArray) (notText : Text.ofBytes? bytes = none)

namespace DirectoryPath

instance : DecidableEq DirectoryPath
  | .text s, .text t => decidable_of_iff (s = t) (by simp)
  | .raw a _, .raw b _ => @decidable_of_iff _ (a = b) (by simp) (ByteArray.instDecidableEq a b)
  | .text _, .raw _ _ | .raw _ _, .text _ => isFalse (by simp)

/-- The path with these bytes. -/
def ofBytes (bytes : ByteArray) : DirectoryPath :=
  match h : Text.ofBytes? bytes with
  | some s => .text s
  | none => .raw bytes h

/-- The path as it is shown, with replacements for bytes that encode no text. -/
def shown : DirectoryPath → String
  | .text s => s
  | .raw bytes _ => Text.showBytes bytes

/-- The text of a path, if it is one. -/
def text? : DirectoryPath → Option String
  | .text s => some s
  | .raw _ _ => none

end DirectoryPath

/-- The configuration of an environment. -/
structure Config where
  /-- The directory of the templates. -/
  templateDir : Option DirectoryPath
  /-- The extension of the files that are templates. -/
  templateExtension : String
  /-- Whether it is a failure that a response status code has no wrapper. -/
  strictStatusCodes : Bool
  /-- Whether printed values are escaped for markup. -/
  autoescape : Bool
deriving DecidableEq

namespace Config

/-- The extension of templates where none is given. -/
def defaultExtension : String := "njk"

/-- The configuration where nothing is given. -/
def default : Config := ⟨none, defaultExtension, false, false⟩

instance : Inhabited Config := ⟨default⟩

/-! ### Fields -/

/-- The name of the field for the directory. -/
def dirField : String := "template_dir"

/-- The name of the field for the extension. -/
def extensionField : String := "template_extension"

/-- The name of the field for the strict mode. -/
def strictField : String := "strict_status_codes"

/-- The name of the field for escaping. -/
def autoescapeField : String := "autoescape"

/-- The name of the record in messages. -/
def recordName : String := "EnvironmentConfig"

/-- The fields of a configuration read so far. -/
structure Fields where
  templateDir : Option (Option String)
  templateExtension : Option String
  strictStatusCodes : Option Bool
  autoescape : Option Bool

namespace Fields

/-- No field. -/
def none : Fields := ⟨.none, .none, .none, .none⟩

/-- The configuration with these fields, and with the default for each field that is not there. -/
def config (fields : Fields) : Config where
  templateDir := (fields.templateDir.getD .none).map .text
  templateExtension := fields.templateExtension.getD defaultExtension
  strictStatusCodes := fields.strictStatusCodes.getD false
  autoescape := fields.autoescape.getD false

end Fields

/-! ### JSON -/

/-- How a configuration is decoded from JSON. -/
def shape : Draft.RecordShape Fields Config where
  name := recordName
  fields := [dirField, extensionField, strictField, autoescapeField]
  start := .none
  member _ fields key d :=
    if key = dirField then
      Draft.once dirField fields.templateDir (d.asTextOrNull "path string") fun s =>
        { fields with templateDir := some s }
    else if key = extensionField then
      Draft.once extensionField fields.templateExtension (d.asText "a string") fun s =>
        { fields with templateExtension := some s }
    else if key = strictField then
      Draft.once strictField fields.strictStatusCodes d.asBool fun b =>
        { fields with strictStatusCodes := some b }
    else if key = autoescapeField then
      Draft.once autoescapeField fields.autoescape d.asBool fun b =>
        { fields with autoescape := some b }
    else d.skip.map fun _ => fields
  finish fields := .ok fields.config

/-- Decodes a configuration from JSON. -/
def decode : Source → Draft → Decoded Config := shape.decode

/-- A configuration as JSON, with a text for its directory. -/
def jsonOf (c : Config) (dir : Option String) : Value :=
  .obj [(dirField, match dir with
      | some s => .str s
      | none => .null),
    (extensionField, .str c.templateExtension), (strictField, .bool c.strictStatusCodes),
    (autoescapeField, .bool c.autoescape)]

/-- A configuration as JSON, its directory as it is shown. -/
def toJson (c : Config) : Value := c.jsonOf (c.templateDir.map DirectoryPath.shown)

/-! ### Templates of a directory -/

/-- The extension without the dots in front of it. -/
def bareExtension (c : Config) : String :=
  String.ofList (c.templateExtension.toList.dropWhile (· = '.'))

/-- The pattern for the templates below their directory. -/
def filePattern (c : Config) : String := "**/*." ++ c.bareExtension

/-- **The pattern for the paths of the templates**, if there is a directory for them. -/
def glob? (c : Config) : Option String :=
  c.templateDir.map fun dir => dir.shown ++ "/" ++ c.filePattern

end Config

end ApiStencil
