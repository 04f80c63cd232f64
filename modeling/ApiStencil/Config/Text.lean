import ApiStencil.Config
import ApiStencil.Files
import ApiStencil.Json.Print
import ApiStencil.Yaml.Print

/-!
Configurations in files: JSON in files with the extension `json`, YAML in all others.  Reading what
was written gives the configuration back; a directory whose path is no text cannot be written.
-/

namespace ApiStencil.Config

open Json Yaml

/-- Whether the file at a path holds JSON. -/
def isJsonFile (path : String) : Bool := FilePath.extension? path = some "json"

/-! ### Reading YAML -/

/-- Why a configuration cannot be read from YAML. -/
abbrev YamlResult (α : Type) := Except Error α

/-- Fails because something else was expected at a node. -/
def mismatch {α : Type} (place : Option String) (expected : String) : Node → YamlResult α
  | .scalar tag style text =>
    .error (.yaml (.shape place (match Core.ofScalar tag style text with
      | .ok core => .wrongType core.found expected
      | .error asked => .wrongValue (.string text) asked)))
  | .sequence _ _ _ => .error (.yaml (.shape place (.wrongType .sequence expected)))
  | .mapping _ _ _ | .looped => .error (.yaml (.shape place (.wrongType .map expected)))
  | .missing => .error .yamlForm

/-- The text of a scalar of any kind. -/
def textOf (place expected : String) : Node → YamlResult String
  | .scalar _ _ text => .ok text
  | node => mismatch (some place) expected node

/-- The text of a scalar of any kind, or nothing for null. -/
def textOrNullOf (place expected : String) (node : Node) : YamlResult (Option String) :=
  match node with
  | .scalar tag .plain text =>
    match tag with
    | some "tag:yaml.org,2002:null" =>
      if Core.isNull text then .ok none
      else .error (.yaml (.shape none (.wrongValue (.string text) "null")))
    | some _ => .ok (some text)
    | none => .ok (if text.isEmpty || Core.isNull text then none else some text)
  | node => (textOf place expected node).map some

/-- The boolean of a plain scalar, or of lines below a bar that have the tag of booleans. -/
def boolOf (place : String) (node : Node) : YamlResult Bool :=
  let read := match node with
    | .scalar _ .plain text => Core.bool? text
    | .scalar (some "tag:yaml.org,2002:bool") .literal text => Core.bool? text
    | _ => none
  match read with
  | some b => .ok b
  | none => mismatch (some place) "a boolean" node

/-- Reads a field that may occur once. -/
def once {α : Type} (before : Option α) (read : YamlResult α) (add : α → Fields) :
    YamlResult Fields :=
  if before.isSome then .error .yamlForm else read.map add

/-- Takes in one entry; entries with unknown keys are skipped. -/
def takeEntry (fields : Fields) (key value : Node) : YamlResult Fields :=
  match key with
  | .scalar _ _ name =>
    if name = dirField then
      once fields.templateDir (textOrNullOf name "path string" value) fun s =>
        { fields with templateDir := some s }
    else if name = extensionField then
      once fields.templateExtension (textOf name "a string" value) fun s =>
        { fields with templateExtension := some s }
    else if name = strictField then
      once fields.strictStatusCodes (boolOf name value) fun b =>
        { fields with strictStatusCodes := some b }
    else if name = autoescapeField then
      once fields.autoescape (boolOf name value) fun b =>
        { fields with autoescape := some b }
    else if value.isWhole then .ok fields
    else .error .yamlForm
  | key => mismatch none "field identifier" key

/-- The configuration of a node; nothing at all stands for the default. -/
def ofNode : Node → YamlResult Config
  | .scalar _ .plain "" => .ok default
  | .mapping _ entries closed => do
    let fields ← entries.foldlM (fun fields (key, value) => takeEntry fields key value) .none
    if closed then .ok fields.config else .error .yamlForm
  | node => mismatch none ("struct " ++ recordName) node

/-- The configuration of a YAML text. -/
def ofYaml (text : String) : YamlResult Config := do
  let document := Document.ofText text
  let config ← match document.root with
    | some root => ofNode root
    | none => .ok default
  if document.complete then .ok config else .error .yamlForm

/-! ### Reading and writing -/

/-- The configuration of a JSON text. -/
def ofJson (text : String) : Except Error Config :=
  match decodeText decode text with
  | .ok config => .ok config
  | .error (.shape e) => .error (.json (.shape none e))
  | .error .notJson => .error .jsonForm

/-- **The configuration that a file holds.** -/
def ofFile (path : String) (content : ByteArray) : Except Error Config :=
  match Text.ofBytes? content with
  | none => .error (.io .notText)
  | some text => if isJsonFile path then ofJson text else ofYaml text

/-- A configuration in YAML: a line for each field. -/
def yamlOf (c : Config) (dir : Option String) : String :=
  let entry (field : String) (value : List Char) : List Char := field.toList ++ ':' :: value
  let word (s : String) : List Char := ' ' :: s.toList ++ ['\n']
  String.ofList (
    entry dirField (match dir with
      | some s => writeText s
      | none => word "null")
    ++ entry extensionField (writeText c.templateExtension)
    ++ entry strictField (word (toString c.strictStatusCodes))
    ++ entry autoescapeField (word (toString c.autoescape)))

/-- **The text of the file at a path for a configuration.** -/
def toFile (path : String) (c : Config) : Except Error String :=
  let write (dir : Option String) : String :=
    if isJsonFile path then (c.jsonOf dir).pretty "" else c.yamlOf dir
  match c.templateDir with
  | none => .ok (write none)
  | some dir =>
    match dir.text? with
    | some s => .ok (write (some s))
    | none => .error (if isJsonFile path then .json .pathNotText else .yaml .pathNotText)

/-- The configuration in the file at a path. -/
def load (fs : FileSystem) (path : String) : Except Error Config :=
  match fs.read path with
  | .ok content => ofFile path content
  | .error fault => .error (.io fault)

/-- Writes a configuration to the file at a path; no file changes where that fails. -/
def save (fs : FileSystem) (path : String) (c : Config) : Except Error Unit × FileSystem :=
  match c.toFile path with
  | .error e => (.error e, fs)
  | .ok text =>
    match fs.write path text.toUTF8 with
    | .ok fs => (.ok (), fs)
    | .error fault => (.error (.io fault), fs)

end ApiStencil.Config
