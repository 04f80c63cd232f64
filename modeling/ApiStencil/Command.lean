import ApiStencil.Config.Text
import ApiStencil.Environment

/-!
The command line: rendering one template against a context, and listing the filters.  A command
runs on any disk, that is in any monad that can read and write files and print.  Everything that
can fail before the result is there comes before the first visible effect.
-/

namespace ApiStencil

open Json

/-- What a command needs from the world around it. -/
class Disk (m : Type → Type) where
  read : String → m (Except FileFault ByteArray)
  makeDirectories : String → m (Except FileFault Unit)
  write : String → ByteArray → m (Except FileFault Unit)
  print : String → m Unit

namespace Command

/-! ### Requests -/

/-- What to render, and where to. -/
structure RenderRequest where
  template : String
  context : String
  config : Option String
  strict : Bool
  output : Option String
deriving DecidableEq, Repr

/-- What a command line asks for. -/
inductive Request where
  | version
  | filters
  | render (request : RenderRequest)
deriving DecidableEq, Repr

/-- The options of a render that were read so far. -/
structure Options where
  template : Option String
  context : Option String
  config : Option String
  strict : Bool
  output : Option String

namespace Options

/-- No option. -/
def none : Options := ⟨.none, .none, .none, false, .none⟩

/-- Adds an option with a value that is not empty; fails if the option is unknown or comes twice. -/
def add (options : Options) (name value : String) : Option Options :=
  let once (before : Option String) (after : Options) : Option Options :=
    if before.isSome || value.isEmpty then .none else some after
  if name = "template" then once options.template { options with template := some value }
  else if name = "context" then once options.context { options with context := some value }
  else if name = "config" then once options.config { options with config := some value }
  else if name = "output" then once options.output { options with output := some value }
  else .none

/-- The request that the options make, if none is missing. -/
def request? (options : Options) : Option RenderRequest := do
  let template ← options.template
  let context ← options.context
  some ⟨template, context, options.config, options.strict, options.output⟩

end Options

/-- An option with its two dashes: its name, and its value if that comes after an equals sign. -/
def splitOption (arg : String) : Option (String × Option String) :=
  match arg.toList with
  | '-' :: '-' :: cs =>
    let name := String.ofList (cs.takeWhile (· ≠ '='))
    match cs.dropWhile (· ≠ '=') with
    | '=' :: value => some (name, some (String.ofList value))
    | _ => some (name, none)
  | _ => none

/-- Whether an argument looks like an option and not like a value. -/
def looksLikeOption (arg : String) : Bool :=
  match arg.toList with
  | '-' :: _ :: _ => true
  | _ => false

/-- The mark that ends the options of a command. -/
def endOfOptions : String := "--"

/-- Reads the options of a render. -/
def readOptions (options : Options) : List String → Option Options
  | [] => some options
  | arg :: rest =>
    if arg = endOfOptions then (if rest.isEmpty then some options else none) else
    match splitOption arg, rest with
    | some ("strict", none), rest =>
      if options.strict then none else readOptions { options with strict := true } rest
    | some (name, some value), rest => do
      let options ← options.add name value
      readOptions options rest
    | some (name, none), value :: rest =>
      if looksLikeOption value then none
      else do
        let options ← options.add name value
        readOptions options rest
    | _, _ => none

/-- **What a command line asks for**, if it is well formed. -/
def request? : List String → Option Request
  | [] => none
  | arg :: rest =>
    if arg = "--version" || arg = "-V" then some .version
    else if arg = "filters" then
      if rest.isEmpty || rest = [endOfOptions] then some .filters else none
    else if arg = "render" then
      (readOptions .none rest >>= Options.request?).map .render
    else none

/-! ### Running -/

/-- How a command ends: its exit code, and the message of a failure. -/
structure Outcome where
  exit : Nat
  failure : Option String
deriving DecidableEq, Repr

namespace Outcome

/-- The end of a command that has gone well. -/
def success : Outcome := ⟨0, none⟩

/-- The end of a command that has failed. -/
def failed (message : String) : Outcome := ⟨1, some message⟩

/-- The end of a command that is not understood. -/
def misused : Outcome := ⟨2, none⟩

end Outcome

/-- The version of the program. -/
def versionText : String := "gen-api-models 0.1.0\n"

/-- The list of filters and functions. -/
def filtersText : String :=
  let table := FilterTable.full Config.default.strictStatusCodes
  "Filters:\n" ++ String.join (table.filterNames.map fun name => s!"  • {name}\n")
    ++ "Functions:\n" ++ String.join (table.functionNames.map fun name => s!"  • {name}()\n")

/-- The name of the template of a file. -/
def templateName (path : String) : String := (FilePath.fileName? path).getD "template"

/-- The value that a context file holds: JSON by its extension, else YAML. -/
def contextOfFile (path text : String) : Except String Value :=
  if Config.isJsonFile path then
    match Value.ofText? text with
    | some v => .ok v
    | none => .error "Failed to parse JSON context"
  else
    match Yaml.valueOfText? text with
    | some v => .ok v
    | none => .error "Failed to parse YAML context"

/-- The text of a file that was read. -/
def textOfFile (message : String) (content : Except FileFault ByteArray) : Except String String :=
  match content with
  | .ok bytes =>
    match Text.ofBytes? bytes with
    | some text => .ok text
    | none => .error message
  | .error _ => .error message

/-- The configuration that a file holds, or the default if there is no file for it. -/
def configOf (path : Option String) (content : Except FileFault ByteArray) :
    Except String Config :=
  match path with
  | none => .ok .default
  | some path =>
    match content with
    | .ok bytes =>
      match Config.ofFile path bytes with
      | .ok config => .ok config
      | .error _ => .error s!"Failed to load config from {path}"
    | .error _ => .error s!"Failed to load config from {path}"

/-- What a render gives from a configuration, a source and a context. -/
def contentOf (request : RenderRequest) (config : Config) (source : String) (context : Value) :
    Except String String :=
  let config := { config with strictStatusCodes := config.strictStatusCodes || request.strict }
  let name := templateName request.template
  match (Environment.ofTemplates [(name, source)] config).1 with
  | .error _ => .error s!"Failed to parse template {request.template}"
  | .ok environment =>
    match (environment.render name context .empty).1 with
    | .error _ => .error s!"Failed to render template {request.template}"
    | .ok output => .ok output.content

section Running

variable {m : Type → Type} [Monad m] [Disk m]

/-- Reads everything that a render needs and renders, without any effect that can be seen. -/
def prepare (request : RenderRequest) : ExceptT String m String := do
  let content ← match request.config with
    | some path => (Disk.read path : m _)
    | none => pure (.error .notFound)
  let config ← liftM (configOf request.config content)
  let content ← (Disk.read request.template : m _)
  let source ← liftM (textOfFile s!"Failed to read template {request.template}" content)
  let content ← (Disk.read request.context : m _)
  let text ← liftM (textOfFile s!"Failed to read context {request.context}" content)
  let context ← liftM (contextOfFile request.context text)
  liftM (contentOf request config source context)

/-- Writes the content of a render to its place. -/
def deliver (request : RenderRequest) (content : String) : m Outcome := do
  match request.output with
  | none =>
    Disk.print content
    pure .success
  | some path =>
    let made ← match FilePath.parent? path with
      | some dir => Disk.makeDirectories dir
      | none => pure (.ok ())
    match made with
    | .error fault => pure (.failed fault.message)
    | .ok () =>
      match ← Disk.write path content.toUTF8 with
      | .ok () => pure .success
      | .error _ => pure (.failed s!"Failed to write {path}")

/-- Runs a render. -/
def render (request : RenderRequest) : m Outcome := do
  match ← (prepare request).run with
  | .error message => pure (.failed message)
  | .ok content => deliver request content

/-- **Runs a command line.** -/
def run (args : List String) : m Outcome := do
  match request? args with
  | none => pure .misused
  | some .version =>
    Disk.print versionText
    pure .success
  | some .filters =>
    Disk.print filtersText
    pure .success
  | some (.render request) => render request

end Running

/-! ### A disk in memory -/

/-- Files, and what was printed. -/
structure World where
  files : FileSystem
  printed : String

/-- Changes the files, or leaves them as they are where that fails. -/
def changeFiles (change : FileSystem → Except FileFault FileSystem) :
    StateM World (Except FileFault Unit) := do
  let world ← get
  match change world.files with
  | .ok files =>
    set { world with files }
    pure (.ok ())
  | .error fault => pure (.error fault)

instance : Disk (StateM World) where
  read path := do
    let world ← get
    pure (world.files.read path)
  makeDirectories path := changeFiles fun files => files.makeDirectories path
  write path content := changeFiles fun files => files.write path content
  print text := modify fun world => { world with printed := world.printed ++ text }

end Command

end ApiStencil
