import ApiStencil.Config
import ApiStencil.Files
import ApiStencil.Filters.Table
import ApiStencil.Glob

/-!
Environments: a template engine with the filters for API descriptions.  For a render the engine is
bound to one scope, whose accumulators the templates then use: a scope of its own, or one that it
shares with other renders.  What a failing render has accumulated stays in its scope.
-/

namespace ApiStencil

open Json Template

/-- What a render gives: the text, and what its scope holds after it. -/
structure Output where
  content : String
  imports : List String
  typeAliases : List String
deriving DecidableEq, Repr

namespace Output

/-- The output with a text and what a scope holds; fails if an accumulator cannot be used. -/
def collect (content : String) (scope : Scope) : Except Scope.Poisoned Output := do
  let imports ← scope.flags? .imports
  let typeAliases ← scope.flags? .typeAliases
  .ok ⟨content, imports.keys, typeAliases.keys⟩

end Output

/-- A template engine with the filters that keep nothing between calls. -/
structure Environment where
  engine : Engine

namespace Environment

/-- The environment of an engine, and what is reported when it is made.  Whether output is escaped
depends on the configuration and not on the names of templates. -/
def ofEngine (engine : Engine) (config : Config) : Environment × List Event :=
  let table := FilterTable.stateless config.strictStatusCodes
  let endings := if config.autoescape then [""] else []
  (⟨table.install { engine with escapedEndings := endings }⟩,
    [.filtersInstalled table.text config.autoescape])

/-- The templates that named sources make; of two of one name the later one stays. -/
def templatesOf (sources : List (String × String)) : Except Error (Catalog Template) := do
  let templates ← sources.mapM fun (name, source) =>
    match Template.ofSource? source with
    | some t => .ok (name, t)
    | none => .error .templateForm
  .ok (Catalog.ofList templates)

/-- The environment with templates from named sources. -/
def ofTemplates (sources : List (String × String)) (config : Config) :
    Except Error Environment × List Event :=
  match templatesOf sources with
  | .error e => (.error e, [])
  | .ok templates =>
    let (environment, events) := ofEngine (Engine.bare.withTemplates templates) config
    (.ok environment, events)

/-- The sources of the templates below a directory, by their paths from there. -/
def sourcesBelow (fs : FileSystem) (dir pattern : String) :
    Except Error (List (String × String)) :=
  ((fs.filesBelow dir).filter fun (path, _) => Glob.matches? pattern path).mapM
    fun (path, content) =>
      match Text.ofBytes? content with
      | some source => .ok (path, source)
      | none => .error .templateForm

/-- The environment with the templates of the configured directory. -/
def ofConfig (fs : FileSystem) (config : Config) : Except Error Environment × List Event :=
  match config.templateDir, config.glob? with
  | some dir, some glob =>
    match sourcesBelow fs dir.shown config.filePattern >>= templatesOf with
    | .error e => (.error e, [])
    | .ok templates =>
      let (environment, events) := ofEngine (Engine.bare.withTemplates templates) config
      (.ok environment, .templatesLoaded glob templates.names.length :: events)
  | _, _ => (.error (.config "template_dir is required to load templates"), [])

/-- The names of the templates in order. -/
def templateNames (environment : Environment) : List String := environment.engine.templates.names

/-- The engine bound to a scope: with the accumulator entries that work on it. -/
def bound (environment : Environment) (i : Handle) : Engine :=
  (FilterTable.accumulators i).install environment.engine

/-- The output of a render in a scope that has gone well. -/
def finish (template : String) (content : String) (i : Handle) (ledger : Ledger) :
    Except Error Output × Ledger :=
  match Output.collect content (ledger.scope i) with
  | .error p => (.error (.ofPoisoned p), ledger)
  | .ok output =>
    let event := Event.rendered template output.imports.length output.typeAliases.length
    (.ok output, { ledger with journal := ledger.journal ++ [event] })

/-- **Renders a template in a scope.**  The output lists all that the scope holds. -/
def renderIn (environment : Environment) (template : String) (context : Value) (i : Handle)
    (scopes : Scopes) : Except Error Output × Ledger :=
  let action : Action String := do
    let vars ← liftM (contextOf context)
    (environment.bound i).render template vars
  match action.perform ⟨scopes, []⟩ with
  | (.error e, ledger) => (.error (.engine e), ledger)
  | (.ok content, ledger) => finish template content i ledger

/-- Renders a template in a scope of its own, which is made for it. -/
def render (environment : Environment) (template : String) (context : Value) (scopes : Scopes) :
    Except Error Output × Ledger :=
  let (i, scopes) := scopes.make
  environment.renderIn template context i scopes

/-- Renders a source in a scope. -/
def renderSource (environment : Environment) (source : String) (context : Value) (i : Handle)
    (scopes : Scopes) : Except Error String × Ledger :=
  match contextOf context with
  | .error e => (.error (.engine e), ⟨scopes, []⟩)
  | .ok vars =>
    match Template.ofSource? source with
    | none => (.error .templateForm, ⟨scopes, []⟩)
    | some t =>
      match ((environment.bound i).renderOnce t vars).perform ⟨scopes, []⟩ with
      | (.error e, ledger) => (.error (.engine e), ledger)
      | (.ok content, ledger) => (.ok content, ledger)

end Environment

end ApiStencil
