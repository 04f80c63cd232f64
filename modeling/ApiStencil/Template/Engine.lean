import ApiStencil.Template.Piece
import ApiStencil.Template.Rendering

/-!
The template engine: templates by name, the filters and functions that they use, and the endings of
the names of templates whose output is escaped.  Main definitions: rendering a template by its name
and rendering a source that has no name.
-/

namespace ApiStencil

open Json Template

/-- A template engine. -/
structure Engine where
  templates : Catalog Template
  tools : Tools
  /-- Output is escaped in templates whose name ends in one of these. -/
  escapedEndings : List String

namespace Engine

/-- The engine without templates, with the built-in filters only and without functions. -/
def bare : Engine :=
  ⟨.empty, ⟨Filter.builtIn, .empty⟩, [".html", ".htm", ".xml"]⟩

/-- The engine with further templates, later ones replacing earlier ones of the same name. -/
def withTemplates (engine : Engine) (templates : Catalog Template) : Engine :=
  { engine with templates := engine.templates.extend templates }

/-- Whether the output of a template is escaped. -/
def escapes (engine : Engine) (name : String) : Bool :=
  engine.escapedEndings.any fun ending => ending.toList.isSuffixOf name.toList

/-- How deep templates can be nested in one another.  The limit is far above what templates nest in
practice; it is there so that a template that includes itself without an end fails. -/
def maxNesting : Nat := 512

/-- The text of the nodes of a template, with the templates nested in it up to a depth. -/
def renderBody (engine : Engine) (escaping : Bool) (context : List (String × Value)) :
    Nat → String → Frames → List Node → Action String
  | 0, _, _, _ => throw .includesTooDeep
  | depth + 1, name, frames, nodes => do
    let embed (other : String) (frames : Frames) : Action String :=
      match engine.templates.find? other with
      | none => throw (.includeNotFound other)
      | some t => renderBody engine escaping context depth other (Frame.fresh none :: frames) t.nodes
    let (s, _) ← renderNodes ⟨engine.tools, escaping, context, name, embed⟩ frames nodes
    pure s

/-- **The text of a template** with the variables of a context. -/
def render (engine : Engine) (name : String) (context : List (String × Value)) : Action String :=
  match engine.templates.find? name with
  | none => throw (.templateNotFound name)
  | some t => Action.mapFailure (.rendering name)
    (renderBody engine (engine.escapes name) context maxNesting name [Frame.fresh none] t.nodes)

/-- The name of a template that is rendered without being kept. -/
def oneOffName : String := "__tera_one_off"

/-- The text of a template that the engine does not keep. -/
def renderOnce (engine : Engine) (t : Template) (context : List (String × Value)) :
    Action String :=
  { engine with templates := engine.templates.insert oneOffName t }.render oneOffName context

end Engine

namespace Template

/-- The variables of a context, which has to be an object. -/
def contextOf (context : Value) : Except Failure (List (String × Value)) :=
  match context with
  | .obj members => .ok members
  | _ => .error .contextNotObject

end Template

end ApiStencil
