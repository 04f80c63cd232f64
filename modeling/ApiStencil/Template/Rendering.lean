import ApiStencil.Template.Evaluation
import ApiStencil.Text.Quoted

/-!
Rendering the nodes of a template.  Nodes are rendered in order to one text; on the way they assign
variables, which later nodes see.
-/

namespace ApiStencil.Template

open Json

/-- What rendering a template uses and never changes. -/
structure Setting where
  tools : Tools
  /-- Whether printed texts are escaped. -/
  escaping : Bool
  context : List (String × Value)
  /-- The name of the template that is being rendered. -/
  template : String
  /-- The text of another template in the place of its name.  It sees the variables, and what it
  assigns itself is gone after it. -/
  embed : String → Frames → Action String

/-- The variables that an expression sees. -/
def Setting.variables (setting : Setting) (frames : Frames) : Variables :=
  ⟨frames, setting.context, setting.template⟩

/-! ### Loops -/

/-- A base that a loop cannot run over, in messages. -/
def describedBase : Base → String
  | .number (.whole i _) => s!"Int({i})"
  | .number n => s!"Float({n.write})"
  | .bool b => s!"Bool({b})"
  | .isDefined path wanted =>
    "Test(Test \x7b ident: " ++ Text.quoted path.written ++ ", negated: false, name: "
      ++ Text.quoted (if wanted then "defined" else "undefined") ++ ", args: [] \x7d)"
  | _ => ""

/-- What a loop runs over, in messages; a loop can run over a variable, a call or an array. -/
def containerName : Base → Except Failure String
  | .variable path => .ok path.written
  | .function c => .ok c.name
  | .array _ => .ok "an array literal"
  | other => .error (.notContainer (describedBase other))

namespace LoopHead

/-- The items that a loop runs over, each with its variable for the key and the key.  The name is
that of the container in messages. -/
def items? (head : LoopHead) (name : String) :
    Value → Except Failure (List (Option (String × String) × Value))
  | .arr items => listed (items.map fun v => (none, v))
  | .str s => listed (s.toList.map fun c => (none, .str (String.singleton c)))
  | .obj members =>
    match head.key with
    | some key => .ok (members.map fun (k, v) => (some (key, k), v))
    | none => .error (.keyMissing name)
  | _ => .error (.notIterable name)
where
  /-- The items of a list, which have no keys. -/
  listed (items : List (Option (String × String) × Value)) :
      Except Failure (List (Option (String × String) × Value)) :=
    match head.key with
    | none => .ok items
    | some _ => .error (.noKeys name)

end LoopHead

/-- Renders the body of a loop for one item after the other.  Every turn starts from a frame of its
own; what the body assigns outside of that frame stays assigned. -/
def renderTurns (name : String) (body : Frames → Action (String × Frames)) (frames : Frames) :
    Nat → List (Option (String × String) × Value) → Action (String × Frames)
  | _, [] => pure ("", frames)
  | index, (key, v) :: rest => do
    let turn := Frame.fresh (some ⟨key, name, v, index, rest.isEmpty⟩)
    let (s, after) ← body (turn :: frames)
    let (others, frames) ← renderTurns name body after.tail (index + 1) rest
    pure (s ++ others, frames)

/-! ### Nodes -/

section Nodes

variable (setting : Setting)

mutual

/-- **The text of a node**, and the variables after it. -/
def renderNode (frames : Frames) : Node → Action (String × Frames)
  | .text s => pure (s, frames)
  | .output e => do
    let v ← valueOf setting.tools (setting.variables frames) setting.escaping e
    pure (v.shown, frames)
  | .assign isGlobal name e => do
    let v ← valueOf setting.tools (setting.variables frames) false e
    pure ("", if isGlobal then frames.assignGlobal name v else frames.assign name v)
  | .branch arms otherwise => renderArms frames (renderNodes frames otherwise) arms
  | .loop head body whenEmpty => do
    let name ← liftM (containerName head.container.base)
    let v ← valueOf setting.tools (setting.variables frames) false head.container
    let items ← liftM (head.items? name v)
    if items.isEmpty then renderNodes frames whenEmpty
    else renderTurns head.value (fun frames => renderNodes frames body) frames 0 items
  | .filtered (.mk name args) body => do
    let (s, frames) ← renderNodes frames body
    if name = safeName then pure (s, frames)
    else
      let result ← setting.tools.applyFilter name (.str s)
        (argumentsOf setting.tools (setting.variables frames) args)
      pure (result.value.shown, frames)
  | .embed name => do
    let s ← setting.embed name frames
    pure (s, frames)

/-- The text of nodes one after the other, and the variables after them. -/
def renderNodes (frames : Frames) : List Node → Action (String × Frames)
  | [] => pure ("", frames)
  | node :: rest => do
    let (s, frames) ← renderNode frames node
    let (others, frames) ← renderNodes frames rest
    pure (s ++ others, frames)

/-- The text of the first arm whose condition holds, or else of what comes otherwise. -/
def renderArms (frames : Frames) (otherwise : Action (String × Frames)) :
    List (Expr × List Node) → Action (String × Frames)
  | [] => otherwise
  | (e, body) :: rest => do
    if ← truthOf setting.tools (setting.variables frames) setting.escaping e then
      renderNodes frames body
    else renderArms frames otherwise rest

end

end Nodes

end ApiStencil.Template
