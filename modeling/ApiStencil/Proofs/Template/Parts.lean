import ApiStencil.Proofs.Template.Insertion
import ApiStencil.Template.Engine

/-!
# What a text is put together from

The text of a template is put together from parts: texts of the source, insertions of expressions,
and the texts that filters make of the bodies of their sections.  The parts are found by the
renderer below, which evaluates what the renderer of texts evaluates, in the same order, and keeps
the parts in the place of their texts.  So a text is what its parts give (`renderNodes_eq`,
`Engine.render_eq`), and what is inserted in a body stands in its text (`infix_textOf`).
-/

namespace ApiStencil

open Json ApiStencil.Action

namespace Action

variable {α β γ : Type}

/-- Two actions go on alike if one gives what the other's result is mapped to. -/
lemma bind_eq_of_map {a : Action α} {b : Action β} {g : β → α} {f : α → Action γ}
    {f' : β → Action γ} (h : a = g <$> b) (hf : ∀ y, f (g y) = f' y) : a >>= f = b >>= f' := by
  rw [h, bind_map_left]
  exact bind_congr hf

lemma mapFailure_map (wrap : Failure → Failure) (f : α → β) (a : Action α) :
    (f <$> a).mapFailure wrap = f <$> a.mapFailure wrap := by
  funext l
  show ((f <$> a).mapFailure wrap).perform l = (f <$> a.mapFailure wrap).perform l
  rw [perform_mapFailure, ← bind_pure_comp, ← bind_pure_comp, perform_bind, perform_bind,
    perform_mapFailure]
  rcases a.perform l with ⟨e | x, after⟩ <;> rfl

end Action

namespace Template

/-! ### Parts -/

/-- A part of a text. -/
inductive Part (tools : Tools) (escaping : Bool) where
  | text (s : String)
  | inserted (i : Insertion tools escaping)
  /-- The text that a filter makes of the body of its section. -/
  | filtered (body : List (Part tools escaping)) (s : String)

variable {tools : Tools} {escaping : Bool}

/-- The text of a part. -/
def Part.written : Part tools escaping → String
  | .text s => s
  | .inserted i => i.text
  | .filtered _ s => s

/-- The text of parts one after the other. -/
def textOf : List (Part tools escaping) → String
  | [] => ""
  | part :: rest => part.written ++ textOf rest

@[simp] lemma textOf_append (parts others : List (Part tools escaping)) :
    textOf (parts ++ others) = textOf parts ++ textOf others := by
  induction parts with
  | nil => simp [textOf]
  | cons part rest ih => simp [textOf, ih, String.append_assoc]

/-- What is inserted stands in the text. -/
lemma infix_textOf {parts : List (Part tools escaping)} {i : Insertion tools escaping}
    (h : .inserted i ∈ parts) : i.text.toList <:+: (textOf parts).toList := by
  obtain ⟨before, after, rfl⟩ := List.append_of_mem h
  refine ⟨(textOf before).toList, (textOf after).toList, ?_⟩
  simp [textOf, Part.written]

/-- The bodies that parts are put together from: the parts themselves, and those of the sections in
them that are filtered. -/
inductive Body (parts : List (Part tools escaping)) : List (Part tools escaping) → Prop
  | whole : Body parts parts
  | filtered {body inner : List (Part tools escaping)} {s : String} (outer : Body parts body)
    (mem : .filtered inner s ∈ body) : Body parts inner

/-! ### Finding the parts -/

/-- The parts of the body of a loop for one item after the other. -/
def partsOfTurns (name : String)
    (body : Frames → Action (List (Part tools escaping) × Frames)) (frames : Frames) :
    Nat → List (Option (String × String) × Value) → Action (List (Part tools escaping) × Frames)
  | _, [] => return ([], frames)
  | index, (key, v) :: rest => do
    let turn := Frame.fresh (some ⟨key, name, v, index, rest.isEmpty⟩)
    let (parts, after) ← body (turn :: frames)
    let (others, frames) ← partsOfTurns name body after.tail (index + 1) rest
    return (parts ++ others, frames)

section Nodes

variable (tools escaping) (context : List (String × Value)) (template : String)
  (embed : String → Frames → Action (List (Part tools escaping)))

mutual

/-- **The parts of a node**, and the variables after it. -/
def partsOfNode (frames : Frames) : Node → Action (List (Part tools escaping) × Frames)
  | .text s => return ([.text s], frames)
  | .output e => do
    let i ← insertionOf tools ⟨frames, context, template⟩ escaping e
    return ([.inserted i], frames)
  | .assign isGlobal name e => do
    let v ← valueOf tools ⟨frames, context, template⟩ false e
    return ([], if isGlobal then frames.assignGlobal name v else frames.assign name v)
  | .branch arms otherwise => partsOfArms frames (partsOfNodes frames otherwise) arms
  | .loop head body whenEmpty => do
    let name ← liftM (containerName head.container.base)
    let v ← valueOf tools ⟨frames, context, template⟩ false head.container
    let items ← liftM (head.items? name v)
    if items.isEmpty then partsOfNodes frames whenEmpty
    else partsOfTurns head.value (fun frames => partsOfNodes frames body) frames 0 items
  | .filtered (.mk name args) body => do
    let (parts, frames) ← partsOfNodes frames body
    if name = safeName then return ([.filtered parts (textOf parts)], frames)
    else
      let result ← tools.applyFilter name (.str (textOf parts))
        (argumentsOf tools ⟨frames, context, template⟩ args)
      return ([.filtered parts result.value.shown], frames)
  | .embed name => do
    let parts ← embed name frames
    return (parts, frames)

/-- The parts of nodes one after the other, and the variables after them. -/
def partsOfNodes (frames : Frames) : List Node → Action (List (Part tools escaping) × Frames)
  | [] => return ([], frames)
  | node :: rest => do
    let (parts, frames) ← partsOfNode frames node
    let (others, frames) ← partsOfNodes frames rest
    return (parts ++ others, frames)

/-- The parts of the first arm whose condition holds, or else of what comes otherwise. -/
def partsOfArms (frames : Frames) (otherwise : Action (List (Part tools escaping) × Frames)) :
    List (Expr × List Node) → Action (List (Part tools escaping) × Frames)
  | [] => otherwise
  | (e, body) :: rest => do
    if ← truthOf tools ⟨frames, context, template⟩ escaping e then partsOfNodes frames body
    else partsOfArms frames otherwise rest

end

/-! ### The text of the parts -/

variable {tools escaping context template embed}

/-- The text of parts, with the variables after them. -/
def asText (outcome : List (Part tools escaping) × Frames) : String × Frames :=
  (textOf outcome.1, outcome.2)

lemma asText_append (parts others : List (Part tools escaping)) (frames : Frames) :
    asText (parts ++ others, frames) = (textOf parts ++ textOf others, frames) := by
  rw [asText, textOf_append]

lemma renderTurns_eq {name : String} {body : Frames → Action (String × Frames)}
    {parts : Frames → Action (List (Part tools escaping) × Frames)}
    (h : ∀ frames, body frames = asText <$> parts frames) (frames : Frames) (index : Nat)
    (items : List (Option (String × String) × Value)) :
    renderTurns name body frames index items =
      asText <$> partsOfTurns name parts frames index items := by
  induction items generalizing frames index with
  | nil => rfl
  | cons item rest ih =>
    obtain ⟨key, v⟩ := item
    rw [renderTurns, partsOfTurns, map_bind]
    refine bind_eq_of_map (h _) fun ⟨parts, after⟩ => ?_
    rw [map_bind]
    refine bind_eq_of_map (ih after.tail (index + 1)) fun ⟨others, frames⟩ => ?_
    rw [map_pure, asText_append]
    rfl

/-- A setting in which other templates have the texts of these parts. -/
def settingOf (tools : Tools) (escaping : Bool) (context : List (String × Value))
    (template : String) (embed : String → Frames → Action (List (Part tools escaping))) : Setting :=
  ⟨tools, escaping, context, template, fun other frames => textOf <$> embed other frames⟩

lemma pure_eq_asText (part : Part tools escaping) (frames : Frames) :
    (pure (part.written, frames) : Action (String × Frames)) =
      asText <$> pure ([part], frames) := by
  rw [map_pure, asText, textOf, textOf, String.append_empty]

mutual

/-- **The text of a node** is that of its parts. -/
theorem renderNode_eq (frames : Frames) (node : Node) :
    renderNode (settingOf tools escaping context template embed) frames node =
      asText <$> partsOfNode tools escaping context template embed frames node := by
  cases node with
  | text s =>
    rw [renderNode, partsOfNode]
    exact pure_eq_asText (.text s) frames
  | output e =>
    rw [renderNode, partsOfNode, map_bind]
    refine (Insertion.valueOf_bind e fun s => pure (s, frames)).trans (bind_congr fun i => ?_)
    exact pure_eq_asText (.inserted i) frames
  | assign isGlobal name e =>
    rw [renderNode, partsOfNode, map_bind]
    exact bind_congr fun v => (map_pure _ _).symm
  | branch arms otherwise =>
    rw [renderNode, partsOfNode]
    exact renderArms_eq frames (renderNodes_eq frames otherwise) arms
  | loop head body whenEmpty =>
    rw [renderNode, partsOfNode, map_bind]
    refine bind_congr fun name => ?_
    rw [map_bind]
    refine bind_congr fun v => ?_
    rw [map_bind]
    refine bind_congr fun items => ?_
    split
    · exact renderNodes_eq frames whenEmpty
    · exact renderTurns_eq (fun frames => renderNodes_eq frames body) frames 0 items
  | filtered call body =>
    obtain ⟨name, args⟩ := call
    rw [renderNode, partsOfNode, map_bind]
    refine bind_eq_of_map (renderNodes_eq frames body) fun ⟨parts, after⟩ => ?_
    -- the filter gets the text of the body in both, so its section is one part
    dsimp only [asText]
    split
    · exact pure_eq_asText (.filtered parts (textOf parts)) after
    · rw [map_bind]
      exact bind_congr fun result => pure_eq_asText (.filtered parts result.value.shown) after
  | embed name =>
    rw [renderNode, partsOfNode, map_bind]
    exact bind_eq_of_map rfl fun parts => (map_pure _ _).symm

/-- **The text of nodes** is that of their parts. -/
theorem renderNodes_eq (frames : Frames) (nodes : List Node) :
    renderNodes (settingOf tools escaping context template embed) frames nodes =
      asText <$> partsOfNodes tools escaping context template embed frames nodes := by
  cases nodes with
  | nil => rfl
  | cons node rest =>
    rw [renderNodes, partsOfNodes, map_bind]
    refine bind_eq_of_map (renderNode_eq frames node) fun ⟨parts, after⟩ => ?_
    rw [map_bind]
    refine bind_eq_of_map (renderNodes_eq after rest) fun ⟨others, last⟩ => ?_
    rw [map_pure, asText_append]
    rfl

theorem renderArms_eq (frames : Frames) {otherwise : Action (String × Frames)}
    {parts : Action (List (Part tools escaping) × Frames)} (h : otherwise = asText <$> parts)
    (arms : List (Expr × List Node)) :
    renderArms (settingOf tools escaping context template embed) frames otherwise arms =
      asText <$> partsOfArms tools escaping context template embed frames parts arms := by
  cases arms with
  | nil => exact h
  | cons arm rest =>
    obtain ⟨e, body⟩ := arm
    rw [renderArms, partsOfArms, map_bind]
    refine bind_congr fun holds => ?_
    split
    · exact renderNodes_eq frames body
    · exact renderArms_eq frames h rest

end

/-- The text of nodes is that of their parts, whatever gives the texts of other templates. -/
lemma renderNodes_eq_of {other : String → Frames → Action String}
    (h : ∀ name frames, other name frames = textOf <$> embed name frames) (frames : Frames)
    (nodes : List Node) :
    renderNodes ⟨tools, escaping, context, template, other⟩ frames nodes =
      asText <$> partsOfNodes tools escaping context template embed frames nodes := by
  obtain rfl : other = fun name frames => textOf <$> embed name frames :=
    funext fun name => funext (h name)
  exact renderNodes_eq frames nodes

end Nodes

end Template

/-! ### Engines -/

namespace Engine

open Template

variable (engine : Engine) (escaping : Bool) (context : List (String × Value))

/-- The parts of the nodes of a template, with those of the templates nested in it up to a depth. -/
def partsOfBody :
    Nat → String → Frames → List Node → Action (List (Part engine.tools escaping))
  | 0, _, _, _ => throw .includesTooDeep
  | depth + 1, name, frames, nodes => do
    let embed (other : String) (frames : Frames) : Action (List (Part engine.tools escaping)) :=
      match engine.templates.find? other with
      | none => throw (.includeNotFound other)
      | some t => partsOfBody depth other (Frame.fresh none :: frames) t.nodes
    let (parts, _) ← partsOfNodes engine.tools escaping context name embed frames nodes
    return parts

/-- **The parts of a template** with the variables of a context. -/
def parts (name : String) : Action (List (Part engine.tools escaping)) :=
  match engine.templates.find? name with
  | none => throw (.templateNotFound name)
  | some t => Action.mapFailure (.rendering name)
    (partsOfBody engine escaping context maxNesting name [Frame.fresh none] t.nodes)

/-- **The text of the nodes of a template** is that of their parts. -/
theorem renderBody_eq (depth : Nat) (name : String) (frames : Frames) (nodes : List Node) :
    renderBody engine escaping context depth name frames nodes =
      textOf <$> partsOfBody engine escaping context depth name frames nodes := by
  induction depth generalizing name frames nodes with
  | zero => rfl
  | succ depth ih =>
    rw [renderBody, partsOfBody, map_bind]
    refine bind_eq_of_map (renderNodes_eq_of (fun other frames => ?_) frames nodes)
      fun ⟨parts, after⟩ => (map_pure _ _).symm
    cases engine.templates.find? other with
    | none => rfl
    | some t => exact ih other _ t.nodes

/-- **The text of a template** is that of its parts. -/
theorem render_eq (name : String) (escapes : engine.escapes name = escaping) :
    engine.render name context = textOf <$> engine.parts escaping context name := by
  rw [render, parts, escapes]
  cases engine.templates.find? name with
  | none => rfl
  | some t =>
    dsimp only
    rw [renderBody_eq, mapFailure_map]

end Engine

end ApiStencil
