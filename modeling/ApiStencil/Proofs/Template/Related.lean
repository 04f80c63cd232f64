import ApiStencil.Proofs.Action.Relation
import ApiStencil.Proofs.Template.Uses
import ApiStencil.Template.Engine
import Mathlib.Data.Option.Defs

/-!
# Related tools give related renders

If the combinators of actions respect a relation, and the filters and functions that a template
mentions are related in two sets of tools, then so are the values of its expressions, the truth of
its conditions and the texts of its nodes, and in the end the two renders.  The induction follows
the evaluation, one case for each construct; a claim about renders only has to name a relation and
look at the filters.

* `valueOf_related`, `truthOf_related` — expressions, by mutual induction with their parts;
* `renderNode_related` — nodes;
* `Engine.render_related` — templates by name, with the templates nested in them.
-/

set_option linter.unusedSectionVars false

namespace ApiStencil

open Json ApiStencil.Action

namespace Template

/-! ### Related tools -/

/-- The filters and functions of one name do related things in two sets of tools. -/
structure Tools.Related (related : Relation) (T T' : Tools) (name : String) : Prop where
  filter : ∀ (v : Value) {args args' : Action Arguments}, related _ args args' →
    related _ (T.applyFilter name v args) (T'.applyFilter name v args')
  function : ∀ {args args' : Action Arguments}, related _ args args' →
    related _ (T.callFunction name args) (T'.callFunction name args')

/-- The tools are related for all these uses, each in the form for its place. -/
def Tools.RelatedOn (related : Bool → Relation) (T T' : Tools) (uses : List Use) : Prop :=
  ∀ use ∈ uses, T.Related (related use.caught) T' use.name

section RelatedOn

variable {related : Bool → Relation} {T T' : Tools}

@[simp] lemma relatedOn_append {uses others : List Use} :
    T.RelatedOn related T' (uses ++ others) ↔
      T.RelatedOn related T' uses ∧ T.RelatedOn related T' others :=
  List.forall_mem_append

@[simp] lemma relatedOn_cons {use : Use} {others : List Use} :
    T.RelatedOn related T' (use :: others) ↔
      T.Related (related use.caught) T' use.name ∧ T.RelatedOn related T' others :=
  List.forall_mem_cons

end RelatedOn

/-! ### Expressions -/

section Evaluation

variable {related : Bool → Relation} {T T' : Tools} (respected : Respected related)
include respected

lemma completed_related {caught : Bool} (escaping negated : Bool) (pipes : List Call)
    {start start' : Action (Option Marked)} {through through' : Marked → Action Marked}
    (hs : related caught _ start start') (ht : ∀ v, related caught _ (through v) (through' v)) :
    related caught _ (completed escaping negated pipes start through)
      (completed escaping negated pipes start' through') := by
  refine respected.bind hs fun first => ?_
  cases first with
  | none => exact respected.pure _ _
  | some v =>
    refine respected.bind (ht v) fun ⟨result, escaped⟩ => ?_
    dsimp only
    split
    · exact respected.pure _ _
    · split <;> exact respected.pure _ _

lemma branch_related {β : Type} {caught : Bool} {a a' : Action Bool} {b b' c c' : Action β}
    (ha : related caught _ a a') (hb : related caught _ b b') (hc : related caught _ c c') :
    related caught _ (a >>= fun x => if x = true then b else c)
      (a' >>= fun x => if x = true then b' else c') := by
  refine respected.bind ha fun x => ?_
  split
  · exact hb
  · exact hc

variable {vars vars' : Variables}
  (alike : ∀ path, Alike related (vars.value path) (vars'.value path))
include alike

omit respected in
lemma isDefined_eq (path : Path) : vars.isDefined path = vars'.isDefined path := by
  have same := alike path
  unfold Variables.isDefined
  generalize vars.value path = r at same
  generalize vars'.value path = r' at same
  cases same <;> rfl

/-- What a variable starts from depends on the tools through its stand-in only. -/
lemma start_related {caught : Bool} (path : Path) (negated : Bool)
    {standIn standIn' : Option (Action Value)}
    (h : Option.Rel (related caught Value) standIn standIn') :
    related caught _ (vars.start path negated standIn) (vars'.start path negated standIn') := by
  have same := alike path
  unfold Variables.start
  generalize vars.value path = r at same
  generalize vars'.value path = r' at same
  cases same with
  | ok v =>
    cases h with
    | none => cases v <;> exact respected.pure _ _
    | some h =>
      cases v with
      | null => exact respected.map h _
      | _ => exact respected.pure _ _
  | error thrown =>
    cases h with
    | none =>
      dsimp only
      split
      · exact respected.pure _ _
      · exact thrown _ _
    | some h => exact respected.map h _

mutual

/-- **The values of an expression** under related tools are related. -/
theorem valueOf_related {caught : Bool} (escaping : Bool) (e : Expr)
    (h : T.RelatedOn related T' (e.uses caught)) :
    related caught _ (valueOf T vars escaping e) (valueOf T' vars' escaping e) := by
  obtain ⟨negated, base, pipes⟩ := e
  obtain ⟨hb, hp⟩ := relatedOn_append.mp h
  exact completed_related respected escaping negated pipes
    (startOf_related escaping negated (standInOf_related pipes hp) base hb)
    (throughPipes_related pipes hp)

/-- **The truths of a condition** under related tools are related.  What is caught where a variable
is the condition has to be related as such. -/
theorem truthOf_related {caught : Bool} (escaping : Bool) (e : Expr)
    (h : T.RelatedOn related T' (e.conditionUses caught)) :
    related caught _ (truthOf T vars escaping e) (truthOf T' vars' escaping e) := by
  obtain ⟨negated, base, pipes⟩ := e
  cases base with
  | text | number | bool => exact respected.pure _ _
  | isDefined path wanted =>
    rw [truthOf, truthOf, isDefined_eq alike path]
    exact respected.pure _ _
  | «variable» path =>
    refine respected.map (respected.orElse _ _ ?_) _
    exact completed_related respected escaping negated pipes
      (start_related respected alike path negated (standInOf_related pipes h))
      (throughPipes_related pipes h)
  | function call =>
    obtain ⟨name, args⟩ := call
    obtain ⟨hb, hp⟩ := relatedOn_append.mp h
    obtain ⟨hname, hargs⟩ := relatedOn_cons.mp hb
    refine respected.bind (hname.function (argumentsOf_related args hargs)) fun ⟨result, _⟩ => ?_
    cases result with
    | bool => exact respected.pure _ _
    | _ => exact respected.throw _ _
  | joined operands =>
    obtain ⟨hb, hp⟩ := relatedOn_append.mp h
    refine respected.map ?_ _
    exact completed_related respected escaping negated pipes
      (startOf_related escaping negated .none (.joined operands) hb) (throughPipes_related pipes hp)
  | array items =>
    obtain ⟨hb, hp⟩ := relatedOn_append.mp h
    refine respected.map ?_ _
    exact completed_related respected escaping negated pipes
      (startOf_related escaping negated .none (.array items) hb) (throughPipes_related pipes hp)
  | equal wanted left right =>
    obtain ⟨hl, hr⟩ := relatedOn_append.mp (relatedOn_append.mp h).1
    exact respected.bind (valueOf_related escaping left hl) fun _ =>
      respected.map (valueOf_related escaping right hr) _
  | both left right =>
    obtain ⟨hl, hr⟩ := relatedOn_append.mp (relatedOn_append.mp h).1
    exact branch_related respected (truthOf_related escaping left hl)
      (respected.map (truthOf_related escaping right hr) _) (respected.map (respected.pure _ _) _)
  | either left right =>
    obtain ⟨hl, hr⟩ := relatedOn_append.mp (relatedOn_append.mp h).1
    exact branch_related respected (truthOf_related escaping left hl)
      (respected.map (respected.pure _ _) _) (respected.map (truthOf_related escaping right hr) _)

theorem startOf_related {caught : Bool} (escaping negated : Bool)
    {standIn standIn' : Option (Action Value)}
    (hs : Option.Rel (related caught Value) standIn standIn') (base : Base)
    (h : T.RelatedOn related T' (base.uses caught)) :
    related caught _ (startOf T vars escaping negated standIn base)
      (startOf T' vars' escaping negated standIn' base) := by
  cases base with
  | text | number | bool => exact respected.pure _ _
  | isDefined path wanted =>
    rw [startOf, startOf, isDefined_eq alike path]
    exact respected.pure _ _
  | «variable» path => exact start_related respected alike path negated hs
  | function call =>
    obtain ⟨name, args⟩ := call
    obtain ⟨hname, hargs⟩ := relatedOn_cons.mp h
    exact respected.map (hname.function (argumentsOf_related args hargs)) _
  | joined operands => exact respected.map (joinedOf_related false operands h) _
  | array items => exact respected.map (valuesOf_related escaping items h) _
  | equal wanted left right =>
    obtain ⟨hl, hr⟩ := relatedOn_append.mp h
    exact respected.bind (valueOf_related escaping left hl) fun _ =>
      respected.map (valueOf_related escaping right hr) _
  | both left right =>
    obtain ⟨hl, hr⟩ := relatedOn_append.mp h
    exact branch_related respected (truthOf_related escaping left hl)
      (respected.map (truthOf_related escaping right hr) _) (respected.map (respected.pure _ _) _)
  | either left right =>
    obtain ⟨hl, hr⟩ := relatedOn_append.mp h
    exact branch_related respected (truthOf_related escaping left hl)
      (respected.map (respected.pure _ _) _) (respected.map (truthOf_related escaping right hr) _)

theorem valuesOf_related {caught : Bool} (escaping : Bool) (items : List Expr)
    (h : T.RelatedOn related T' (itemsUses caught items)) :
    related caught _ (valuesOf T vars escaping items) (valuesOf T' vars' escaping items) := by
  cases items with
  | nil => exact respected.pure _ _
  | cons e rest =>
    obtain ⟨he, hrest⟩ := relatedOn_append.mp h
    exact respected.bind (valueOf_related escaping e he) fun _ =>
      respected.map (valuesOf_related escaping rest hrest) _

theorem argumentsOf_related {caught : Bool} (args : List (String × Expr))
    (h : T.RelatedOn related T' (argumentsUses caught args)) :
    related caught _ (argumentsOf T vars args) (argumentsOf T' vars' args) := by
  cases args with
  | nil => exact respected.pure _ _
  | cons arg rest =>
    obtain ⟨name, e⟩ := arg
    obtain ⟨he, hrest⟩ := relatedOn_append.mp h
    exact respected.bind (valueOf_related false e he) fun _ =>
      respected.map (argumentsOf_related rest hrest) _

theorem joinedOf_related {caught : Bool} (escaped : Bool) (operands : List Operand)
    (h : T.RelatedOn related T' (operandsUses caught operands)) :
    related caught _ (joinedOf T vars escaped operands) (joinedOf T' vars' escaped operands) := by
  cases operands with
  | nil => exact respected.pure _ _
  | cons operand rest =>
    obtain ⟨ho, hrest⟩ := relatedOn_append.mp h
    exact respected.bind (operandOf_related escaped operand ho) fun ⟨_, escaped⟩ =>
      respected.map (joinedOf_related escaped rest hrest) _

theorem operandOf_related {caught : Bool} (escaped : Bool) (operand : Operand)
    (h : T.RelatedOn related T' (operand.uses caught)) :
    related caught _ (operandOf T vars escaped operand) (operandOf T' vars' escaped operand) := by
  cases operand with
  | text | number => exact respected.pure _ _
  | «variable» path =>
    exact respected.bind ((alike path).lift respected _) fun _ =>
      respected.map (respected.liftM _) _
  | function call =>
    obtain ⟨name, args⟩ := call
    obtain ⟨hname, hargs⟩ := relatedOn_cons.mp h
    exact respected.bind (hname.function (argumentsOf_related args hargs)) fun _ =>
      respected.map (respected.liftM _) _

theorem standInValueOf_related {caught : Bool} (args : List (String × Expr))
    (h : T.RelatedOn related T' (argumentsUses caught args)) :
    related caught _ (standInValueOf T vars args) (standInValueOf T' vars' args) := by
  cases args with
  | nil => exact respected.throw _ _
  | cons arg rest =>
    obtain ⟨name, e⟩ := arg
    obtain ⟨he, hrest⟩ := relatedOn_append.mp h
    rw [standInValueOf, standInValueOf]
    split
    · exact valueOf_related false e he
    · exact standInValueOf_related rest hrest

theorem standInOf_related {caught : Bool} (pipes : List Call)
    (h : T.RelatedOn related T' (pipesUses caught pipes)) :
    Option.Rel (related caught Value) (standInOf T vars pipes) (standInOf T' vars' pipes) := by
  cases pipes with
  | nil => exact .none
  | cons c rest =>
    obtain ⟨name, args⟩ := c
    obtain ⟨hc, _⟩ := relatedOn_append.mp h
    rw [standInOf, standInOf]
    split
    · exact .some (standInValueOf_related args (relatedOn_cons.mp hc).2)
    · exact .none

theorem throughPipes_related {caught : Bool} (pipes : List Call)
    (h : T.RelatedOn related T' (pipesUses caught pipes)) (v : Marked) :
    related caught _ (throughPipes T vars pipes v) (throughPipes T' vars' pipes v) := by
  cases pipes with
  | nil => exact respected.pure _ _
  | cons c rest =>
    obtain ⟨name, args⟩ := c
    obtain ⟨hc, hrest⟩ := relatedOn_append.mp h
    obtain ⟨hname, hargs⟩ := relatedOn_cons.mp hc
    rw [throughPipes, throughPipes]
    dsimp only
    split
    · exact respected.bind (respected.pure _ _) fun next => throughPipes_related rest hrest next
    · exact respected.bind (hname.filter v.value (argumentsOf_related args hargs)) fun next =>
        throughPipes_related rest hrest next

end

end Evaluation

/-! ### Nodes -/

section Nodes

variable {related : Bool → Relation} {T T' : Tools} (respected : Respected related)
  {embed embed' : String → Frames → Action String} (escaping : Bool)
  {context : List (String × Value)} {template template' : String}

include respected in
/-- The turns of a loop are related if its body is. -/
lemma renderTurns_related {name : String} {body body' : Frames → Action (String × Frames)}
    (h : ∀ frames, related false _ (body frames) (body' frames)) (frames : Frames) (index : Nat)
    (items : List (Option (String × String) × Value)) :
    related false _ (renderTurns name body frames index items)
      (renderTurns name body' frames index items) := by
  induction items generalizing frames index with
  | nil => exact respected.pure _ _
  | cons item rest ih =>
    obtain ⟨key, v⟩ := item
    exact respected.bind (h _) fun ⟨_, after⟩ => respected.map (ih after.tail (index + 1)) _

/-- In templates of these names variables have the same values; the failures where they have none
tell the names and are related. -/
def AlikeIn (related : Bool → Relation) (context : List (String × Value))
    (template template' : String) : Prop :=
  ∀ (frames : Frames) (path : Path),
    Alike related ((⟨frames, context, template⟩ : Variables).value path)
      ((⟨frames, context, template'⟩ : Variables).value path)

/-- What is put in the place of these names is related. -/
def EmbedRelated (related : Bool → Relation) (embed embed' : String → Frames → Action String)
    (names : List String) : Prop :=
  ∀ name ∈ names, ∀ frames, related false _ (embed name frames) (embed' name frames)

@[simp] lemma embedRelated_append {names others : List String} :
    EmbedRelated related embed embed' (names ++ others) ↔
      EmbedRelated related embed embed' names ∧ EmbedRelated related embed embed' others :=
  List.forall_mem_append

include respected

variable (alike : AlikeIn related context template template')
include alike

mutual

/-- **The texts of a node** under related tools are related. -/
theorem renderNode_related (frames : Frames) (node : Node) (h : T.RelatedOn related T' node.uses)
    (he : EmbedRelated related embed embed' node.embeds) :
    related false _ (renderNode ⟨T, escaping, context, template, embed⟩ frames node)
      (renderNode ⟨T', escaping, context, template', embed'⟩ frames node) := by
  cases node with
  | text => exact respected.pure _ _
  | output e => exact respected.map (valueOf_related respected (alike frames) escaping e h) _
  | assign isGlobal name e =>
    exact respected.map (valueOf_related respected (alike frames) false e h) _
  | branch arms otherwise =>
    obtain ⟨harms, hother⟩ := relatedOn_append.mp h
    obtain ⟨earms, eother⟩ := embedRelated_append.mp he
    exact renderArms_related frames (renderNodes_related frames otherwise hother eother) arms harms
      earms
  | loop head body whenEmpty =>
    obtain ⟨hhead, hrest⟩ := relatedOn_append.mp h
    obtain ⟨hbody, hempty⟩ := relatedOn_append.mp hrest
    obtain ⟨ebody, eempty⟩ := embedRelated_append.mp he
    refine respected.bind (respected.liftM _) fun name => ?_
    refine respected.bind
      (valueOf_related respected (alike frames) false head.container hhead) fun v => ?_
    refine respected.bind (respected.liftM _) fun items => ?_
    split
    · exact renderNodes_related frames whenEmpty hempty eempty
    · exact renderTurns_related respected
        (fun frames => renderNodes_related frames body hbody ebody) frames 0 items
  | filtered call body =>
    obtain ⟨name, args⟩ := call
    obtain ⟨hcall, hbody⟩ := relatedOn_append.mp h
    obtain ⟨hname, hargs⟩ := relatedOn_cons.mp hcall
    refine respected.bind (renderNodes_related frames body hbody he) fun ⟨s, after⟩ => ?_
    dsimp only
    split
    · exact respected.pure _ _
    · exact respected.map
        (hname.filter (.str s) (argumentsOf_related respected (alike after) args hargs)) _
  | embed name => exact respected.map (he name List.mem_cons_self frames) _

theorem renderNodes_related (frames : Frames) (nodes : List Node)
    (h : T.RelatedOn related T' (nodesUses nodes))
    (he : EmbedRelated related embed embed' (nodesEmbeds nodes)) :
    related false _ (renderNodes ⟨T, escaping, context, template, embed⟩ frames nodes)
      (renderNodes ⟨T', escaping, context, template', embed'⟩ frames nodes) := by
  cases nodes with
  | nil => exact respected.pure _ _
  | cons node rest =>
    obtain ⟨hnode, hrest⟩ := relatedOn_append.mp h
    obtain ⟨enode, erest⟩ := embedRelated_append.mp he
    exact respected.bind (renderNode_related frames node hnode enode) fun ⟨_, after⟩ =>
      respected.map (renderNodes_related after rest hrest erest) _

theorem renderArms_related (frames : Frames) {otherwise otherwise' : Action (String × Frames)}
    (hother : related false _ otherwise otherwise') (arms : List (Expr × List Node))
    (h : T.RelatedOn related T' (armsUses arms))
    (he : EmbedRelated related embed embed' (armsEmbeds arms)) :
    related false _ (renderArms ⟨T, escaping, context, template, embed⟩ frames otherwise arms)
      (renderArms ⟨T', escaping, context, template', embed'⟩ frames otherwise' arms) := by
  cases arms with
  | nil => exact hother
  | cons arm rest =>
    obtain ⟨e, body⟩ := arm
    obtain ⟨hcondition, htail⟩ := relatedOn_append.mp h
    obtain ⟨hbody, hrest⟩ := relatedOn_append.mp htail
    obtain ⟨ebody, erest⟩ := embedRelated_append.mp he
    exact branch_related respected (truthOf_related respected (alike frames) escaping e hcondition)
      (renderNodes_related frames body hbody ebody)
      (renderArms_related frames hother rest hrest erest)

end

end Nodes

end Template

/-! ### Engines -/

namespace Engine

open Template

variable {related : Bool → Relation} (respected : Respected related)
include respected

lemma alikeIn_self (context : List (String × Value)) (template : String) :
    AlikeIn related context template template :=
  fun _ _ => alike_self respected _

/-- **The nodes of a template are related** with the templates nested in them, up to any depth, if
the two engines have the same templates under all names that are embedded.  The nodes themselves may
stand in templates of two names. -/
theorem renderBody_related {engine engine' : Engine}
    (h : engine.tools.RelatedOn related engine'.tools engine.templates.uses)
    (same : ∀ other ∈ engine.templates.embeds,
      engine.templates.find? other = engine'.templates.find? other)
    (escaping : Bool) (context : List (String × Value)) (depth : Nat) {name name' : String}
    (alike : AlikeIn related context name name') (frames : Frames) (nodes : List Node)
    (hnodes : engine.tools.RelatedOn related engine'.tools (nodesUses nodes))
    (sameNodes : ∀ other ∈ nodesEmbeds nodes,
      engine.templates.find? other = engine'.templates.find? other) :
    related false _ (renderBody engine escaping context depth name frames nodes)
      (renderBody engine' escaping context depth name' frames nodes) := by
  induction depth generalizing name name' frames nodes with
  | zero => exact respected.throw _ _
  | succ depth ih =>
    refine respected.map (renderNodes_related respected escaping alike frames nodes hnodes ?_) _
    intro other mentioned frames
    dsimp only
    rw [← sameNodes other mentioned]
    cases found : engine.templates.find? other with
    | none => exact respected.throw _ _
    | some t =>
      exact ih (alikeIn_self respected context other) _ t.nodes
        (fun use hu => h use (Catalog.mem_uses found hu))
        fun inner hi => same inner (Catalog.mem_embeds found hi)

/-- **Renders by two engines are related** if the engines differ in their tools only, and these are
related for all that their templates mention. -/
theorem render_related (engine : Engine) {engine' : Engine}
    (templates : engine.templates = engine'.templates)
    (endings : engine.escapedEndings = engine'.escapedEndings)
    (h : engine.tools.RelatedOn related engine'.tools engine.templates.uses) (name : String)
    (context : List (String × Value)) :
    related false _ (engine.render name context) (engine'.render name context) := by
  unfold render
  have escapes : engine.escapes name = engine'.escapes name := by rw [escapes, escapes, endings]
  rw [← templates, ← escapes]
  cases found : engine.templates.find? name with
  | none => exact respected.throw _ _
  | some t =>
    refine respected.mapFailure _ (renderBody_related respected h ?_ _ context maxNesting
      (alikeIn_self respected context name) _ t.nodes ?_ ?_)
    · exact fun other _ => by rw [templates]
    · exact fun use hu => h use (Catalog.mem_uses found hu)
    · exact fun other _ => by rw [templates]

end Engine

end ApiStencil
