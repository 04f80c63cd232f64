import ApiStencil.Template.Catalog
import ApiStencil.Template.Tree

/-!
# What templates mention

The filters and functions that a template mentions.  A use is marked when its failure is caught:
where a variable is a condition, a failure of its pipes counts as false and goes no further.  That
holds of whatever stands in the arguments of these pipes too.

The other templates that a template mentions: those that it embeds.
-/

namespace ApiStencil.Template

/-- A mention of a filter or function, and whether its failure is caught. -/
structure Use where
  name : String
  caught : Bool
deriving DecidableEq, Repr

/-! ### Expressions -/

mutual

/-- The uses in an expression that is evaluated for its value. -/
def Expr.uses (caught : Bool) : Expr → List Use
  | .mk _ base pipes => base.uses caught ++ pipesUses caught pipes

/-- The uses in an expression that is a condition. -/
def Expr.conditionUses (caught : Bool) : Expr → List Use
  | .mk _ (.variable _) pipes => pipesUses true pipes
  | .mk _ base pipes => base.uses caught ++ pipesUses caught pipes

/-- The uses in a base. -/
def Base.uses (caught : Bool) : Base → List Use
  | .text _ | .number _ | .bool _ | .variable _ | .isDefined _ _ => []
  | .function call => call.uses caught
  | .joined operands => operandsUses caught operands
  | .array items => itemsUses caught items
  | .equal _ left right => left.uses caught ++ right.uses caught
  | .both left right | .either left right =>
    left.conditionUses caught ++ right.conditionUses caught

/-- The uses in an operand. -/
def Operand.uses (caught : Bool) : Operand → List Use
  | .text _ | .number _ | .variable _ => []
  | .function call => call.uses caught

/-- The uses in a call: what is called, and the uses in its arguments. -/
def Call.uses (caught : Bool) : Call → List Use
  | .mk name args => ⟨name, caught⟩ :: argumentsUses caught args

/-- The uses in pipes. -/
def pipesUses (caught : Bool) : List Call → List Use
  | [] => []
  | c :: rest => c.uses caught ++ pipesUses caught rest

/-- The uses in arguments. -/
def argumentsUses (caught : Bool) : List (String × Expr) → List Use
  | [] => []
  | (_, e) :: rest => e.uses caught ++ argumentsUses caught rest

/-- The uses in the items of an array. -/
def itemsUses (caught : Bool) : List Expr → List Use
  | [] => []
  | e :: rest => e.uses caught ++ itemsUses caught rest

/-- The uses in operands that are joined. -/
def operandsUses (caught : Bool) : List Operand → List Use
  | [] => []
  | operand :: rest => operand.uses caught ++ operandsUses caught rest

end

/-! ### Nodes -/

mutual

/-- The uses in a node. -/
def Node.uses : Node → List Use
  | .text _ | .embed _ => []
  | .output e => e.uses false
  | .assign _ _ e => e.uses false
  | .branch arms otherwise => armsUses arms ++ nodesUses otherwise
  | .loop head body whenEmpty =>
    head.container.uses false ++ (nodesUses body ++ nodesUses whenEmpty)
  | .filtered call body => call.uses false ++ nodesUses body

/-- The uses in nodes. -/
def nodesUses : List Node → List Use
  | [] => []
  | node :: rest => node.uses ++ nodesUses rest

/-- The uses in arms: in their conditions and in their bodies. -/
def armsUses : List (Expr × List Node) → List Use
  | [] => []
  | (e, body) :: rest => e.conditionUses false ++ (nodesUses body ++ armsUses rest)

end

/-! ### Embedded templates -/

mutual

/-- The names of the templates that a node embeds. -/
def Node.embeds : Node → List String
  | .text _ | .output _ | .assign _ _ _ => []
  | .branch arms otherwise => armsEmbeds arms ++ nodesEmbeds otherwise
  | .loop _ body whenEmpty => nodesEmbeds body ++ nodesEmbeds whenEmpty
  | .filtered _ body => nodesEmbeds body
  | .embed name => [name]

/-- The names of the templates that nodes embed. -/
def nodesEmbeds : List Node → List String
  | [] => []
  | node :: rest => node.embeds ++ nodesEmbeds rest

/-- The names of the templates that the bodies of arms embed. -/
def armsEmbeds : List (Expr × List Node) → List String
  | [] => []
  | (_, body) :: rest => nodesEmbeds body ++ armsEmbeds rest

end

end ApiStencil.Template

namespace ApiStencil

/-- The uses in a template. -/
def Template.uses (t : Template) : List Template.Use := Template.nodesUses t.nodes

/-- The names of the templates that a template embeds. -/
def Template.embeds (t : Template) : List String := Template.nodesEmbeds t.nodes

namespace Catalog

/-- The uses in the templates of a catalog. -/
def uses (templates : Catalog Template) : List Template.Use :=
  templates.entries.flatMap fun entry => entry.2.uses

/-- The names of the templates that the templates of a catalog embed. -/
def embeds (templates : Catalog Template) : List String :=
  templates.entries.flatMap fun entry => entry.2.embeds

theorem mem_uses {templates : Catalog Template} {name : String} {t : Template}
    (h : templates.find? name = some t) {use : Template.Use} (hu : use ∈ t.uses) :
    use ∈ templates.uses :=
  List.mem_flatMap.mpr ⟨_, mem_of_find? h, hu⟩

theorem mem_embeds {templates : Catalog Template} {name : String} {t : Template}
    (h : templates.find? name = some t) {other : String} (ho : other ∈ t.embeds) :
    other ∈ templates.embeds :=
  List.mem_flatMap.mpr ⟨_, mem_of_find? h, ho⟩

/-- What a catalog with one more template mentions, the new template or an old one mentions. -/
theorem mem_uses_insert {templates : Catalog Template} {name : String} {t : Template}
    {use : Template.Use} (h : use ∈ (templates.insert name t).uses) :
    use ∈ t.uses ∨ use ∈ templates.uses := by
  obtain ⟨entry, mem, hu⟩ := List.mem_flatMap.mp h
  rcases mem_put mem with rfl | mem
  · exact .inl hu
  · exact .inr (List.mem_flatMap.mpr ⟨entry, mem, hu⟩)

theorem mem_embeds_insert {templates : Catalog Template} {name : String} {t : Template}
    {other : String} (h : other ∈ (templates.insert name t).embeds) :
    other ∈ t.embeds ∨ other ∈ templates.embeds := by
  obtain ⟨entry, mem, ho⟩ := List.mem_flatMap.mp h
  rcases mem_put mem with rfl | mem
  · exact .inl ho
  · exact .inr (List.mem_flatMap.mpr ⟨entry, mem, ho⟩)

end Catalog

end ApiStencil
