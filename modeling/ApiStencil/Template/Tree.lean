import ApiStencil.Json.Value

/-!
Templates as trees: expressions with their pipes, and the nodes of a template.

These trees are a part of the template language, and all that is said of templates here is said of
this part.

* A template has text, raw text, comments, outputs, assignments (`set`, `set_global`), branches
  (`if`, `elif`, `else`), loops (`for`, with `else` and with the `loop` variables), sections that go
  through a filter (`filter`), and other templates in its place (`include` of one name).
* An expression is a string, a number, a truth value, a path into a variable, a call of a function or
  an array, each with its pipes; or strings joined by `~`, a test by `is` for `defined` or `undefined`,
  two values compared by `==` or `!=`, or such expressions with `and`, `or` and `not`.
* Of filters an engine brings `upper`, `first`, `last`, `length` and `join`, apart from the marks
  `safe` and `default`; of functions it brings none.

The language has more than these: arithmetic, comparisons by order, `in`, parentheses, other tests;
macros and their imports; templates that extend others, and blocks; `break` and `continue`; lists of
names to include, and names that may be missing; most built-in filters, and all built-in functions.
A source with such syntax is not read as a template (`Template.ofSource?`), and the use of such a filter
or function fails as that of one that does not exist.  Templates nest at most `Engine.maxNesting` deep,
where a template that includes itself without an end fails.
-/

namespace ApiStencil.Template

open Json

/-! ### Expressions -/

mutual

/-- A step of a path into a value. -/
inductive Step where
  /-- A member by its key, or an item by its position. -/
  | key (key : String)
  /-- A key in brackets and quotes. -/
  | quoted (key : String)
  /-- A position in brackets. -/
  | position (i : Int)
  /-- A member or item whose key or position is the value of another path. -/
  | computed (path : Path)

/-- A path to a value, as it is written and taken apart. -/
inductive Path where
  | mk (written : String) (head : String) (steps : List Step)

end

namespace Path

/-- The path as it is written. -/
def written : Path → String
  | .mk written _ _ => written

/-- The variable that a path starts from. -/
def head : Path → String
  | .mk _ head _ => head

/-- The steps of a path. -/
def steps : Path → List Step
  | .mk _ _ steps => steps

end Path

mutual

/-- An expression: a base, piped through filters, and maybe turned into its truth and negated. -/
inductive Expr where
  | mk (negated : Bool) (base : Base) (pipes : List Call)

/-- What an expression starts from. -/
inductive Base where
  | text (s : String)
  | number (n : Number)
  | bool (b : Bool)
  | variable (path : Path)
  /-- Whether a variable has a value, or whether it has none. -/
  | isDefined (path : Path) (wanted : Bool)
  | function (call : Call)
  /-- Operands written one after the other. -/
  | joined (operands : List Operand)
  | array (items : List Expr)
  /-- Whether two values are equal, or whether they differ. -/
  | equal (wanted : Bool) (left right : Expr)
  | both (left right : Expr)
  | either (left right : Expr)

/-- What can be joined with other texts. -/
inductive Operand where
  | text (s : String)
  | number (n : Number)
  | variable (path : Path)
  | function (call : Call)

/-- A use of a filter or a function, with its arguments by name. -/
inductive Call where
  | mk (name : String) (args : List (String × Expr))

end

namespace Call

/-- The name that is called. -/
def name : Call → String
  | .mk name _ => name

/-- The arguments of a call. -/
def args : Call → List (String × Expr)
  | .mk _ args => args

end Call

namespace Expr

/-- The expression that is only a base. -/
def ofBase (base : Base) : Expr := .mk false base []

/-- The base of an expression. -/
def base : Expr → Base
  | .mk _ base _ => base

end Expr

/-! ### Nodes -/

/-- What a loop runs over: the variable for the keys if there is one, the variable for the values,
and the container. -/
structure LoopHead where
  key : Option String
  value : String
  container : Expr

/-- A node of a template. -/
inductive Node where
  | text (s : String)
  | output (e : Expr)
  /-- An assignment; a global one outlives the loop it stands in. -/
  | assign (isGlobal : Bool) (name : String) (e : Expr)
  /-- The first arm whose condition holds, or else the last body. -/
  | branch (arms : List (Expr × List Node)) (otherwise : List Node)
  /-- A body for every item, or another body if there is none. -/
  | loop (head : LoopHead) (body : List Node) (whenEmpty : List Node)
  /-- A body whose text is piped through a filter. -/
  | filtered (call : Call) (body : List Node)
  /-- Another template in this place. -/
  | embed (name : String)

end ApiStencil.Template

namespace ApiStencil

/-- A template that was read. -/
structure Template where
  nodes : List Template.Node

end ApiStencil
