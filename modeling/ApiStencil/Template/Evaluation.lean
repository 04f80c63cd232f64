import ApiStencil.Template.Tools
import ApiStencil.Template.Variables

/-!
The values of expressions and the truth of conditions.

A value comes with a mark that says whether it is to be escaped where it is printed: variables and
literal texts are, other literals are not, and the last filter or function that was applied decides
for its result.  A condition differs from a value in one point: a variable that has no value, or
whose pipes fail, is false.
-/

namespace ApiStencil.Template

open Json

/-- The filters and functions that templates can use. -/
structure Tools where
  filters : Catalog Filter
  functions : Catalog Function

/-- A value, and whether its text is escaped. -/
structure Marked where
  value : Value
  escaped : Bool

namespace Tools

/-- The result of a filter on a value.  Failures of its arguments are failures of the filter. -/
def applyFilter (tools : Tools) (name : String) (v : Value) (args : Action Arguments) :
    Action Marked :=
  match tools.filters.find? name with
  | none => throw (.filterNotFound name)
  | some filter => Action.mapFailure (.filterCall name) do
    let result ← filter.run v (← args)
    pure ⟨result, !filter.safe⟩

/-- The result of a function.  Failures of its arguments are failures of the function. -/
def callFunction (tools : Tools) (name : String) (args : Action Arguments) : Action Marked :=
  match tools.functions.find? name with
  | none => throw (.functionNotFound name)
  | some function => Action.mapFailure (.functionCall name) do
    let result ← function.run (← args)
    pure ⟨result, !function.safe⟩

end Tools

/-! ### Parts of expressions -/

/-- The pipe that turns escaping off at the end of an expression. -/
def safeName : String := "safe"

/-- The pipe that stands for the value of a variable that has none. -/
def defaultName : String := "default"

/-- Whether a pipe is written like a filter but is no filter. -/
def isMark (name : String) : Bool := name = safeName || name = defaultName

/-- Whether the last pipe turns escaping off. -/
def endsSafe (pipes : List Call) : Bool :=
  match pipes.getLast? with
  | some c => c.name = safeName
  | none => false

/-- The text of a value that is joined with others; only strings and numbers can be joined. -/
def joinedText (operand : String) : Value → Except Failure String
  | .str s => .ok s
  | .num n => .ok n.write
  | _ => .error (.notJoinable operand)

/-- Whether two values compare as wanted.  Numbers compare as binary64 numbers; a number and a
value of another type neither are equal nor differ. -/
def compared (wanted : Bool) : Value → Value → Bool
  | .num m, .num n => (m.asUnits == n.asUnits) == wanted
  | .num _, _ => false
  | _, .num _ => false
  | l, r => l.same r == wanted

namespace Variables

/-- Whether a path has a value. -/
def isDefined (vars : Variables) (path : Path) : Bool := (vars.value path).isOk

/-- What an expression starts from when it starts from a variable: the value that stands in for
null or for no value if there is one, else the value of the variable.  Nothing if the variable has
no value and the expression is negated. -/
def start (vars : Variables) (path : Path) (negated : Bool) (standIn : Option (Action Value)) :
    Action (Option Marked) :=
  match vars.value path, standIn with
  | .ok .null, some other | .error _, some other => do
    let v ← other
    pure (some ⟨v, true⟩)
  | .ok v, _ => pure (some ⟨v, true⟩)
  | .error e, none => if negated then pure none else throw e

end Variables

/-- The value of an expression from its parts: what it starts from is sent through the pipes, and
then negated or escaped.  Where it starts from nothing it is true. -/
def completed (escaping negated : Bool) (pipes : List Call) (start : Action (Option Marked))
    (through : Marked → Action Marked) : Action Value := do
  match ← start with
  | none => pure (.bool true)
  | some first =>
    let ⟨v, escaped⟩ ← through first
    if negated then pure (.bool (!v.isTrue))
    else match v with
      | .str s =>
        pure (.str (if escaping && escaped && !endsSafe pipes then escape s else s))
      | v => pure v

/-! ### Evaluation -/

section Evaluation

variable (tools : Tools) (vars : Variables)

mutual

/-- **The value of an expression**, with the escaping applied that it asks for. -/
def valueOf (escaping : Bool) : Expr → Action Value
  | .mk negated base pipes =>
    completed escaping negated pipes (startOf escaping negated (standInOf pipes) base)
      (throughPipes pipes)

/-- **The truth of a condition.**  A variable counts as false where its value or its pipes fail. -/
def truthOf (escaping : Bool) : Expr → Action Bool
  | .mk negated (.text s) _ => pure (!s.isEmpty != negated)
  | .mk negated (.number n) _ => pure ((n.asUnits != 0) != negated)
  | .mk negated (.bool b) _ => pure (b != negated)
  | .mk negated (.variable path) pipes => do
    let v ← Action.orElse (completed escaping negated pipes
      (vars.start path negated (standInOf pipes)) (throughPipes pipes)) (.bool false)
    pure v.isTrue
  | .mk negated (.isDefined path wanted) _ => pure ((vars.isDefined path == wanted) != negated)
  | .mk negated (.function (.mk name args)) _ => do
    match ← tools.callFunction name (argumentsOf args) with
    | ⟨.bool b, _⟩ => pure (b != negated)
    | _ => throw (.notBoolean name)
  | .mk negated (.joined operands) pipes => do
    let v ← completed escaping negated pipes
      (startOf escaping negated none (.joined operands)) (throughPipes pipes)
    pure v.isTrue
  | .mk negated (.array items) pipes => do
    let v ← completed escaping negated pipes
      (startOf escaping negated none (.array items)) (throughPipes pipes)
    pure v.isTrue
  | .mk negated (.equal wanted left right) _ => do
    let l ← valueOf escaping left
    let r ← valueOf escaping right
    pure (compared (wanted != negated) l r)
  | .mk negated (.both left right) _ => do
    let result ← if ← truthOf escaping left then truthOf escaping right else pure false
    pure (result != negated)
  | .mk negated (.either left right) _ => do
    let result ← if ← truthOf escaping left then pure true else truthOf escaping right
    pure (result != negated)

/-- What an expression starts from.  A condition that stands as a value is negated as a condition,
and negated once more as a value. -/
def startOf (escaping negated : Bool) (standIn : Option (Action Value)) :
    Base → Action (Option Marked)
  | .text s => pure (some ⟨.str s, true⟩)
  | .number n => pure (some ⟨.num n, false⟩)
  | .bool b => pure (some ⟨.bool b, false⟩)
  | .variable path => vars.start path negated standIn
  | .isDefined path wanted => pure (some ⟨.bool (vars.isDefined path == wanted), false⟩)
  | .function (.mk name args) => do
    let result ← tools.callFunction name (argumentsOf args)
    pure (some result)
  | .joined operands => do
    let (s, escaped) ← joinedOf false operands
    pure (some ⟨.str s, escaped⟩)
  | .array items => do
    let values ← valuesOf escaping items
    pure (some ⟨.arr values, false⟩)
  | .equal wanted left right => do
    let l ← valueOf escaping left
    let r ← valueOf escaping right
    pure (some ⟨.bool (compared (wanted != negated) l r), false⟩)
  | .both left right => do
    let result ← if ← truthOf escaping left then truthOf escaping right else pure false
    pure (some ⟨.bool (result != negated), false⟩)
  | .either left right => do
    let result ← if ← truthOf escaping left then pure true else truthOf escaping right
    pure (some ⟨.bool (result != negated), false⟩)

/-- The values of the items of an array. -/
def valuesOf (escaping : Bool) : List Expr → Action (List Value)
  | [] => pure []
  | e :: rest => do
    let v ← valueOf escaping e
    let others ← valuesOf escaping rest
    pure (v :: others)

/-- The values of arguments, which are never escaped. -/
def argumentsOf : List (String × Expr) → Action Arguments
  | [] => pure []
  | (name, e) :: rest => do
    let v ← valueOf false e
    let others ← argumentsOf rest
    pure ((name, v) :: others)

/-- The text of operands that are joined.  The last function among them decides whether it is
escaped. -/
def joinedOf (escaped : Bool) : List Operand → Action (String × Bool)
  | [] => pure ("", escaped)
  | operand :: rest => do
    let (s, escaped) ← operandOf escaped operand
    let (others, escaped) ← joinedOf escaped rest
    pure (s ++ others, escaped)

/-- The text of one operand, and whether the joined text is escaped. -/
def operandOf (escaped : Bool) : Operand → Action (String × Bool)
  | .text s => pure (s, escaped)
  | .number n => pure ((Value.num n).shown, escaped)
  | .variable path => do
    let v ← liftM (vars.value path)
    let s ← liftM (joinedText ("ident " ++ path.written) v)
    pure (s, escaped)
  | .function (.mk name args) => do
    let result ← tools.callFunction name (argumentsOf args)
    let s ← liftM (joinedText ("function call " ++ name) result.value)
    pure (s, result.escaped)

/-- The value of the argument that stands in for a missing value. -/
def standInValueOf : List (String × Expr) → Action Value
  | [] => throw .defaultWithoutValue
  | (name, e) :: rest => if name = "value" then valueOf false e else standInValueOf rest

/-- What stands in for a missing value, if the first pipe says so. -/
def standInOf : List Call → Option (Action Value)
  | .mk name args :: _ => if name = defaultName then some (standInValueOf args) else none
  | [] => none

/-- A value sent through filters one after the other. -/
def throughPipes : List Call → Marked → Action Marked
  | [], v => pure v
  | .mk name args :: rest, v => do
    let next ← if isMark name then pure v else tools.applyFilter name v.value (argumentsOf args)
    throughPipes rest next

end

end Evaluation

end ApiStencil.Template
