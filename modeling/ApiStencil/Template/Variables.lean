import ApiStencil.Template.Failure
import ApiStencil.Template.Tree

/-!
Variables of a template while it is rendered: frames for loops and for included templates, the
innermost first, and below them the context.  A path is looked up in one frame after the other; a
frame that has the variable but not the rest of the path is passed over.
-/

namespace ApiStencil.Template

open Json

/-! ### Paths into values -/

/-- The position that a key writes, in digits without leading zeros. -/
def position? (key : String) : Option Nat :=
  match key.toList with
  | [] => none
  | ['0'] => some 0
  | '0' :: _ => none
  | cs => if cs.all Char.isDigit then some (Literal.digitsValue cs) else none

/-- The member of an object under a key, or the item of an array at the position it writes. -/
def child? (key : String) : Value → Option Value
  | .obj members => members.lookup key
  | .arr items => position? key >>= fun i => items[i]?
  | _ => none

/-- The value that the keys lead to. -/
def follow? : List String → Value → Option Value
  | [], v => some v
  | key :: keys, v => child? key v >>= follow? keys

/-! ### Frames -/

/-- Where a loop stands. -/
structure LoopState where
  /-- The variable for the key and the key, if the loop runs over an object. -/
  key : Option (String × String)
  /-- The variable for the value. -/
  name : String
  value : Value
  /-- How many items came before this one. -/
  index : Nat
  /-- Whether this is the last item. -/
  isLast : Bool

/-- A frame: the variables assigned in it, and the loop it belongs to if it is one of a loop. -/
structure Frame where
  assigned : List (String × Value)
  loop : Option LoopState

/-- The frames from the innermost to the outermost. -/
abbrev Frames := List Frame

namespace Frame

/-- A frame in which nothing is assigned. -/
def fresh (loop : Option LoopState) : Frame := ⟨[], loop⟩

/-- The frame with a variable assigned. -/
def assign (f : Frame) (name : String) (v : Value) : Frame :=
  { f with assigned := (name, v) :: f.assigned }

/-- A small number as a value. -/
def count (n : Nat) : Value :=
  match Value.ofInt? n with
  | some v => v
  | none => .null

/-- What a loop says about itself, and the variables for its key and value. -/
def ofLoop? (l : LoopState) (head : String) (keys : List String) : Option Value :=
  match head, keys with
  | "loop", ["index"] => some (count (l.index + 1))
  | "loop", ["index0"] => some (count l.index)
  | "loop", ["first"] => some (.bool (l.index = 0))
  | "loop", ["last"] => some (.bool l.isLast)
  | head, keys =>
    if head = l.name then follow? keys l.value
    else match l.key, keys with
      | some (name, key), [] => if head = name then some (.str key) else none
      | _, _ => none

/-- The value of a path in a frame: assigned variables come before those of the loop. -/
def find? (f : Frame) (head : String) (keys : List String) : Option Value :=
  ((f.assigned.lookup head) >>= follow? keys).or (f.loop >>= fun l => ofLoop? l head keys)

end Frame

namespace Frames

/-- Assigns a variable in the innermost frame. -/
def assign (name : String) (v : Value) : Frames → Frames
  | [] => []
  | f :: rest => f.assign name v :: rest

/-- Assigns a variable in the innermost frame that is not one of a loop. -/
def assignGlobal (name : String) (v : Value) : Frames → Frames
  | [] => []
  | f :: rest => if f.loop.isSome then f :: assignGlobal name v rest else f.assign name v :: rest

end Frames

/-- The variables that an expression sees, and the template it stands in. -/
structure Variables where
  frames : Frames
  context : List (String × Value)
  template : String

namespace Variables

/-- The value of a path of plain keys. -/
def find? (vars : Variables) (head : String) (keys : List String) : Option Value :=
  (vars.frames.findSome? fun f => f.find? head keys).or (vars.context.lookup head >>= follow? keys)

/-- Whether a step is written in brackets. -/
def isBracket : Step → Bool
  | .key _ => false
  | _ => true

mutual

/-- The key of a step, and the step as it is written once its brackets are resolved. -/
def resolveStep (vars : Variables) (path : String) : Step → Except Failure (String × String)
  | .key key => .ok (key, "." ++ key)
  | .quoted key => .ok (key, ".\"" ++ key ++ "\"")
  | .position i =>
    if i < 0 then .error (.indexUnknown path (.variableNotFound (toString i) vars.template))
    else .ok (toString i, "." ++ toString i)
  | .computed inner =>
    match vars.value inner with
    | .error e => .error (.indexUnknown path e)
    | .ok (.str s) => .ok (s, ".\"" ++ s ++ "\"")
    | .ok (.num n) => .ok (n.write, "." ++ n.write)
    | .ok _ => .error (.indexNotScalar inner.written path)

/-- The keys of the steps of a path, and the steps as they are written once resolved. -/
def resolveSteps (vars : Variables) (path : String) :
    List Step → Except Failure (List String × String)
  | [] => .ok ([], "")
  | step :: rest => do
    let (key, text) ← resolveStep vars path step
    let (keys, texts) ← resolveSteps vars path rest
    .ok (key :: keys, text ++ texts)

/-- **The value of a path**, or the failure that it has none. -/
def value (vars : Variables) : Path → Except Failure Value
  | .mk written head steps => do
    let (keys, resolved) ← resolveSteps vars written steps
    match vars.find? head keys with
    | some v => .ok v
    | none =>
      if steps.any isBracket then
        .error (.indexNotFound written (head ++ resolved) vars.template)
      else .error (.variableNotFound written vars.template)

end

end Variables

end ApiStencil.Template
