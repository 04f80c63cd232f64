/-!
Patterns for paths: `**/` stands for any number of directories, `*` for any run of characters in a
component, `?` for one of them, brackets for one of a class, and every other character for itself.
-/

namespace ApiStencil

namespace Glob

/-- A part of a pattern. -/
inductive Part where
  | directories
  | run
  | one
  | oneOf (negated : Bool) (ranges : List (Char × Char))
  | char (c : Char)
deriving DecidableEq, Repr

/-- The ranges of a class: single characters, and pairs with a dash between them. -/
def rangesOf : List Char → List (Char × Char)
  | a :: '-' :: b :: rest => (a, b) :: rangesOf rest
  | c :: rest => (c, c) :: rangesOf rest
  | [] => []

/-- Whether a class has a sign that negates it, and what comes after the sign. -/
def signOf : List Char → Bool × List Char
  | '!' :: rest | '^' :: rest => (true, rest)
  | cs => (false, cs)

/-- Reads a class after its opening bracket; a closing bracket that comes first is a member. -/
def readClass (cs : List Char) : Option (Part × List Char) :=
  let (negated, body) := signOf cs
  let members := body.take 1 ++ (body.drop 1).takeWhile (· ≠ ']')
  match body.drop members.length with
  | ']' :: rest => if members.isEmpty then none else some (.oneOf negated (rangesOf members), rest)
  | _ => none

/-- The parts of a pattern.  `start` says whether a component starts here. -/
def partsOf : Nat → Bool → List Char → List Part
  | 0, _, _ => []
  | _, _, [] => []
  | fuel + 1, start, c :: rest =>
    match c, rest with
    | '*', '*' :: '/' :: others =>
      if start then .directories :: partsOf fuel true others else .run :: partsOf fuel false rest
    | '*', _ => .run :: partsOf fuel false rest
    | '?', _ => .one :: partsOf fuel false rest
    | '[', _ =>
      match readClass rest with
      | some (part, others) => part :: partsOf fuel false others
      | none => .char c :: partsOf fuel false rest
    | c, _ => .char c :: partsOf fuel (c = '/') rest

/-- The parts of a whole pattern. -/
def ofText (pattern : String) : List Part :=
  partsOf (pattern.length + 1) true pattern.toList

/-- Whether the test holds after some run of characters in a component. -/
def afterRun (test : List Char → Bool) : List Char → Bool
  | [] => test []
  | c :: rest => test (c :: rest) || (c ≠ '/' && afterRun test rest)

/-- Whether the test holds after some number of directories. -/
def afterDirectories (test : List Char → Bool) (start : Bool) : List Char → Bool
  | [] => start && test []
  | c :: rest => (start && test (c :: rest)) || afterDirectories test (c = '/') rest

/-- Whether a character is in a class; no class has the slash. -/
def inClass (negated : Bool) (ranges : List (Char × Char)) (c : Char) : Bool :=
  c ≠ '/' && ranges.any (fun (a, b) => a ≤ c && c ≤ b) != negated

/-- Whether a path matches the parts of a pattern from here on. -/
def matchesFrom : List Part → List Char → Bool
  | [], cs => cs.isEmpty
  | .directories :: parts, cs => afterDirectories (matchesFrom parts) true cs
  | .run :: parts, cs => afterRun (matchesFrom parts) cs
  | .one :: parts, cs =>
    match cs with
    | c :: rest => c ≠ '/' && matchesFrom parts rest
    | [] => false
  | .oneOf negated ranges :: parts, cs =>
    match cs with
    | c :: rest => inClass negated ranges c && matchesFrom parts rest
    | [] => false
  | .char d :: parts, cs =>
    match cs with
    | c :: rest => c = d && matchesFrom parts rest
    | [] => false

/-- **Whether a path matches a pattern.** -/
def matches? (pattern path : String) : Bool := matchesFrom (ofText pattern) path.toList

end Glob

end ApiStencil
