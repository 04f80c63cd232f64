import ApiStencil.Template.Tree

/-!
Reading the words of template code: names, paths, literals and expressions.  Every reader takes a
text and gives what it read and the text after it, or nothing if the text does not start with what
it reads.  Alternatives are tried in order, and the first one that fits is taken.
-/

namespace ApiStencil.Template

open Json

/-- A reader: what the front of a text says, and the text after it. -/
abbrev Reader (α : Type) := List Char → Option (α × List Char)

namespace Reading

/-! ### Characters and words -/

/-- The blanks between the words of template code. -/
def isSpace (c : Char) : Bool := c = ' ' || c = '\t' || c = '\r' || c = '\n'

/-- The text without the blanks in front. -/
def skipSpace (cs : List Char) : List Char := cs.dropWhile isSpace

/-- Drops a word off the front of a text. -/
def dropWord? : List Char → List Char → Option (List Char)
  | [], cs => some cs
  | w :: ws, c :: cs => if w = c then dropWord? ws cs else none
  | _ :: _, [] => none

/-- Drops a word after optional blanks. -/
def word? (word : String) (cs : List Char) : Option (List Char) :=
  dropWord? word.toList (skipSpace cs)

/-- Drops a word that blanks come after. -/
def spacedWord? (w : String) (cs : List Char) : Option (List Char) := do
  let rest ← word? w cs
  match rest with
  | c :: _ => if isSpace c then some rest else none
  | [] => none

/-- The letters that a name can start with. -/
def startsName (c : Char) : Bool := c.isAlpha || c = '_'

/-- The letters and digits of a name. -/
def inName (c : Char) : Bool := c.isAlphanum || c = '_'

/-- Reads a name. -/
def name : Reader String
  | c :: cs =>
    if startsName c then some (String.ofList (c :: cs.takeWhile inName), cs.dropWhile inName)
    else none
  | [] => none

/-- Reads a name after optional blanks. -/
def spacedName : Reader String := fun cs => name (skipSpace cs)

/-! ### Literals -/

/-- The quotes that a string can stand in. -/
def isQuote (c : Char) : Bool := c = '"' || c = '\'' || c = '\x60'

/-- Reads a string: all characters up to the next quote of the kind that opens it. -/
def text : Reader String
  | q :: cs =>
    if isQuote q then
      match cs.dropWhile (· ≠ q) with
      | _ :: rest => some (String.ofList (cs.takeWhile (· ≠ q)), rest)
      | [] => none
    else none
  | [] => none

/-- Reads the whole part of a number: one zero, or digits that start with none. -/
def wholePart : Reader (List Char)
  | '0' :: cs => some (['0'], cs)
  | c :: cs =>
    if c.isDigit then some (c :: cs.takeWhile Char.isDigit, cs.dropWhile Char.isDigit) else none
  | [] => none

/-- Reads a number: an optional minus sign, the whole part, and places after a point if there are
any.  Whole numbers are those of 64 bits with a sign. -/
def number : Reader Number := fun cs => do
  let (negative, cs) := match cs with
    | '-' :: rest => (true, rest)
    | cs => (false, cs)
  let (whole, rest) ← wholePart cs
  let places := match rest with
    | '.' :: tail => tail.takeWhile Char.isDigit
    | _ => []
  if places.isEmpty then
    let n : Int := Literal.digitsValue whole
    let i := if negative then -n else n
    if h : FitsSigned i then some (.whole i (.inl h), rest) else none
  else
    let literal : Literal :=
      ⟨negative, Literal.digitsValue (whole ++ places), -(places.length : Int)⟩
    let x ← literal.toBinary64?
    some (.float x, rest.drop (1 + places.length))

/-- Reads a truth value; what comes after the word does not matter. -/
def truth : Reader Bool := fun cs =>
  let asWord (w : String) (b : Bool) := (dropWord? w.toList cs).map (b, ·)
  asWord "true" true <|> asWord "false" false <|> asWord "True" true <|> asWord "False" false

/-! ### Paths -/

/-- The characters of the text `before` that come before its rest `after`. -/
def consumed (before after : List Char) : String :=
  String.ofList (before.take (before.length - after.length))

/-- Reads the plain steps of a path: points with names or positions after them. -/
def plainSteps : Nat → List Char → List Step × List Char
  | fuel + 1, '.' :: c :: cs =>
    if inName c then
      let key := String.ofList (c :: cs.takeWhile inName)
      let (steps, rest) := plainSteps fuel (cs.dropWhile inName)
      (.key key :: steps, rest)
    else ([], '.' :: c :: cs)
  | _, cs => ([], cs)

/-- Reads a path of names and points. -/
def plainPath : Reader Path := fun cs => do
  let (head, rest) ← name cs
  let (steps, rest) := plainSteps rest.length rest
  some (.mk (consumed cs rest) head steps, rest)

mutual

/-- Reads a path: a name with steps. -/
def path : Nat → Reader Path
  | 0, _ => none
  | fuel + 1, cs => do
    let (head, rest) ← name cs
    let (steps, rest) := pathSteps fuel rest
    some (.mk (consumed cs rest) head steps, rest)

/-- Reads the steps of a path: names and positions after points, and brackets. -/
def pathSteps : Nat → List Char → List Step × List Char
  | 0, cs => ([], cs)
  | fuel + 1, '.' :: c :: cs =>
    if inName c then
      let key := String.ofList (c :: cs.takeWhile inName)
      let (steps, rest) := pathSteps fuel (cs.dropWhile inName)
      (.key key :: steps, rest)
    else ([], '.' :: c :: cs)
  | fuel + 1, '[' :: cs =>
    match bracket fuel cs with
    | some (step, rest) =>
      let (steps, rest) := pathSteps fuel rest
      (step :: steps, rest)
    | none => ([], '[' :: cs)
  | _, cs => ([], cs)

/-- Reads what stands in brackets, and the closing bracket. -/
def bracket : Nat → Reader Step
  | 0, _ => none
  | fuel + 1, cs => do
    let (step, rest) ←
      match number cs with
      | some (.whole i _, rest) => some (Step.position i, rest)
      | _ =>
        match text cs with
        | some (key, rest) => some (Step.quoted key, rest)
        | none => (path fuel cs).map fun (p, rest) => (Step.computed p, rest)
    match rest with
    | ']' :: rest => some (step, rest)
    | _ => none

end

/-- Reads a path of any kind. -/
def anyPath : Reader Path := fun cs => path (cs.length + 1) cs

/-! ### Expressions -/

/-- The arguments without those that a later argument of the same name replaces. -/
def lastOfName : List (String × Expr) → List (String × Expr)
  | [] => []
  | (n, e) :: rest =>
    if rest.any fun (m, _) => m = n then lastOfName rest else (n, e) :: lastOfName rest

mutual

/-- Reads alternatives: terms with `or` between them. -/
def disjunction : Nat → Reader Expr
  | 0, _ => none
  | fuel + 1, cs => do
    let (first, rest) ← conjunction fuel cs
    disjunctionRest fuel first rest

/-- Reads further alternatives after a first one. -/
def disjunctionRest : Nat → Expr → Reader Expr
  | 0, first, cs => some (first, cs)
  | fuel + 1, first, cs =>
    match spacedWord? "or" cs with
    | some rest =>
      match conjunction fuel (skipSpace rest) with
      | some (next, rest) => disjunctionRest fuel (.ofBase (.either first next)) rest
      | none => some (first, cs)
    | none => some (first, cs)

/-- Reads terms with `and` between them. -/
def conjunction : Nat → Reader Expr
  | 0, _ => none
  | fuel + 1, cs => do
    let (first, rest) ← term fuel cs
    conjunctionRest fuel first rest

/-- Reads further terms after a first one. -/
def conjunctionRest : Nat → Expr → Reader Expr
  | 0, first, cs => some (first, cs)
  | fuel + 1, first, cs =>
    match spacedWord? "and" cs with
    | some rest =>
      match term fuel (skipSpace rest) with
      | some (next, rest) => conjunctionRest fuel (.ofBase (.both first next)) rest
      | none => some (first, cs)
    | none => some (first, cs)

/-- Reads a term: an operand, or two that are compared, with an optional `not` in front. -/
def term : Nat → Reader Expr
  | 0, _ => none
  | fuel + 1, cs =>
    match spacedWord? "not" cs with
    | some rest => do
      let (.mk _ base pipes, rest) ← comparison fuel (skipSpace rest)
      some (.mk true base pipes, rest)
    | none => comparison fuel (skipSpace cs)

/-- Reads an operand, or two that are compared. -/
def comparison : Nat → Reader Expr
  | 0, _ => none
  | fuel + 1, cs => do
    let (left, rest) ← operand fuel cs
    let compared (wanted : Bool) (tail : List Char) : Option (Expr × List Char) := do
      let (right, rest) ← operand fuel (skipSpace tail)
      some (.ofBase (.equal wanted left right), rest)
    let equal := word? "==" rest >>= compared true
    let differ := word? "!=" rest >>= compared false
    (equal <|> differ).or (some (left, rest))

/-- Reads an operand: joined texts, a text or another base, with its pipes. -/
def operand : Nat → Reader Expr
  | 0, _ => none
  | fuel + 1, cs => do
    let (base, rest) ← joined fuel cs <|> (text cs).map (fun (s, rest) => (.text s, rest))
      <|> base fuel cs
    let (pipes, rest) := pipes fuel rest
    some (.mk false base pipes, rest)

/-- Reads two or more operands with `~` between them. -/
def joined : Nat → Reader Base
  | 0, _ => none
  | fuel + 1, cs => do
    let (first, rest) ← joinable fuel cs
    let tail ← word? "~" rest
    let (next, rest) ← joinable fuel (skipSpace tail)
    let (more, rest) := joinedRest fuel rest
    some (.joined (first :: next :: more), rest)

/-- Reads further joined operands. -/
def joinedRest : Nat → List Char → List Operand × List Char
  | 0, cs => ([], cs)
  | fuel + 1, cs =>
    match word? "~" cs >>= fun tail => joinable fuel (skipSpace tail) with
    | some (next, rest) =>
      let (more, rest) := joinedRest fuel rest
      (next :: more, rest)
    | none => ([], cs)

/-- Reads what can be joined: a call, a number, a text or a path. -/
def joinable : Nat → Reader Operand
  | 0, _ => none
  | fuel + 1, cs =>
    (call fuel cs).map (fun (c, rest) => (.function c, rest))
      <|> (number cs).map (fun (n, rest) => (.number n, rest))
      <|> (text cs).map (fun (s, rest) => (.text s, rest))
      <|> (anyPath cs).map (fun (p, rest) => (.variable p, rest))

/-- Reads a base that is no text: a truth value, a test, a call, a path or a number. -/
def base : Nat → Reader Base
  | 0, _ => none
  | fuel + 1, cs =>
    (truth cs).map (fun (b, rest) => (.bool b, rest))
      <|> test cs
      <|> (call fuel cs).map (fun (c, rest) => (.function c, rest))
      <|> (anyPath cs).map (fun (p, rest) => (.variable p, rest))
      <|> (number cs).map (fun (n, rest) => (.number n, rest))

/-- Reads a test whether a variable has a value, or with `not` whether it lacks one. -/
def test : Reader Base := fun cs => do
  let (p, rest) ← plainPath cs
  let rest ← word? "is" rest
  let asWord (wanted : Bool) (rest : List Char) : Option (Base × List Char) := do
    let (which, rest) ← spacedName rest
    if which = "defined" then some (.isDefined p wanted, rest)
    else if which = "undefined" then some (.isDefined p !wanted, rest)
    else none
  (word? "not" rest >>= asWord false) <|> asWord true rest

/-- Reads a call: a name with arguments in parentheses. -/
def call : Nat → Reader Call
  | 0, _ => none
  | fuel + 1, cs => do
    let (n, rest) ← name cs
    let rest ← word? "(" rest
    let (args, rest) := arguments fuel rest
    let rest ← word? ")" rest
    some (.mk n (lastOfName args), rest)

/-- Reads arguments with commas between them; a comma may come after the last one. -/
def arguments : Nat → List Char → List (String × Expr) × List Char
  | 0, cs => ([], cs)
  | fuel + 1, cs =>
    match argument fuel cs with
    | none => ([], cs)
    | some (arg, rest) =>
      match word? "," rest with
      | some rest =>
        let (args, rest) := arguments fuel rest
        (arg :: args, rest)
      | none => ([arg], rest)

/-- Reads an argument: a name, an equals sign and a value. -/
def argument : Nat → Reader (String × Expr)
  | 0, _ => none
  | fuel + 1, cs => do
    let (n, rest) ← spacedName cs
    let rest ← word? "=" rest
    let (e, rest) ← valueOf fuel (skipSpace rest)
    some ((n, e), rest)

/-- Reads pipes: bars with filters after them. -/
def pipes : Nat → List Char → List Call × List Char
  | 0, cs => ([], cs)
  | fuel + 1, cs =>
    match word? "|" cs >>= fun tail => filterUse fuel (skipSpace tail) with
    | some (c, rest) =>
      let (more, rest) := pipes fuel rest
      (c :: more, rest)
    | none => ([], cs)

/-- Reads the use of a filter: a call, or only a name. -/
def filterUse : Nat → Reader Call
  | 0, _ => none
  | fuel + 1, cs => call fuel cs <|> (name cs).map fun (n, rest) => (.mk n [], rest)

/-- Reads an array: terms with commas between them; a comma may come after the last one. -/
def array : Nat → Reader Base
  | 0, _ => none
  | fuel + 1, cs => do
    let rest ← word? "[" cs
    let (items, rest) := items fuel rest
    let rest := (word? "," rest).getD rest
    let rest ← word? "]" rest
    some (.array items, rest)

/-- Reads the items of an array. -/
def items : Nat → List Char → List Expr × List Char
  | 0, cs => ([], cs)
  | fuel + 1, cs =>
    match term fuel (skipSpace cs) with
    | none => ([], cs)
    | some (e, rest) =>
      match word? "," rest with
      | none => ([e], rest)
      | some tail =>
        match items fuel tail with
        | ([], _) => ([e], rest)
        | (more, rest) => (e :: more, rest)

/-- Reads an array with its pipes. -/
def arrayOperand : Nat → Reader Expr
  | 0, _ => none
  | fuel + 1, cs => do
    let (a, rest) ← array fuel cs
    let (ps, rest) := pipes fuel rest
    some (.mk false a ps, rest)

/-- Reads any value: alternatives, or an array. -/
def valueOf : Nat → Reader Expr
  | 0, _ => none
  | fuel + 1, cs => disjunction fuel cs <|> arrayOperand fuel cs

end

/-- How deep the reading of an expression can go: the readers above call one another at most a
fixed number of times before they take a character. -/
def depthFor (cs : List Char) : Nat := 16 * (cs.length + 1)

/-- Reads a value after optional blanks. -/
def value : Reader Expr := fun cs => valueOf (depthFor cs) (skipSpace cs)

/-- Reads a condition after optional blanks. -/
def condition : Reader Expr := fun cs => disjunction (depthFor cs) (skipSpace cs)

/-- Reads the use of a filter after optional blanks. -/
def pipe : Reader Call := fun cs => filterUse (depthFor cs) (skipSpace cs)

/-- Reads what a loop runs over, after optional blanks: a base that is no text, or an array, with
its pipes. -/
def container : Reader Expr := fun cs =>
  let fuel := depthFor cs
  let cs := skipSpace cs
  (do
    let (b, rest) ← base fuel cs
    let (ps, rest) := pipes fuel rest
    some (.mk false b ps, rest)) <|> arrayOperand fuel cs

end Reading

end ApiStencil.Template
