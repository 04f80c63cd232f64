import ApiStencil.Json.Value

/-!
Values in rendered text: how they are written, which of them count as true, and how text is escaped
for markup.
-/

namespace ApiStencil.Json.Value

mutual

/-- A value as rendered text shows it: strings as they are, nothing for null, items in brackets. -/
def shown : Value → String
  | .null => ""
  | .bool b => if b then "true" else "false"
  | .num (.whole i _) => toString i
  | .num (.float x) => Layout.plain.write x
  | .str s => s
  | .arr items => "[" ++ ", ".intercalate (shownItems items) ++ "]"
  | .obj _ => "[object]"

/-- The items of an array as rendered text shows them. -/
def shownItems : List Value → List String
  | [] => []
  | v :: rest => shown v :: shownItems rest

end

/-- Whether a value counts as true: all but null, false, zero and what is empty. -/
def isTrue : Value → Bool
  | .null => false
  | .bool b => b
  | .num n => n.asUnits ≠ 0
  | .str s => !s.isEmpty
  | .arr items => !items.isEmpty
  | .obj members => !members.isEmpty

end ApiStencil.Json.Value

namespace ApiStencil.Template

/-- A character in markup. -/
def escapeChar (c : Char) : List Char :=
  match c with
  | '&' => "&amp;".toList
  | '<' => "&lt;".toList
  | '>' => "&gt;".toList
  | '"' => "&quot;".toList
  | '\'' => "&#x27;".toList
  | '/' => "&#x2F;".toList
  | c => [c]

/-- A text in markup, with the characters escaped that mean something there. -/
def escape (s : String) : String := String.ofList (s.toList.flatMap escapeChar)

end ApiStencil.Template
