/-!
Characters as YAML sees them: line breaks and blanks, the characters that a document may hold, and
positions in a document.
-/

namespace ApiStencil.Yaml

/-- The separators that end a line and stay in the text as they are. -/
def lineSeparator : Char := '\u2028'

/-- The separator of paragraphs, which ends a line like the separator of lines. -/
def paragraphSeparator : Char := '\u2029'

/-- Whether a character ends a line. -/
def isBreak (c : Char) : Bool := c = '\n' || c = lineSeparator || c = paragraphSeparator

/-- Whether a character is a space or a tab. -/
def isBlank (c : Char) : Bool := c = ' ' || c = '\t'

/-- Whether a word ends here: at a blank, at a line break or at the end. -/
def endsWord : List Char → Bool
  | [] => true
  | c :: _ => isBlank c || isBreak c

/-- Whether a document may hold a character as it is. -/
def isAllowed (c : Char) : Bool :=
  let n := c.toNat
  n = 0x09 || n = 0x0A || n = 0x0D || (0x20 ≤ n && n ≤ 0x7E) || n = 0x85
    || (0xA0 ≤ n && n ≤ 0xD7FF) || (0xE000 ≤ n && n ≤ 0xFFFD) || 0x10000 ≤ n

/-- The text with every line end that is not kept as it is written as a line feed. -/
def unifyBreaks : List Char → List Char
  | '\r' :: '\n' :: rest => '\n' :: unifyBreaks rest
  | c :: rest => (if c = '\r' ∨ c = '\u0085' then '\n' else c) :: unifyBreaks rest
  | [] => []

/-- A position in a document. -/
structure Mark where
  line : Nat
  column : Nat
  /-- How many characters come before. -/
  index : Nat
deriving DecidableEq, Repr

namespace Mark

/-- The position at the start. -/
def start : Mark := ⟨0, 0, 0⟩

/-- The position after one more character. -/
def after (m : Mark) (c : Char) : Mark :=
  if isBreak c then ⟨m.line + 1, 0, m.index + 1⟩ else ⟨m.line, m.column + 1, m.index + 1⟩

/-- The position after further characters. -/
def afterAll (m : Mark) (cs : List Char) : Mark := cs.foldl after m

end Mark

/-- Whether a mark of documents stands here: three equal characters that end a word. -/
def isDocumentMark (mark : Char) : List Char → Bool
  | a :: b :: c :: rest => a = mark && b = mark && c = mark && endsWord rest
  | _ => false

/-- Whether any mark of documents stands here. -/
def atDocumentMark (cs : List Char) : Bool := isDocumentMark '-' cs || isDocumentMark '.' cs

end ApiStencil.Yaml
