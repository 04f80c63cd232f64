import ApiStencil.Yaml.Character

/-!
Scalars that flow over lines: plain ones and quoted ones.  Blanks around a line break are dropped, a
single line break becomes a space, and of several line breaks the first is dropped.  The separators
of lines and paragraphs are kept.

Each reader takes the characters after the opening quote, or from the first character of a plain
scalar on, and gives the text of the scalar and the characters after it.
-/

namespace ApiStencil.Yaml

/-! ### Gaps between words -/

/-- Blanks and line breaks between two words. -/
inductive Gap where
  /-- Blanks only. -/
  | inline (blanks : List Char)
  /-- A first line break and the further ones. -/
  | broken (first : Char) (more : List Char)
  /-- An escaped line break, and the further line breaks. -/
  | escaped (more : List Char)
deriving DecidableEq, Repr

namespace Gap

/-- The gap before anything was read. -/
def none : Gap := .inline []

/-- The gap with one more blank or line break. -/
def push (gap : Gap) (c : Char) : Gap :=
  match gap with
  | .inline blanks => if isBreak c then .broken c [] else .inline (blanks ++ [c])
  | .broken first more => if isBreak c then .broken first (more ++ [c]) else gap
  | .escaped more => if isBreak c then .escaped (more ++ [c]) else gap

/-- The text that a gap stands for. -/
def text : Gap → List Char
  | .inline blanks => blanks
  | .broken first more =>
    if first = '\n' then (if more.isEmpty then [' '] else more) else first :: more
  | .escaped more => more

/-- Whether there is a line break in the gap. -/
def isBroken : Gap → Bool
  | .broken _ _ => true
  | _ => false

end Gap

/-- A text and the characters after it. -/
abbrev Reading := Option (List Char × List Char)

/-- The text of a reading with characters put in front. -/
def Reading.prepend (cs : List Char) (r : Reading) : Reading :=
  r.map fun (text, rest) => (cs ++ text, rest)

/-! ### Quoted scalars -/

/-- Reads a scalar in single quotes: a quote in it is written twice.  `lineStart` says whether the
next character is the first one of a line. -/
def readSingle (gap : Gap) (lineStart : Bool) : List Char → Reading
  | [] => none
  | '\'' :: '\'' :: rest => (readSingle .none false rest).prepend (gap.text ++ ['\''])
  | '\'' :: rest => some (gap.text, rest)
  | c :: rest =>
    if isBlank c || isBreak c then readSingle (gap.push c) (isBreak c) rest
    else if lineStart && atDocumentMark (c :: rest) then none
    else (readSingle .none false rest).prepend (gap.text ++ [c])

/-- The character of a short escape. -/
def shortEscape? : Char → Option Char
  | '0' => some '\x00'
  | 'a' => some '\x07'
  | 'b' => some '\x08'
  | 't' | '\t' => some '\t'
  | 'n' => some '\n'
  | 'v' => some '\x0b'
  | 'f' => some '\x0c'
  | 'r' => some '\r'
  | 'e' => some '\x1b'
  | ' ' => some ' '
  | '"' => some '"'
  | '/' => some '/'
  | '\\' => some '\\'
  | 'N' => some '\u0085'
  | '_' => some '\u00a0'
  | 'L' => some lineSeparator
  | 'P' => some paragraphSeparator
  | _ => none

/-- How many digits an escape by number has. -/
def numberLength? : Char → Option Nat
  | 'x' => some 2
  | 'u' => some 4
  | 'U' => some 8
  | _ => none

/-- The value of a hexadecimal digit. -/
def hexDigit? (c : Char) : Option Nat :=
  if c.isDigit then some (c.toNat - 48)
  else if 'a' ≤ c ∧ c ≤ 'f' then some (c.toNat - 87)
  else if 'A' ≤ c ∧ c ≤ 'F' then some (c.toNat - 55)
  else none

/-- The character with the number that hexadecimal digits write. -/
def charOfHex? (digits : List Char) : Option Char := do
  let values ← digits.mapM hexDigit?
  let n := values.foldl (fun n d => 16 * n + d) 0
  if n.isValidChar then some (Char.ofNat n) else none

/-- Reads a scalar in double quotes, in which a backslash starts an escape.  An escaped line break
is dropped with the blanks after it.  `digits` holds what is still to come of an escape by number:
the number of digits and the digits read so far. -/
def readDouble (gap : Gap) (lineStart : Bool) (digits : Option (Nat × List Char)) :
    List Char → Reading
  | [] => none
  | c :: rest =>
    match digits with
    | some (1, before) =>
      match charOfHex? (before ++ [c]) with
      | some shown => (readDouble .none false none rest).prepend [shown]
      | none => none
    | some (n, before) => readDouble gap false (some (n - 1, before ++ [c])) rest
    | none =>
      if c = '"' then some (gap.text, rest)
      else if isBlank c || isBreak c then readDouble (gap.push c) (isBreak c) none rest
      else if lineStart && atDocumentMark (c :: rest) then none
      else if c = '\\' then
        match rest with
        | [] => none
        | e :: rest =>
          if isBreak e then (readDouble (.escaped []) true none rest).prepend gap.text
          else match shortEscape? e, numberLength? e with
            | some shown, _ => (readDouble .none false none rest).prepend (gap.text ++ [shown])
            | none, some n => (readDouble .none false (some (n, [])) rest).prepend gap.text
            | none, none => none
      else (readDouble .none false none rest).prepend (gap.text ++ [c])

/-! ### Plain scalars -/

/-- What ends a plain scalar inside brackets. -/
def isFlowIndicator (c : Char) : Bool := c = ',' || c = '[' || c = ']' || c = '{' || c = '}'

/-- Whether a colon inside brackets comes right before something that it cannot come before. -/
def misplacedColon (rest : List Char) : Bool :=
  match rest with
  | c :: _ => isFlowIndicator c || c = '?'
  | [] => false

/-- Where a plain scalar stands: inside brackets or not, and the least column of its lines. -/
structure PlainPlace where
  inFlow : Bool
  least : Nat
deriving DecidableEq, Repr

/-- Reads a plain scalar: the text, the characters after the scalar and the gap that ends it, and
whether there is a line break in that gap.  `column` counts the blanks since the last line break. -/
def readPlain (place : PlainPlace) (gap : Gap) (column : Nat) :
    List Char → Option (List Char × List Char × Bool)
  | [] => some ([], [], gap.isBroken)
  | c :: rest =>
    if isBreak c then readPlain place (gap.push c) 0 rest
    else if isBlank c then
      if gap.isBroken && c = '\t' && column < place.least then none
      else readPlain place (gap.push c) (column + 1) rest
    else
      let outside := gap.isBroken
        && ((column = 0 && atDocumentMark (c :: rest)) || (!place.inFlow && column < place.least))
      let comment := c = '#' && gap != .none
      let ends := (c = ':' && endsWord rest) || (place.inFlow && isFlowIndicator c)
      if outside || comment then some ([], c :: rest, gap.isBroken)
      else if place.inFlow && c = ':' && misplacedColon rest then none
      else if ends then some ([], c :: rest, gap.isBroken)
      else (readPlain place .none 0 rest).map fun (text, rest) => (gap.text ++ c :: text, rest)

end ApiStencil.Yaml
