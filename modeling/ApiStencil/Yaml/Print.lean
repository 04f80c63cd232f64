import ApiStencil.Yaml.Core

/-!
Writing strings as YAML scalars.  A string is written plain where that reads back as the string,
else in single quotes; with line feeds it is written as lines below a bar.  Where neither form can
hold it, it is written in double quotes with escapes.
-/

namespace ApiStencil.Yaml

/-- Whether a character is written as it is. -/
def isPrintable (c : Char) : Bool :=
  let n := c.toNat
  n = 0x0A || (0x20 ≤ n && n ≤ 0x7E) || (0xA0 ≤ n && n ≤ 0xD7FF)
    || (0xE000 ≤ n && n ≤ 0xFFFD && n ≠ 0xFEFF) || 0x10000 ≤ n

/-! ### What a string holds -/

/-- Whether two characters follow each other somewhere. -/
def hasPair (first second : Char → Bool) : List Char → Bool
  | a :: b :: rest => (first a && second b) || hasPair first second (b :: rest)
  | _ => false

/-- Whether a character is a space. -/
def isSpace (c : Char) : Bool := c = ' '

/-- Whether a colon ends a word somewhere after the first character. -/
def hasEndingColon : List Char → Bool
  | [] => false
  | c :: rest => (c = ':' && endsWord rest) || hasEndingColon rest

/-- Whether the first character makes the string look like something else than a plain scalar. -/
def startsIndicator : List Char → Bool
  | [] => false
  | c :: rest =>
    c ∈ ['#', ',', '[', ']', '{', '}', '&', '*', '!', '|', '>', '\'', '"', '%', '@', '\x60']
      || ((c = '?' || c = ':' || c = '-') && endsWord rest)

/-- Whether three dashes or three points come first. -/
def startsMark : List Char → Bool
  | '-' :: '-' :: '-' :: _ | '.' :: '.' :: '.' :: _ => true
  | _ => false

/-- Whether a plain scalar in block context would end early or be something else. -/
def hasIndicator (cs : List Char) : Bool :=
  startsMark cs || startsIndicator cs || hasEndingColon cs.tail
    || hasPair (fun c => isBlank c || isBreak c) (· = '#') cs

/-- Whether there is a character that only an escape can write. -/
def hasHidden (cs : List Char) : Bool := cs.any fun c => !isPrintable c

/-- Whether single quotes can hold a string: no blank stands next to a line break. -/
def fitsSingle (cs : List Char) : Bool :=
  !hasHidden cs && !hasPair isSpace isBreak cs && !hasPair isBreak isSpace cs

/-- Whether lines below a bar can hold a string: no line ends in a space. -/
def fitsLiteral (cs : List Char) : Bool :=
  !hasHidden cs && !hasPair isSpace isBreak cs && cs.getLast? ≠ some ' '

/-- Whether a string can be plain as far as its characters go. -/
def fitsPlain (cs : List Char) : Bool :=
  let isEdge (c : Option Char) : Bool := match c with
    | some c => isSpace c || isBreak c
    | none => false
  !hasHidden cs && !cs.any isBreak && !isEdge cs.head? && !isEdge cs.getLast? && !hasIndicator cs

/-- Whether a plain string would mean something else, or might to some reader: it resolves to
another type, starts with a digit or is an old word for a boolean. -/
def isAmbiguous (s : String) : Bool :=
  let lower := String.ofList (s.toList.map Char.toLower)
  Core.ofPlain s ≠ .text s || Core.bool? lower ≠ none || Core.isNull lower
    || (match s.toList with
      | c :: _ => c.isDigit
      | [] => true)
    || lower ∈ ["y", "yes", "n", "no", "on", "off"]

/-- The style in which a string is written. -/
def styleOf (s : String) : Style :=
  let cs := s.toList
  if cs.contains '\n' then (if fitsLiteral cs then .literal else .double)
  else if !isAmbiguous s && fitsPlain cs then .plain
  else if fitsSingle cs then .single
  else .double

/-! ### Writing -/

/-- A hexadecimal digit. -/
def hexDigit (n : Nat) : Char := if n < 10 then Char.ofNat (48 + n) else Char.ofNat (55 + n)

/-- A number in so many hexadecimal digits. -/
def hexOf : Nat → Nat → List Char
  | 0, _ => []
  | width + 1, n => hexOf width (n / 16) ++ [hexDigit (n % 16)]

/-- A character in double quotes. -/
def escaped (c : Char) : List Char :=
  let n := c.toNat
  if c = '"' || c = '\\' then ['\\', c]
  else if isPrintable c && !isBreak c then [c]
  else match n with
    | 0x00 => ['\\', '0']
    | 0x07 => ['\\', 'a']
    | 0x08 => ['\\', 'b']
    | 0x09 => ['\\', 't']
    | 0x0A => ['\\', 'n']
    | 0x0B => ['\\', 'v']
    | 0x0C => ['\\', 'f']
    | 0x0D => ['\\', 'r']
    | 0x1B => ['\\', 'e']
    | 0x85 => ['\\', 'N']
    | 0x2028 => ['\\', 'L']
    | 0x2029 => ['\\', 'P']
    | n =>
      if n ≤ 0xFF then '\\' :: 'x' :: hexOf 2 n
      else if n ≤ 0xFFFF then '\\' :: 'u' :: hexOf 4 n
      else '\\' :: 'U' :: hexOf 8 n

/-- How far the lines of a scalar are indented. -/
def indentation : List Char := [' ', ' ']

/-- The characters between single quotes.  After a line break comes the indentation. -/
def singleBody (broken : Bool) : List Char → List Char
  | [] => if broken then indentation else []
  | c :: rest =>
    if isBreak c then c :: singleBody true rest
    else (if broken then indentation else []) ++ (if c = '\'' then ['\'', '\''] else [c])
      ++ singleBody false rest

/-- The lines below a bar, each that is not empty with its indentation. -/
def literalBody (broken : Bool) : List Char → List Char
  | [] => []
  | c :: rest =>
    if isBreak c then c :: literalBody true rest
    else (if broken then indentation else []) ++ c :: literalBody false rest

/-- What a header says about the end of the lines. -/
def chompingHint (cs : List Char) : List Char :=
  let isBreak? (c : Option Char) : Bool := match c with
    | some c => isBreak c
    | none => true
  let back := cs.reverse
  if !isBreak? back.head? then ['-']
  else if isBreak? back.tail.head? then ['+']
  else []

/-- What the header says about the indentation, where it cannot be seen from the first line. -/
def indentationHint (cs : List Char) : List Char :=
  match cs with
  | c :: _ => if isSpace c || isBreak c then ['2'] else []
  | [] => []

/-- **A string as the value of a key**, with the blank before it and the line end after it. -/
def writeText (s : String) : List Char :=
  let cs := s.toList
  match styleOf s with
  | .single => [' ', '\''] ++ singleBody false cs ++ ['\'', '\n']
  | .double => [' ', '"'] ++ cs.flatMap escaped ++ ['"', '\n']
  | .literal | .folded =>
    [' ', '|'] ++ indentationHint cs ++ chompingHint cs ++ ['\n'] ++ literalBody true cs
      ++ (match cs.getLast? with
        | some c => if isBreak c then [] else ['\n']
        | none => [])
  | .plain => ' ' :: cs ++ ['\n']

end ApiStencil.Yaml
