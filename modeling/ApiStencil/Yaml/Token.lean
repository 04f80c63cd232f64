import ApiStencil.Yaml.Block
import ApiStencil.Yaml.Flowing

/-!
Tokens of YAML documents.  Indentation becomes tokens that open and close collections.  What turns
out to be the key of a mapping only when its colon comes gets its tokens put in front of it then;
until then it is a candidate, and no token from the first candidate on is settled.

Main definition: `tokensOf`, the settled tokens of a text, up to its end or to the first point where
it is no YAML.
-/

namespace ApiStencil.Yaml

/-- How a scalar is written. -/
inductive Style where
  | plain
  | single
  | double
  | literal
  | folded
deriving DecidableEq, Repr

/-- A token. -/
inductive Token where
  | streamEnd
  | version (major minor : Nat)
  | tagShorthand (handle full : String)
  | documentStart
  | documentEnd
  | blockSequence
  | blockMapping
  | blockEnd
  | flowSequence
  | flowSequenceEnd
  | flowMapping
  | flowMappingEnd
  | blockEntry
  | flowEntry
  | key
  | value
  | alias (name : String)
  | anchor (name : String)
  | tag (handle suffix : String)
  | scalar (style : Style) (text : String)
deriving DecidableEq, Repr

/-- What may turn out to be the key of a mapping. -/
structure Candidate where
  /-- Whether it has to turn out to be one. -/
  required : Bool
  /-- How many tokens come before it. -/
  number : Nat
  mark : Mark
deriving DecidableEq, Repr

/-- Where the reading of tokens stands. -/
structure Scanner where
  rest : List Char
  mark : Mark
  /-- The tokens so far, the newest first. -/
  tokens : List Token
  /-- The column of the innermost block collection, or `-1`. -/
  indent : Int
  /-- The columns of the block collections around it. -/
  outer : List Int
  /-- For each level of brackets, the innermost first, the candidate there. -/
  candidates : List (Option Candidate)
  /-- Whether a key may start here. -/
  keyAllowed : Bool
deriving DecidableEq, Repr

namespace Scanner

/-- The start of a text. -/
def start (cs : List Char) : Scanner := ⟨cs, .start, [], -1, [], [none], true⟩

/-- Whether this is inside brackets. -/
def inFlow (s : Scanner) : Bool := 1 < s.candidates.length

/-- Adds a token. -/
def push (s : Scanner) (t : Token) : Scanner := { s with tokens := t :: s.tokens }

/-- Goes on at `rest`, the last characters of those to come. -/
def goTo (s : Scanner) (rest : List Char) : Scanner :=
  { s with rest, mark := s.mark.afterAll (s.rest.take (s.rest.length - rest.length)) }

/-- Puts a token in front of all but the first `number` ones. -/
def insertAt (s : Scanner) (number : Nat) (t : Token) : Scanner :=
  let later := s.tokens.length - number
  { s with tokens := s.tokens.take later ++ t :: s.tokens.drop later }

/-! ### Indentation -/

/-- Closes block collections, innermost first, that are indented deeper than a column. -/
def closeTo (column : Int) (tokens : List Token) (indent : Int) :
    List Int → List Token × Int × List Int
  | [] => (tokens, indent, [])
  | next :: outer =>
    if column < indent then closeTo column (.blockEnd :: tokens) next outer
    else (tokens, indent, next :: outer)

/-- Closes the block collections that are indented deeper than a column.  Brackets take no part in
indentation. -/
def unroll (s : Scanner) (column : Int) : Scanner :=
  if s.inFlow then s
  else
    let (tokens, indent, outer) := closeTo column s.tokens s.indent s.outer
    { s with tokens, indent, outer }

/-- Opens a block collection at a column if that is deeper than the innermost one. -/
def roll (s : Scanner) (column : Nat) (number : Nat) (t : Token) : Scanner :=
  if s.inFlow || column ≤ s.indent then s
  else { s.insertAt number t with indent := column, outer := s.indent :: s.outer }

/-! ### Candidates for keys -/

/-- Whether a candidate is too far away to become a key: on another line, or long. -/
def isStale (mark : Mark) (k : Candidate) : Bool :=
  k.mark.line < mark.line || k.mark.index + 1024 < mark.index

/-- Drops the candidates that are too far away; fails if one of them has to become a key. -/
def dropStale (s : Scanner) : Option Scanner := do
  let candidates ← s.candidates.mapM fun candidate =>
    match candidate with
    | none => some none
    | some k =>
      if isStale s.mark k then (if k.required then none else some none) else some (some k)
  some { s with candidates }

/-- Drops the candidate of the innermost level; fails if it has to become a key. -/
def dropCandidate (s : Scanner) : Option Scanner :=
  match s.candidates with
  | some k :: outer => if k.required then none else some { s with candidates := none :: outer }
  | _ => some s

/-- Makes what comes next a candidate, where a key may start. -/
def saveCandidate (s : Scanner) : Option Scanner :=
  if s.keyAllowed then do
    let s ← s.dropCandidate
    let required := !s.inFlow && s.indent = s.mark.column
    some { s with
      candidates := some ⟨required, s.tokens.length, s.mark⟩ :: s.candidates.tail }
  else some s

/-! ### Parts of tokens -/

/-- Whether a character can stand in the name of an anchor. -/
def inName (c : Char) : Bool := c.isAlphanum || c = '_' || c = '-'

/-- Whether an anchor or alias may end here. -/
def endsAnchor (cs : List Char) : Bool :=
  endsWord cs || match cs with
    | c :: _ => c ∈ ['?', ':', ',', ']', '}', '%', '@', '\x60']
    | [] => true

/-- Reads the name of an anchor or alias. -/
def readName (cs : List Char) : Option (String × List Char) :=
  let name := cs.takeWhile inName
  let rest := cs.dropWhile inName
  if name.isEmpty || !endsAnchor rest then none else some (String.ofList name, rest)

/-- Whether a character can stand in the address of a tag. -/
def inAddress (verbatim : Bool) (c : Char) : Bool :=
  inName c || c ∈ [';', '/', '?', ':', '@', '&', '=', '+', '$', '.', '%', '!', '~', '*', '\'', '(', ')']
    || (verbatim && c ∈ [',', '[', ']'])

/-- The bytes that percent signs and hexadecimal digits write, and the other characters. -/
def unescapeAddress : List Char → Option (List UInt8)
  | [] => some []
  | '%' :: a :: b :: rest => do
    let high ← hexDigit? a
    let low ← hexDigit? b
    let bytes ← unescapeAddress rest
    some (UInt8.ofNat (16 * high + low) :: bytes)
  | '%' :: _ => none
  | c :: rest => do
    let bytes ← unescapeAddress rest
    some ((String.singleton c).toUTF8.toList ++ bytes)

/-- Reads the address of a tag. -/
def readAddress (verbatim : Bool) (cs : List Char) : Option (String × List Char) := do
  let bytes ← unescapeAddress (cs.takeWhile (inAddress verbatim))
  let text ← String.fromUTF8? ⟨bytes.toArray⟩
  some (text, cs.dropWhile (inAddress verbatim))

/-- Whether a tag may end here. -/
def endsTag (inFlow : Bool) (cs : List Char) : Bool :=
  endsWord cs || (inFlow && match cs with
    | c :: _ => c = ','
    | [] => false)

/-- Reads a tag after its exclamation mark: a whole address in angle brackets, a handle between
exclamation marks with a suffix, or only a suffix. -/
def readTag (cs : List Char) : Option (Token × List Char) :=
  match cs with
  | '<' :: rest => do
    let (address, rest) ← readAddress true rest
    match rest with
    | '>' :: rest => if address.isEmpty then none else some (.tag "" address, rest)
    | _ => none
  | cs =>
    let name := cs.takeWhile inName
    match cs.dropWhile inName with
    | '!' :: rest => do
      let (suffix, rest) ← readAddress false rest
      if suffix.isEmpty then none
      else some (.tag (String.ofList ('!' :: name ++ ['!'])) suffix, rest)
    | _ => do
      let (suffix, rest) ← readAddress false cs
      some (if suffix.isEmpty then .tag "" "!" else .tag "!" suffix, rest)

/-- Reads a whole number of at most nine digits. -/
def readNumber (cs : List Char) : Option (Nat × List Char) :=
  let digits := cs.takeWhile Char.isDigit
  if digits.isEmpty || 9 < digits.length then none
  else some (digits.foldl (fun n d => 10 * n + (d.toNat - 48)) 0, cs.dropWhile Char.isDigit)

/-- Reads the version of a directive. -/
def readVersion (cs : List Char) : Option (Token × List Char) := do
  let (major, rest) ← readNumber (cs.dropWhile isBlank)
  match rest with
  | '.' :: rest =>
    let (minor, rest) ← readNumber rest
    some (.version major minor, rest)
  | _ => none

/-- Reads the handle and the address of a directive for tags. -/
def readShorthand (cs : List Char) : Option (Token × List Char) :=
  match cs.dropWhile isBlank with
  | '!' :: rest => do
    let name := rest.takeWhile inName
    let (handle, rest) ← match rest.dropWhile inName with
      | '!' :: rest => some ('!' :: name ++ ['!'], rest)
      | rest => if name.isEmpty then some (['!'], rest) else none
    match rest with
    | c :: _ =>
      if !isBlank c then none
      else
        let (address, rest) ← readAddress true (rest.dropWhile isBlank)
        if address.isEmpty || !endsWord rest then none
        else some (.tagShorthand (String.ofList handle) address, rest)
    | [] => none
  | _ => none

/-- Reads a directive after its percent sign, with the line break that ends it. -/
def readDirective (cs : List Char) : Option (Token × List Char) := do
  let name := cs.takeWhile inName
  let rest := cs.dropWhile inName
  if name.isEmpty || !endsWord rest then none
  else
    let (t, rest) ← match String.ofList name with
      | "YAML" => readVersion rest
      | "TAG" => readShorthand rest
      | _ => none
    let rest := rest.dropWhile isBlank
    let rest := match rest with
      | '#' :: others => others.dropWhile fun c => !isBreak c
      | rest => rest
    match rest with
    | [] => some (t, [])
    | c :: others => if isBreak c then some (t, others) else none

/-- What comes after blanks, comments and line breaks, and whether a key may start there.  Tabs are
blanks inside brackets and where no key may start. -/
def afterGap (inFlow : Bool) : (keyAllowed comment : Bool) → List Char → List Char × Bool
  | keyAllowed, _, [] => ([], keyAllowed)
  | keyAllowed, comment, c :: rest =>
    if isBreak c then afterGap inFlow (keyAllowed || !inFlow) false rest
    else if comment then afterGap inFlow keyAllowed true rest
    else if c = ' ' || (c = '\t' && (inFlow || !keyAllowed)) then
      afterGap inFlow keyAllowed false rest
    else if c = '#' then afterGap inFlow keyAllowed true rest
    else (c :: rest, keyAllowed)

/-! ### Tokens one by one -/

/-- The end of the text. -/
def atEnd (s : Scanner) : Option Scanner := do
  let s ← (s.unroll (-1)).dropCandidate
  some { s.push .streamEnd with keyAllowed := false }

/-- A directive. -/
def atDirective (s : Scanner) (rest : List Char) : Option Scanner := do
  let s ← (s.unroll (-1)).dropCandidate
  let (t, rest) ← readDirective rest
  some { (s.goTo rest).push t with keyAllowed := false }

/-- The start or the end of a document. -/
def atDocument (s : Scanner) (t : Token) : Option Scanner := do
  let s ← (s.unroll (-1)).dropCandidate
  some { (s.goTo (s.rest.drop 3)).push t with keyAllowed := false }

/-- An opening bracket. -/
def atOpening (s : Scanner) (t : Token) (rest : List Char) : Option Scanner := do
  let s ← s.saveCandidate
  some { (s.goTo rest).push t with candidates := none :: s.candidates, keyAllowed := true }

/-- A closing bracket. -/
def atClosing (s : Scanner) (t : Token) (rest : List Char) : Option Scanner := do
  let s ← s.dropCandidate
  let candidates := if s.inFlow then s.candidates.tail else s.candidates
  some { (s.goTo rest).push t with candidates, keyAllowed := false }

/-- A comma inside brackets. -/
def atComma (s : Scanner) (rest : List Char) : Option Scanner := do
  let s ← s.dropCandidate
  some { (s.goTo rest).push .flowEntry with keyAllowed := true }

/-- The dash of an item. -/
def atDash (s : Scanner) (rest : List Char) : Option Scanner := do
  if !s.inFlow && !s.keyAllowed then none
  else
    let s ← (s.roll s.mark.column s.tokens.length .blockSequence).dropCandidate
    some { (s.goTo rest).push .blockEntry with keyAllowed := true }

/-- The question mark of a key. -/
def atQuestion (s : Scanner) (rest : List Char) : Option Scanner := do
  if !s.inFlow && !s.keyAllowed then none
  else
    let s ← (s.roll s.mark.column s.tokens.length .blockMapping).dropCandidate
    some { (s.goTo rest).push .key with keyAllowed := !s.inFlow }

/-- The colon of a value.  A candidate becomes the key before it. -/
def atColon (s : Scanner) (rest : List Char) : Option Scanner :=
  match s.candidates with
  | some k :: outer =>
    let keyed := (s.insertAt k.number .key).roll k.mark.column k.number .blockMapping
    some { (keyed.goTo rest).push .value with candidates := none :: outer, keyAllowed := false }
  | _ =>
    if !s.inFlow && !s.keyAllowed then none
    else
      let s := s.roll s.mark.column s.tokens.length .blockMapping
      some { (s.goTo rest).push .value with keyAllowed := !s.inFlow }

/-- An anchor or an alias. -/
def atName (s : Scanner) (token : String → Token) (rest : List Char) : Option Scanner := do
  let s ← s.saveCandidate
  let (name, rest) ← readName rest
  some { (s.goTo rest).push (token name) with keyAllowed := false }

/-- A tag. -/
def atTag (s : Scanner) (rest : List Char) : Option Scanner := do
  let s ← s.saveCandidate
  let (t, rest) ← readTag rest
  if endsTag s.inFlow rest then some { (s.goTo rest).push t with keyAllowed := false } else none

/-- A block scalar. -/
def atBlock (s : Scanner) (style : Style) (rest : List Char) : Option Scanner := do
  let s ← s.dropCandidate
  let (text, rest) ← readBlock (style = .literal) s.indent rest
  some { (s.goTo rest).push (.scalar style (String.ofList text)) with keyAllowed := true }

/-- A quoted scalar. -/
def atQuoted (s : Scanner) (style : Style) (read : List Char → Reading) (rest : List Char) :
    Option Scanner := do
  let s ← s.saveCandidate
  let (text, rest) ← read rest
  some { (s.goTo rest).push (.scalar style (String.ofList text)) with keyAllowed := false }

/-- A plain scalar.  A key may start after it where a line break ends it. -/
def atPlain (s : Scanner) : Option Scanner := do
  let s ← s.saveCandidate
  let (text, rest, broken) ← readPlain ⟨s.inFlow, (s.indent + 1).toNat⟩ .none 0 s.rest
  some { (s.goTo rest).push (.scalar .plain (String.ofList text)) with keyAllowed := broken }

/-- Whether a plain scalar can start here. -/
def startsPlain (inFlow : Bool) (c : Char) (rest : List Char) : Bool :=
  let nextBlank := match rest with
    | d :: _ => isBlank d
    | [] => false
  !(isBlank c || isBreak c || c ∈ ['-', '?', ':', ',', '[', ']', '{', '}', '#', '&', '*', '!', '|',
      '>', '\'', '"', '%', '@', '\x60'])
    || (c = '-' && !nextBlank)
    || (!inFlow && (c = '?' || c = ':') && !endsWord rest)

/-- The token that starts here. -/
def atToken (s : Scanner) : Option Scanner :=
  match s.rest with
  | [] => s.atEnd
  | c :: rest =>
    let flow := s.inFlow
    if s.mark.column = 0 && c = '%' then s.atDirective rest
    else if s.mark.column = 0 && isDocumentMark '-' s.rest then s.atDocument .documentStart
    else if s.mark.column = 0 && isDocumentMark '.' s.rest then s.atDocument .documentEnd
    else if c = '[' then s.atOpening .flowSequence rest
    else if c = '{' then s.atOpening .flowMapping rest
    else if c = ']' then s.atClosing .flowSequenceEnd rest
    else if c = '}' then s.atClosing .flowMappingEnd rest
    else if c = ',' then s.atComma rest
    else if c = '-' && endsWord rest then s.atDash rest
    else if c = '?' && (flow || endsWord rest) then s.atQuestion rest
    else if c = ':' && (flow || endsWord rest) then s.atColon rest
    else if c = '*' then s.atName .alias rest
    else if c = '&' then s.atName .anchor rest
    else if c = '!' then s.atTag rest
    else if c = '|' && !flow then s.atBlock .literal rest
    else if c = '>' && !flow then s.atBlock .folded rest
    else if c = '\'' then s.atQuoted .single (readSingle .none false) rest
    else if c = '"' then s.atQuoted .double (readDouble .none false none) rest
    else if startsPlain flow c rest then s.atPlain
    else none

/-- The next token, after the gap before it. -/
def next (s : Scanner) : Option Scanner := do
  let (rest, keyAllowed) := afterGap s.inFlow s.keyAllowed false s.rest
  let s ← { s.goTo rest with keyAllowed }.dropStale
  (s.unroll s.mark.column).atToken

/-- Whether the end was reached. -/
def isDone (s : Scanner) : Bool :=
  match s.tokens with
  | .streamEnd :: _ => true
  | _ => false

/-- How many tokens are settled: those before the first candidate. -/
def settled (s : Scanner) : Nat :=
  s.candidates.foldl (fun least candidate =>
    match candidate with
    | some k => if isStale s.mark k && !k.required then least else min least k.number
    | none => least) s.tokens.length

/-- The tokens from here on, as far as they are settled. -/
def run : Nat → Scanner → List Token
  | 0, s => s.tokens.reverse.take s.settled
  | fuel + 1, s =>
    if s.isDone then s.tokens.reverse
    else match s.next with
      | some s => run fuel s
      | none => s.tokens.reverse.take s.settled

end Scanner

/-- **The tokens of a text**, up to its end or to the first point where it is no YAML.  A text with
a character that no document may hold has none. -/
def tokensOf (text : String) : List Token :=
  let cs := match text.toList with
    | '\uFEFF' :: rest => rest
    | cs => cs
  if cs.all isAllowed then
    let cs := unifyBreaks cs
    Scanner.run (cs.length + 2) (Scanner.start cs)
  else []

end ApiStencil.Yaml
