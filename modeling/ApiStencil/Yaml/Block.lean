import ApiStencil.Yaml.Character

/-!
Block scalars: the lines that are indented below a bar or an angle bracket.  After the bar they are
kept as they are; after the angle bracket line breaks between lines that do not start with a blank
are folded.
-/

namespace ApiStencil.Yaml

/-- What happens to the line breaks at the end of a block scalar. -/
inductive Chomping where
  /-- All are dropped. -/
  | strip
  /-- One is kept. -/
  | clip
  /-- All are kept. -/
  | keep
deriving DecidableEq, Repr

namespace Chomping

/-- The chomping that an indicator asks for. -/
def ofIndicator? : Char → Option Chomping
  | '-' => some .strip
  | '+' => some .keep
  | _ => none

end Chomping

/-- The header of a block scalar. -/
structure BlockHeader where
  chomping : Chomping
  /-- How far the lines are indented, if the header says so. -/
  indentation : Option Nat
deriving DecidableEq, Repr

namespace BlockHeader

/-- Reads the indicators of a header: chomping and indentation, in either order. -/
def readIndicators (cs : List Char) : Option (BlockHeader × List Char) :=
  let digit? (c : Char) : Option (Option Nat) :=
    if c = '0' then none else some (if c.isDigit then some (c.toNat - 48) else none)
  match cs with
  | [] => some (⟨.clip, none⟩, [])
  | c :: rest =>
    match Chomping.ofIndicator? c with
    | some chomping =>
      match rest with
      | [] => some (⟨chomping, none⟩, [])
      | d :: others => do
        match ← digit? d with
        | some n => some (⟨chomping, some n⟩, others)
        | none => some (⟨chomping, none⟩, rest)
    | none => do
      match ← digit? c with
      | none => some (⟨.clip, none⟩, cs)
      | some n =>
        match rest with
        | [] => some (⟨.clip, some n⟩, [])
        | d :: others =>
          match Chomping.ofIndicator? d with
          | some chomping => some (⟨chomping, some n⟩, others)
          | none => some (⟨.clip, some n⟩, rest)

/-- Reads a header with the line break that ends it.  A comment may come in between. -/
def read (cs : List Char) : Option (BlockHeader × List Char) := do
  let (header, rest) ← readIndicators cs
  let rest := rest.dropWhile isBlank
  let rest := match rest with
    | '#' :: others => others.dropWhile fun c => !isBreak c
    | rest => rest
  match rest with
  | [] => some (header, [])
  | c :: others => if isBreak c then some (header, others) else none

end BlockHeader

/-- The empty lines and the indentation that come next. -/
structure Margin where
  /-- The line breaks of the empty lines. -/
  breaks : List Char
  /-- The column of the next character. -/
  column : Nat
  /-- The greatest column that was reached. -/
  widest : Nat
deriving DecidableEq, Repr

/-- Reads empty lines and indentation, up to a column if the indentation is known.  A tab cannot
indent. -/
def Margin.read (limit : Option Nat) (column widest : Nat) :
    List Char → Option (Margin × List Char)
  | [] => some (⟨[], column, max widest column⟩, [])
  | c :: rest =>
    let inside := match limit with
      | some limit => column < limit
      | none => true
    if c = ' ' && inside then Margin.read limit (column + 1) widest rest
    else if c = '\t' && inside then none
    else if isBreak c then
      (Margin.read limit 0 (max widest column) rest).map fun (margin, rest) =>
        ({ margin with breaks := c :: margin.breaks }, rest)
    else some (⟨[], column, max widest column⟩, c :: rest)

/-- What comes before the next line of a block scalar. -/
structure BlockState where
  /-- The line break of the last line. -/
  lead : List Char
  /-- The line breaks of the empty lines after it. -/
  trail : List Char
  /-- Whether the last line starts with a blank. -/
  indented : Bool
deriving DecidableEq, Repr

namespace BlockState

/-- The text between the last line and the next one. -/
def join (literal : Bool) (state : BlockState) (nextIndented : Bool) : List Char :=
  if !literal && state.lead = ['\n'] && !state.indented && !nextIndented then
    if state.trail.isEmpty then [' '] else state.trail
  else state.lead ++ state.trail

/-- The text after the last line. -/
def tail (chomping : Chomping) (state : BlockState) : List Char :=
  match chomping with
  | .strip => []
  | .clip => state.lead
  | .keep => state.lead ++ state.trail

end BlockState

/-- Reads the lines of a block scalar that are indented to a column. -/
def readLines (literal : Bool) (chomping : Chomping) (indentation : Nat) :
    Nat → BlockState → Nat → List Char → Option (List Char × List Char)
  | 0, state, _, cs => some (state.tail chomping, cs)
  | _ + 1, state, _, [] => some (state.tail chomping, [])
  | fuel + 1, state, column, c :: rest => do
    if column ≠ indentation then some (state.tail chomping, c :: rest)
    else
      let line := (c :: rest).takeWhile fun c => !isBreak c
      let after := (c :: rest).dropWhile fun c => !isBreak c
      let (margin, rest) ← Margin.read (some indentation) 0 0 after.tail
      let next : BlockState := ⟨after.take 1, margin.breaks, isBlank c⟩
      let (text, rest) ← readLines literal chomping indentation fuel next margin.column rest
      some (state.join literal (isBlank c) ++ line ++ text, rest)

/-- Reads a block scalar after its bar or angle bracket.  Its lines are indented below `parent`, the
column of the collection around it. -/
def readBlock (literal : Bool) (parent : Int) (cs : List Char) : Option (List Char × List Char) := do
  let (header, rest) ← BlockHeader.read cs
  let known := header.indentation.map fun n => n + parent.toNat
  let (margin, rest) ← Margin.read known 0 0 rest
  let indentation := known.getD (max margin.widest (max (parent + 1).toNat 1))
  readLines literal header.chomping indentation (rest.length + 1) ⟨[], margin.breaks, false⟩
    margin.column rest

end ApiStencil.Yaml
