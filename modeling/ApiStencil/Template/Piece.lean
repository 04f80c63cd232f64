import ApiStencil.Template.Reading
import ApiStencil.Text.Blank

/-!
A template as a row of pieces: stretches of text and the tags between them.  A minus sign inside
the delimiter of a tag takes the white space off the text on that side, except beside and inside
what a loop shows when it has no items.
-/

namespace ApiStencil.Template

open Reading

/-- A tag. -/
inductive Tag where
  | output (e : Expr)
  | comment
  /-- Text that is not looked into, and the ends from which white space comes off. -/
  | raw (trimFront : Bool) (stretch : List Char) (trimBack : Bool)
  | assign (isGlobal : Bool) (name : String) (e : Expr)
  | embed (name : String)
  | openBranch (condition : Expr)
  | nextArm (condition : Expr)
  | otherwise
  | closeBranch
  | openLoop (head : LoopHead)
  | closeLoop
  | openFilter (call : Call)
  | closeFilter

/-- A piece of a template: text, or a tag and the sides on which it takes off white space. -/
inductive Piece where
  | text (stretch : List Char)
  | tag (before : Bool) (tag : Tag) (after : Bool)

namespace Piece

/-! ### Tags -/

/-- Reads the end of a tag: its two closing characters, maybe with a minus sign before them. -/
def ending (closing : Char) : Reader Bool := fun cs =>
  match skipSpace cs with
  | '-' :: c :: '\x7d' :: rest => if c = closing then some (true, rest) else none
  | c :: '\x7d' :: rest => if c = closing then some (false, rest) else none
  | _ => none

/-- Reads a minus sign if there is one. -/
def minus : List Char → Bool × List Char
  | '-' :: rest => (true, rest)
  | cs => (false, cs)

/-- Reads an assignment after its keyword. -/
def assignment (isGlobal : Bool) : Reader Tag := fun cs => do
  let (n, rest) ← spacedName cs
  let rest ← word? "=" rest
  let (e, rest) ← value rest
  some (.assign isGlobal n e, rest)

/-- Reads the head of a loop after its keyword. -/
def loopHead : Reader LoopHead := fun cs => do
  let (first, rest) ← spacedName cs
  let (second, rest) ← match word? "," rest with
    | some rest => (spacedName rest).map fun (n, rest) => (some n, rest)
    | none => some (none, rest)
  let rest ← word? "in" rest
  let (e, rest) ← container rest
  some (match second with
    | some v => ⟨some first, v, e⟩
    | none => ⟨none, first, e⟩, rest)

/-- Reads what stands between the delimiters of a block tag; raw text is read elsewhere. -/
def blockBodies : List (Reader Tag) := [
  fun cs => word? "include" cs >>= fun rest => do
    let (n, rest) ← Reading.text (skipSpace rest)
    some (.embed n, rest),
  fun cs => word? "set_global" cs >>= assignment true,
  fun cs => word? "set" cs >>= assignment false,
  fun cs => word? "if" cs >>= fun rest => do
    let (e, rest) ← condition rest
    some (.openBranch e, rest),
  fun cs => word? "elif" cs >>= fun rest => do
    let (e, rest) ← condition rest
    some (.nextArm e, rest),
  fun cs => (word? "else" cs).map (.otherwise, ·),
  fun cs => (word? "endif" cs).map (.closeBranch, ·),
  fun cs => word? "for" cs >>= fun rest => do
    let (h, rest) ← loopHead rest
    some (.openLoop h, rest),
  fun cs => (word? "endfor" cs).map (.closeLoop, ·),
  fun cs => word? "filter" cs >>= fun rest => do
    let (c, rest) ← pipe rest
    some (.openFilter c, rest),
  fun cs => (word? "endfilter" cs).map (.closeFilter, ·)]

/-- Reads a block tag after its opening delimiter, with its end. -/
def block : Reader (Tag × Bool) := fun cs =>
  blockBodies.findSome? fun body => do
    let (t, rest) ← body cs
    let (after, rest) ← ending '%' rest
    some ((t, after), rest)

/-- Reads a block tag that only has a keyword, from its opening delimiter on: the sides on which it
takes off white space. -/
def bare (keyword : String) : Reader (Bool × Bool) := fun cs =>
  match cs with
  | '\x7b' :: '%' :: rest => do
    let (before, rest) := minus rest
    let rest ← word? keyword rest
    let (after, rest) ← ending '%' rest
    some ((before, after), rest)
  | _ => none

/-- Reads raw text up to the tag that ends it: the text, whether white space comes off its end, and
whether it comes off the text after the tag. -/
def rawText : Reader (List Char × Bool × Bool) := fun cs =>
  match bare "endraw" cs, cs with
  | some (sides, rest), _ => some (([], sides), rest)
  | none, c :: tail => do
    let ((body, sides), rest) ← rawText tail
    some ((c :: body, sides), rest)
  | none, [] => none

/-- Reads a comment up to its end: whether white space comes off the text after it. -/
def commentText : Reader Bool
  | '-' :: '#' :: '\x7d' :: rest => some (true, rest)
  | '#' :: '\x7d' :: rest => some (false, rest)
  | _ :: rest => commentText rest
  | [] => none

/-- Reads raw text with its tags. -/
def raw : Reader Piece := fun cs => do
  let ((before, trimFront), rest) ← bare "raw" cs
  let ((body, trimBack, after), rest) ← rawText rest
  some (.tag before (.raw trimFront body trimBack) after, rest)

/-- Reads a tag from its opening delimiter on. -/
def tagPiece : Reader Piece := fun cs =>
  match cs with
  | '\x7b' :: '\x7b' :: rest => do
    let (before, rest) := minus rest
    let (e, rest) ← value rest
    let (after, rest) ← ending '\x7d' rest
    some (.tag before (.output e) after, rest)
  | '\x7b' :: '#' :: rest => do
    let (before, rest) := minus rest
    let (after, rest) ← commentText rest
    some (.tag before .comment after, rest)
  | '\x7b' :: '%' :: rest =>
    raw cs <|> do
      let (before, rest) := minus rest
      let ((t, after), rest) ← block rest
      some (.tag before t after, rest)
  | _ => none

/-- Whether a tag opens here. -/
def opensTag : List Char → Bool
  | '\x7b' :: c :: _ => c = '\x7b' || c = '%' || c = '#'
  | _ => false

/-- Splits the text up to the next tag off the front. -/
def plainText : List Char → List Char × List Char
  | [] => ([], [])
  | c :: cs =>
    if opensTag (c :: cs) then ([], c :: cs)
    else
      let (more, rest) := plainText cs
      (c :: more, rest)

/-- The pieces of a template; nothing if one of its tags cannot be read. -/
def pieces : Nat → List Char → Option (List Piece)
  | _, [] => some []
  | 0, _ => none
  | fuel + 1, cs =>
    match plainText cs with
    | ([], _) => do
      let (piece, rest) ← tagPiece cs
      let more ← pieces fuel rest
      some (piece :: more)
    | (stretch, rest) => do
      let more ← pieces fuel rest
      some (.text stretch :: more)

/-! ### White space -/

/-- A text with the white space taken off its front, its end or both. -/
def stripped (front back : Bool) (stretch : List Char) : List Char :=
  let stretch := if front then Text.trimStart stretch else stretch
  if back then Text.trimEnd stretch else stretch

/-- Whether the tag that closes a loop takes white space off the text before it; the number says
how many loops inside of it are open. -/
def loopEndTrims : Nat → List Piece → Bool
  | depth, .tag _ (.openLoop _) _ :: rest => loopEndTrims (depth + 1) rest
  | 0, .tag before .closeLoop _ :: _ => before
  | depth + 1, .tag _ .closeLoop _ :: rest => loopEndTrims depth rest
  | depth, _ :: rest => loopEndTrims depth rest
  | _, [] => false

/-- What an alternative can belong to. -/
inductive Enclosure where
  | branch
  | loop
deriving DecidableEq

/-- Whether white space comes off the text before the first piece.  The body of a loop ends for
this with the tag that closes the loop, even where an alternative comes in between. -/
def trimsBefore (enclosures : List Enclosure) : List Piece → Bool
  | .tag before .otherwise _ :: rest =>
    if enclosures.head? = some .loop then loopEndTrims 0 rest else before
  | .tag before _ _ :: _ => before
  | _ => false

/-- What is open after a tag. -/
def enclosuresAfter (enclosures : List Enclosure) : Tag → List Enclosure
  | .openLoop _ => .loop :: enclosures
  | .openBranch _ => .branch :: enclosures
  | .closeLoop | .closeBranch => enclosures.tail
  | _ => enclosures

/-- Takes white space off the texts beside tags that ask for it; `front` says whether the tag
before the first piece does.  In what a loop shows when it has no items all white space stays;
there, the number says how many loops inside of it are open. -/
def trimmed : Option Nat → List Enclosure → Bool → List Piece → List Piece
  | _, _, _, [] => []
  | none, enclosures, front, .text stretch :: rest =>
    .text (stripped front (trimsBefore enclosures rest) stretch)
      :: trimmed none enclosures false rest
  | none, enclosures, _, .tag before t after :: rest =>
    match t with
    | .raw trimFront stretch trimBack =>
      .tag before (.raw false (stripped trimFront trimBack stretch) false) after
        :: trimmed none enclosures after rest
    | .otherwise =>
      .tag before t after
        :: trimmed (if enclosures.head? = some .loop then some 0 else none) enclosures after rest
    | t => .tag before t after :: trimmed none (enclosuresAfter enclosures t) after rest
  | some inner, enclosures, _, piece :: rest =>
    match piece, inner with
    | .tag _ .closeLoop after, 0 => piece :: trimmed none enclosures.tail after rest
    | .tag _ .closeLoop _, inner + 1 => piece :: trimmed (some inner) enclosures false rest
    | .tag _ (.openLoop _) _, inner => piece :: trimmed (some (inner + 1)) enclosures false rest
    | _, inner => piece :: trimmed (some inner) enclosures false rest

end Piece

/-! ### From pieces to nodes -/

namespace Node

mutual

/-- The nodes up to the next tag that closes or continues what they stand in, and the pieces from
that tag on. -/
def ofPieces : Nat → List Piece → Option (List Node × List Piece)
  | _, [] => some ([], [])
  | 0, _ => none
  | fuel + 1, piece :: rest =>
    let leaf (node : Node) : Option (List Node × List Piece) := do
      let (nodes, rest) ← ofPieces fuel rest
      some (node :: nodes, rest)
    match piece with
    | .text stretch => leaf (.text (String.ofList stretch))
    | .tag _ t _ =>
      match t with
      | .output e => leaf (.output e)
      | .comment => ofPieces fuel rest
      | .raw _ stretch _ => leaf (.text (String.ofList stretch))
      | .assign isGlobal n e => leaf (.assign isGlobal n e)
      | .embed n => leaf (.embed n)
      | .openBranch e => do
        let ((arms, otherwise), rest) ← armsOfPieces fuel e rest
        let (nodes, rest) ← ofPieces fuel rest
        some (.branch arms otherwise :: nodes, rest)
      | .openLoop head => do
        let (body, rest) ← ofPieces fuel rest
        let (whenEmpty, rest) ← match rest with
          | .tag _ .otherwise _ :: rest => ofPieces fuel rest
          | rest => some ([], rest)
        match rest with
        | .tag _ .closeLoop _ :: rest => do
          let (nodes, rest) ← ofPieces fuel rest
          some (.loop head body whenEmpty :: nodes, rest)
        | _ => none
      | .openFilter call => do
        let (body, rest) ← ofPieces fuel rest
        match rest with
        | .tag _ .closeFilter _ :: rest => do
          let (nodes, rest) ← ofPieces fuel rest
          some (.filtered call body :: nodes, rest)
        | _ => none
      | _ => some ([], piece :: rest)

/-- The arms of a branch from the body of its first condition on, and the body for when no
condition holds. -/
def armsOfPieces : Nat → Expr → List Piece →
    Option ((List (Expr × List Node) × List Node) × List Piece)
  | 0, _, _ => none
  | fuel + 1, condition, pieces => do
    let (body, rest) ← ofPieces fuel pieces
    match rest with
    | .tag _ .closeBranch _ :: rest => some (([(condition, body)], []), rest)
    | .tag _ (.nextArm next) _ :: rest => do
      let ((arms, otherwise), rest) ← armsOfPieces fuel next rest
      some (((condition, body) :: arms, otherwise), rest)
    | .tag _ .otherwise _ :: rest => do
      let (otherwise, rest) ← ofPieces fuel rest
      match rest with
      | .tag _ .closeBranch _ :: rest => some (([(condition, body)], otherwise), rest)
      | _ => none
    | _ => none

end

end Node

end ApiStencil.Template

namespace ApiStencil

open Template

/-- **Reads a template**; nothing if a tag cannot be read, as are those of the language that have no
tree, or is not closed, or closes nothing. -/
def Template.ofSource? (source : String) : Option Template := do
  let cs := source.toList
  let pieces ← Piece.pieces (cs.length + 1) cs
  let (nodes, rest) ← Node.ofPieces (2 * pieces.length + 2) (Piece.trimmed none [] false pieces)
  if rest.isEmpty then some ⟨nodes⟩ else none

end ApiStencil
