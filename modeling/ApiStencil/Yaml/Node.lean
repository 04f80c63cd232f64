import ApiStencil.Yaml.Token

/-!
YAML documents as trees of nodes.  Aliases are replaced by the nodes that they stand for.  A text
that is no YAML from some point on still gives the part of the tree before that point, where a
collection that does not end is not closed and what comes next is missing.

Main definition: `Document.ofText`, the first document of a text.
-/

namespace ApiStencil.Yaml

/-- A node of a document. -/
inductive Node where
  | scalar (tag : Option String) (style : Style) (text : String)
  | sequence (tag : Option String) (items : List Node) (closed : Bool)
  | mapping (tag : Option String) (entries : List (Node × Node)) (closed : Bool)
  /-- An alias for a node that it stands in itself. -/
  | looped
  /-- Nothing, because the text is no YAML here. -/
  | missing

namespace Node

/-- The node that stands where nothing is written. -/
def blank : Node := .scalar none .plain ""

/-- The nodes that aliases stand for; those that have not ended yet stand for nothing. -/
abbrev Anchors := List (String × Option Node)

/-- The handles of tags and what they are short for. -/
abbrev Shorthands := List (String × String)

/-- What is left to read. -/
abbrev Rest := Option (List Token × Anchors)

/-- The anchor and the tag in front of a node. -/
structure Properties where
  anchor : Option String
  tag : Option (String × String)

/-- Reads the anchor and the tag in front of a node, in either order. -/
def Properties.read : List Token → Properties × List Token
  | .anchor name :: .tag handle suffix :: rest => (⟨some name, some (handle, suffix)⟩, rest)
  | .anchor name :: rest => (⟨some name, none⟩, rest)
  | .tag handle suffix :: .anchor name :: rest => (⟨some name, some (handle, suffix)⟩, rest)
  | .tag handle suffix :: rest => (⟨none, some (handle, suffix)⟩, rest)
  | tokens => (⟨none, none⟩, tokens)

/-- A tag in full; fails if its handle is not known. -/
def fullTag (shorthands : Shorthands) : Option (String × String) → Option (Option String)
  | none => some none
  | some (handle, suffix) =>
    if handle.isEmpty then some (some suffix)
    else (shorthands.lookup handle).map fun full => some (full ++ suffix)

/-- The tag of a scalar: a lone exclamation mark is no tag. -/
def scalarTag (tag : Option String) : Option String := tag.filter (· != "!")

/-- Whether a value in a block mapping or an item in a block sequence is left out. -/
def leftOut (inItems : Bool) : List Token → Bool
  | .blockEnd :: _ => true
  | .blockEntry :: _ => inItems
  | .key :: _ | .value :: _ => !inItems
  | _ => false

/-- Whether an item of a sequence that is not indented is left out. -/
def leftOutUnindented : List Token → Bool
  | .blockEntry :: _ | .key :: _ | .value :: _ | .blockEnd :: _ => true
  | _ => false

/-- Whether a key or a value inside brackets is left out. -/
def leftOutFlow (closing : Token) : List Token → Bool
  | .flowEntry :: _ => true
  | t :: _ => t = closing
  | [] => false

section Reading

variable (shorthands : Shorthands)

mutual

/-- Reads a node.  `block` says whether it can be a block collection, and `unindented` whether it
can be a sequence that is not indented. -/
def read (block unindented : Bool) : Nat → List Token → Anchors → Node × Rest
  | 0, _, _ => (.missing, none)
  | fuel + 1, tokens, anchors =>
    match tokens with
    | .alias name :: rest =>
      match anchors.lookup name with
      | some (some node) => (node, some (rest, anchors))
      | some none => (.looped, some (rest, anchors))
      | none => (.missing, none)
    | tokens =>
      let (properties, rest) := Properties.read tokens
      match fullTag shorthands properties.tag with
      | none => (.missing, none)
      | some tag =>
        let inside : Anchors := match properties.anchor with
          | some name => (name, none) :: anchors
          | none => anchors
        let (node, after) := readContent block unindented tag properties fuel rest inside
        match properties.anchor, after with
        | some name, some (rest, anchors) => (node, some (rest, (name, some node) :: anchors))
        | _, after => (node, after)

/-- Reads a node after its properties. -/
def readContent (block unindented : Bool) (tag : Option String) (properties : Properties) :
    Nat → List Token → Anchors → Node × Rest
  | 0, _, _ => (.missing, none)
  | fuel + 1, tokens, anchors =>
    let sequence (read : List Node × Rest) : Node × Rest :=
      (.sequence tag read.1 read.2.isSome, read.2)
    let mapping (read : List (Node × Node) × Rest) : Node × Rest :=
      (.mapping tag read.1 read.2.isSome, read.2)
    let otherwise : Node × Rest :=
      if tokens.isEmpty || (properties.anchor.isNone && properties.tag.isNone) then (.missing, none)
      else (.scalar (scalarTag tag) .plain "", some (tokens, anchors))
    match tokens with
    | .scalar style text :: rest => (.scalar (scalarTag tag) style text, some (rest, anchors))
    | .flowSequence :: rest => sequence (readFlowItems true fuel rest anchors)
    | .flowMapping :: rest => mapping (readFlowEntries true fuel rest anchors)
    | .blockEntry :: _ =>
      if unindented then sequence (readUnindentedItems fuel tokens anchors) else otherwise
    | .blockSequence :: rest =>
      if block then sequence (readItems fuel rest anchors) else otherwise
    | .blockMapping :: rest =>
      if block then mapping (readEntries fuel rest anchors) else otherwise
    | _ => otherwise

/-- Reads the items of a block sequence. -/
def readItems : Nat → List Token → Anchors → List Node × Rest
  | 0, _, _ => ([], none)
  | fuel + 1, tokens, anchors =>
    match tokens with
    | .blockEnd :: rest => ([], some (rest, anchors))
    | .blockEntry :: rest =>
      let (item, after) : Node × Rest := if leftOut true rest then (blank, some (rest, anchors))
        else read true false fuel rest anchors
      match after with
      | none => ([item], none)
      | some (rest, anchors) =>
        let (items, after) := readItems fuel rest anchors
        (item :: items, after)
    | _ => ([], none)

/-- Reads the items of a block sequence that is not indented. -/
def readUnindentedItems : Nat → List Token → Anchors → List Node × Rest
  | 0, _, _ => ([], none)
  | fuel + 1, tokens, anchors =>
    match tokens with
    | [] => ([], none)
    | .blockEntry :: rest =>
      let (item, after) : Node × Rest := if leftOutUnindented rest then (blank, some (rest, anchors))
        else read true false fuel rest anchors
      match after with
      | none => ([item], none)
      | some (rest, anchors) =>
        let (items, after) := readUnindentedItems fuel rest anchors
        (item :: items, after)
    | tokens => ([], some (tokens, anchors))

/-- Reads the entries of a block mapping. -/
def readEntries : Nat → List Token → Anchors → List (Node × Node) × Rest
  | 0, _, _ => ([], none)
  | fuel + 1, tokens, anchors =>
    match tokens with
    | .blockEnd :: rest => ([], some (rest, anchors))
    | .key :: rest =>
      let (key, after) : Node × Rest := if leftOut false rest then (blank, some (rest, anchors))
        else read true true fuel rest anchors
      match after with
      | none => ([(key, .missing)], none)
      | some (tokens, anchors) =>
        let (value, after) : Node × Rest := match tokens with
          | [] => (.missing, none)
          | .value :: rest => if leftOut false rest then (blank, some (rest, anchors))
            else read true true fuel rest anchors
          | tokens => (blank, some (tokens, anchors))
        match after with
        | none => ([(key, value)], none)
        | some (rest, anchors) =>
          let (entries, after) := readEntries fuel rest anchors
          ((key, value) :: entries, after)
    | _ => ([], none)

/-- Reads the items of a sequence in brackets.  An item can be a single entry of a mapping. -/
def readFlowItems (isFirst : Bool) : Nat → List Token → Anchors → List Node × Rest
  | 0, _, _ => ([], none)
  | fuel + 1, tokens, anchors =>
    let start := match isFirst, tokens with
      | true, tokens => some tokens
      | false, .flowEntry :: rest => some rest
      | false, .flowSequenceEnd :: _ => some tokens
      | false, _ => none
    match start with
    | none => ([], none)
    | some (.flowSequenceEnd :: rest) => ([], some (rest, anchors))
    | some (.key :: rest) =>
      let (key, after) : Node × Rest := if leftOutFlow .flowSequenceEnd rest || leftOutFlow .value rest then
          (blank, some (rest.tail, anchors))
        else read false false fuel rest anchors
      let (value, after) : Node × Rest := match after with
        | none => (.missing, none)
        | some ([], _) => (.missing, none)
        | some (.value :: rest, anchors) =>
          if leftOutFlow .flowSequenceEnd rest then (blank, some (rest, anchors))
          else read false false fuel rest anchors
        | some (tokens, anchors) => (blank, some (tokens, anchors))
      let item := Node.mapping none [(key, value)] after.isSome
      match after with
      | none => ([item], none)
      | some (rest, anchors) =>
        let (items, after) := readFlowItems false fuel rest anchors
        (item :: items, after)
    | some tokens =>
      let (item, after) := read false false fuel tokens anchors
      match after with
      | none => ([item], none)
      | some (rest, anchors) =>
        let (items, after) := readFlowItems false fuel rest anchors
        (item :: items, after)

/-- Reads the entries of a mapping in braces.  A node without a colon is a key without a value. -/
def readFlowEntries (isFirst : Bool) : Nat → List Token → Anchors → List (Node × Node) × Rest
  | 0, _, _ => ([], none)
  | fuel + 1, tokens, anchors =>
    let start := match isFirst, tokens with
      | true, tokens => some tokens
      | false, .flowEntry :: rest => some rest
      | false, .flowMappingEnd :: _ => some tokens
      | false, _ => none
    match start with
    | none => ([], none)
    | some (.flowMappingEnd :: rest) => ([], some (rest, anchors))
    | some (.key :: rest) =>
      let (key, after) : Node × Rest := if leftOutFlow .flowMappingEnd rest || leftOutFlow .value rest then
          (blank, some (rest, anchors))
        else read false false fuel rest anchors
      let (value, after) : Node × Rest := match after with
        | none => (.missing, none)
        | some ([], _) => (.missing, none)
        | some (.value :: rest, anchors) =>
          if leftOutFlow .flowMappingEnd rest then (blank, some (rest, anchors))
          else read false false fuel rest anchors
        | some (tokens, anchors) => (blank, some (tokens, anchors))
      match after with
      | none => ([(key, value)], none)
      | some (rest, anchors) =>
        let (entries, after) := readFlowEntries false fuel rest anchors
        ((key, value) :: entries, after)
    | some tokens =>
      let (key, after) := read false false fuel tokens anchors
      match after with
      | none => ([(key, .missing)], none)
      | some (rest, anchors) =>
        let (entries, after) := readFlowEntries false fuel rest anchors
        ((key, blank) :: entries, after)

end

end Reading

/-! ### Trees -/

mutual

/-- Whether nothing is missing in a node. -/
def isWhole : Node → Bool
  | .scalar _ _ _ | .looped => true
  | .sequence _ items closed => areWhole items && closed
  | .mapping _ entries closed => entriesAreWhole entries && closed
  | .missing => false

/-- Whether nothing is missing in a list of nodes. -/
def areWhole : List Node → Bool
  | [] => true
  | node :: rest => isWhole node && areWhole rest

/-- Whether nothing is missing in a list of entries. -/
def entriesAreWhole : List (Node × Node) → Bool
  | [] => true
  | (key, value) :: rest => isWhole key && isWhole value && entriesAreWhole rest

end

end Node

/-! ### Documents -/

/-- The first document of a text. -/
structure Document where
  /-- Its root, if there is a document. -/
  root : Option Node
  /-- Whether the text is that document and nothing else. -/
  complete : Bool

namespace Document

/-- The handles of tags that every document knows. -/
def shorthands : Node.Shorthands := [("!", "!"), ("!!", "tag:yaml.org,2002:")]

/-- Reads the directives of a document and the mark of its start.  Each directive comes once. -/
def readDirectives (versioned : Bool) (known : Node.Shorthands) :
    List Token → Option (Node.Shorthands × List Token)
  | .version major minor :: rest =>
    if versioned || major ≠ 1 || (minor ≠ 1 && minor ≠ 2) then none
    else readDirectives true known rest
  | .tagShorthand handle full :: rest =>
    if (known.lookup handle).isSome then none
    else readDirectives versioned ((handle, full) :: known) rest
  | .documentStart :: rest => some (known ++ shorthands, rest)
  | _ => none

/-- Whether a document has no content here. -/
def isBare : List Token → Bool
  | .version _ _ :: _ | .tagShorthand _ _ :: _ | .documentStart :: _ | .documentEnd :: _
  | .streamEnd :: _ => true
  | _ => false

/-- Whether a document starts here with directives or with the mark of its start. -/
def isExplicit : List Token → Bool
  | .version _ _ :: _ | .tagShorthand _ _ :: _ | .documentStart :: _ => true
  | _ => false

/-- Whether nothing but ends comes. -/
def isOver : List Token → Bool
  | .documentEnd :: rest => isOver rest
  | [.streamEnd] => true
  | _ => false

/-- The document with the root that is read from tokens. -/
def ofContent (known : Node.Shorthands) (tokens : List Token) : Document :=
  let (root, after) := Node.read known true false (4 * tokens.length + 4) tokens []
  ⟨some root, match after with
    | some (rest, _) => isOver rest
    | none => false⟩

/-- The first document that tokens make. -/
def ofTokens (tokens : List Token) : Document :=
  if tokens = [.streamEnd] then ⟨none, true⟩
  else if isExplicit tokens then
    match readDirectives false [] tokens with
    | none => ⟨some .missing, false⟩
    | some (known, rest) =>
      if isBare rest then ⟨some .blank, isOver rest⟩ else ofContent known rest
  else ofContent shorthands tokens

/-- **The first document of a text.** -/
def ofText (text : String) : Document := ofTokens (tokensOf text)

end Document

end ApiStencil.Yaml
