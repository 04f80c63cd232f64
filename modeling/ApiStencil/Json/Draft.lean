import ApiStencil.Json.Value

/-!
JSON text as far as it can be read.  A `Draft` keeps the members of an object in the order of the
text, repeated keys included, and marks the place where a text stops being JSON, so that a record
can be decoded member by member and the first problem of the text wins, be it one of shape or one
of form.

A number beyond binary64 and a string with half of a surrogate pair are well formed but stand for
nothing (`Draft.unreadable`): where the value is not looked at, they do no harm.
-/

namespace ApiStencil.Json

/-- A JSON text as far as it can be read. -/
inductive Draft where
  | null
  | bool (b : Bool)
  | num (n : Number)
  | str (s : String)
  /-- An array; not closed when the text is no JSON after the last item or inside it. -/
  | arr (items : List Draft) (closed : Bool)
  /-- An object; not closed when the text is no JSON after the last member or inside it. -/
  | obj (members : List (String × Draft)) (closed : Bool)
  /-- A number or a string that stands for nothing. -/
  | unreadable
  /-- No JSON value starts here. -/
  | broken

namespace Draft

/-! ### Reading a text -/

/-- The blanks of JSON text. -/
def isSpace (c : Char) : Bool := c = ' ' || c = '\n' || c = '\t' || c = '\r'

/-- The text without the blanks in front. -/
def skipSpace (cs : List Char) : List Char := cs.dropWhile isSpace

/-- The value of a hexadecimal digit. -/
def hexValue? (c : Char) : Option Nat :=
  if c.isDigit then some (c.toNat - 48)
  else if 'a' ≤ c ∧ c ≤ 'f' then some (c.toNat - 87)
  else if 'A' ≤ c ∧ c ≤ 'F' then some (c.toNat - 55)
  else none

/-- Four hexadecimal digits and the text after them. -/
def hexUnit? : List Char → Option (Nat × List Char)
  | a :: b :: c :: d :: rest => do
    let w ← hexValue? a
    let x ← hexValue? b
    let y ← hexValue? c
    let z ← hexValue? d
    some (((w * 16 + x) * 16 + y) * 16 + z, rest)
  | _ => none

/-- The character of a one-letter escape. -/
def shortEscape? : Char → Option Char
  | '"' => some '"'
  | '\\' => some '\\'
  | '/' => some '/'
  | 'b' => some '\x08'
  | 'f' => some '\x0c'
  | 'n' => some '\n'
  | 'r' => some '\r'
  | 't' => some '\t'
  | _ => none

/-- A stretch of string text that was read: its characters, if it stands for any. -/
abbrev Stretch := Option (List Char)

/-- Puts a character before a stretch. -/
def Stretch.cons (c : Char) (s : Stretch) : Stretch := s.map (c :: ·)

/-- Reads a string up to its closing quote.  The characters are missing when an escape stands for
half of a surrogate pair; there is no result when the text is no JSON string. -/
def readString : Nat → List Char → Option (Stretch × List Char)
  | 0, _ => none
  | fuel + 1, cs =>
    match cs with
    | '"' :: rest => some (some [], rest)
    | '\\' :: 'u' :: rest => do
      let (unit, after) ← hexUnit? rest
      if unit < 0xD800 ∨ 0xE000 ≤ unit then
        let (text, rest) ← readString fuel after
        some (Stretch.cons (Char.ofNat unit) text, rest)
      else if unit < 0xDC00 then
        match after with
        | '\\' :: 'u' :: next => do
          let (low, after) ← hexUnit? next
          let (text, rest) ← readString fuel after
          if 0xDC00 ≤ low ∧ low < 0xE000 then
            let code := 0x10000 + (unit - 0xD800) * 0x400 + (low - 0xDC00)
            some (Stretch.cons (Char.ofNat code) text, rest)
          else some (none, rest)
        | _ => do
          let (_, rest) ← readString fuel after
          some (none, rest)
      else do
        let (_, rest) ← readString fuel after
        some (none, rest)
    | '\\' :: c :: rest => do
      let e ← shortEscape? c
      let (text, rest) ← readString fuel rest
      some (Stretch.cons e text, rest)
    | '\\' :: [] => none
    | c :: rest =>
      if c.toNat < 0x20 then none
      else do
        let (text, rest) ← readString fuel rest
        some (Stretch.cons c text, rest)
    | [] => none

/-- Splits the digits off the front of a text. -/
def digits (cs : List Char) : List Char × List Char :=
  (cs.takeWhile Char.isDigit, cs.dropWhile Char.isDigit)

/-- Reads the places of a number: nothing, or a point and at least one digit. -/
def readPlaces? : List Char → Option (Option (List Char) × List Char)
  | '.' :: rest =>
    let (places, rest) := digits rest
    if places.isEmpty then none else some (some places, rest)
  | cs => some (none, cs)

/-- Reads the exponent of a number: nothing, or `e` with an optional sign and at least one digit. -/
def readExponent? : List Char → Option (Option Int × List Char)
  | c :: rest =>
    if c = 'e' ∨ c = 'E' then
      let (negative, rest) := Literal.splitSign rest
      let (places, rest) := digits rest
      if places.isEmpty then none
      else
        let n : Int := Literal.digitsValue places
        some (some (if negative then -n else n), rest)
    else some (none, c :: rest)
  | [] => some (none, [])

/-- Reads a number: an optional minus sign, one zero or digits that start with none, optional
places, an optional exponent. -/
def readNumber? (cs : List Char) : Option (Number.Parts × List Char) := do
  let (negative, cs) := match cs with
    | '-' :: rest => (true, rest)
    | cs => (false, cs)
  let (whole, rest) := digits cs
  match whole with
  | [] => none
  | '0' :: _ :: _ => none
  | _ => pure ()
  let (places, rest) ← readPlaces? rest
  let (exponent, rest) ← readExponent? rest
  some (⟨negative, whole, places, exponent⟩, rest)

/-- Drops a word off the front of a text. -/
def dropWord? : List Char → List Char → Option (List Char)
  | [], cs => some cs
  | w :: ws, c :: cs => if w = c then dropWord? ws cs else none
  | _ :: _, [] => none

/-- A word of the language, or a broken value. -/
def readWord (word : String) (draft : Draft) (cs : List Char) : Draft × Option (List Char) :=
  match dropWord? word.toList cs with
  | some rest => (draft, some rest)
  | none => (.broken, none)

mutual

/-- Reads a value after optional blanks: what can be read, and the text after it if it is well
formed. -/
def readValue : Nat → List Char → Draft × Option (List Char)
  | 0, _ => (.broken, none)
  | fuel + 1, text =>
    match skipSpace text with
    | [] => (.broken, none)
    | 'n' :: cs => readWord "ull" .null cs
    | 't' :: cs => readWord "rue" (.bool true) cs
    | 'f' :: cs => readWord "alse" (.bool false) cs
    | '"' :: cs =>
      match readString (cs.length + 1) cs with
      | some (some text, rest) => (.str (String.ofList text), some rest)
      | some (none, rest) => (.unreadable, some rest)
      | none => (.broken, none)
    | '[' :: cs =>
      match skipSpace cs with
      | ']' :: rest => (.arr [] true, some rest)
      | cs =>
        let (items, rest) := readItems fuel cs
        (.arr items rest.isSome, rest)
    | '{' :: cs =>
      match skipSpace cs with
      | '}' :: rest => (.obj [] true, some rest)
      | cs =>
        let (members, rest) := readMembers fuel cs
        (.obj members rest.isSome, rest)
    | c :: cs =>
      if c = '-' ∨ c.isDigit then
        match readNumber? (c :: cs) with
        | some (parts, rest) =>
          match Number.ofParts? parts with
          | some n => (.num n, some rest)
          | none => (.unreadable, some rest)
        | none => (.broken, none)
      else (.broken, none)

/-- Reads items up to the closing bracket. -/
def readItems : Nat → List Char → List Draft × Option (List Char)
  | 0, _ => ([], none)
  | fuel + 1, cs =>
    match readValue fuel cs with
    | (item, none) => ([item], none)
    | (item, some rest) =>
      match skipSpace rest with
      | ']' :: rest => ([item], some rest)
      | ',' :: rest =>
        let (items, rest) := readItems fuel rest
        (item :: items, rest)
      | _ => ([item], none)

/-- Reads members up to the closing brace. -/
def readMembers : Nat → List Char → List (String × Draft) × Option (List Char)
  | 0, _ => ([], none)
  | fuel + 1, cs =>
    match skipSpace cs with
    | '"' :: cs =>
      match readString (cs.length + 1) cs with
      | some (some key, rest) =>
        let key := String.ofList key
        match skipSpace rest with
        | ':' :: rest =>
          match readValue fuel rest with
          | (value, none) => ([(key, value)], none)
          | (value, some rest) =>
            match skipSpace rest with
            | '}' :: rest => ([(key, value)], some rest)
            | ',' :: rest =>
              let (members, rest) := readMembers fuel rest
              ((key, value) :: members, rest)
            | _ => ([(key, value)], none)
        | _ => ([(key, .broken)], none)
      | _ => ([], none)
    | _ => ([], none)

end

/-- **The draft of a text**, and whether nothing but blanks comes after the value. -/
def ofText (text : String) : Draft × Bool :=
  let cs := text.toList
  match readValue (2 * cs.length + 1) cs with
  | (draft, some rest) => (draft, (skipSpace rest).isEmpty)
  | (draft, none) => (draft, false)

/-! ### From drafts to values -/

/-- How many arrays and objects may be nested in one another. -/
def maxDepth : Nat := 127

mutual

/-- The value of a draft that is well formed, readable and not nested too deeply. -/
def value? : Nat → Draft → Option Value
  | _, .null => some .null
  | _, .bool b => some (.bool b)
  | _, .num n => some (.num n)
  | _, .str s => some (.str s)
  | 0, .arr _ _ => none
  | depth + 1, .arr items closed => do
    let values ← values? depth items
    if closed then some (.arr values) else none
  | 0, .obj _ _ => none
  | depth + 1, .obj members closed => do
    let values ← memberValues? depth members
    if closed then some (Value.ofMembers values) else none
  | _, .unreadable => none
  | _, .broken => none

/-- The values of a list of drafts. -/
def values? : Nat → List Draft → Option (List Value)
  | _, [] => some []
  | depth, d :: rest => do
    let v ← value? depth d
    let vs ← values? depth rest
    some (v :: vs)

/-- The values of a list of members. -/
def memberValues? : Nat → List (String × Draft) → Option (List (String × Value))
  | _, [] => some []
  | depth, (key, d) :: rest => do
    let v ← value? depth d
    let vs ← memberValues? depth rest
    some ((key, v) :: vs)

end

mutual

/-- Whether the draft is well formed, though it may be unreadable in places. -/
def wellFormed : Draft → Bool
  | .arr items closed => closed && wellFormedItems items
  | .obj members closed => closed && wellFormedMembers members
  | .broken => false
  | _ => true

/-- Whether all drafts of a list are well formed. -/
def wellFormedItems : List Draft → Bool
  | [] => true
  | d :: rest => wellFormed d && wellFormedItems rest

/-- Whether the drafts of all members are well formed. -/
def wellFormedMembers : List (String × Draft) → Bool
  | [] => true
  | (_, d) :: rest => wellFormed d && wellFormedMembers rest

end

mutual

/-- A value as a draft. -/
def ofValue : Value → Draft
  | .null => .null
  | .bool b => .bool b
  | .num n => .num n
  | .str s => .str s
  | .arr items => .arr (ofItems items) true
  | .obj members => .obj (ofMembers members) true

/-- The items of an array as drafts. -/
def ofItems : List Value → List Draft
  | [] => []
  | v :: rest => ofValue v :: ofItems rest

/-- The members of an object as drafts. -/
def ofMembers : List (String × Value) → List (String × Draft)
  | [] => []
  | (key, v) :: rest => (key, ofValue v) :: ofMembers rest

end

end Draft

/-- **The value of a JSON text**, if the text is JSON. -/
def Value.ofText? (text : String) : Option Value :=
  match Draft.ofText text with
  | (draft, true) => draft.value? Draft.maxDepth
  | (_, false) => none

end ApiStencil.Json
