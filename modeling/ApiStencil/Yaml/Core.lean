import ApiStencil.Decimal.Layout
import ApiStencil.Decimal.Literal
import ApiStencil.Json.Shape
import ApiStencil.Yaml.Node

/-!
What YAML scalars mean.  A plain scalar without a tag is null, a boolean, a number or a string by
its text; other scalars are strings unless a tag says otherwise.  Documents become JSON values,
with the texts of scalars as keys.
-/

namespace ApiStencil.Yaml

open Json

/-- What a scalar means. -/
inductive Core where
  | null
  | bool (b : Bool)
  | whole (i : Int)
  /-- A whole number beyond 64 bits. -/
  | wide (i : Int)
  | float (x : Binary64)
  | infinite (negative : Bool)
  | notANumber
  | text (s : String)
deriving DecidableEq

namespace Core

/-- The words for null. -/
def isNull (s : String) : Bool := s ∈ ["null", "Null", "NULL", "~"]

/-- The boolean that a word writes. -/
def bool? (s : String) : Option Bool :=
  if s ∈ ["true", "True", "TRUE"] then some true
  else if s ∈ ["false", "False", "FALSE"] then some false
  else none

/-- The number that digits write in a radix; nothing unless there are digits and digits only. -/
def digitsIn? (radix : Nat) (cs : List Char) : Option Nat :=
  if cs.isEmpty then none
  else cs.foldlM (fun n c => do
    let d ← hexDigit? c
    if d < radix then some (radix * n + d) else none) 0

/-- Whether digits have a zero in front that they do not need. -/
def hasLeadingZero : List Char → Bool
  | '0' :: c :: rest => (c :: rest).all Char.isDigit
  | _ => false

/-- The whole number that a text writes: with an optional sign, in decimal digits without leading
zeros, or in another radix after `0x`, `0o` or `0b`. -/
def int? (cs : List Char) : Option Int := do
  let (negative, body) := Literal.splitSign cs
  let n ← match body with
    | '0' :: 'x' :: rest => digitsIn? 16 rest
    | '0' :: 'o' :: rest => digitsIn? 8 rest
    | '0' :: 'b' :: rest => digitsIn? 2 rest
    | body => if hasLeadingZero body then none else digitsIn? 10 body
  some (if negative then -(n : Int) else n)

/-- A whole number of at most 128 bits. -/
def ofInt? (i : Int) : Option Core :=
  if FitsSigned i ∨ FitsUnsigned i then some (.whole i)
  else if -(Nat.pow 2 127 : Int) ≤ i ∧ i < Nat.pow 2 128 then some (.wide i)
  else none

/-- The binary64 number that a text writes, or infinity, or no number. -/
def float? (s : String) : Option Core :=
  if s ∈ [".inf", ".Inf", ".INF", "+.inf", "+.Inf", "+.INF"] then some (.infinite false)
  else if s ∈ ["-.inf", "-.Inf", "-.INF"] then some (.infinite true)
  else if s ∈ [".nan", ".NaN", ".NAN"] then some .notANumber
  else (Literal.ofChars? s.toList >>= Literal.toBinary64?).map .float

/-- What a plain scalar without a tag means. -/
def ofPlain (s : String) : Core :=
  if s.isEmpty || isNull s then .null
  else match bool? s with
    | some b => .bool b
    | none =>
      match int? s.toList >>= ofInt? with
      | some core => core
      | none =>
        if hasLeadingZero (Literal.splitSign s.toList).2 then .text s
        else (float? s).getD (.text s)

/-- What a scalar means; fails, with what was expected, where its tag asks for another text. -/
def ofScalar (tag : Option String) (style : Style) (s : String) : Except String Core :=
  let read (expected : String) (core : Option Core) : Except String Core :=
    match core with
    | some core => .ok core
    | none => .error expected
  match tag with
  | some "tag:yaml.org,2002:bool" => read "a boolean" ((bool? s).map .bool)
  | some "tag:yaml.org,2002:int" => read "an integer" (int? s.toList >>= ofInt?)
  | some "tag:yaml.org,2002:float" => read "a float" (float? s)
  | some "tag:yaml.org,2002:null" => read "null" (if isNull s then some .null else none)
  | some tag =>
    .ok (if tag.toList.head? = some '!' && style = .plain then ofPlain s else .text s)
  | none => .ok (if style = .plain then ofPlain s else .text s)

/-- How floats are shown in messages: without exponent, with a point. -/
def shownFloat : Layout := ⟨fun _ => true, true⟩

/-- A meaning in messages. -/
def found : Core → Found
  | .null => .nothing "unit value"
  | .bool b => .boolean b
  | .whole i => .integer i
  | .wide i => .wide i
  | .float x => .float (shownFloat.write x)
  | .infinite negative => .float (if negative then "-inf" else "inf")
  | .notANumber => .float "NaN"
  | .text s => .string s

/-- A meaning as a JSON value; there is none beyond 64 bits, and null stands for what is no
number. -/
def value? : Core → Option Value
  | .null | .infinite _ | .notANumber => some .null
  | .bool b => some (.bool b)
  | .whole i => Value.ofInt? i
  | .wide _ => none
  | .float x => some (.num (.float x))
  | .text s => some (.str s)

end Core

/-- Whether a tag is one of an application's own. -/
def isOwnTag (tag : Option String) : Bool :=
  match tag with
  | some tag => tag.toList.head? = some '!'
  | none => false

namespace Node

/-- How deep collections can be nested. -/
def maxDepth : Nat := 128

/-- The text of a scalar, which can be a key. -/
def keyText? : Node → Option String
  | .scalar _ _ text => some text
  | _ => none

/-- A node as a JSON value; fails where something is missing or too deep, where a key is no scalar
and where a tag has no meaning. -/
def value? : Nat → Node → Option Value
  | _, .scalar tag style text =>
    if isOwnTag tag then none
    else match Core.ofScalar tag style text with
      | .ok core => core.value?
      | .error _ => none
  | depth + 1, .sequence tag items true =>
    if isOwnTag tag then none else (items.mapM (value? depth)).map .arr
  | depth + 1, .mapping tag entries true =>
    if isOwnTag tag then none
    else do
      let members ← entries.mapM fun (key, node) => do
        let key ← key.keyText?
        let v ← value? depth node
        some (key, v)
      some (Value.ofMembers members)
  | _, _ => none

end Node

/-- **The JSON value of a text** that is exactly one document; null for a text without one. -/
def valueOfText? (text : String) : Option Value :=
  let document := Document.ofText text
  if document.complete then
    match document.root with
    | some root => root.value? Node.maxDepth
    | none => some .null
  else none

end ApiStencil.Yaml
