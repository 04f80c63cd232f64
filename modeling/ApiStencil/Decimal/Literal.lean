import ApiStencil.Decimal.Binary64

/-!
Decimal literals: digits with an optional point and an optional exponent, their exact value, and
the binary64 number nearest to it.
-/

namespace ApiStencil

/-- A decimal literal: the number `digits · 10 ^ scale` with a sign. -/
structure Literal where
  negative : Bool
  digits : Nat
  scale : Int
deriving DecidableEq, Repr

namespace Literal

/-- The number that a run of decimal digits writes. -/
def digitsValue (cs : List Char) : Nat :=
  cs.foldl (fun n c => 10 * n + (c.toNat - 48)) 0

/-- The nearest binary64 number; nothing when the magnitude is beyond the largest one.

A literal below half a unit is zero whatever its digits are, and one with more than 400 trailing
places is beyond the largest, so neither has its power of ten computed. -/
def toBinary64? (l : Literal) : Option Binary64 :=
  if l.digits = 0 then some (.zero l.negative)
  else if 0 ≤ l.scale then
    if 400 < l.scale then none
    else Binary64.ofRatio? l.negative (l.digits * Nat.pow 10 l.scale.toNat) 1
  else
    let places := (-l.scale).toNat
    if l.digits.log2 + 1076 ≤ 3 * places then some (.zero l.negative)
    else Binary64.ofRatio? l.negative l.digits (Nat.pow 10 places)

/-- Splits a sign off the front of a text; no sign means positive. -/
def splitSign : List Char → Bool × List Char
  | '-' :: rest => (true, rest)
  | '+' :: rest => (false, rest)
  | cs => (false, cs)

/-- Reads an exponent that takes up the whole text: nothing, or `e` with an optional sign and at
least one digit. -/
def exponent? : List Char → Option Int
  | [] => some 0
  | c :: rest =>
    if c = 'e' ∨ c = 'E' then
      let (negative, digits) := splitSign rest
      if digits.isEmpty ∨ !digits.all Char.isDigit then none
      else
        let n : Int := digitsValue digits
        some (if negative then -n else n)
    else none

/-- Reads a literal that takes up the whole text: an optional sign, digits with an optional point
and at least one digit, an optional exponent. -/
def ofChars? (cs : List Char) : Option Literal := do
  let (negative, body) := splitSign cs
  let whole := body.takeWhile Char.isDigit
  let afterWhole := body.dropWhile Char.isDigit
  let (places, rest) := match afterWhole with
    | '.' :: tail => (tail.takeWhile Char.isDigit, tail.dropWhile Char.isDigit)
    | tail => ([], tail)
  if whole.isEmpty ∧ places.isEmpty then none
  let e ← exponent? rest
  some ⟨negative, digitsValue (whole ++ places), e - places.length⟩

end Literal

end ApiStencil
