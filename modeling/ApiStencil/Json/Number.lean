import ApiStencil.Decimal.Layout
import ApiStencil.Decimal.Literal

/-!
JSON numbers: whole numbers that fit in 64 bits, signed or unsigned, and binary64 numbers.  The
two are different values even where they are numerically equal, as `1` and `1.0` are.

Main definitions: the reading of a literal, the text of a number, and numeric agreement, which
compares two whole numbers exactly when one of the two 64-bit ranges holds both and otherwise
compares both as binary64 numbers.
-/

namespace ApiStencil.Json

/-- Whether a whole number fits in 64 bits with a sign. -/
def FitsSigned (i : Int) : Prop := -(Nat.pow 2 63 : Int) ≤ i ∧ i < Nat.pow 2 63

/-- Whether a whole number fits in 64 bits without a sign. -/
def FitsUnsigned (i : Int) : Prop := 0 ≤ i ∧ i < Nat.pow 2 64

instance (i : Int) : Decidable (FitsSigned i) := inferInstanceAs (Decidable (_ ∧ _))

instance (i : Int) : Decidable (FitsUnsigned i) := inferInstanceAs (Decidable (_ ∧ _))

/-- A JSON number. -/
inductive Number where
  | whole (i : Int) (fits : FitsSigned i ∨ FitsUnsigned i)
  | float (x : Binary64)
deriving DecidableEq

namespace Number

/-- The whole number `i` as a JSON number, if it fits. -/
def ofInt? (i : Int) : Option Number :=
  if h : FitsSigned i ∨ FitsUnsigned i then some (.whole i h) else none

/-- The value in binary64 units, a whole number being rounded to binary64 first. -/
def asUnits : Number → Int
  | .whole i _ => Binary64.roundInt i
  | .float x => x.signedUnits

/-- Whether two numbers agree: whole numbers exactly where one 64-bit range holds both, all others
as binary64 numbers. -/
def agrees : Number → Number → Bool
  | .whole i hi, .whole j hj =>
    if (FitsSigned i ∧ FitsSigned j) ∨ (FitsUnsigned i ∧ FitsUnsigned j) then i = j
    else (Number.whole i hi).asUnits = (Number.whole j hj).asUnits
  | a, b => a.asUnits = b.asUnits

/-- Whether two numbers are of one type and equal, the two zeros being equal. -/
def same : Number → Number → Bool
  | .whole i _, .whole j _ => i = j
  | .float x, .float y => x.signedUnits = y.signedUnits
  | _, _ => false

/-- The text of a number in data. -/
def write : Number → String
  | .whole i _ => toString i
  | .float x => Layout.data.write x

/-! ### Reading a literal -/

/-- The parts of a number literal: a sign, the digits before the point, the digits after it if
there is a point, and the exponent if there is one. -/
structure Parts where
  negative : Bool
  whole : List Char
  places : Option (List Char)
  exponent : Option Int

/-- The first digits as long as they make a number below `2 ^ 64`, and how many are left. -/
def leadingDigits (start : Nat) : List Char → Nat × Nat
  | [] => (start, 0)
  | c :: rest =>
    let next := 10 * start + (c.toNat - 48)
    if next < Nat.pow 2 64 then leadingDigits next rest else (start, rest.length + 1)

/-- The binary64 number nearest to `10 ^ k`, for `k` up to 308. -/
def powerOfTen? (k : Nat) : Option Binary64 := Binary64.ofRatio? false (Nat.pow 10 k) 1

/-- The product of a binary64 number with `10 ^ exponent`: one rounded multiplication or division,
after a division by `10 ^ 308` when the exponent is below `-308`. -/
def scaleByTen? (x : Binary64) (exponent : Int) : Option Binary64 :=
  if x.units = 0 then some x
  else if 308 < exponent ∨ exponent < -616 then
    if 0 ≤ exponent then none else some (.zero x.negative)
  else if 0 ≤ exponent then powerOfTen? exponent.toNat >>= x.mul?
  else if -308 ≤ exponent then powerOfTen? (-exponent).toNat >>= x.div?
  else do
    let y ← powerOfTen? 308 >>= x.div?
    powerOfTen? (-exponent - 308).toNat >>= y.div?

/-- The binary64 number of a literal: its leading digits below `2 ^ 64` are rounded to binary64
and then scaled, so the last bit can differ from that of the nearest number.  Nothing when it is
beyond the largest number. -/
def floatOfParts? (p : Parts) : Option Binary64 := do
  let places := p.places.getD []
  let (n, left) := leadingDigits 0 p.whole
  let (m, skipped) := leadingDigits n places
  let scale : Int := left - ((places.length - skipped : Nat) : Int)
  let x ← Binary64.ofRatio? p.negative m 1
  scaleByTen? x (scale + p.exponent.getD 0)

/-- **The number that a literal writes**: a whole number if it has neither point nor exponent, fits
and is not a negative zero, else a binary64 number; nothing when it is beyond the largest one. -/
def ofParts? (p : Parts) : Option Number :=
  let i : Int :=
    let n := Literal.digitsValue p.whole
    if p.negative then -(n : Int) else n
  let float := (floatOfParts? p).map .float
  if p.places.isSome ∨ p.exponent.isSome ∨ (p.negative ∧ i = 0) then float
  else (ofInt? i).or float

end Number

end ApiStencil.Json
