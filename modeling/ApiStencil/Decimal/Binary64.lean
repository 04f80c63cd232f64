/-!
Finite binary64 numbers as exact integers.  A magnitude counts units of `2 ^ -1074`, the least
positive value, so every finite number is a whole number of units with at most 53 significant
bits.  Rounding goes to the nearest such number, a half to the neighbour with an even last bit.
-/

namespace ApiStencil

/-- The quotient `num / den` rounded to a whole number, a half going to the even neighbour. -/
def roundDiv (num den : Nat) : Nat :=
  let quotient := num / den
  let twice := 2 * (num % den)
  if twice < den then quotient
  else if den < twice then quotient + 1
  else quotient + quotient % 2

/-- The quotient `num / den` rounded to 53 significant bits. -/
def roundBits (num den : Nat) : Nat :=
  let drop := (num / den).log2 - 52
  roundDiv num (den * Nat.pow 2 drop) * Nat.pow 2 drop

namespace Binary64

/-- How many units make one. -/
def unitsPerOne : Nat := Nat.pow 2 1074

/-- The first magnitude, in units, that is too large. -/
def limit : Nat := Nat.pow 2 1024 * unitsPerOne

/-- Whether a number of units is the magnitude of a finite number: at most 53 significant bits,
and below the limit. -/
def Fits (units : Nat) : Prop :=
  units % Nat.pow 2 (units.log2 - 52) = 0 ∧ units < limit

instance (units : Nat) : Decidable (Fits units) := inferInstanceAs (Decidable (_ ∧ _))

end Binary64

/-- A finite binary64 number: a sign and a magnitude in units.  Zero has two signs. -/
structure Binary64 where
  negative : Bool
  units : Nat
  fits : Binary64.Fits units
deriving DecidableEq

namespace Binary64

/-- The number with this sign and this many units, if there is one. -/
def ofUnits? (negative : Bool) (units : Nat) : Option Binary64 :=
  if h : Fits units then some ⟨negative, units, h⟩ else none

theorem fits_zero : Fits 0 := ⟨Nat.zero_mod _, by decide +kernel⟩

/-- Zero with a sign. -/
def zero (negative : Bool) : Binary64 := ⟨negative, 0, fits_zero⟩

/-- The number nearest to `num / den` in magnitude; nothing when that is beyond the largest. -/
def ofRatio? (negative : Bool) (num den : Nat) : Option Binary64 :=
  ofUnits? negative (roundBits (num * unitsPerOne) den)

/-- The value in units, with its sign; both zeros are `0`. -/
def signedUnits (x : Binary64) : Int :=
  if x.negative then -(x.units : Int) else x.units

/-- The number with the other sign. -/
def neg (x : Binary64) : Binary64 := { x with negative := !x.negative }

/-- The rounded product; nothing when it is beyond the largest number. -/
def mul? (x y : Binary64) : Option Binary64 :=
  ofUnits? (x.negative != y.negative) (roundBits (x.units * y.units) unitsPerOne)

/-- The rounded quotient; nothing for a zero divisor or beyond the largest number. -/
def div? (x y : Binary64) : Option Binary64 :=
  if y.units = 0 then none
  else ofUnits? (x.negative != y.negative) (roundBits (x.units * unitsPerOne) y.units)

/-- The whole number that `x` is, if it is one. -/
def toInt? (x : Binary64) : Option Int :=
  if x.units % unitsPerOne = 0 then some (x.signedUnits / (unitsPerOne : Int)) else none

/-- The value in units of the number nearest to a whole number. -/
def roundInt (i : Int) : Int :=
  let units := roundBits (i.natAbs * unitsPerOne) 1
  if i < 0 then -(units : Int) else units

end Binary64

end ApiStencil
