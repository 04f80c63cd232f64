import ApiStencil.Decimal.Shortest

/-!
Writing a binary64 number: which numbers are written without an exponent, and whether a whole
number keeps a fraction.  The digits are always the shortest ones that read back.
-/

namespace ApiStencil

/-- How numbers are written. -/
structure Layout where
  /-- Numbers whose first digit stands at one of these places have no exponent. -/
  positional : Int → Bool
  /-- A number written without an exponent and without places gets the place `.0`. -/
  keepsFraction : Bool

namespace Layout

/-- The digits of a whole number. -/
def digitsOf (n : Nat) : List Char := Nat.toDigits 10 n

/-- Digits with the point after the first `point` of them, zeros filling up both sides. -/
def pointed (keepsFraction : Bool) (digits : List Char) (point : Int) : List Char :=
  if point ≤ 0 then
    ['0', '.'] ++ List.replicate (-point).toNat '0' ++ digits
  else
    let whole := digits.take point.toNat ++ List.replicate (point.toNat - digits.length) '0'
    match digits.drop point.toNat with
    | [] => whole ++ if keepsFraction then ['.', '0'] else []
    | places => whole ++ '.' :: places

/-- Digits with the point after the first one and an exponent, which always has a sign. -/
def scientific (digits : List Char) (exponent : Int) : List Char :=
  let mantissa := match digits with
    | first :: second :: rest => first :: '.' :: second :: rest
    | cs => cs
  mantissa ++ 'e' :: (if exponent < 0 then '-' else '+') :: digitsOf exponent.natAbs

/-- The text of a magnitude in units. -/
def writeMagnitude (layout : Layout) (units : Nat) : List Char :=
  if units = 0 then if layout.keepsFraction then ['0', '.', '0'] else ['0']
  else
    let shortest := Decimal.shortest units
    let digits := digitsOf shortest.digits
    let leading : Int := shortest.scale + digits.length - 1
    if layout.positional leading then pointed layout.keepsFraction digits (leading + 1)
    else scientific digits leading

/-- **The text of a number**: a minus sign for negative numbers, negative zero included, then the
magnitude. -/
def write (layout : Layout) (x : Binary64) : String :=
  String.ofList ((if x.negative then ['-'] else []) ++ layout.writeMagnitude x.units)

/-- Numbers in data have an exponent from `1e16` up and below `1e-5`, and always show that they are
not integers. -/
def data : Layout := ⟨fun place => -5 ≤ place ∧ place < 16, true⟩

/-- Numbers in rendered text never have an exponent, and whole ones have no point. -/
def plain : Layout := ⟨fun _ => true, false⟩

end Layout

end ApiStencil
