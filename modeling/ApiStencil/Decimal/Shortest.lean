import ApiStencil.Decimal.Binary64

/-!
The shortest decimal that reads back as a given binary64 number.  For one digit, two, up to
seventeen, the two neighbours of the value on that decimal grid are tried; the first grid with a
neighbour that reads back wins, and of two such neighbours the nearer, a tie going to the even
one.
-/

namespace ApiStencil

/-- A positive decimal number: the whole number `digits` times `10 ^ scale`. -/
structure Decimal where
  digits : Nat
  scale : Int
deriving DecidableEq, Repr

namespace Decimal

/-- The magnitude in units that the decimal rounds to. -/
def roundedUnits (d : Decimal) : Nat :=
  if 0 ≤ d.scale then roundBits (d.digits * Nat.pow 10 d.scale.toNat * Binary64.unitsPerOne) 1
  else roundBits (d.digits * Binary64.unitsPerOne) (Nat.pow 10 (-d.scale).toNat)

/-- `units · 10 ^ (-scale)` as a fraction over the units of one. -/
def scaled (units : Nat) (scale : Int) : Nat × Nat :=
  if 0 ≤ scale then (units, Binary64.unitsPerOne * Nat.pow 10 scale.toNat)
  else (units * Nat.pow 10 (-scale).toNat, Binary64.unitsPerOne)

/-- The position of the first decimal digit: the greatest `e` with `10 ^ e` at most the value,
found by stepping up or down from an estimate. -/
def leadingExponent (units : Nat) : Int :=
  let estimate : Int := ((units.log2 : Int) - 1074) * 1233 / 4096
  let reaches (e : Int) : Bool := let (n, d) := scaled units e; d ≤ n
  let candidates := [estimate + 2, estimate + 1, estimate, estimate - 1, estimate - 2]
  (candidates.find? reaches).getD (estimate - 3)

/-- The neighbours of the value on the grid `10 ^ scale` that read back, the nearer first. -/
def candidate? (units : Nat) (scale : Int) : Option Decimal :=
  let (n, d) := scaled units scale
  let below : Decimal := ⟨n / d, scale⟩
  let above : Decimal := ⟨n / d + 1, scale⟩
  let twice := 2 * (n % d)
  let belowFirst := twice < d ∨ (twice = d ∧ n / d % 2 = 0)
  let readsBack (c : Decimal) : Bool := c.roundedUnits = units
  (if belowFirst then [below, above] else [above, below]).find? readsBack

/-- The digits without trailing zeros, which go into the scale. -/
def stripZeros : Nat → Decimal → Decimal
  | 0, d => d
  | fuel + 1, d =>
    if d.digits % 10 = 0 ∧ d.digits ≠ 0 then stripZeros fuel ⟨d.digits / 10, d.scale + 1⟩ else d

/-- **The shortest decimal** that rounds to a positive number of units. -/
def shortest (units : Nat) : Decimal :=
  let first := leadingExponent units
  let grids := (List.range 17).map fun (k : Nat) => first - (k : Int)
  match grids.findSome? (candidate? units) with
  | some d => stripZeros 17 d
  | none => ⟨units, 0⟩

end Decimal

end ApiStencil
