import ApiStencil.Decimal.Literal
import ApiStencil.Proofs.Decimal.Rounding
import Mathlib.Algebra.Order.Field.Basic
import Mathlib.Data.Rat.Cast.Order
import Mathlib.Tactic.FieldSimp
import Mathlib.Tactic.Linarith

/-!
# Exact values of binary64 numbers

Numbers are compared and read by their exact values (`value_eq_value_iff`, `toInt?_eq_some_iff`).
`isNearest_iff` says that `roundInt` gives the value of the one binary64 number that is nearest to a
whole number, ties going to the even last bit.  There is such a number for all whole numbers up to
`2 ^ 64`; their sign is kept, so the nearest magnitude is that of the nearest number.
-/

namespace ApiStencil

namespace Binary64

/-- The exact value. -/
def value (x : Binary64) : ℚ := x.signedUnits / unitsPerOne

lemma unitsPerOne_eq : unitsPerOne = 2 ^ 1074 := by decide +kernel

lemma unitsPerOne_pos : 0 < unitsPerOne := by
  rw [unitsPerOne_eq]
  exact pow_pos Nat.two_pos _

-- its digits are never looked at
attribute [local irreducible] unitsPerOne

variable {x y : Binary64} {i : ℤ} {n : ℕ}

lemma value_eq_value_iff : x.value = y.value ↔ x.signedUnits = y.signedUnits := by
  have pos : (0 : ℚ) < unitsPerOne := Nat.cast_pos.mpr unitsPerOne_pos
  unfold value
  rw [div_left_inj' pos.ne', Int.cast_inj]

lemma value_eq_intCast_iff : x.value = i ↔ x.signedUnits = i * unitsPerOne := by
  have pos : (0 : ℚ) < unitsPerOne := Nat.cast_pos.mpr unitsPerOne_pos
  unfold value
  rw [div_eq_iff pos.ne']
  exact_mod_cast Iff.rfl

lemma natAbs_signedUnits (x : Binary64) : x.signedUnits.natAbs = x.units := by
  unfold signedUnits
  split <;> simp

/-- A number is read as a whole number exactly if that is its value. -/
theorem toInt?_eq_some_iff : x.toInt? = some i ↔ x.value = i := by
  have pos : (0 : ℤ) < unitsPerOne := Int.natCast_pos.mpr unitsPerOne_pos
  have divides : x.units % unitsPerOne = 0 ↔ (unitsPerOne : ℤ) ∣ x.signedUnits := by
    rw [← Nat.dvd_iff_mod_eq_zero, ← natAbs_signedUnits, ← Int.natCast_dvd]
  rw [value_eq_intCast_iff]
  unfold toInt?
  by_cases whole : x.units % unitsPerOne = 0
  · rw [if_pos whole, Option.some.injEq, Int.ediv_eq_iff_eq_mul_left pos.ne' (divides.mp whole)]
  · rw [if_neg whole]
    refine ⟨nofun, fun eq => absurd (divides.mpr ?_) whole⟩
    exact ⟨i, by rw [eq, mul_comm]⟩

/-! ### Whole numbers -/

lemma short_units (x : Binary64) : Short x.units := x.fits.1

/-- Up to `2 ^ 53` every whole number is a binary64 number. -/
lemma short_mul_unitsPerOne (h : n ≤ 2 ^ 53) : Short (n * unitsPerOne) := by
  rw [unitsPerOne_eq]
  exact short_mul_two_pow h 1074

lemma roundInt_of_nonneg (h : 0 ≤ i) : roundInt i = roundBits (i.natAbs * unitsPerOne) 1 := by
  unfold roundInt
  simp [not_lt.mpr h]

lemma roundInt_of_neg (h : i < 0) : roundInt i = -roundBits (i.natAbs * unitsPerOne) 1 := by
  unfold roundInt
  simp [h]

lemma roundInt_of_natAbs_le (h : i.natAbs ≤ 2 ^ 53) : roundInt i = i * unitsPerOne := by
  have own := roundBits_mul Nat.one_pos (short_mul_unitsPerOne h)
  rw [mul_one] at own
  rcases lt_or_ge i 0 with neg | nonneg
  · rw [roundInt_of_neg neg, own, Nat.cast_mul, Int.ofNat_natAbs_of_nonpos neg.le]
    ring
  · rw [roundInt_of_nonneg nonneg, own, Nat.cast_mul, Int.natAbs_of_nonneg nonneg]

/-- Only zero is rounded to zero. -/
lemma roundInt_pos (h : 0 < i) : 0 < roundInt i := by
  have error := two_mul_dist_roundBits_le (i.natAbs * unitsPerOne) Nat.one_pos
  have units : 0 < i.natAbs * unitsPerOne :=
    Nat.mul_pos (Int.natAbs_pos.mpr h.ne') unitsPerOne_pos
  rw [roundInt_of_nonneg h.le]
  unfold Nat.dist at error
  omega

lemma roundInt_nonneg (h : 0 ≤ i) : 0 ≤ roundInt i := by
  rw [roundInt_of_nonneg h]
  exact Int.natCast_nonneg _

lemma roundInt_nonpos (h : i ≤ 0) : roundInt i ≤ 0 := by
  rcases h.lt_or_eq with neg | rfl
  · rw [roundInt_of_neg neg]
    exact neg_nonpos_of_nonneg (Int.natCast_nonneg _)
  · rw [roundInt_of_natAbs_le (by decide), zero_mul]

/-! ### Nearest numbers -/

/-- A binary64 number is nearest to `q` if none is nearer, and of different ones as near it is the one
with an even last bit. -/
structure IsNearest (x : Binary64) (q : ℚ) : Prop where
  nearest : ∀ y : Binary64, |q - x.value| ≤ |q - y.value|
  even : ∀ y : Binary64, y.value ≠ x.value → |q - y.value| = |q - x.value| → EvenLast x.units

/-- The distance of a whole number, in units. -/
def distance (i : ℤ) (x : Binary64) : ℕ := (i * unitsPerOne - x.signedUnits).natAbs

lemma abs_sub_value (i : ℤ) (x : Binary64) : |(i : ℚ) - x.value| = distance i x / unitsPerOne := by
  have pos : (0 : ℚ) < unitsPerOne := Nat.cast_pos.mpr unitsPerOne_pos
  rw [value, distance, Nat.cast_natAbs, sub_div' pos.ne', abs_div, abs_of_pos pos]
  push_cast
  rfl

/-- The exact number of units, without its sign. -/
lemma natAbs_mul_unitsPerOne (i : ℤ) : (i * unitsPerOne).natAbs = i.natAbs * unitsPerOne := by
  rw [Int.natAbs_mul, Int.natAbs_natCast]

lemma dist_le_distance (i : ℤ) (x : Binary64) :
    Nat.dist (i.natAbs * unitsPerOne) x.units ≤ distance i x := by
  have magnitude := natAbs_signedUnits x
  rw [← natAbs_mul_unitsPerOne, distance]
  generalize i * (unitsPerOne : ℤ) = t
  unfold Nat.dist
  omega

lemma units_of_roundInt (h : x.signedUnits = roundInt i) :
    x.units = roundBits (i.natAbs * unitsPerOne) 1 := by
  rw [← natAbs_signedUnits, h]
  rcases lt_or_ge i 0 with neg | nonneg
  · rw [roundInt_of_neg neg, Int.natAbs_neg, Int.natAbs_natCast]
  · rw [roundInt_of_nonneg nonneg, Int.natAbs_natCast]

/-- The rounded number has the sign of the exact one. -/
lemma distance_of_roundInt (h : x.signedUnits = roundInt i) :
    distance i x = Nat.dist (i.natAbs * unitsPerOne) x.units := by
  have pos : (0 : ℤ) < unitsPerOne := Int.natCast_pos.mpr unitsPerOne_pos
  have magnitude := natAbs_signedUnits x
  have sign : (0 ≤ i * unitsPerOne ∧ 0 ≤ x.signedUnits) ∨
      (i * unitsPerOne ≤ 0 ∧ x.signedUnits ≤ 0) := by
    rw [h]
    rcases le_total 0 i with nonneg | nonpos
    · exact .inl ⟨mul_nonneg nonneg pos.le, roundInt_nonneg nonneg⟩
    · exact .inr ⟨mul_nonpos_of_nonpos_of_nonneg nonpos pos.le, roundInt_nonpos nonpos⟩
  rw [← natAbs_mul_unitsPerOne, distance]
  clear pos
  generalize i * (unitsPerOne : ℤ) = t at sign ⊢
  unfold Nat.dist
  omega

/-- No binary64 number is nearer to a whole number than its rounding. -/
lemma distance_roundInt_le (h : x.signedUnits = roundInt i) (y : Binary64) :
    distance i x ≤ Nat.dist (i.natAbs * unitsPerOne) y.units := by
  have nearest := roundBits_nearest (i.natAbs * unitsPerOne) Nat.one_pos (short_units y)
  rw [mul_one, mul_one, ← units_of_roundInt h] at nearest
  rwa [distance_of_roundInt h]

/-- Another number as near as the rounding is no neighbour with the other sign. -/
lemma units_ne_of_tie (h : x.signedUnits = roundInt i) (ne : y.signedUnits ≠ x.signedUnits)
    (tie : distance i y = distance i x) : y.units ≠ x.units := by
  intro same
  have own := distance_of_roundInt h
  have magnitude := natAbs_signedUnits x
  have magnitude' := natAbs_signedUnits y
  have zero : i * unitsPerOne = 0 → x.signedUnits = 0 := fun eq => by
    have := (mul_eq_zero.mp eq).resolve_right (by exact_mod_cast unitsPerOne_pos.ne')
    rw [h, this, roundInt_of_natAbs_le (by decide), zero_mul]
  rw [← natAbs_mul_unitsPerOne] at own
  unfold distance at tie own
  generalize i * (unitsPerOne : ℤ) = t at tie own zero
  unfold Nat.dist at own
  omega

/-- **Ties go to the even last bit.** -/
lemma evenLast_of_tie (h : x.signedUnits = roundInt i) (ne : y.signedUnits ≠ x.signedUnits)
    (tie : distance i y = distance i x) : EvenLast x.units ∧ ¬ EvenLast y.units := by
  have low := distance_roundInt_le h y
  have high := dist_le_distance i y
  have own := distance_of_roundInt h
  have other := units_ne_of_tie h ne tie
  have as_near : Nat.dist (i.natAbs * unitsPerOne) y.units =
      Nat.dist (i.natAbs * unitsPerOne) x.units := by omega
  rw [units_of_roundInt h] at other as_near ⊢
  exact roundBits_tie Nat.one_pos (short_units y) other (by rw [mul_one, mul_one, as_near])

lemma isNearest_of_roundInt (h : x.signedUnits = roundInt i) : x.IsNearest i := by
  have pos : (0 : ℚ) < unitsPerOne := Nat.cast_pos.mpr unitsPerOne_pos
  refine ⟨fun y => ?_, fun y ne tie => ?_⟩
  · rw [abs_sub_value, abs_sub_value]
    have := (distance_roundInt_le h y).trans (dist_le_distance i y)
    gcongr
  · rw [abs_sub_value, abs_sub_value, div_left_inj' pos.ne', Nat.cast_inj] at tie
    rw [ne_eq, value_eq_value_iff] at ne
    exact (evenLast_of_tie h ne tie).1

/-- Whole numbers up to `2 ^ 64` are not rounded beyond the largest number. -/
lemma exists_roundInt (h : i.natAbs ≤ 2 ^ 64) : ∃ z : Binary64, z.signedUnits = roundInt i := by
  have short := short_roundBits (i.natAbs * unitsPerOne) 1
  have bound : Short (2 ^ 64 * unitsPerOne) := by
    rw [unitsPerOne_eq, ← pow_add, ← one_mul (2 ^ _)]
    exact short_mul_two_pow (by norm_num) _
  have le : roundBits (i.natAbs * unitsPerOne) 1 ≤ 2 ^ 64 * unitsPerOne := by
    refine roundBits_le Nat.one_pos bound ?_
    rw [mul_one]
    exact Nat.mul_le_mul_right _ h
  have lt : 2 ^ 64 * unitsPerOne < limit := by decide +kernel
  refine ⟨⟨decide (i < 0), _, short, le.trans_lt lt⟩, ?_⟩
  unfold signedUnits roundInt
  simp

/-- **Rounding a whole number gives the nearest binary64 number** and no other one. -/
theorem isNearest_iff (h : i.natAbs ≤ 2 ^ 64) : x.IsNearest i ↔ x.signedUnits = roundInt i := by
  have pos : (0 : ℚ) < unitsPerOne := Nat.cast_pos.mpr unitsPerOne_pos
  refine ⟨fun near => ?_, isNearest_of_roundInt⟩
  obtain ⟨z, rounded⟩ := exists_roundInt h
  have other := isNearest_of_roundInt rounded
  by_contra ne
  rw [← rounded, ← value_eq_value_iff] at ne
  -- both would be as near, and so both even
  have tie : |(i : ℚ) - x.value| = |(i : ℚ) - z.value| :=
    le_antisymm (near.nearest z) (other.nearest x)
  have even := near.even z (Ne.symm ne) tie.symm
  rw [abs_sub_value, abs_sub_value, div_left_inj' pos.ne', Nat.cast_inj] at tie
  rw [value_eq_value_iff] at ne
  exact (evenLast_of_tie rounded ne tie).2 even

end Binary64

end ApiStencil
