import ApiStencil.Proofs.Decimal.Literal

/-!
# What a value is rounded to

Rounding as a function of the exact value (`Binary64.unitsOf`): decimals and literals of one value are
rounded alike, however many digits and whatever power of ten they have.

* `Binary64.unitsOf_of_close` — a value close to a number is rounded to it;
* `Literal.toBinary64?_of_unitsOf` — a literal is turned into the number its value is rounded to, so
  cutting off what is too small or too large changes nothing.
-/

namespace ApiStencil

namespace Binary64

-- its digits are never looked at
attribute [local irreducible] unitsPerOne

variable {num den units : ℕ} {q : ℚ}

/-- The magnitude, in units, that a value is rounded to. -/
def unitsOf (q : ℚ) : ℕ := roundBits (q.num.natAbs * unitsPerOne) q.den

lemma cast_num (hq : 0 ≤ q) : (q.num.natAbs : ℚ) = q * q.den := by
  rw [Nat.cast_natAbs, abs_of_nonneg (Rat.num_nonneg.mpr hq), Rat.mul_den_eq_num]

lemma unitsOf_div (hd : 0 < den) : unitsOf (num / den) = roundBits (num * unitsPerOne) den := by
  have pos : (0 : ℚ) < den := Nat.cast_pos.mpr hd
  have cross : ((num / den : ℚ).num.natAbs : ℚ) * den = num * (num / den : ℚ).den := by
    rw [cast_num (by positivity), mul_right_comm, div_mul_cancel₀ _ pos.ne']
  have same : (num / den : ℚ).num.natAbs * den = num * (num / den : ℚ).den := by
    exact_mod_cast cross
  refine roundBits_congr (Rat.den_pos _) hd ?_
  rw [mul_right_comm, same, mul_right_comm]

/-- A value is rounded to the number of units that it is close to. -/
lemma unitsOf_of_close (h : Short units) (hq : 0 ≤ q)
    (close : 2 ^ 54 * |q * unitsPerOne - units| < units) : unitsOf q = units := by
  have den : (0 : ℚ) < q.den := Nat.cast_pos.mpr q.den_pos
  have dist : (Nat.dist (q.num.natAbs * unitsPerOne) (units * q.den) : ℚ) =
      |q * unitsPerOne - units| * q.den := by
    rw [cast_dist, Nat.cast_mul, Nat.cast_mul, cast_num hq, mul_right_comm, ← sub_mul, abs_mul,
      abs_of_pos den]
  have close := mul_lt_mul_of_pos_right close den
  rw [mul_assoc, ← dist] at close
  exact roundBits_of_close q.den_pos h (by exact_mod_cast close)

/-- A value from a number of units on is not rounded below it. -/
lemma le_unitsOf (h : Short units) (hq : 0 ≤ q) (le : units ≤ q * unitsPerOne) :
    units ≤ unitsOf q := by
  have le := mul_le_mul_of_nonneg_right le (Nat.cast_nonneg' q.den)
  rw [mul_right_comm, ← cast_num hq] at le
  exact le_roundBits q.den_pos h (by exact_mod_cast le)

lemma unitsOf_zero : unitsOf 0 = 0 := roundBits_eq_zero (by simp)

lemma limit_eq : limit = 2 ^ 1024 * unitsPerOne := by decide +kernel

lemma short_limit : Short limit := by
  rw [limit_eq, unitsPerOne_eq, ← pow_add, ← one_mul (2 ^ _)]
  exact short_mul_two_pow (by norm_num) _

end Binary64

namespace Literal

open Binary64

-- its digits are never looked at
attribute [local irreducible] unitsPerOne

variable {l : Literal} {x : Binary64}

lemma unitsOf_abs_value (l : Literal) :
    unitsOf |l.value| = roundBits (l.num * unitsPerOne) l.den := by
  rw [abs_value, unitsOf_div l.den_pos]

/-- A literal below the largest number has its power of ten computed. -/
lemma scale_le (digits : l.digits ≠ 0) (h : unitsOf |l.value| < limit) : l.scale ≤ 400 := by
  by_contra large
  refine absurd (le_unitsOf short_limit (abs_nonneg _) ?_) h.not_ge
  have power : 2 ^ 1024 ≤ l.num := by
    calc 2 ^ 1024 ≤ 10 ^ 400 := by decide +kernel
      _ ≤ 10 ^ l.scale.toNat := Nat.pow_le_pow_right (by decide) (by omega)
      _ ≤ l.num := Nat.le_mul_of_pos_left _ (Nat.pos_of_ne_zero digits)
  rw [abs_value, den_of_nonneg (by omega), Nat.cast_one, div_one]
  rw [limit_eq]
  exact_mod_cast Nat.mul_le_mul_right unitsPerOne power

lemma digits_eq_zero (h : l.value = 0) : l.digits = 0 := by
  have den : (l.den : ℚ) ≠ 0 := Nat.cast_ne_zero.mpr l.den_pos.ne'
  have quotient := l.abs_value
  rw [h, abs_zero, eq_comm, div_eq_zero_iff, or_iff_left den, Nat.cast_eq_zero] at quotient
  exact (Nat.mul_eq_zero.mp quotient).resolve_right (Nat.pow_pos (by decide)).ne'

/-- **A literal is turned into the number that its value is rounded to**, unless that is beyond the
largest one. -/
theorem toBinary64?_of_unitsOf (sign : x.negative = l.negative) (units : unitsOf |l.value| = x.units)
    (zero : x.units = 0 → l.value = 0) : l.toBinary64? = some x := by
  have finite : unitsOf |l.value| < limit := units ▸ x.fits.2
  rw [unitsOf_abs_value] at units
  unfold toBinary64?
  by_cases digits : l.digits = 0
  · rw [if_pos digits]
    have none : x.units = 0 := by
      rw [← units, num, digits, zero_mul, zero_mul]
      exact roundBits_eq_zero l.den_pos
    obtain ⟨negative, u, fits⟩ := x
    cases none
    rw [← sign]
    rfl
  rw [if_neg digits]
  split
  · rename_i nonneg
    rw [if_neg (scale_le digits finite).not_gt]
    rw [den_of_nonneg nonneg] at units
    exact ofUnits?_eq_some_iff.mpr ⟨sign, units.symm⟩
  · rename_i negative
    dsimp only
    rw [if_neg]
    · rw [num_of_nonpos (by omega)] at units
      exact ofUnits?_eq_some_iff.mpr ⟨sign, units.symm⟩
    · -- it would be rounded to zero
      intro cut
      have tiny := num_mul_lt_den (by omega) cut
      have twice : 2 * (l.num * unitsPerOne) = l.num * 2 ^ 1075 := by
        rw [unitsPerOne_eq, mul_left_comm, ← pow_succ']
      rw [← twice] at tiny
      exact digits (digits_eq_zero (zero (units.symm.trans (roundBits_eq_zero tiny))))

end Literal

end ApiStencil
