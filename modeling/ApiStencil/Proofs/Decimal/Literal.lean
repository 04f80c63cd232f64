import ApiStencil.Proofs.Decimal.Spelling
import ApiStencil.Proofs.Decimal.Value
import Mathlib.Tactic.NormNum.Pow

/-!
# The binary64 number of a literal

A literal is turned into the rounding of its exact value.  Where it is cut off as too small, or as too
large, its power of ten is not computed; neither touches a value that matters here.

* `value_literal` — what is read from a spelling has the value that it writes;
* `near_of_toBinary64?` — a number is off from its literal by no more than rounding;
* `exists_value_eq` — a literal for a whole number up to `2 ^ 53` is turned into just that number.
-/

namespace ApiStencil

/-- A magnitude with a sign. -/
def signed (negative : Bool) (q : ℚ) : ℚ := if negative then -q else q

section Signed

variable (negative : Bool) (p q : ℚ)

lemma abs_signed : |signed negative q| = |q| := by
  cases negative <;> simp [signed]

lemma abs_signed_sub : |signed negative p - signed negative q| = |p - q| := by
  cases negative
  · rfl
  · rw [signed, signed, if_pos rfl, if_pos rfl, neg_sub_neg, abs_sub_comm]

end Signed

namespace Literal

/-- The exact value of a literal. -/
def value (l : Literal) : ℚ := signed l.negative (l.digits * 10 ^ l.scale)

theorem value_literal (s : Spelling) : s.literal.value = s.value := by
  have ten : (10 : ℚ) ≠ 0 := by norm_num
  have magnitude : (number (s.whole ++ s.fraction) : ℚ) * 10 ^ (s.power - s.fraction.length) =
      (number s.whole + number s.fraction / 10 ^ s.fraction.length) * 10 ^ s.power := by
    rw [number_append, zpow_sub₀ ten, zpow_natCast]
    push_cast
    field_simp
  rw [value, Spelling.literal, magnitude, Spelling.value]
  cases s.sign with
  | minus => simp only [signed, Sign.factor, decide_true, if_true, Int.cast_neg, Int.cast_one,
      neg_mul, one_mul]
  | _ => simp [signed, Sign.factor]

end Literal

namespace Binary64

-- its digits are never looked at
attribute [local irreducible] unitsPerOne

variable {x : Binary64} {negative : Bool} {num den units : ℕ} {q : ℚ}

/-- The magnitude of a number. -/
def magnitude (x : Binary64) : ℚ := x.units / unitsPerOne

lemma value_eq_signed (x : Binary64) : x.value = signed x.negative x.magnitude := by
  unfold value signedUnits signed magnitude
  split
  · push_cast
    rw [neg_div]
  · push_cast
    rfl

lemma magnitude_nonneg (x : Binary64) : 0 ≤ x.magnitude := by
  unfold magnitude
  positivity

lemma magnitude_zero (negative : Bool) : (zero negative).magnitude = 0 := by
  rw [magnitude, zero, Nat.cast_zero, zero_div]

/-- A number stands for `q` if it differs by no more than half of the last of its 53 bits, or half of
the least unit. -/
def Near (x : Binary64) (q : ℚ) : Prop :=
  |q - x.value| ≤ |x.value| / 2 ^ 53 ∨ |q - x.value| ≤ 1 / 2 ^ 1075

lemma near_of_magnitude (h : |q - x.magnitude| ≤ x.magnitude / 2 ^ 53 ∨
    |q - x.magnitude| ≤ 1 / 2 ^ 1075) : x.Near (signed x.negative q) := by
  rwa [Near, value_eq_signed, abs_signed_sub, abs_signed, abs_of_nonneg x.magnitude_nonneg]

lemma ofUnits?_eq_some_iff :
    ofUnits? negative units = some x ↔ x.negative = negative ∧ x.units = units := by
  unfold ofUnits?
  obtain ⟨n, u, fits⟩ := x
  by_cases h : Fits units
  · rw [dif_pos h]
    simp [eq_comm]
  · rw [dif_neg h]
    refine ⟨nofun, ?_⟩
    rintro ⟨-, rfl⟩
    exact absurd fits h

lemma half_unit_eq : 1 / (2 : ℚ) ^ 1075 = 1 / (2 * unitsPerOne) := by
  rw [unitsPerOne_eq, Nat.cast_pow, Nat.cast_two, ← pow_succ']

lemma cast_dist (m n : ℕ) : (Nat.dist m n : ℚ) = |(m : ℚ) - n| := by
  rcases le_total m n with le | le
  · rw [Nat.dist_eq_sub_of_le le, Nat.cast_sub le, abs_sub_comm, abs_of_nonneg]
    exact sub_nonneg.mpr (Nat.cast_le.mpr le)
  · rw [Nat.dist_eq_sub_of_le_right le, Nat.cast_sub le, abs_of_nonneg]
    exact sub_nonneg.mpr (Nat.cast_le.mpr le)

/-- **A rounded quotient is near the exact one.** -/
theorem near_of_ofRatio? (hd : 0 < den) (h : ofRatio? negative num den = some x) :
    x.Near (signed negative (num / den)) := by
  obtain ⟨rfl, rounded⟩ := ofUnits?_eq_some_iff.mp h
  have pos : (0 : ℚ) < den := Nat.cast_pos.mpr hd
  have unit_pos : (0 : ℚ) < unitsPerOne := Nat.cast_pos.mpr unitsPerOne_pos
  have error : |(num : ℚ) / den - x.magnitude| =
      Nat.dist (num * unitsPerOne) (x.units * den) / (den * unitsPerOne) := by
    rw [magnitude, div_sub_div _ _ pos.ne' unit_pos.ne', abs_div, abs_of_pos (mul_pos pos unit_pos),
      mul_comm (den : ℚ), cast_dist, Nat.cast_mul, Nat.cast_mul]
  have bound := two_mul_dist_roundBits_le (num * unitsPerOne) hd
  rw [← rounded] at bound
  refine near_of_magnitude ?_
  rw [error, magnitude, half_unit_eq, div_div]
  clear error
  generalize Nat.dist _ _ = d at bound ⊢
  rcases bound with half | last
  · right
    have half : (2 : ℚ) * d ≤ den := by exact_mod_cast half
    have := mul_le_mul_of_nonneg_right half unit_pos.le
    rw [div_le_div_iff₀ (by positivity) (by positivity)]
    linarith
  · left
    have last : (2 : ℚ) ^ 53 * d ≤ x.units * den := by exact_mod_cast last
    have := mul_le_mul_of_nonneg_right last unit_pos.le
    rw [div_le_div_iff₀ (by positivity) (by positivity)]
    linarith

end Binary64

namespace Literal

open Binary64

-- its digits are never looked at
attribute [local irreducible] unitsPerOne

variable {l : Literal} {x : Binary64} {n : ℕ}

/-- The numerator of the magnitude. -/
def num (l : Literal) : ℕ := l.digits * 10 ^ l.scale.toNat

/-- The denominator of the magnitude. -/
def den (l : Literal) : ℕ := 10 ^ (-l.scale).toNat

lemma den_pos (l : Literal) : 0 < l.den := Nat.pow_pos (by decide)

lemma den_of_nonneg (h : 0 ≤ l.scale) : l.den = 1 := by
  rw [den, show (-l.scale).toNat = 0 by omega, pow_zero]

lemma num_of_nonpos (h : l.scale ≤ 0) : l.num = l.digits := by
  rw [num, show l.scale.toNat = 0 by omega, pow_zero, mul_one]

lemma value_eq_signed (l : Literal) : l.value = signed l.negative (l.num / l.den) := by
  have ten : (10 : ℚ) ≠ 0 := by norm_num
  have power : (10 : ℚ) ^ l.scale = 10 ^ l.scale.toNat / 10 ^ (-l.scale).toNat := by
    rw [← zpow_natCast, ← zpow_natCast, ← zpow_sub₀ ten]
    congr 1
    omega
  rw [value, power, num, den, mul_div_assoc']
  push_cast
  rfl

lemma abs_value (l : Literal) : |l.value| = l.num / l.den := by
  rw [value_eq_signed, abs_signed, abs_of_nonneg (by positivity)]

/-- Where a literal is cut off, its magnitude is less than half of the least unit. -/
lemma num_mul_lt_den (negative : l.scale < 0)
    (h : l.digits.log2 + 1076 ≤ 3 * (-l.scale).toNat) : l.num * 2 ^ 1075 < l.den := by
  have digits : l.digits < 2 ^ (l.digits.log2 + 1) := Nat.lt_log2_self
  calc l.num * 2 ^ 1075 = l.digits * 2 ^ 1075 := by rw [num_of_nonpos negative.le]
    _ < 2 ^ (l.digits.log2 + 1) * 2 ^ 1075 := by gcongr
    _ = 2 ^ (l.digits.log2 + 1076) := by rw [← pow_add]
    _ ≤ 2 ^ (3 * (-l.scale).toNat) := Nat.pow_le_pow_right Nat.two_pos h
    _ = 8 ^ (-l.scale).toNat := by rw [pow_mul]; norm_num
    _ ≤ 10 ^ (-l.scale).toNat := Nat.pow_le_pow_left (by decide) _

/-- What a literal is turned into: zero where it is cut off, or its magnitude rounded. -/
lemma toBinary64?_cases (h : l.toBinary64? = some x) :
    (x = zero l.negative ∧ l.num * 2 ^ 1075 < l.den) ∨
      ofRatio? l.negative l.num l.den = some x := by
  unfold toBinary64? at h
  split at h
  · rename_i no_digits
    refine .inl ⟨(Option.some.inj h).symm, ?_⟩
    rw [num, no_digits, zero_mul, zero_mul]
    exact l.den_pos
  split at h
  · rename_i nonneg
    split at h
    · cases h
    · rw [den_of_nonneg nonneg]
      exact .inr h
  · rename_i negative
    dsimp only at h
    split at h
    · rename_i small
      exact .inl ⟨(Option.some.inj h).symm, num_mul_lt_den (by omega) small⟩
    · rw [num_of_nonpos (by omega)]
      exact .inr h

/-- **The number of a literal is near its exact value.** -/
theorem near_of_toBinary64? (h : l.toBinary64? = some x) : x.Near l.value := by
  rw [value_eq_signed]
  rcases toBinary64?_cases h with ⟨rfl, small⟩ | ratio
  · refine near_of_magnitude (.inr ?_)
    have pos : (0 : ℚ) < l.den := Nat.cast_pos.mpr l.den_pos
    have small : (l.num : ℚ) * 2 ^ 1075 ≤ l.den := by exact_mod_cast small.le
    rw [magnitude_zero, sub_zero, abs_of_nonneg (by positivity),
      div_le_div_iff₀ pos (by positivity), one_mul]
    exact small
  · exact near_of_ofRatio? l.den_pos ratio

/-- The magnitude of a short whole number is not rounded. -/
lemma exists_ofRatio? (whole : l.num = n * l.den) (hn : n ≤ 2 ^ 53) (negative : Bool) :
    ∃ x, ofRatio? negative l.num l.den = some x ∧ x.negative = negative ∧
      x.units = n * unitsPerOne := by
  have short := short_mul_unitsPerOne hn
  have bound : 2 ^ 53 * unitsPerOne < limit := by decide +kernel
  have lt : n * unitsPerOne < limit := (Nat.mul_le_mul_right _ hn).trans_lt bound
  refine ⟨⟨negative, _, short, lt⟩, ofUnits?_eq_some_iff.mpr ⟨rfl, ?_⟩, rfl, rfl⟩
  rw [whole, mul_right_comm, roundBits_mul l.den_pos short]

/-- A literal for a short whole number is turned into a number. -/
lemma exists_toBinary64? (whole : l.num = n * l.den) (hn : n ≤ 2 ^ 53) :
    ∃ x, l.toBinary64? = some x ∧ x.negative = l.negative ∧ x.units = n * unitsPerOne := by
  have den := l.den_pos
  unfold toBinary64?
  split
  · rename_i no_digits
    have zero : n = 0 := by
      rw [num, no_digits, zero_mul, eq_comm, Nat.mul_eq_zero] at whole
      omega
    exact ⟨_, rfl, rfl, by rw [zero, zero_mul]; rfl⟩
  rename_i digits
  split
  · rename_i nonneg
    rw [if_neg]
    · have := exists_ofRatio? whole hn l.negative
      rwa [den_of_nonneg nonneg] at this
    · -- the magnitude would be ten to the power of 400 at least
      intro large
      have power : 10 ^ 16 ≤ 10 ^ l.scale.toNat := Nat.pow_le_pow_right (by decide) (by omega)
      have := Nat.le_mul_of_pos_left (10 ^ l.scale.toNat) (Nat.pos_of_ne_zero digits)
      rw [den_of_nonneg nonneg, mul_one, num] at whole
      omega
  · rename_i negative
    dsimp only
    rw [if_neg]
    · have := exists_ofRatio? whole hn l.negative
      rwa [num_of_nonpos (by omega)] at this
    · intro small
      have small := num_mul_lt_den (by omega) small
      have positive : 0 < l.num := Nat.mul_pos (Nat.pos_of_ne_zero digits) (Nat.pow_pos (by decide))
      rw [whole] at positive
      have large : l.den ≤ n * l.den := Nat.le_mul_of_pos_left _ (Nat.pos_of_mul_pos_right positive)
      rw [← whole] at large
      exact absurd (large.trans (Nat.le_mul_of_pos_right _ (by positivity))) small.not_ge

/-- **A literal for a whole number** up to `2 ^ 53` is turned into exactly that number. -/
theorem exists_value_eq (h : |l.value| = n) (hn : n ≤ 2 ^ 53) :
    ∃ x, l.toBinary64? = some x ∧ x.value = l.value := by
  have den : (l.den : ℚ) ≠ 0 := Nat.cast_ne_zero.mpr l.den_pos.ne'
  rw [abs_value, div_eq_iff den] at h
  have whole : l.num = n * l.den := by exact_mod_cast h
  obtain ⟨x, eq, negative, units⟩ := exists_toBinary64? whole hn
  refine ⟨x, eq, ?_⟩
  have pos : (unitsPerOne : ℚ) ≠ 0 := Nat.cast_ne_zero.mpr unitsPerOne_pos.ne'
  rw [Binary64.value_eq_signed, value_eq_signed, negative, magnitude, units, whole, Nat.cast_mul,
    Nat.cast_mul, mul_div_cancel_right₀ _ pos, mul_div_cancel_right₀ _ den]

end Literal

end ApiStencil
