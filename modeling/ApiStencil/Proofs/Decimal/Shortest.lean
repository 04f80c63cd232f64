import ApiStencil.Decimal.Shortest
import ApiStencil.Proofs.Decimal.Units

/-!
# Shortest decimals read back

The first grids are only tried to find a short text: on the grid of seventeen digits a neighbour is
always close enough to read back (`candidate?_isSome`), so the search ends with a decimal that does
(`unitsOf_shortest`).
-/

namespace ApiStencil

namespace Decimal

open Binary64

-- its digits are never looked at
attribute [local irreducible] unitsPerOne

variable {units : ℕ} {d : Decimal} {scale : ℤ}

/-- The exact value. -/
def value (d : Decimal) : ℚ := d.digits * 10 ^ d.scale

lemma value_nonneg (d : Decimal) : 0 ≤ d.value :=
  mul_nonneg (Nat.cast_nonneg _) (zpow_nonneg (by norm_num) _)

lemma roundedUnits_eq (d : Decimal) : d.roundedUnits = unitsOf d.value := by
  have literal := Literal.unitsOf_abs_value ⟨false, d.digits, d.scale⟩
  have value : Literal.value ⟨false, d.digits, d.scale⟩ = d.value := rfl
  rw [value, abs_of_nonneg d.value_nonneg] at literal
  rw [literal]
  unfold roundedUnits
  split
  · rename_i nonneg
    rw [Literal.den_of_nonneg nonneg]
    rfl
  · rename_i negative
    rw [Literal.num_of_nonpos (by show d.scale ≤ 0; omega)]
    rfl

/-! ### The first digit -/

lemma scaled_pos (units : ℕ) (scale : ℤ) : 0 < (scaled units scale).2 := by
  have := unitsPerOne_pos
  unfold scaled
  split
  · exact Nat.mul_pos this (Nat.pow_pos (by decide))
  · exact this

lemma scaled_ratio (units : ℕ) (scale : ℤ) :
    ((scaled units scale).1 : ℚ) / (scaled units scale).2 = units / unitsPerOne / 10 ^ scale := by
  unfold scaled
  split
  · obtain ⟨n, rfl⟩ := Int.eq_ofNat_of_zero_le ‹0 ≤ scale›
    simp [div_div]
  · obtain ⟨n, rfl⟩ : ∃ n : ℕ, scale = -n := ⟨(-scale).toNat, by omega⟩
    simp [div_inv_eq_mul, mul_div_right_comm]

lemma reaches_iff : (scaled units scale).2 ≤ (scaled units scale).1 ↔
    (10 : ℚ) ^ scale ≤ units / unitsPerOne := by
  have ten : (0 : ℚ) < 10 ^ scale := zpow_pos (by norm_num) _
  have pos : (0 : ℚ) < (scaled units scale).2 := Nat.cast_pos.mpr (scaled_pos units scale)
  rw [← one_le_div₀ ten, ← scaled_ratio, one_le_div₀ pos, Nat.cast_le]

/-- A power of ten with an exponent a little below that of a power of two. -/
lemma ten_zpow_le {e place : ℤ} (estimate : 4096 * e ≤ 1233 * place) (low : -4096 ≤ place) :
    (10 : ℚ) ^ (e - 1) ≤ 2 ^ place := by
  have above : (10 : ℚ) ^ 1233 ≤ 2 ^ 4096 := by
    exact_mod_cast (by decide +kernel : 10 ^ 1233 ≤ 2 ^ 4096)
  have below : (2 : ℚ) ^ 4096 ≤ 10 ^ 1234 := by
    exact_mod_cast (by decide +kernel : 2 ^ 4096 ≤ 10 ^ 1234)
  have ten : (1 : ℚ) ≤ 10 := by norm_num
  -- both sides to the power of 4096
  refine (pow_le_pow_iff_left₀ (zpow_nonneg (by norm_num) _) (zpow_nonneg (by norm_num) _)
    (by norm_num : 4096 ≠ 0)).mp ?_
  rw [← zpow_natCast, ← zpow_natCast, ← zpow_mul, ← zpow_mul]
  rcases le_total 0 place with nonneg | nonpos
  · obtain ⟨n, rfl⟩ := Int.eq_ofNat_of_zero_le nonneg
    calc (10 : ℚ) ^ ((e - 1) * (4096 : ℕ)) ≤ 10 ^ ((1233 * n : ℕ) : ℤ) :=
          zpow_le_zpow_right₀ ten (by push_cast; omega)
      _ = (10 ^ 1233) ^ n := by rw [zpow_natCast, pow_mul]
      _ ≤ (2 ^ 4096) ^ n := by gcongr
      _ = 2 ^ ((n : ℤ) * (4096 : ℕ)) := by rw [← pow_mul, mul_comm, ← zpow_natCast]; push_cast; rfl
  · obtain ⟨n, rfl⟩ : ∃ n : ℕ, place = -n := ⟨(-place).toNat, by omega⟩
    calc (10 : ℚ) ^ ((e - 1) * (4096 : ℕ)) ≤ 10 ^ (-((1234 * n : ℕ) : ℤ)) :=
          zpow_le_zpow_right₀ ten (by push_cast; omega)
      _ = ((10 ^ 1234) ^ n)⁻¹ := by rw [zpow_neg, zpow_natCast, pow_mul]
      _ ≤ ((2 ^ 4096) ^ n)⁻¹ := by gcongr
      _ = 2 ^ (-(n : ℤ) * (4096 : ℕ)) := by
        rw [← pow_mul, mul_comm, ← zpow_natCast, ← zpow_neg]; push_cast; ring_nf

lemma two_zpow_le (h : units ≠ 0) : (2 : ℚ) ^ ((units.log2 : ℤ) - 1074) ≤ units / unitsPerOne := by
  have low : (2 : ℚ) ^ units.log2 ≤ units := by exact_mod_cast Nat.log2_self_le h
  rw [zpow_sub₀ two_ne_zero, zpow_natCast, zpow_ofNat, unitsPerOne_eq, Nat.cast_pow, Nat.cast_two]
  exact div_le_div_of_nonneg_right low (pow_nonneg zero_le_two _)

/-- The exponent that the search starts with is not too large. -/
lemma leadingExponent_le (h : units ≠ 0) :
    (10 : ℚ) ^ leadingExponent units ≤ units / unitsPerOne := by
  unfold leadingExponent
  dsimp only
  generalize found : List.find? _ _ = e
  cases e with
  | some e => simpa [reaches_iff] using List.find?_some found
  | none =>
    refine le_trans ?_ (two_zpow_le h)
    refine le_trans ?_ (ten_zpow_le (e := ((units.log2 : ℤ) - 1074) * 1233 / 4096) ?_ ?_)
    · exact zpow_le_zpow_right₀ (by norm_num) (by rw [Option.getD_none]; omega)
    · omega
    · omega

/-! ### Seventeen digits -/

/-- The neighbours of a value on a grid, the nearer first. -/
def neighbours (units : ℕ) (scale : ℤ) : List Decimal :=
  let (n, d) := scaled units scale
  let below : Decimal := ⟨n / d, scale⟩
  let above : Decimal := ⟨n / d + 1, scale⟩
  if 2 * (n % d) < d ∨ (2 * (n % d) = d ∧ n / d % 2 = 0) then [below, above] else [above, below]

lemma candidate?_eq (units : ℕ) (scale : ℤ) : candidate? units scale =
    (neighbours units scale).find? fun c => decide (c.roundedUnits = units) := rfl

lemma mem_neighbours : d ∈ neighbours units scale ↔ d.scale = scale ∧
    (d.digits = (scaled units scale).1 / (scaled units scale).2 ∨
      d.digits = (scaled units scale).1 / (scaled units scale).2 + 1) := by
  obtain ⟨digits, place⟩ := d
  unfold neighbours
  dsimp only
  split
  · simp only [List.mem_pair, mk.injEq]
    tauto
  · simp only [List.mem_pair, mk.injEq]
    tauto

/-- One of the neighbours is no further away than half of the spacing. -/
lemma exists_near (num : ℕ) {den : ℕ} (hd : 0 < den) :
    ∃ n : ℕ, (n = num / den ∨ n = num / den + 1) ∧ |(n : ℚ) - num / den| ≤ 1 / 2 := by
  have pos : (0 : ℚ) < den := Nat.cast_pos.mpr hd
  have parts : (num : ℚ) = (num / den : ℕ) * den + (num % den : ℕ) := by
    exact_mod_cast (Nat.div_add_mod' num den).symm
  have small := Nat.mod_lt num hd
  have quotient : (num : ℚ) / den = (num / den : ℕ) + (num % den : ℕ) / den := by
    rw [add_div' _ _ _ pos.ne', ← parts]
  rw [quotient]
  rcases le_total (2 * (num % den)) den with le | le
  · have le : ((num % den : ℕ) : ℚ) / den ≤ 1 / 2 := by
      rw [div_le_div_iff₀ pos two_pos]
      exact_mod_cast (by omega : num % den * 2 ≤ 1 * den)
    refine ⟨num / den, .inl rfl, ?_⟩
    rw [sub_add_cancel_left, abs_neg, abs_of_nonneg (by positivity)]
    exact le
  · have le : 1 / 2 ≤ ((num % den : ℕ) : ℚ) / den := by
      rw [div_le_div_iff₀ two_pos pos]
      exact_mod_cast (by omega : 1 * den ≤ num % den * 2)
    have lt : ((num % den : ℕ) : ℚ) / den ≤ 1 := by
      rw [div_le_one₀ pos]
      exact_mod_cast small.le
    refine ⟨num / den + 1, .inr rfl, ?_⟩
    rw [Nat.cast_add_one, add_sub_add_left_eq_sub, abs_of_nonneg (sub_nonneg.mpr lt)]
    linarith

/-- The error of a decimal on a grid, in units and in steps of the grid. -/
lemma error_eq (units n : ℕ) {step : ℚ} (hs : 0 < step) :
    |n * step * unitsPerOne - units| =
      |(n : ℚ) - units / unitsPerOne / step| * (step * unitsPerOne) := by
  have pos : (0 : ℚ) < unitsPerOne := Nat.cast_pos.mpr unitsPerOne_pos
  have product := abs_mul ((n : ℚ) - units / unitsPerOne / step) (step * unitsPerOne)
  rw [abs_of_pos (mul_pos hs pos)] at product
  rw [← product]
  congr 1
  field_simp

/-- **Seventeen digits are enough** to read a number back. -/
lemma candidate?_isSome (h : Short units) (ne : units ≠ 0) :
    (candidate? units (leadingExponent units - 16)).isSome = true := by
  have first := leadingExponent_le ne
  obtain ⟨n, which, near⟩ := exists_near (scaled units (leadingExponent units - 16)).1
    (scaled_pos units (leadingExponent units - 16))
  rw [candidate?_eq, List.find?_isSome]
  refine ⟨⟨n, leadingExponent units - 16⟩, mem_neighbours.mpr ⟨rfl, which⟩, decide_eq_true ?_⟩
  rw [roundedUnits_eq]
  refine unitsOf_of_close h (value_nonneg _) ?_
  have ten : (10 : ℚ) ^ leadingExponent units = 10 ^ 16 * 10 ^ (leadingExponent units - 16) := by
    rw [← zpow_natCast, ← zpow_add₀ (by norm_num)]
    congr 1
    omega
  have spacing : (0 : ℚ) < 10 ^ (leadingExponent units - 16) := zpow_pos (by norm_num) _
  have pos : (0 : ℚ) < unitsPerOne := Nat.cast_pos.mpr unitsPerOne_pos
  rw [scaled_ratio] at near
  rw [ten, le_div_iff₀ pos] at first
  rw [value]
  generalize (10 : ℚ) ^ (leadingExponent units - 16) = step at *
  rw [error_eq units n spacing]
  have half := mul_le_mul_of_nonneg_right near (mul_pos spacing pos).le
  have unit := mul_pos spacing pos
  linarith

lemma value_stripZeros (fuel : ℕ) (d : Decimal) : (stripZeros fuel d).value = d.value := by
  induction fuel generalizing d with
  | zero => rfl
  | succ fuel ih =>
    rw [stripZeros]
    split
    · rename_i zero
      have digits : (d.digits : ℚ) = 10 * (d.digits / 10 : ℕ) := by
        exact_mod_cast (by omega : d.digits = 10 * (d.digits / 10))
      rw [ih, value, value, zpow_add_one₀ (by norm_num), digits]
      ring
    · rfl

/-- **The shortest decimal reads back.** -/
theorem unitsOf_shortest (h : Short units) (ne : units ≠ 0) : unitsOf (shortest units).value = units := by
  unfold shortest
  dsimp only
  generalize found : List.findSome? _ _ = d
  cases d with
  | none =>
    rw [List.findSome?_eq_none_iff] at found
    have none := found (leadingExponent units - 16) (List.mem_map.mpr ⟨16, by simp, rfl⟩)
    have some := candidate?_isSome h ne
    rw [none] at some
    cases some
  | some d =>
    obtain ⟨scale, -, reads⟩ := List.exists_of_findSome?_eq_some found
    rw [candidate?_eq] at reads
    have same := List.find?_some reads
    rw [value_stripZeros, ← roundedUnits_eq]
    exact of_decide_eq_true same

end Decimal

end ApiStencil
