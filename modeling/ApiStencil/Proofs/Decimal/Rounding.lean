import ApiStencil.Decimal.Binary64
import Mathlib.Data.Nat.Dist
import Mathlib.Algebra.Order.Ring.Nat
import Mathlib.Tactic.Lemma
import Mathlib.Tactic.Positivity
import Mathlib.Tactic.Ring

/-!
# Rounding to 53 significant bits

`roundDiv` gives the nearest multiple of the divisor.  `roundBits` gives the nearest of the numbers
with at most 53 significant bits (`Binary64.Short`), with whatever power of two as their last place:

* `two_mul_dist_roundBits_le` — how far the rounded number is off;
* `roundBits_mul` — a short number is left as it is;
* `roundBits_of_close` — a quotient close to a short number is rounded to it;
* `roundBits_nearest`, `roundBits_tie` — no short number is nearer, and one that is as near has an odd
  last bit.
-/

namespace ApiStencil

/-! ### Rounding to a whole number -/

section RoundDiv

variable {num den k l : ℕ}

lemma roundDiv_cases (num den : ℕ) :
    (roundDiv num den = num / den ∧ 2 * (num % den) ≤ den) ∨
      (roundDiv num den = num / den + 1 ∧ den ≤ 2 * (num % den)) := by
  unfold roundDiv
  dsimp only
  split
  · exact .inl ⟨rfl, by omega⟩
  · split
    · exact .inr ⟨rfl, by omega⟩
    · rcases Nat.mod_two_eq_zero_or_one (num / den) with even | odd
      · exact .inl ⟨by omega, by omega⟩
      · exact .inr ⟨by omega, by omega⟩

lemma roundDiv_bounds (num den : ℕ) :
    num / den ≤ roundDiv num den ∧ roundDiv num den ≤ num / den + 1 := by
  rcases roundDiv_cases num den with ⟨eq, -⟩ | ⟨eq, -⟩ <;> omega

lemma dist_roundDiv (num : ℕ) (hd : 0 < den) :
    Nat.dist num (roundDiv num den * den) = min (num % den) (den - num % den) := by
  have parts := Nat.div_add_mod' num den
  have small := Nat.mod_lt num hd
  unfold Nat.dist
  rcases roundDiv_cases num den with ⟨eq, near⟩ | ⟨eq, near⟩
  · rw [eq]
    omega
  · rw [eq, Nat.add_one_mul (num / den) den]
    omega

lemma roundDiv_mul (hd : 0 < den) (k : ℕ) : roundDiv (k * den) den = k := by
  unfold roundDiv
  simp [Nat.mul_div_cancel k hd, hd]

/-- The next multiple is a divisor further. -/
lemma mul_add_le_of_lt (h : k < l) (den : ℕ) : k * den + den ≤ l * den := by
  have step := Nat.mul_le_mul_right den (Nat.succ_le_of_lt h)
  rwa [Nat.succ_mul] at step

/-- Different multiples are at least the divisor apart. -/
lemma le_dist_mul_of_ne (h : k ≠ l) (den : ℕ) : den ≤ Nat.dist (k * den) (l * den) := by
  unfold Nat.dist
  rcases Nat.lt_or_gt_of_ne h with lt | lt
  · have := mul_add_le_of_lt lt den
    omega
  · have := mul_add_le_of_lt lt den
    omega

/-- **No multiple is nearer** than the rounded one. -/
lemma roundDiv_nearest (num : ℕ) (hd : 0 < den) (k : ℕ) :
    Nat.dist num (roundDiv num den * den) ≤ Nat.dist num (k * den) := by
  by_cases same : k = roundDiv num den
  · rw [same]
  have half := dist_roundDiv num hd
  have apart := le_dist_mul_of_ne same den
  have triangle := Nat.dist.triangle_inequality (k * den) num (roundDiv num den * den)
  rw [Nat.dist_comm (k * den) num] at triangle
  omega

/-- A multiple that is as near is a neighbour with an odd factor. -/
lemma roundDiv_tie (hd : 0 < den) (ne : k ≠ roundDiv num den)
    (tie : Nat.dist num (k * den) = Nat.dist num (roundDiv num den * den)) :
    roundDiv num den % 2 = 0 ∧ k % 2 = 1 ∧ num / den ≤ k ∧ k ≤ num / den + 1 := by
  have half := dist_roundDiv num hd
  have apart := le_dist_mul_of_ne ne den
  have triangle := Nat.dist.triangle_inequality (k * den) num (roundDiv num den * den)
  rw [Nat.dist_comm (k * den) num] at triangle
  have exact_half : 2 * (num % den) = den := by omega
  have even : roundDiv num den = num / den + num / den % 2 := by
    simp [roundDiv, exact_half]
  have parts := Nat.div_add_mod' num den
  -- further off on either side the distance is more than half of the divisor
  have low : num / den ≤ k := by
    by_contra lt
    have step := Nat.mul_le_mul_right den (Nat.lt_of_not_le lt)
    rw [Nat.succ_mul] at step
    unfold Nat.dist at *
    omega
  have high : k ≤ num / den + 1 := by
    by_contra lt
    have step := Nat.mul_le_mul_right den (Nat.lt_of_not_le lt)
    rw [Nat.succ_mul, Nat.add_one_mul (num / den)] at step
    unfold Nat.dist at *
    omega
  omega

end RoundDiv

/-! ### Short numbers -/

namespace Binary64

/-- At most 53 significant bits. -/
def Short (units : ℕ) : Prop := units % 2 ^ (units.log2 - 52) = 0

/-- The last of the 53 bits is not set. -/
def EvenLast (units : ℕ) : Prop := units / 2 ^ (units.log2 - 52) % 2 = 0

variable {k e units : ℕ}

lemma log2_mul_two_pow (hk : k ≠ 0) (e : ℕ) : (k * 2 ^ e).log2 = k.log2 + e := by
  have low := Nat.log2_self_le hk
  have high := Nat.lt_log2_self (n := k)
  have pos := Nat.two_pow_pos e
  refine (Nat.log2_eq_iff (by positivity)).mpr ⟨?_, ?_⟩
  · rw [pow_add]
    exact Nat.mul_le_mul_right _ low
  · rw [show k.log2 + e + 1 = k.log2 + 1 + e by omega, pow_add]
    exact Nat.mul_lt_mul_of_pos_right high pos

/-- The last bit of a number of 53 bits, or of fewer if it is one of the least units. -/
lemma log2_sub_eq (hk : k < 2 ^ 53) (he : e = 0 ∨ 2 ^ 52 ≤ k) : (k * 2 ^ e).log2 - 52 = e := by
  by_cases zero : k = 0
  · subst zero
    simp at he
    simp [he]
  rw [log2_mul_two_pow zero]
  have high := (Nat.log2_lt zero).mpr hk
  rcases he with rfl | large
  · omega
  · have := (Nat.le_log2 zero).mpr large
    omega

lemma evenLast_mul_iff (hk : k < 2 ^ 53) (he : e = 0 ∨ 2 ^ 52 ≤ k) :
    EvenLast (k * 2 ^ e) ↔ k % 2 = 0 := by
  rw [EvenLast, log2_sub_eq hk he, Nat.mul_div_cancel k (Nat.two_pow_pos e)]

lemma short_mul_two_pow (hk : k ≤ 2 ^ 53) (e : ℕ) : Short (k * 2 ^ e) := by
  unfold Short
  rcases Nat.lt_or_eq_of_le hk with lt | rfl
  · by_cases zero : k = 0
    · simp [zero]
    rw [log2_mul_two_pow zero]
    have high := (Nat.log2_lt zero).mpr lt
    have divides : 2 ^ (k.log2 + e - 52) ∣ 2 ^ e := Nat.pow_dvd_pow 2 (by omega)
    exact Nat.mod_eq_zero_of_dvd (divides.mul_left k)
  · rw [← pow_add, Nat.log2_two_pow]
    exact Nat.mod_eq_zero_of_dvd (Nat.pow_dvd_pow 2 (by omega))

lemma Short.exists_eq (h : Short units) : ∃ k e, k ≤ 2 ^ 53 ∧ units = k * 2 ^ e := by
  refine ⟨units / 2 ^ (units.log2 - 52), units.log2 - 52, ?_,
    (Nat.div_mul_cancel (Nat.dvd_of_mod_eq_zero h)).symm⟩
  have high := Nat.lt_log2_self (n := units)
  refine (Nat.div_lt_iff_lt_mul (Nat.two_pow_pos _)).mpr ?_ |>.le
  rw [← pow_add]
  exact high.trans_le (Nat.pow_le_pow_right (by omega) (by omega))

/-- A short number is a multiple of a power of two, or small against it. -/
lemma Short.multiple_or_le (h : Short units) (e : ℕ) :
    (∃ k, units = k * 2 ^ e) ∨ (0 < e ∧ units < 2 ^ 52 * 2 ^ e) := by
  obtain ⟨k, e', hk, rfl⟩ := h.exists_eq
  by_cases le : e ≤ e'
  · refine .inl ⟨k * 2 ^ (e' - e), ?_⟩
    rw [mul_assoc, ← pow_add, Nat.sub_add_cancel le]
  · have bound : k * 2 ^ e' ≤ 2 ^ 52 * 2 ^ e := by
      refine (Nat.mul_le_mul_right _ hk).trans ?_
      rw [← pow_add, ← pow_add]
      exact Nat.pow_le_pow_right (by omega) (by omega)
    rcases Nat.lt_or_eq_of_le bound with lt | eq
    · exact .inr ⟨by omega, lt⟩
    · exact .inl ⟨2 ^ 52, eq⟩

/-- The short numbers below another one keep away from it, by half of its last place at least. -/
lemma Short.le_gap {m : ℕ} (hm : Short m) (hk : Short k) (lt : k < m) : m ≤ (m - k) * 2 ^ 53 := by
  have low := Nat.log2_self_le (n := m) (by omega)
  have high := Nat.lt_log2_self (n := m)
  by_cases small : m.log2 < 53
  · have := high.trans_le (Nat.pow_le_pow_right Nat.two_pos (by omega : m.log2 + 1 ≤ 53))
    omega
  obtain ⟨e, place⟩ : ∃ e, m.log2 = 53 + e := ⟨m.log2 - 53, by omega⟩
  rw [Short, place, show 53 + e - 52 = e + 1 by omega] at hm
  rw [place, show 53 + e = 52 + (e + 1) by omega, pow_add] at low
  rw [place, show 53 + e + 1 = 53 + (e + 1) by omega, pow_add] at high
  have multiple := (Nat.div_mul_cancel (Nat.dvd_of_mod_eq_zero hm)).symm
  have half : 2 ^ (e + 1) = 2 * 2 ^ e := by rw [pow_succ, mul_comm]
  generalize m / 2 ^ (e + 1) = j at multiple
  subst multiple
  rcases hk.multiple_or_le (e + 1) with ⟨i, rfl⟩ | ⟨-, below⟩
  · have := mul_add_le_of_lt (Nat.lt_of_mul_lt_mul_right lt) (2 ^ (e + 1))
    omega
  by_cases power : j = 2 ^ 52
  · -- below a power of two the last place is half as large
    subst power
    rcases hk.multiple_or_le e with ⟨i, rfl⟩ | ⟨-, below'⟩
    · have step : i * 2 ^ e < 2 ^ 53 * 2 ^ e := by omega
      have := mul_add_le_of_lt (Nat.lt_of_mul_lt_mul_right step) (2 ^ e)
      omega
    · omega
  · have step := Nat.le_of_mul_le_mul_right low (Nat.two_pow_pos (e + 1))
    have := mul_add_le_of_lt (lt_of_le_of_ne step (Ne.symm power)) (2 ^ (e + 1))
    omega

end Binary64

/-! ### Rounding to 53 bits -/

section RoundBits

open Binary64

variable {num den num' den' m : ℕ}

/-- What the last of the 53 bits of a quotient counts. -/
def lastPlace (num den : ℕ) : ℕ := (num / den).log2 - 52

lemma roundBits_eq (num den : ℕ) :
    roundBits num den = roundDiv num (den * 2 ^ lastPlace num den) * 2 ^ lastPlace num den := rfl

lemma roundBits_mul_eq (num den : ℕ) :
    roundBits num den * den =
      roundDiv num (den * 2 ^ lastPlace num den) * (den * 2 ^ lastPlace num den) := by
  rw [roundBits_eq]
  ring

lemma le_of_lastPlace (h : 0 < lastPlace num den) :
    2 ^ 52 * (den * 2 ^ lastPlace num den) ≤ num := by
  have zero : num / den ≠ 0 := by
    intro eq
    simp [lastPlace, eq] at h
  have low := Nat.log2_self_le zero
  have sum : (num / den).log2 = 52 + lastPlace num den := by
    unfold lastPlace at *
    omega
  rw [sum, pow_add] at low
  calc 2 ^ 52 * (den * 2 ^ lastPlace num den) = 2 ^ 52 * 2 ^ lastPlace num den * den := by ring
    _ ≤ num / den * den := Nat.mul_le_mul_right _ low
    _ ≤ num := Nat.div_mul_le_self num den

lemma quotient_lt (num den : ℕ) : num / (den * 2 ^ lastPlace num den) < 2 ^ 53 := by
  rw [← Nat.div_div_eq_div_mul]
  refine (Nat.div_lt_iff_lt_mul (Nat.two_pow_pos _)).mpr ?_
  rw [← pow_add]
  refine (Nat.lt_log2_self (n := num / den)).trans_le (Nat.pow_le_pow_right (by omega) ?_)
  unfold lastPlace
  omega

lemma quotient_ge (num : ℕ) (hd : 0 < den) :
    lastPlace num den = 0 ∨ 2 ^ 52 ≤ num / (den * 2 ^ lastPlace num den) := by
  rcases Nat.eq_zero_or_pos (lastPlace num den) with zero | pos
  · exact .inl zero
  · exact .inr ((Nat.le_div_iff_mul_le (by positivity)).mpr (le_of_lastPlace pos))

lemma short_roundBits (num den : ℕ) : Short (roundBits num den) := by
  have lt := quotient_lt num den
  have bounds := roundDiv_bounds num (den * 2 ^ lastPlace num den)
  rw [roundBits_eq]
  exact short_mul_two_pow (by omega) _

/-- The error is half a unit in the last of the 53 bits, or half of one. -/
theorem two_mul_dist_roundBits_le (num : ℕ) (hd : 0 < den) :
    2 * Nat.dist num (roundBits num den * den) ≤ den ∨
      2 ^ 53 * Nat.dist num (roundBits num den * den) ≤ roundBits num den * den := by
  have pos : 0 < den * 2 ^ lastPlace num den := by positivity
  have half := dist_roundDiv num pos
  have low := quotient_ge num hd
  rw [roundBits_mul_eq]
  generalize place : den * 2 ^ lastPlace num den = g at *
  rcases low with zero | large
  · rw [zero, pow_zero, mul_one] at place
    exact .inl (by omega)
  · have bounds := roundDiv_bounds num g
    have : 2 ^ 52 * g ≤ roundDiv num g * g := Nat.mul_le_mul_right g (by omega)
    exact .inr (by omega)

/-- **A short number is its own rounding.** -/
theorem roundBits_mul (hd : 0 < den) (h : Short m) : roundBits (m * den) den = m := by
  have place : lastPlace (m * den) den = m.log2 - 52 := by
    rw [lastPlace, Nat.mul_div_cancel m hd]
  have divides : m / 2 ^ (m.log2 - 52) * 2 ^ (m.log2 - 52) = m :=
    Nat.div_mul_cancel (Nat.dvd_of_mod_eq_zero h)
  have positive := Nat.two_pow_pos (m.log2 - 52)
  rw [roundBits_eq, place]
  generalize 2 ^ (m.log2 - 52) = g at *
  have pos : 0 < den * g := by positivity
  have product : m / g * (den * g) = m * den := by
    rw [mul_left_comm, divides, mul_comm]
  rw [← product, roundDiv_mul pos, divides]

/-- **No short number is nearer.** -/
theorem roundBits_nearest (num : ℕ) (hd : 0 < den) (h : Short m) :
    Nat.dist num (roundBits num den * den) ≤ Nat.dist num (m * den) := by
  have pos : 0 < den * 2 ^ lastPlace num den := by positivity
  rw [roundBits_mul_eq]
  rcases h.multiple_or_le (lastPlace num den) with ⟨k, rfl⟩ | ⟨large, lt⟩
  · have nearest := roundDiv_nearest num pos k
    rwa [show k * 2 ^ lastPlace num den * den = k * (den * 2 ^ lastPlace num den) by ring]
  · -- `m` lies below the least quotient with this last place
    have nearest := roundDiv_nearest num pos (2 ^ 52)
    have low := le_of_lastPlace large
    have below : m * den ≤ 2 ^ 52 * (den * 2 ^ lastPlace num den) := by
      calc m * den ≤ 2 ^ 52 * 2 ^ lastPlace num den * den := Nat.mul_le_mul_right den lt.le
        _ = 2 ^ 52 * (den * 2 ^ lastPlace num den) := by ring
    unfold Nat.dist at *
    omega

/-- A quotient up to a short number is not rounded beyond it. -/
theorem roundBits_le (hd : 0 < den) (h : Short m) (le : num ≤ m * den) :
    roundBits num den ≤ m := by
  have nearest := roundBits_nearest num hd h
  refine Nat.le_of_mul_le_mul_right ?_ hd
  unfold Nat.dist at nearest
  omega

/-- A quotient from a short number on is not rounded below it. -/
theorem le_roundBits (hd : 0 < den) (h : Short m) (le : m * den ≤ num) :
    m ≤ roundBits num den := by
  have nearest := roundBits_nearest num hd h
  refine Nat.le_of_mul_le_mul_right ?_ hd
  unfold Nat.dist at nearest
  omega

/-- **A quotient is rounded to the short number that it is close to.** -/
theorem roundBits_of_close (hd : 0 < den) (h : Short m)
    (close : 2 ^ 54 * Nat.dist num (m * den) < m * den) : roundBits num den = m := by
  have nearest := roundBits_nearest num hd h
  have triangle := Nat.dist.triangle_inequality (m * den) num (roundBits num den * den)
  rw [Nat.dist_comm (m * den) num] at triangle
  have apart : 2 ^ 53 * Nat.dist m (roundBits num den) < m := by
    refine Nat.lt_of_mul_lt_mul_right (a := den) ?_
    rw [mul_assoc, ← Nat.dist_mul_right]
    omega
  -- two short numbers are not that close to one another
  unfold Nat.dist at apart
  rcases Nat.lt_trichotomy m (roundBits num den) with lt | eq | lt
  · have gap := (short_roundBits num den).le_gap h lt
    omega
  · exact eq.symm
  · have gap := h.le_gap (short_roundBits num den) lt
    omega

/-- Less than half is rounded to nothing. -/
lemma roundBits_eq_zero (h : 2 * num < den) : roundBits num den = 0 := by
  have quotient : num / den = 0 := Nat.div_eq_of_lt (by omega)
  have place : lastPlace num den = 0 := by simp [lastPlace, quotient]
  rw [roundBits_eq, place, pow_zero, mul_one, mul_one, roundDiv, quotient,
    Nat.mod_eq_of_lt (by omega), if_pos h]

lemma roundBits_mul_right {k : ℕ} (hk : 0 < k) (num den : ℕ) :
    roundBits (num * k) (den * k) = roundBits num den := by
  have quotient : roundDiv (num * k) (den * 2 ^ lastPlace num den * k) =
      roundDiv num (den * 2 ^ lastPlace num den) := by
    have scale {a b : ℕ} : a * k < b * k ↔ a < b := Nat.mul_lt_mul_right hk
    unfold roundDiv
    simp only [Nat.mul_div_mul_right _ _ hk, Nat.mul_mod_mul_right, ← mul_assoc, scale]
  have place : lastPlace (num * k) (den * k) = lastPlace num den := by
    rw [lastPlace, lastPlace, Nat.mul_div_mul_right _ _ hk]
  rw [roundBits_eq, roundBits_eq, place, mul_right_comm den k, quotient]

/-- Rounding depends on the quotient only. -/
theorem roundBits_congr (hd : 0 < den) (hd' : 0 < den') (same : num * den' = num' * den) :
    roundBits num den = roundBits num' den' := by
  rw [← roundBits_mul_right hd', same, mul_comm den, roundBits_mul_right hd]

/-- **Ties go to the even last bit**: a short number as near has an odd one. -/
theorem roundBits_tie (hd : 0 < den) (h : Short m) (ne : m ≠ roundBits num den)
    (tie : Nat.dist num (m * den) = Nat.dist num (roundBits num den * den)) :
    EvenLast (roundBits num den) ∧ ¬ EvenLast m := by
  have pos : 0 < den * 2 ^ lastPlace num den := by positivity
  rw [roundBits_mul_eq] at tie
  rcases h.multiple_or_le (lastPlace num den) with ⟨k, rfl⟩ | ⟨large, lt⟩
  · rw [show k * 2 ^ lastPlace num den * den = k * (den * 2 ^ lastPlace num den) by ring] at tie
    have other : k ≠ roundDiv num (den * 2 ^ lastPlace num den) := by
      rintro rfl
      exact ne (roundBits_eq num den).symm
    obtain ⟨even, odd, low, high⟩ := roundDiv_tie pos other tie
    have lt := quotient_lt num den
    have ge := quotient_ge num hd
    have bounds := roundDiv_bounds num (den * 2 ^ lastPlace num den)
    refine ⟨?_, fun even' => ?_⟩
    · rw [roundBits_eq]
      generalize roundDiv num (den * 2 ^ lastPlace num den) = r at *
      rcases Nat.lt_or_ge r (2 ^ 53) with small | full
      · exact (evenLast_mul_iff small (ge.imp_right fun _ => by omega)).mpr even
      · obtain rfl : r = 2 ^ 53 := by omega
        rw [show 2 ^ 53 * 2 ^ lastPlace num den = 2 ^ 52 * 2 ^ (lastPlace num den + 1) by ring]
        exact (evenLast_mul_iff (by omega) (.inr le_rfl)).mpr (by norm_num)
    · have := (evenLast_mul_iff (by omega) (ge.imp_right fun _ => by omega)).mp even'
      omega
  · have nearest := roundDiv_nearest num pos (2 ^ 52)
    have low := le_of_lastPlace large
    have below : m * den < 2 ^ 52 * (den * 2 ^ lastPlace num den) := by
      calc m * den < 2 ^ 52 * 2 ^ lastPlace num den * den := Nat.mul_lt_mul_of_pos_right lt hd
        _ = 2 ^ 52 * (den * 2 ^ lastPlace num den) := by ring
    unfold Nat.dist at *
    omega

end RoundBits

end ApiStencil
