import ApiStencil.Decimal.Layout
import ApiStencil.Proofs.Decimal.Shortest

/-!
# Written numbers read back

Whatever the layout, the text of a number is a literal for its shortest decimal (`exists_magnitude`):
zeros, the point and the exponent only spread that value out.  So reading it gives the number back,
with its sign (`exists_spelling_write`).
-/

namespace ApiStencil

namespace Literal

open Binary64

/-! ### Digits -/

/-- The digits of a number write it. -/
lemma exists_digitsOf (n : ℕ) :
    ∃ ds : List (Fin 10), ds ≠ [] ∧ ds.map digitChar = Layout.digitsOf n ∧ number ds = n := by
  have digits : (Layout.digitsOf n).all Char.isDigit = true :=
    List.all_eq_true.mpr fun _ mem => Nat.isDigit_of_mem_toDigits (by decide) (by decide) mem
  obtain ⟨ds, eq⟩ := exists_map_digitChar digits
  refine ⟨ds, ?_, eq, ?_⟩
  · rintro rfl
    exact Nat.toDigits_ne_nil eq.symm
  · rw [← digitsValue_map, eq]
    exact Nat.ofDigitChars_ten_toDigits

lemma number_zeros_append (k : ℕ) (ds : List (Fin 10)) :
    number (List.replicate k 0 ++ ds) = number ds := by
  have zeros : number (List.replicate k 0) = 0 := by simp [number, Nat.ofDigits_replicate_zero]
  rw [number_append, zeros, zero_mul, zero_add]

lemma number_append_zeros (ds : List (Fin 10)) (k : ℕ) :
    number (ds ++ List.replicate k 0) = number ds * 10 ^ k := by
  have zeros := number_zeros_append k []
  rw [List.append_nil] at zeros
  rw [number_append, zeros, List.length_replicate]
  rfl

lemma digitChar_zero : digitChar 0 = '0' := rfl

/-! ### Layouts of digits -/

namespace Spelling

/-- A text is the literal, without a sign, for a value. -/
def Writes (s : Spelling) (cs : List Char) (q : ℚ) : Prop :=
  s.sign = .plain ∧ s.text = cs ∧ s.value = q

variable {s : Spelling} {ds : List (Fin 10)}

/-- All digits count, with the power of ten of the last one. -/
lemma exists_writes {whole : List (Fin 10)} (ne : whole ≠ []) (places : Option (List (Fin 10)))
    (exponent : Option Exponent) : ∃ s : Spelling,
      s.Writes (whole.map digitChar ++ (pointText places ++ exponentText exponent))
        (number (whole ++ places.getD []) *
          10 ^ ((exponent.map Exponent.value).getD 0 - (places.getD []).length)) := by
  refine ⟨⟨.plain, whole, places, exponent, .inl ne⟩, rfl, rfl, ?_⟩
  rw [← value_literal]
  rfl

/-- Zeros between the point and the digits. -/
lemma exists_zeros_digits (ds : List (Fin 10)) (k : ℕ) : ∃ s : Spelling,
    s.Writes (['0', '.'] ++ List.replicate k '0' ++ ds.map digitChar)
      (number ds * 10 ^ (-(k + ds.length : ℕ) : ℤ)) := by
  obtain ⟨s, plain, text, value⟩ :=
    exists_writes (List.cons_ne_nil 0 []) (some (List.replicate k 0 ++ ds)) none
  have digits : number ([0] ++ (List.replicate k 0 ++ ds)) = number ds :=
    (number_zeros_append 1 _).trans (number_zeros_append k ds)
  refine ⟨s, plain, text.trans ?_, value.trans ?_⟩
  · simp [pointText, exponentText, digitChar_zero]
  · rw [Option.getD_some, digits]
    simp

/-- Zeros between the digits and the point, or the end. -/
lemma exists_digits_zeros (ne : ds ≠ []) (k : ℕ) (keepsFraction : Bool) : ∃ s : Spelling,
    s.Writes (ds.map digitChar ++ List.replicate k '0' ++ if keepsFraction then ['.', '0'] else [])
      (number ds * 10 ^ (k : ℤ)) := by
  have nonempty : ds ++ List.replicate k 0 ≠ [] := List.append_ne_nil_of_left_ne_nil ne _
  cases keepsFraction with
  | false =>
    obtain ⟨s, plain, text, value⟩ := exists_writes nonempty none none
    refine ⟨s, plain, text.trans ?_, value.trans ?_⟩
    · simp [pointText, exponentText, digitChar_zero]
    · simp [number_append_zeros]
  | true =>
    obtain ⟨s, plain, text, value⟩ := exists_writes nonempty (some [0]) none
    have digits : number (ds ++ List.replicate k 0 ++ [0]) = number ds * 10 ^ k * 10 := by
      rw [← number_append_zeros]
      exact number_append_zeros _ 1
    refine ⟨s, plain, text.trans ?_, value.trans ?_⟩
    · simp [pointText, exponentText, digitChar_zero]
    · rw [Option.getD_some, digits]
      simp

/-- The point among the digits. -/
lemma exists_digits_digits {k : ℕ} (pos : 0 < k) (lt : k < ds.length) : ∃ s : Spelling,
    s.Writes ((ds.map digitChar).take k ++ '.' :: (ds.map digitChar).drop k)
      (number ds * 10 ^ (k - ds.length : ℤ)) := by
  have nonempty : ds.take k ≠ [] := by
    rw [← List.length_pos_iff, List.length_take]
    omega
  obtain ⟨s, plain, text, value⟩ := exists_writes nonempty (some (ds.drop k)) none
  refine ⟨s, plain, text.trans ?_, value.trans ?_⟩
  · simp [pointText, exponentText]
  · rw [Option.getD_some, List.take_append_drop, List.length_drop, Nat.cast_sub lt.le]
    simp

/-- Digits with a point somewhere. -/
lemma exists_pointed (ne : ds ≠ []) (keepsFraction : Bool) (point : ℤ) :
    ∃ s : Spelling, s.Writes (Layout.pointed keepsFraction (ds.map digitChar) point)
      (number ds * 10 ^ (point - ds.length)) := by
  unfold Layout.pointed
  split
  · rename_i after
    rw [show point - ds.length = (-((-point).toNat + ds.length : ℕ) : ℤ) by omega]
    exact exists_zeros_digits ds (-point).toNat
  rename_i before
  obtain ⟨k, rfl⟩ := Int.eq_ofNat_of_zero_le (by omega : 0 ≤ point)
  simp only [Int.toNat_natCast, List.length_map]
  split
  · rename_i last
    have le : ds.length ≤ k := by simpa using last
    rw [← Nat.cast_sub le, List.take_of_length_le (by simpa using le)]
    exact exists_digits_zeros ne (k - ds.length) keepsFraction
  · rename_i among
    have lt : k < ds.length := by simpa using among
    rw [Nat.sub_eq_zero_of_le lt.le, List.replicate_zero, List.append_nil]
    exact exists_digits_digits (by omega) lt

/-- Digits with the point after the first one and an exponent. -/
lemma exists_scientific (ne : ds ≠ []) (exponent : ℤ) :
    ∃ s : Spelling, s.Writes (Layout.scientific (ds.map digitChar) exponent)
      (number ds * 10 ^ (exponent + 1 - ds.length)) := by
  obtain ⟨es, nonempty, digits, writes⟩ := exists_digitsOf exponent.natAbs
  let e : Exponent := ⟨false, if exponent < 0 then .minus else .plus, es, nonempty⟩
  have value : e.value = exponent := by
    simp only [e, Exponent.value, writes]
    split <;> simp only [Sign.factor] <;> omega
  have text : 'e' :: (if exponent < 0 then '-' else '+') :: Layout.digitsOf exponent.natAbs =
      e.text := by
    simp only [e, Exponent.text, digits]
    split <;> rfl
  rcases ds with - | ⟨first, - | ⟨second, rest⟩⟩
  · exact absurd rfl ne
  · obtain ⟨s, plain, text', value'⟩ := exists_writes ne none (some e)
    refine ⟨s, plain, text'.trans ?_, value'.trans ?_⟩
    · simp [Layout.scientific, pointText, exponentText, text]
    · simp [value]
  · obtain ⟨s, plain, text', value'⟩ :=
      exists_writes (List.cons_ne_nil first []) (some (second :: rest)) (some e)
    refine ⟨s, plain, text'.trans ?_, value'.trans ?_⟩
    · simp [Layout.scientific, pointText, exponentText, text]
    · simp [value]

/-- **The text of a magnitude** is a literal for its shortest decimal. -/
theorem exists_magnitude (layout : Layout) {units : ℕ} (ne : units ≠ 0) :
    ∃ s : Spelling, s.Writes (layout.writeMagnitude units) (Decimal.shortest units).value := by
  obtain ⟨ds, nonempty, digits, writes⟩ := exists_digitsOf (Decimal.shortest units).digits
  unfold Layout.writeMagnitude
  rw [if_neg ne]
  dsimp only
  rw [← digits, List.length_map, Decimal.value, ← writes]
  split
  · obtain ⟨s, plain, text, value⟩ := exists_pointed nonempty layout.keepsFraction
      ((Decimal.shortest units).scale + ds.length - 1 + 1)
    refine ⟨s, plain, text, ?_⟩
    rw [value, sub_add_cancel, add_sub_cancel_right]
  · obtain ⟨s, plain, text, value⟩ := exists_scientific nonempty
      ((Decimal.shortest units).scale + ds.length - 1)
    refine ⟨s, plain, text, ?_⟩
    rw [value, sub_add_cancel, add_sub_cancel_right]

/-- The text of a magnitude is a literal that is rounded to it. -/
lemma exists_rounded (layout : Layout) {units : ℕ} (h : Short units) : ∃ (s : Spelling) (q : ℚ),
    s.Writes (layout.writeMagnitude units) q ∧ unitsOf |q| = units ∧ (units = 0 → q = 0) := by
  by_cases ne : units = 0
  · subst ne
    obtain ⟨s, plain, text, value⟩ :=
      exists_digits_zeros (List.cons_ne_nil 0 []) 0 layout.keepsFraction
    refine ⟨s, 0, ⟨plain, text.trans ?_, value.trans ?_⟩, ?_, fun _ => rfl⟩
    · unfold Layout.writeMagnitude
      cases layout.keepsFraction <;> rfl
    · simp [number]
    · rw [abs_zero]
      exact unitsOf_zero
  · obtain ⟨s, writes⟩ := exists_magnitude layout ne
    refine ⟨s, _, writes, ?_, fun zero => absurd zero ne⟩
    rw [abs_of_nonneg (Decimal.value_nonneg _), Decimal.unitsOf_shortest h ne]

/-- A sign put in front. -/
lemma Writes.exists_signed {cs : List Char} {q : ℚ} (h : s.Writes cs q) (negative : Bool) :
    ∃ s' : Spelling, s'.text = (if negative then ['-'] else []) ++ cs ∧
      s'.literal.negative = negative ∧ s'.value = signed negative q := by
  obtain ⟨plain, rfl, rfl⟩ := h
  cases negative with
  | false => exact ⟨s, rfl, by rw [literal, plain]; rfl, rfl⟩
  | true =>
    refine ⟨{ s with sign := .minus }, ?_, rfl, ?_⟩
    · rw [text, text, plain]
      rfl
    · rw [value, value, plain, signed, if_pos rfl]
      simp only [Sign.factor, fraction, power]
      push_cast
      ring

end Spelling

lemma toList_toString (i : ℤ) :
    (toString i).toList = (if i < 0 then ['-'] else []) ++ Layout.digitsOf i.natAbs := by
  have digits : ∀ n : ℕ, (toString n).toList = Layout.digitsOf n := fun n => by
    rw [Nat.toString_eq_ofList_toDigits, String.toList_ofList, Layout.digitsOf]
  rcases i with n | n
  · exact digits n
  · rw [if_pos (Int.negSucc_lt_zero n), Int.natAbs_negSucc, ← digits]
    exact String.toList_append

/-- Whole numbers are written as literals for themselves. -/
theorem exists_spelling_toString (i : ℤ) :
    ∃ s : Spelling, s.text = (toString i).toList ∧ s.value = i := by
  obtain ⟨ds, ne, digits, writes⟩ := exists_digitsOf i.natAbs
  obtain ⟨s, written⟩ := Spelling.exists_digits_zeros ne 0 false
  obtain ⟨s', text, -, value⟩ := written.exists_signed (decide (i < 0))
  refine ⟨s', text.trans ?_, value.trans ?_⟩
  · rw [toList_toString, digits]
    simp
  · rw [writes, Nat.cast_zero, zpow_zero, mul_one, signed, Nat.cast_natAbs]
    rcases lt_or_ge i 0 with negative | nonnegative
    · rw [if_pos (decide_eq_true negative), abs_of_neg negative, Int.cast_neg, neg_neg]
    · rw [if_neg (by simpa using nonnegative), abs_of_nonneg nonnegative]

end Literal

/-- **What is written reads back**: in every layout the text of a number is a literal that is turned
into that number. -/
theorem Layout.exists_spelling_write (layout : Layout) (x : Binary64) :
    ∃ s : Literal.Spelling, s.text = (layout.write x).toList ∧ s.literal.toBinary64? = some x := by
  obtain ⟨s, q, writes, units, zero⟩ := Literal.Spelling.exists_rounded layout x.short_units
  obtain ⟨s', text, sign, value⟩ := writes.exists_signed x.negative
  refine ⟨s', ?_, Literal.toBinary64?_of_unitsOf sign.symm ?_ fun none => ?_⟩
  · rw [text, Layout.write, String.toList_ofList]
  · rw [Literal.value_literal, value, abs_signed, units]
  · rw [Literal.value_literal, value, zero none]
    cases x.negative <;> simp [signed]

end ApiStencil
