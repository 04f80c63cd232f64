import ApiStencil.Json.Lookup
import ApiStencil.Proofs.Decimal.Value

/-!
# Agreement of numbers

Two whole numbers agree if they are equal, on either side of the signed range, and two binary64
numbers if their values are.  A whole number agrees with the binary64 number nearest to it, which need
not have its value; so agreement is equality of values or a rounding (`Number.agrees_iff`), and there
is none of the latter up to `2 ^ 53`.
-/

namespace ApiStencil

namespace Binary64

variable {x y : Binary64} {q : ℚ} {i : ℤ}

lemma isNearest_of_value (h : x.value = q) : x.IsNearest q := by
  refine ⟨fun y => ?_, fun y ne tie => absurd ?_ ne⟩
  · rw [h, sub_self, abs_zero]
    exact abs_nonneg _
  · rw [h, sub_self, abs_zero, abs_eq_zero, sub_eq_zero] at tie
    rw [h, tie]

lemma IsNearest.value_eq (near : x.IsNearest q) (h : y.value = q) : x.value = q := by
  have zero := near.nearest y
  rw [h, sub_self, abs_zero, abs_nonpos_iff, sub_eq_zero] at zero
  exact zero.symm

/-- Up to `2 ^ 53` in magnitude every whole number is a binary64 number. -/
lemma exists_value_eq (h : i.natAbs ≤ 2 ^ 53) : ∃ x : Binary64, x.value = i := by
  obtain ⟨x, rounded⟩ := exists_roundInt (h.trans (by norm_num))
  rw [roundInt_of_natAbs_le h] at rounded
  exact ⟨x, value_eq_intCast_iff.mpr rounded⟩

end Binary64

namespace Json

namespace Number

/-- The exact value. -/
def value : Number → ℚ
  | .whole i _ => i
  | .float x => x.value

/-- One number is whole and no binary64 number, and the other one is the binary64 number nearest
to it. -/
def RoundsTo (a b : Number) : Prop :=
  ∃ i fits x, a = .whole i fits ∧ b = .float x ∧ (∀ y : Binary64, y.value ≠ i) ∧ x.IsNearest i

lemma fitsSigned_iff {i : ℤ} : FitsSigned i ↔ -2 ^ 63 ≤ i ∧ i < 2 ^ 63 := Iff.rfl

lemma fitsUnsigned_iff {i : ℤ} : FitsUnsigned i ↔ 0 ≤ i ∧ i < 2 ^ 64 := Iff.rfl

section Agreement

variable {i j : ℤ} {fits : FitsSigned i ∨ FitsUnsigned i} {fits' : FitsSigned j ∨ FitsUnsigned j}

lemma natAbs_le_of_fits (h : FitsSigned i ∨ FitsUnsigned i) : i.natAbs ≤ 2 ^ 64 := by
  rw [fitsSigned_iff, fitsUnsigned_iff] at h
  omega

lemma asUnits_whole : (whole i fits).asUnits = Binary64.roundInt i := rfl

lemma asUnits_float {x : Binary64} : (float x).asUnits = x.signedUnits := rfl

lemma whole_agrees_whole : (whole i fits).agrees (whole j fits') =
    if (FitsSigned i ∧ FitsSigned j) ∨ (FitsUnsigned i ∧ FitsUnsigned j) then decide (i = j)
    else decide ((whole i fits).asUnits = (whole j fits').asUnits) := rfl

lemma whole_agrees_float {x : Binary64} :
    (whole i fits).agrees (float x) = decide ((whole i fits).asUnits = (float x).asUnits) := rfl

lemma float_agrees {x : Binary64} {b : Number} :
    (float x).agrees b = decide ((float x).asUnits = b.asUnits) := rfl

/-- Two whole numbers that no range holds both have different signs, which rounding keeps. -/
lemma agrees_whole_whole : (whole i fits).agrees (whole j fits') = true ↔ i = j := by
  rw [whole_agrees_whole]
  by_cases both : FitsSigned i ∧ FitsSigned j ∨ FitsUnsigned i ∧ FitsUnsigned j
  · rw [if_pos both, decide_eq_true_iff]
  rw [if_neg both, decide_eq_true_iff]
  rw [fitsSigned_iff, fitsSigned_iff, fitsUnsigned_iff, fitsUnsigned_iff] at both
  rw [fitsSigned_iff, fitsUnsigned_iff] at fits fits'
  have signs : (i < 0 ∧ 0 < j) ∨ (j < 0 ∧ 0 < i) := by omega
  rw [asUnits_whole, asUnits_whole]
  rcases signs with ⟨neg, pos⟩ | ⟨neg, pos⟩
  · have below := Binary64.roundInt_nonpos neg.le
    have above := Binary64.roundInt_pos pos
    omega
  · have below := Binary64.roundInt_nonpos neg.le
    have above := Binary64.roundInt_pos pos
    omega

lemma agrees_whole_float {x : Binary64} :
    (whole i fits).agrees (float x) = true ↔ x.IsNearest i := by
  rw [Binary64.isNearest_iff (natAbs_le_of_fits fits), whole_agrees_float, decide_eq_true_iff,
    asUnits_whole, asUnits_float, eq_comm]

lemma agrees_float_whole {x : Binary64} :
    (float x).agrees (whole i fits) = true ↔ x.IsNearest i := by
  rw [Binary64.isNearest_iff (natAbs_le_of_fits fits), float_agrees, decide_eq_true_iff,
    asUnits_whole, asUnits_float]

lemma agrees_float_float {x y : Binary64} :
    (float x).agrees (float y) = true ↔ x.value = y.value := by
  rw [Binary64.value_eq_value_iff, float_agrees, decide_eq_true_iff, asUnits_float, asUnits_float]

end Agreement

lemma agrees_refl (a : Number) : a.agrees a = true := by
  cases a with
  | whole i fits => exact agrees_whole_whole.mpr rfl
  | float x => exact agrees_float_float.mpr rfl

lemma agrees_comm (a b : Number) : a.agrees b = b.agrees a := by
  rw [Bool.eq_iff_iff]
  cases a with
  | whole i fits =>
    cases b with
    | whole j fits' => rw [agrees_whole_whole, agrees_whole_whole, eq_comm]
    | float y => rw [agrees_whole_float, agrees_float_whole]
  | float x =>
    cases b with
    | whole j fits' => rw [agrees_float_whole, agrees_whole_float]
    | float y => rw [agrees_float_float, agrees_float_float, eq_comm]

/-! ### Agreement by value -/

lemma roundsTo_whole_float_iff {i : ℤ} {fits : FitsSigned i ∨ FitsUnsigned i} {x : Binary64} :
    (whole i fits).RoundsTo (float x) ↔ (∀ y : Binary64, y.value ≠ i) ∧ x.IsNearest i := by
  constructor
  · rintro ⟨i', fits', x', left, right, rounds⟩
    cases left
    cases right
    exact rounds
  · exact fun rounds => ⟨i, fits, x, rfl, rfl, rounds⟩

lemma not_roundsTo_whole (a : Number) {i : ℤ} {fits : FitsSigned i ∨ FitsUnsigned i} :
    ¬ a.RoundsTo (whole i fits) := by
  rintro ⟨_, _, _, -, eq, -⟩
  cases eq

lemma not_float_roundsTo (a : Number) {x : Binary64} : ¬ (float x).RoundsTo a := by
  rintro ⟨_, _, _, eq, -⟩
  cases eq

/-- The nearest number to a whole one is that number itself, or there is none of its value. -/
lemma isNearest_iff_value {i : ℤ} {fits : FitsSigned i ∨ FitsUnsigned i} {x : Binary64} :
    x.IsNearest i ↔
      (whole i fits).value = (float x).value ∨ (whole i fits).RoundsTo (float x) := by
  rw [roundsTo_whole_float_iff]
  constructor
  · intro near
    by_cases same : ∃ y : Binary64, y.value = i
    · obtain ⟨y, eq⟩ := same
      exact .inl (near.value_eq eq).symm
    · exact .inr ⟨fun y eq => same ⟨y, eq⟩, near⟩
  · rintro (eq | ⟨-, near⟩)
    · exact Binary64.isNearest_of_value eq.symm
    · exact near

/-- **Numbers agree if their exact values are equal, or if one is rounded to the other.** -/
theorem agrees_iff (a b : Number) :
    a.agrees b = true ↔ a.value = b.value ∨ a.RoundsTo b ∨ b.RoundsTo a := by
  cases a with
  | whole i fits =>
    cases b with
    | whole j fits' => simp [agrees_whole_whole, not_roundsTo_whole, value]
    | float y =>
      simp only [agrees_whole_float, not_float_roundsTo, or_false]
      exact isNearest_iff_value
  | float x =>
    cases b with
    | whole j fits' =>
      simp only [agrees_float_whole, not_float_roundsTo, false_or]
      rw [eq_comm]
      exact isNearest_iff_value
    | float y => simp [agrees_float_float, not_float_roundsTo, value]

/-- A number that is rounded to another one is larger than `2 ^ 53` in magnitude. -/
lemma RoundsTo.lt_abs {a b : Number} (h : a.RoundsTo b) : 2 ^ 53 < |a.value| := by
  obtain ⟨i, fits, x, rfl, rfl, none, -⟩ := h
  have large : 2 ^ 53 < i.natAbs := by
    by_contra le
    obtain ⟨y, eq⟩ := Binary64.exists_value_eq (Nat.le_of_not_lt le)
    exact none y eq
  have cast : |(i : ℚ)| = (i.natAbs : ℚ) := by rw [Nat.cast_natAbs, Int.cast_abs]
  rw [value, cast]
  exact_mod_cast large

end Number

namespace Value

lemma agrees_num_iff {v : Value} {n : Number} :
    v.agrees (.num n) = true ↔ ∃ m, v = .num m ∧ m.agrees n = true := by
  cases v <;> simp [agrees]

/-- The record found by a number has a number in the field. -/
lemma exists_num_of_findByField {records : List Value} {field : String} {n : Number} {r : Value}
    (h : findByField records field (.num n) = some r) :
    ∃ m, r.get? field = some (.num m) ∧ m.agrees n = true := by
  have has := List.find?_some h
  unfold hasField at has
  cases found : r.get? field with
  | none => simp [found] at has
  | some v =>
    rw [found] at has
    obtain ⟨m, rfl, agrees⟩ := agrees_num_iff.mp has
    exact ⟨m, rfl, agrees⟩

end Value

namespace Number

/-- **Numbers are compared by their exact values**, except that a whole number beyond `2 ^ 53` which
is no binary64 number agrees with the binary64 number nearest to it. -/
theorem agrees_by_value (a b : Number) :
    (a.agrees b = true ↔ a.value = b.value ∨ a.RoundsTo b ∨ b.RoundsTo a) ∧
    (a.RoundsTo b → a.value ≠ b.value ∧ 2 ^ 53 < |a.value|) ∧
    ∀ (records : List Value) (field : String) (r : Value),
      Value.findByField records field (.num b) = some r →
        ∃ m, r.get? field = some (.num m) ∧
          (m.value = b.value ∨ m.RoundsTo b ∨ b.RoundsTo m) := by
  refine ⟨agrees_iff a b, fun rounds => ⟨?_, rounds.lt_abs⟩, fun records field r found => ?_⟩
  · obtain ⟨i, fits, x, rfl, rfl, none, -⟩ := rounds
    exact (none x).symm
  · obtain ⟨m, field, agrees⟩ := Value.exists_num_of_findByField found
    exact ⟨m, field, (agrees_iff m b).mp agrees⟩

/-- The least positive whole number that is no binary64 number. -/
def past : Number := .whole (2 ^ 53 + 1) (by decide)

/-- The number `2 ^ 53` as a binary64 number. -/
def edge : Binary64 := ⟨false, 2 ^ 53 * Binary64.unitsPerOne, by decide +kernel⟩

lemma value_edge : edge.value = (2 ^ 53 : ℤ) := by
  refine Binary64.value_eq_intCast_iff.mpr ?_
  rw [Binary64.signedUnits, edge, if_neg Bool.false_ne_true]
  push_cast
  rfl

lemma value_past : past.value = 2 ^ 53 + 1 := by
  unfold past value
  norm_num

lemma past_agrees_edge : past.agrees (.float edge) = true := by decide +kernel

theorem agrees_by_value_edge :
    past.agrees (.float edge) = true ∧ past.RoundsTo (.float edge) ∧ 2 ^ 53 < |past.value| := by
  have rounds : past.RoundsTo (.float edge) := by
    rcases (agrees_by_value past (.float edge)).1.mp past_agrees_edge with eq | rounds | rounds
    · rw [value_past, value, value_edge] at eq
      norm_num at eq
    · exact rounds
    · exact absurd rounds (not_float_roundsTo past)
  exact ⟨past_agrees_edge, rounds, ((agrees_by_value past (.float edge)).2.1 rounds).2⟩

/-- The comparison and the search by a field take two numbers of different values for equal. -/
theorem agrees_past_edge :
    past.value ≠ (float edge).value ∧ past.agrees (.float edge) = true ∧
      Value.findByField [.obj [("code", .num past)]] "code" (.num (.float edge)) =
        some (.obj [("code", .num past)]) := by
  refine ⟨?_, past_agrees_edge, ?_⟩
  · rw [value_past, value, value_edge]
    norm_num
  · have has : Value.hasField "code" (.num (.float edge)) (.obj [("code", .num past)]) = true := by
      have found : (Value.obj [("code", .num past)]).get? "code" = some (.num past) := rfl
      rw [Value.hasField, found]
      exact past_agrees_edge
    exact List.find?_cons_of_pos has

end Number

end Json

end ApiStencil
