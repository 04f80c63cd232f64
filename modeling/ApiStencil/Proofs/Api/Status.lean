import ApiStencil.Api.Response
import ApiStencil.Proofs.Decimal.Literal

/-!
# Numeric status codes

A status code is a text, whose number is read by the value it writes.  Trimming leaves the literal in
the text (`Spelling.Stands`); its value counts and not its spelling (`status?_of_value`), and a number
is never further from that value than rounding takes it (`within_of_status?`).
-/

namespace ApiStencil

namespace Text

variable {before body after : List Char}

/-- Trimming takes off the blanks around a text that has none. -/
theorem trim_append (hb : ∀ c ∈ before, isBlank c = true) (ha : ∀ c ∈ after, isBlank c = true)
    (inner : ∀ c ∈ body, isBlank c = false) (ne : body ≠ []) :
    trim (before ++ (body ++ after)) = body := by
  have front : (body ++ after).dropWhile isBlank = body ++ after := by
    obtain ⟨c, rest, rfl⟩ := List.exists_cons_of_ne_nil ne
    simp [inner c List.mem_cons_self]
  have back : body.reverse.dropWhile isBlank = body.reverse := by
    obtain ⟨c, rest, eq⟩ := List.exists_cons_of_ne_nil (List.reverse_ne_nil_iff.mpr ne)
    have := inner c (List.mem_reverse.mp (eq ▸ List.mem_cons_self))
    simp [eq, this]
  have ha' : ∀ c ∈ after.reverse, isBlank c = true := fun c hc => ha c (List.mem_reverse.mp hc)
  rw [trim, trimStart, List.dropWhile_append_of_pos hb, front, trimEnd, List.reverse_append,
    List.dropWhile_append_of_pos ha', back, List.reverse_reverse]

/-- Only blanks are taken off. -/
theorem exists_trim (cs : List Char) : ∃ before after, (∀ c ∈ before, isBlank c = true) ∧
    (∀ c ∈ after, isBlank c = true) ∧ cs = before ++ (trim cs ++ after) := by
  refine ⟨cs.takeWhile isBlank, ((trimStart cs).reverse.takeWhile isBlank).reverse,
    fun c hc => List.mem_takeWhile_imp hc,
    fun c hc => List.mem_takeWhile_imp (List.mem_reverse.mp hc), ?_⟩
  rw [trim, trimEnd, ← List.reverse_append, List.takeWhile_append_dropWhile, List.reverse_reverse,
    trimStart, List.takeWhile_append_dropWhile]

end Text

namespace Literal.Spelling

variable {s : Spelling} {text : String}

/-- A text that is the literal, with blanks around it. -/
def Stands (s : Spelling) (text : String) : Prop :=
  ∃ before after, (∀ c ∈ before, Text.isBlank c = true) ∧ (∀ c ∈ after, Text.isBlank c = true) ∧
    text.toList = before ++ (s.text ++ after)

lemma isBlank_digits (ds : List (Fin 10)) : ∀ c ∈ ds.map digitChar, Text.isBlank c = false := by
  have digit : ∀ d, Text.isBlank (digitChar d) = false := by decide
  simpa using fun d _ => digit d

lemma isBlank_sign (sign : Sign) : ∀ c ∈ sign.text, Text.isBlank c = false := by
  cases sign with
  | plain => exact nofun
  | plus => exact List.forall_mem_singleton.mpr rfl
  | minus => exact List.forall_mem_singleton.mpr rfl

lemma isBlank_text (s : Spelling) : ∀ c ∈ s.text, Text.isBlank c = false := by
  intro c hc
  rw [text, List.mem_append, List.mem_append, List.mem_append] at hc
  rcases hc with sign | whole | places | exponent
  · exact isBlank_sign _ c sign
  · exact isBlank_digits _ c whole
  · cases eq : s.places with
    | none => simp [eq, pointText] at places
    | some ds =>
      rw [eq, pointText, List.mem_cons] at places
      rcases places with rfl | digit
      · rfl
      · exact isBlank_digits _ c digit
  · cases eq : s.exponent with
    | none => simp [eq, exponentText] at exponent
    | some e =>
      rw [eq, exponentText, Exponent.text, List.mem_cons, List.mem_append] at exponent
      rcases exponent with rfl | sign | digit
      · cases e.capital <;> rfl
      · exact isBlank_sign _ c sign
      · exact isBlank_digits _ c digit

/-- A literal has a digit. -/
lemma exists_digit_mem (s : Spelling) : ∃ d, digitChar d ∈ s.text := by
  rcases s.nonempty with whole | places
  · obtain ⟨d, hd⟩ := List.exists_mem_of_ne_nil _ whole
    refine ⟨d, ?_⟩
    simp only [text, List.mem_append]
    exact .inr (.inl (List.mem_map_of_mem hd))
  · cases eq : s.places with
    | none => simp [eq] at places
    | some ds =>
      obtain ⟨d, hd⟩ := List.exists_mem_of_ne_nil ds (by simpa [eq] using places)
      refine ⟨d, ?_⟩
      simp only [text, eq, pointText, List.mem_append, List.mem_cons]
      exact .inr (.inr (.inl (.inr (List.mem_map_of_mem hd))))

lemma Stands.trim_eq (h : s.Stands text) : Text.trim text.toList = s.text := by
  obtain ⟨before, after, hb, ha, eq⟩ := h
  obtain ⟨d, hd⟩ := s.exists_digit_mem
  rw [eq, Text.trim_append hb ha s.isBlank_text (List.ne_nil_of_mem hd)]

/-- A text that is read as a literal is one, with blanks around it. -/
lemma exists_stands {l : Literal} (h : ofChars? (Text.trim text.toList) = some l) :
    ∃ s : Spelling, s.Stands text := by
  obtain ⟨s, eq⟩ := exists_spelling h
  obtain ⟨before, after, hb, ha, split⟩ := Text.exists_trim text.toList
  rw [eq] at split
  exact ⟨s, before, after, hb, ha, split⟩

end Literal.Spelling

namespace Response

open Literal

variable {r : Response} {s : Spelling} {v : ℚ} {n : ℕ}

/-- A text that is no literal has no status. -/
lemma exists_stands_of_status? (h : r.status? = some n) : ∃ s : Spelling, s.Stands r.statusCode := by
  unfold status? statusOfText? at h
  obtain ⟨l, eq, -⟩ := Option.bind_eq_some_iff.mp h
  exact Spelling.exists_stands eq

/-- A literal has the status of its number, if that is a whole one in the range. -/
lemma status?_eq_some_iff (h : s.Stands r.statusCode) : r.status? = some n ↔
    n ≤ 65535 ∧ ∃ x, s.literal.toBinary64? = some x ∧ x.value = n := by
  have steps : r.status? = s.literal.toBinary64? >>= fun x => x.toInt? >>= fun i =>
      if 0 ≤ i ∧ i ≤ 65535 then some i.toNat else none := by
    unfold status? statusOfText?
    rw [h.trim_eq, s.ofChars?_text]
    rfl
  simp only [steps, Option.bind_eq_bind, Option.bind_eq_some_iff, Binary64.toInt?_eq_some_iff]
  constructor
  · rintro ⟨x, eq, i, whole, range⟩
    split at range
    · obtain rfl : i = n := by
        have := Option.some.inj range
        omega
      exact ⟨by omega, x, eq, by exact_mod_cast whole⟩
    · cases range
  · rintro ⟨le, x, eq, whole⟩
    refine ⟨x, eq, n, by exact_mod_cast whole, ?_⟩
    rw [if_pos (by omega), Int.toNat_natCast]

/-- How far rounding moves a value onto `n`: half of the last of its 53 bits, or half of the least
unit for zero. -/
def WithinRounding (v : ℚ) (n : ℕ) : Prop :=
  (0 < n → |v - n| ≤ n * 2 ^ (-53 : ℤ)) ∧ (n = 0 → |v| ≤ 2 ^ (-1075 : ℤ))

lemma within_of_near {x : Binary64} (near : x.Near v) (whole : x.value = n) : WithinRounding v n := by
  have least : (1 : ℚ) / 2 ^ 1075 ≤ 1 / 2 ^ 53 :=
    one_div_le_one_div_of_le (by positivity) (pow_le_pow_right₀ one_le_two (by norm_num))
  rw [Binary64.Near, whole, Nat.abs_cast] at near
  refine ⟨fun pos => ?_, ?_⟩
  · have one : (1 : ℚ) ≤ n := by exact_mod_cast pos
    have units : (1 : ℚ) / 2 ^ 53 ≤ n / 2 ^ 53 := by gcongr
    rw [zpow_neg, zpow_ofNat, ← div_eq_mul_inv]
    exact near.elim id fun le => le.trans (least.trans units)
  · rintro rfl
    rw [Nat.cast_zero, sub_zero, zero_div] at near
    rw [zpow_neg, zpow_ofNat, ← one_div]
    exact near.elim (fun le => le.trans (one_div_nonneg.mpr (pow_nonneg zero_le_two _))) id

lemma WithinRounding.abs_sub_lt (h : WithinRounding v n) (hn : n ≤ 65535) : |v - n| < 1 := by
  rcases Nat.eq_zero_or_pos n with rfl | pos
  · have le := h.2 rfl
    have : (2 : ℚ) ^ (-1075 : ℤ) < 1 := zpow_lt_one_of_neg₀ (by norm_num) (by norm_num)
    rw [Nat.cast_zero, sub_zero]
    linarith
  · have le := h.1 pos
    have : (n : ℚ) ≤ 65535 := by exact_mod_cast hn
    norm_num at le ⊢
    linarith

/-- A status is the value of its literal, but for rounding. -/
lemma within_of_status? (h : s.Stands r.statusCode) (eq : r.status? = some n) :
    n ≤ 65535 ∧ WithinRounding s.value n := by
  obtain ⟨le, x, eq, whole⟩ := (status?_eq_some_iff h).mp eq
  have near := near_of_toBinary64? eq
  rw [value_literal] at near
  exact ⟨le, within_of_near near whole⟩

/-- A whole value in the range is read, however it is spelled. -/
lemma status?_of_value (h : s.Stands r.statusCode) (hn : n ≤ 65535) (eq : s.value = n) :
    r.status? = some n := by
  have value : s.literal.value = n := by rw [value_literal, eq]
  obtain ⟨x, eq, same⟩ := exists_value_eq (by rw [value, Nat.abs_cast]) (hn.trans (by decide))
  exact (status?_eq_some_iff h).mpr ⟨hn, x, eq, same.trans value⟩

lemma status?_eq_none (h : ∀ n, n ≤ 65535 → WithinRounding s.value n → False)
    (stands : s.Stands r.statusCode) : r.status? = none := by
  refine Option.eq_none_iff_forall_ne_some.mpr fun n eq => ?_
  obtain ⟨le, within⟩ := within_of_status? stands eq
  exact h n le within

/-- **Numeric status codes.**  Only a literal with blanks around it has one.  A literal for a whole
number from 0 to 65535 has that number however it is spelled, and the number that a literal has is its
value but for rounding.  So, beyond that rounding, there is none for a negative value, for one between
two whole numbers or for a larger one; nor is there one for a text without a digit, which names an
infinity or is no number. -/
theorem status?_by_value (r : Response) :
    ((¬ ∃ s : Spelling, s.Stands r.statusCode) → r.status? = none) ∧
    (∀ s : Spelling, s.Stands r.statusCode →
      (∀ n : ℕ, n ≤ 65535 → s.value = n → r.status? = some n) ∧
      (∀ n : ℕ, r.status? = some n → n ≤ 65535 ∧ WithinRounding s.value n) ∧
      (s.value < 0 → ¬ WithinRounding s.value 0 → r.status? = none) ∧
      (∀ m : ℕ, m < s.value → s.value < m + 1 → ¬ WithinRounding s.value m →
        ¬ WithinRounding s.value (m + 1) → r.status? = none) ∧
      (65535 < s.value → ¬ WithinRounding s.value 65535 → r.status? = none)) ∧
    ((∀ c ∈ r.statusCode.toList, c.isDigit = false) → r.status? = none) := by
  have literal : (¬ ∃ s : Spelling, s.Stands r.statusCode) → r.status? = none := fun none =>
    Option.eq_none_iff_forall_ne_some.mpr fun n eq => none (exists_stands_of_status? eq)
  refine ⟨literal, fun s stands => ⟨fun n hn eq => status?_of_value stands hn eq,
    fun n eq => within_of_status? stands eq, fun negative apart => ?_,
    fun m above below apart apart' => ?_, fun large apart => ?_⟩, fun word => literal ?_⟩
  · refine status?_eq_none (fun n hn within => ?_) stands
    have near := abs_lt.mp (within.abs_sub_lt hn)
    have : n < 1 := by exact_mod_cast (by linarith : (n : ℚ) < 1)
    obtain rfl : n = 0 := by omega
    exact apart within
  · refine status?_eq_none (fun n hn within => ?_) stands
    have near := abs_lt.mp (within.abs_sub_lt hn)
    have low : m < n + 1 := by exact_mod_cast (by linarith : (m : ℚ) < n + 1)
    have high : n < m + 2 := by exact_mod_cast (by linarith : (n : ℚ) < m + 2)
    rcases (by omega : n = m ∨ n = m + 1) with rfl | rfl
    · exact apart within
    · exact apart' within
  · refine status?_eq_none (fun n hn within => ?_) stands
    have near := abs_lt.mp (within.abs_sub_lt hn)
    have : 65534 < n := by exact_mod_cast (by linarith : (65534 : ℚ) < n)
    obtain rfl : n = 65535 := by omega
    exact apart within
  · rintro ⟨s, before, after, -, -, eq⟩
    obtain ⟨d, hd⟩ := s.exists_digit_mem
    have mem : digitChar d ∈ r.statusCode.toList := by simp [eq, hd]
    simpa [isDigit_digitChar] using word _ mem

/-- Blanks, a sign, zeros in front and behind, a point and an exponent. -/
def spelledOk : Spelling :=
  ⟨.plus, [0, 2, 0, 0], some [0], some ⟨false, .plain, [0], by decide⟩, .inl (by decide)⟩

theorem status?_by_value_spelled :
    spelledOk.Stands "\t+0200.0e0 " ∧ (⟨"\t+0200.0e0 ", none⟩ : Response).status? = some 200 := by
  have stands : spelledOk.Stands "\t+0200.0e0 " :=
    ⟨['\t'], [' '], List.forall_mem_singleton.mpr rfl, List.forall_mem_singleton.mpr rfl, by decide⟩
  have value : spelledOk.value = (200 : ℕ) := by
    have digits : number [0, 2, 0, 0] = 200 ∧ number [0] = 0 := by decide
    simp [spelledOk, Spelling.value, Spelling.power, Spelling.fraction, Sign.factor, Exponent.value,
      digits]
  exact ⟨stands, ((status?_by_value ⟨_, none⟩).2.1 spelledOk stands).1 200 (by decide) value⟩

end Response

end ApiStencil
