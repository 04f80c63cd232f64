import ApiStencil.Decimal.Literal
import Mathlib.Data.List.Induction
import Mathlib.Data.List.TakeWhile
import Mathlib.Data.Nat.Digits.Defs
import Mathlib.Data.Rat.Cast.Order
import Mathlib.Tactic.FieldSimp
import Mathlib.Tactic.Ring

/-!
# How decimal literals are spelled

A `Spelling` is a literal in its parts: a sign, digits with at most one point, and an exponent.  Every
spelling is read as what it writes (`Spelling.ofChars?_text`), and nothing else is read
(`exists_spelling`).
-/

namespace ApiStencil.Literal

/-- How a sign is written. -/
inductive Sign where
  | plain
  | plus
  | minus
deriving DecidableEq

namespace Sign

def text : Sign → List Char
  | .plain => []
  | .plus => ['+']
  | .minus => ['-']

def factor : Sign → ℤ
  | .minus => -1
  | _ => 1

end Sign

/-- A decimal digit as it is written. -/
def digitChar (d : Fin 10) : Char := Char.ofNat (48 + d)

/-- The number that digits write. -/
def number (ds : List (Fin 10)) : ℕ := Nat.ofDigits 10 (ds.reverse.map Fin.val)

/-- An exponent: the letter, a sign and at least one digit. -/
structure Exponent where
  capital : Bool
  sign : Sign
  digits : List (Fin 10)
  nonempty : digits ≠ []

namespace Exponent

def text (e : Exponent) : List Char :=
  (if e.capital then 'E' else 'e') :: (e.sign.text ++ e.digits.map digitChar)

def value (e : Exponent) : ℤ := e.sign.factor * number e.digits

end Exponent

/-- A point with the digits after it. -/
def pointText : Option (List (Fin 10)) → List Char
  | none => []
  | some ds => '.' :: ds.map digitChar

/-- An exponent, where there is one. -/
def exponentText : Option Exponent → List Char
  | none => []
  | some e => e.text

/-- A decimal literal as it is written: a sign, digits with at most one point among them and at least
one digit, and perhaps an exponent. -/
structure Spelling where
  sign : Sign
  whole : List (Fin 10)
  places : Option (List (Fin 10))
  exponent : Option Exponent
  nonempty : whole ≠ [] ∨ places.getD [] ≠ []

namespace Spelling

/-- The characters of the literal. -/
def text (s : Spelling) : List Char :=
  s.sign.text ++ (s.whole.map digitChar ++ (pointText s.places ++ exponentText s.exponent))

/-- The digits after the point. -/
def fraction (s : Spelling) : List (Fin 10) := s.places.getD []

/-- The power of ten that the exponent asks for. -/
def power (s : Spelling) : ℤ := (s.exponent.map Exponent.value).getD 0

/-- **The exact value of the literal.** -/
def value (s : Spelling) : ℚ :=
  s.sign.factor * (number s.whole + number s.fraction / 10 ^ s.fraction.length) * 10 ^ s.power

end Spelling

/-! ### Digits -/

section Digits

lemma isDigit_digitChar : ∀ d, (digitChar d).isDigit = true := by decide

lemma toNat_digitChar : ∀ d : Fin 10, (digitChar d).toNat - 48 = d := by decide

lemma exists_digitChar {c : Char} (h : c.isDigit = true) : ∃ d, digitChar d = c := by
  have bounds : 48 ≤ c.toNat ∧ c.toNat ≤ 57 := by
    simp only [Char.isDigit, Bool.and_eq_true, decide_eq_true_eq] at h
    exact h
  refine ⟨⟨c.toNat - 48, by omega⟩, ?_⟩
  rw [digitChar, show 48 + (c.toNat - 48) = c.toNat by omega, Char.ofNat_toNat]

lemma exists_map_digitChar {cs : List Char} (h : cs.all Char.isDigit = true) :
    ∃ ds : List (Fin 10), ds.map digitChar = cs := by
  induction cs with
  | nil => exact ⟨[], rfl⟩
  | cons c rest ih =>
    rw [List.all_cons, Bool.and_eq_true] at h
    obtain ⟨d, rfl⟩ := exists_digitChar h.1
    obtain ⟨ds, rfl⟩ := ih h.2
    exact ⟨d :: ds, rfl⟩

lemma all_isDigit_map (ds : List (Fin 10)) : (ds.map digitChar).all Char.isDigit = true := by
  simp [isDigit_digitChar]

lemma number_append (ds es : List (Fin 10)) :
    number (ds ++ es) = number ds * 10 ^ es.length + number es := by
  unfold number
  rw [List.reverse_append, List.map_append, Nat.ofDigits_append]
  simp
  ring

theorem digitsValue_map (ds : List (Fin 10)) : digitsValue (ds.map digitChar) = number ds := by
  induction ds using List.reverseRecOn with
  | nil => rfl
  | append_singleton ds d ih =>
    unfold digitsValue at *
    rw [List.map_append, List.foldl_append, ih, number_append]
    simp [toNat_digitChar, number]
    ring

end Digits

/-! ### Reading a spelling -/

namespace Spelling

/-- What is read from the literal. -/
def literal (s : Spelling) : Literal :=
  ⟨s.sign = .minus, number (s.whole ++ s.fraction), s.power - s.fraction.length⟩

end Spelling

/-- The text starts with neither sign. -/
def Unsigned (cs : List Char) : Prop := cs.head? ≠ some '-' ∧ cs.head? ≠ some '+'

/-- The text does not start with a digit. -/
def EndsDigits (cs : List Char) : Prop := ∀ c ∈ cs.head?, c.isDigit = false

lemma splitSign_of_unsigned {cs : List Char} (h : Unsigned cs) : splitSign cs = (false, cs) := by
  unfold splitSign
  split
  · exact absurd rfl h.1
  · exact absurd rfl h.2
  · rfl

lemma splitSign_text (sign : Sign) {cs : List Char} (h : Unsigned cs) :
    splitSign (sign.text ++ cs) = (decide (sign = .minus), cs) := by
  cases sign with
  | plain => exact splitSign_of_unsigned h
  | plus => rfl
  | minus => rfl

lemma unsigned_digits {ds : List (Fin 10)} (h : ds ≠ []) (cs : List Char) :
    Unsigned (ds.map digitChar ++ cs) := by
  have other : ∀ d, digitChar d ≠ '-' ∧ digitChar d ≠ '+' := by decide
  cases ds with
  | nil => exact absurd rfl h
  | cons d rest => simpa [Unsigned] using other d

lemma takeWhile_digits (ds : List (Fin 10)) {cs : List Char} (h : EndsDigits cs) :
    (ds.map digitChar ++ cs).takeWhile Char.isDigit = ds.map digitChar := by
  have digits : ∀ c ∈ ds.map digitChar, c.isDigit = true := List.all_eq_true.mp (all_isDigit_map ds)
  rw [List.takeWhile_append_of_pos digits]
  cases cs with
  | nil => simp
  | cons c rest => simp [h c rfl]

lemma dropWhile_digits (ds : List (Fin 10)) {cs : List Char} (h : EndsDigits cs) :
    (ds.map digitChar ++ cs).dropWhile Char.isDigit = cs := by
  have digits : ∀ c ∈ ds.map digitChar, c.isDigit = true := List.all_eq_true.mp (all_isDigit_map ds)
  rw [List.dropWhile_append_of_pos digits]
  cases cs with
  | nil => rfl
  | cons c rest => simp [h c rfl]

lemma exponent?_text (e : Exponent) : exponent? e.text = some e.value := by
  have unsigned := unsigned_digits e.nonempty []
  rw [List.append_nil] at unsigned
  have letter : (if e.capital then 'E' else 'e') = 'e' ∨ (if e.capital then 'E' else 'e') = 'E' := by
    cases e.capital <;> simp
  have nonempty : (e.digits.map digitChar).isEmpty = false := by simp [e.nonempty]
  rw [Exponent.text, exponent?, if_pos letter, splitSign_text e.sign unsigned]
  simp only [nonempty, all_isDigit_map, digitsValue_map]
  unfold Exponent.value
  cases e.sign <;> simp [Sign.factor]

lemma exponent?_exponentText (e : Option Exponent) :
    exponent? (exponentText e) = some ((e.map Exponent.value).getD 0) := by
  cases e with
  | none => rfl
  | some e => exact exponent?_text e

lemma exponentText_starts (e : Option Exponent) :
    ∀ c ∈ (exponentText e).head?, c = 'e' ∨ c = 'E' := by
  cases e with
  | none => simp [exponentText]
  | some e => cases eq : e.capital <;> simp [exponentText, Exponent.text, eq]

lemma endsDigits_exponentText (e : Option Exponent) : EndsDigits (exponentText e) := by
  intro c hc
  rcases exponentText_starts e c hc with rfl | rfl <;> rfl

lemma endsDigits_pointText (places : Option (List (Fin 10))) (e : Option Exponent) :
    EndsDigits (pointText places ++ exponentText e) := by
  cases places with
  | none => exact endsDigits_exponentText e
  | some ds =>
    rintro c ⟨⟩
    rfl

/-- The digits after a point, if one stands here, and what comes after them. -/
def splitPlaces : List Char → List Char × List Char
  | '.' :: tail => (tail.takeWhile Char.isDigit, tail.dropWhile Char.isDigit)
  | tail => ([], tail)

lemma splitPlaces_text (places : Option (List (Fin 10))) (e : Option Exponent) :
    splitPlaces (pointText places ++ exponentText e) =
      ((places.getD []).map digitChar, exponentText e) := by
  have ends := endsDigits_exponentText e
  cases places with
  | some ds =>
    simp [pointText, splitPlaces, takeWhile_digits ds ends, dropWhile_digits ds ends]
  | none =>
    have starts := exponentText_starts e
    rw [pointText, List.nil_append, splitPlaces]
    · rfl
    · intro tail eq
      rw [eq] at starts
      simp at starts

/-- The digits before the point. -/
def wholeOf (cs : List Char) : List Char := (splitSign cs).2.takeWhile Char.isDigit

/-- What comes after the digits before the point, split up in its turn. -/
def afterWhole (cs : List Char) : List Char × List Char :=
  splitPlaces ((splitSign cs).2.dropWhile Char.isDigit)

/-- A text is read as a literal if it has a digit before or after the point and ends with an
exponent. -/
lemma ofChars?_eq_some_iff {cs : List Char} {l : Literal} :
    ofChars? cs = some l ↔ (wholeOf cs ≠ [] ∨ (afterWhole cs).1 ≠ []) ∧
      ∃ e, exponent? (afterWhole cs).2 = some e ∧
        l = ⟨(splitSign cs).1, digitsValue (wholeOf cs ++ (afterWhole cs).1),
          e - (afterWhole cs).1.length⟩ := by
  have steps : ofChars? cs =
      if (wholeOf cs).isEmpty ∧ (afterWhole cs).1.isEmpty then none
      else exponent? (afterWhole cs).2 >>= fun e =>
        some ⟨(splitSign cs).1, digitsValue (wholeOf cs ++ (afterWhole cs).1),
          e - (afterWhole cs).1.length⟩ := rfl
  rw [steps]
  by_cases empty : (wholeOf cs).isEmpty ∧ (afterWhole cs).1.isEmpty
  · rw [if_pos empty]
    simp only [List.isEmpty_iff] at empty
    simp [empty]
  · rw [if_neg empty]
    simp only [List.isEmpty_iff] at empty
    rw [Option.bind_eq_bind, Option.bind_eq_some_iff, and_iff_right (not_and_or.mp empty)]
    simp only [Option.some.injEq, @eq_comm _ l]

namespace Spelling

variable (s : Spelling)

lemma unsigned_body :
    Unsigned (s.whole.map digitChar ++ (pointText s.places ++ exponentText s.exponent)) := by
  by_cases whole : s.whole = []
  · have places := s.nonempty.resolve_left (not_not.mpr whole)
    cases eq : s.places with
    | none => simp [eq] at places
    | some ds => simp [whole, pointText, Unsigned]
  · exact unsigned_digits whole _

lemma splitSign_spelling : splitSign s.text = (decide (s.sign = .minus),
    s.whole.map digitChar ++ (pointText s.places ++ exponentText s.exponent)) :=
  splitSign_text s.sign s.unsigned_body

lemma wholeOf_spelling : wholeOf s.text = s.whole.map digitChar := by
  rw [wholeOf, splitSign_spelling, takeWhile_digits _ (endsDigits_pointText _ _)]

lemma afterWhole_spelling :
    afterWhole s.text = (s.fraction.map digitChar, exponentText s.exponent) := by
  rw [afterWhole, splitSign_spelling, dropWhile_digits _ (endsDigits_pointText _ _),
    splitPlaces_text]
  rfl

/-- **A spelled literal is read.** -/
theorem ofChars?_text : ofChars? s.text = some s.literal := by
  rw [ofChars?_eq_some_iff, wholeOf_spelling, afterWhole_spelling, splitSign_spelling]
  refine ⟨?_, s.power, exponent?_exponentText s.exponent, ?_⟩
  · simpa [fraction] using s.nonempty
  · rw [← List.map_append, digitsValue_map, List.length_map]
    rfl

end Spelling

/-! ### What is read is spelled -/

lemma exists_sign (cs : List Char) : ∃ sign : Sign, cs = sign.text ++ (splitSign cs).2 := by
  unfold splitSign
  split
  · exact ⟨.minus, rfl⟩
  · exact ⟨.plus, rfl⟩
  · exact ⟨.plain, rfl⟩

lemma all_takeWhile_isDigit (cs : List Char) : (cs.takeWhile Char.isDigit).all Char.isDigit = true :=
  List.all_eq_true.mpr fun _ mem => List.mem_takeWhile_imp mem

lemma exists_places (cs : List Char) : ∃ places : Option (List (Fin 10)),
    cs = pointText places ++ (splitPlaces cs).2 ∧
      (splitPlaces cs).1 = (places.getD []).map digitChar := by
  unfold splitPlaces
  split
  · rename_i tail
    obtain ⟨ds, eq⟩ := exists_map_digitChar (all_takeWhile_isDigit tail)
    refine ⟨some ds, ?_, eq.symm⟩
    rw [pointText, eq, List.cons_append, List.takeWhile_append_dropWhile]
  · exact ⟨none, rfl, rfl⟩

lemma exists_exponent {cs : List Char} {e : ℤ} (h : exponent? cs = some e) :
    ∃ exponent : Option Exponent, cs = exponentText exponent := by
  cases cs with
  | nil => exact ⟨none, rfl⟩
  | cons c rest =>
    rw [exponent?] at h
    by_cases letter : c = 'e' ∨ c = 'E'
    · rw [if_pos letter] at h
      obtain ⟨sign, eq⟩ := exists_sign rest
      by_cases wrong : (splitSign rest).2.isEmpty = true ∨ (!(splitSign rest).2.all Char.isDigit) = true
      · simp only [if_pos wrong] at h
        cases h
      · simp only [not_or, List.isEmpty_iff, Bool.not_eq_true, Bool.not_eq_false'] at wrong
        obtain ⟨ds, digits⟩ := exists_map_digitChar wrong.2
        refine ⟨some ⟨decide (c = 'E'), sign, ds, ?_⟩, ?_⟩
        · rintro rfl
          exact wrong.1 digits.symm
        · rw [exponentText, Exponent.text, digits, ← eq]
          rcases letter with rfl | rfl <;> rfl
    · rw [if_neg letter] at h
      cases h

/-- **What is read as a literal is spelled as one.** -/
theorem exists_spelling {cs : List Char} {l : Literal} (h : ofChars? cs = some l) :
    ∃ s : Spelling, cs = s.text := by
  obtain ⟨nonempty, e, exponent, -⟩ := ofChars?_eq_some_iff.mp h
  obtain ⟨sign, eq⟩ := exists_sign cs
  obtain ⟨whole, digits⟩ := exists_map_digitChar (all_takeWhile_isDigit (splitSign cs).2)
  obtain ⟨places, eq', digits'⟩ := exists_places ((splitSign cs).2.dropWhile Char.isDigit)
  obtain ⟨exponent, eq''⟩ := exists_exponent exponent
  unfold wholeOf at nonempty
  unfold afterWhole at nonempty eq''
  rw [digits'] at nonempty
  rw [← digits] at nonempty
  have text : cs = sign.text ++ (whole.map digitChar ++
      (pointText places ++ exponentText exponent)) := by
    rw [← eq'', ← eq', digits, List.takeWhile_append_dropWhile, ← eq]
  exact ⟨⟨sign, whole, places, exponent, by simpa using nonempty⟩, text⟩

end ApiStencil.Literal
