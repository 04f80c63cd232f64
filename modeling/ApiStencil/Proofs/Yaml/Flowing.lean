import ApiStencil.Yaml.Print
import Mathlib.Algebra.Ring.Nat
import Mathlib.Data.List.Basic

/-!
# Reading back plain and quoted scalars

Each of the three forms that flow is read back as the text that it was written for, whatever comes
after it on the next line.

* `readDouble_escaped` — any text in double quotes;
* `readSingle_body` — a text that fits in single quotes;
* `readPlain_line` — a text that fits as a plain scalar, with the end of its line.
-/

namespace ApiStencil.Yaml

/-! ### Characters -/

/-- Whether a document may hold characters as they are written. -/
def Printable (cs : List Char) : Prop := ∀ c ∈ cs, isPrintable c

instance (cs : List Char) : Decidable (Printable cs) :=
  List.decidableBAll (fun c => isPrintable c) cs

namespace Printable

variable {cs ds : List Char} {c : Char}

lemma append (h : Printable cs) (h' : Printable ds) : Printable (cs ++ ds) :=
  List.forall_mem_append.mpr ⟨h, h'⟩

lemma cons (hc : isPrintable c) (h : Printable cs) : Printable (c :: cs) :=
  List.forall_mem_cons.mpr ⟨hc, h⟩

lemma tail (h : Printable (c :: cs)) : Printable cs := (List.forall_mem_cons.mp h).2

end Printable

lemma isBlank_eq_false {c : Char} (hs : c ≠ ' ') (hp : isPrintable c) : isBlank c = false := by
  have ht : c ≠ '\t' := by
    rintro rfl
    revert hp
    decide
  simp [isBlank, hs, ht]

lemma hasPair_cons (first second : Char → Bool) (c : Char) (cs : List Char) :
    hasPair first second (c :: cs) = false ↔
      (∀ d ∈ cs.head?, first c = true → second d = false) ∧ hasPair first second cs = false := by
  cases cs with
  | nil => simp [hasPair]
  | cons d cs => simp [hasPair]

/-- Whether a line starts here that has something in its first column, or nothing comes at all. -/
def StartsLine (cs : List Char) : Prop := ∀ c ∈ cs.head?, isBlank c = false ∧ isBreak c = false

lemma prepend_prepend (front back : List Char) (r : Reading) :
    (r.prepend back).prepend front = r.prepend (front ++ back) := by
  cases r <;> simp [Reading.prepend]

/-! ### Double quotes -/

lemma hexDigit?_hexDigit : ∀ n < 16, hexDigit? (hexDigit n) = some n := by decide

/-- Hexadecimal digits are read back as the number, as far as it fits in them. -/
lemma mapM_hexOf (width n : Nat) :
    ∃ values, (hexOf width n).mapM hexDigit? = some values ∧
      values.foldl (fun n d => 16 * n + d) 0 = n % 16 ^ width := by
  induction width generalizing n with
  | zero => exact ⟨[], rfl, by simp [Nat.mod_one]⟩
  | succ width ih =>
    obtain ⟨values, hvalues, hfold⟩ := ih (n / 16)
    refine ⟨values ++ [n % 16], ?_, ?_⟩
    · rw [hexOf, List.mapM_append, hvalues]
      simp [hexDigit?_hexDigit (n % 16) (by omega)]
    · rw [List.foldl_append, hfold, List.foldl_cons, List.foldl_nil, Nat.pow_succ,
        Nat.mul_comm (16 ^ width), Nat.mod_mul]
      omega

lemma charOfHex?_hexOf {width : Nat} {c : Char} (h : c.toNat < 16 ^ width) :
    charOfHex? (hexOf width c.toNat) = some c := by
  obtain ⟨values, hvalues, hfold⟩ := mapM_hexOf width c.toNat
  rw [Nat.mod_eq_of_lt h] at hfold
  have hvalid : c.toNat.isValidChar := c.valid
  rw [charOfHex?, hvalues]
  simp [hfold, hvalid]

lemma length_hexOf (width n : Nat) : (hexOf width n).length = width := by
  induction width generalizing n with
  | zero => rfl
  | succ width ih => simp [hexOf, ih]

/-- The digits of an escape by number are collected, and the character is put in front. -/
lemma readDouble_digits (before : List Char) {digits : List Char} {c : Char} (hne : digits ≠ [])
    (h : charOfHex? (before ++ digits) = some c) (rest : List Char) :
    readDouble .none false (some (digits.length, before)) (digits ++ rest)
      = (readDouble .none false none rest).prepend [c] := by
  induction digits generalizing before with
  | nil => exact absurd rfl hne
  | cons d digits ih =>
    cases digits with
    | nil => simp [readDouble, h]
    | cons e digits =>
      have hnext := ih (before ++ [d]) (by simp) (by simpa using h)
      rw [List.cons_append, readDouble]
      · simpa using hnext
      · simp

section Escaped

variable {c e : Char} {blanks rest : List Char}

lemma readDouble_short (hb : isBreak e = false) (h : shortEscape? e = some c) :
    readDouble (.inline blanks) false none ('\\' :: e :: rest)
      = (readDouble .none false none rest).prepend (blanks ++ [c]) := by
  have hslash : isBlank '\\' = false ∧ isBreak '\\' = false := by decide
  rw [readDouble.eq_def]
  simp [hslash, hb, h, Gap.text]

lemma readDouble_number {width : Nat} (hb : isBreak e = false) (hs : shortEscape? e = none)
    (hn : numberLength? e = some width) (hw : width ≠ 0) (hc : c.toNat < 16 ^ width) :
    readDouble (.inline blanks) false none ('\\' :: e :: (hexOf width c.toNat ++ rest))
      = (readDouble .none false none rest).prepend (blanks ++ [c]) := by
  have hslash : isBlank '\\' = false ∧ isBreak '\\' = false := by decide
  have hne : hexOf width c.toNat ≠ [] := by
    rw [← List.length_pos_iff_ne_nil, length_hexOf]
    omega
  have hdigits := readDouble_digits [] hne (charOfHex?_hexOf hc) rest
  rw [length_hexOf] at hdigits
  rw [readDouble.eq_def]
  simp [hslash, hb, hs, hn, hdigits, Gap.text, prepend_prepend]

lemma readDouble_shown (hc : isBlank c = false ∧ isBreak c = false) (hq : c ≠ '"')
    (hs : c ≠ '\\') :
    readDouble (.inline blanks) false none (c :: rest)
      = (readDouble .none false none rest).prepend (blanks ++ [c]) := by
  rw [readDouble.eq_def]
  simp [hc, hq, hs, Gap.text]

lemma readDouble_space :
    readDouble (.inline blanks) false none (' ' :: rest)
      = readDouble (.inline (blanks ++ [' '])) false none rest := by
  have hspace : isBlank ' ' = true ∧ isBreak ' ' = false := by decide
  rw [readDouble.eq_def]
  simp [hspace, Gap.push]

/-- One character is read from what stands for it in double quotes. -/
lemma readDouble_escaped_char (hc : c ≠ ' ') :
    readDouble (.inline blanks) false none (escaped c ++ rest)
      = (readDouble .none false none rest).prepend (blanks ++ [c]) := by
  have hvalid : c.toNat < 16 ^ 8 := by
    have := c.valid
    rcases this with h | h <;> simp only [Char.toNat] at * <;> omega
  simp only [escaped]
  split
  · rename_i hq
    simp only [Bool.or_eq_true, decide_eq_true_eq] at hq
    rcases hq with rfl | rfl <;> exact readDouble_short rfl rfl
  · rename_i hq
    simp only [Bool.or_eq_true, decide_eq_true_eq, not_or] at hq
    split
    · rename_i hp
      simp only [Bool.and_eq_true, Bool.not_eq_true'] at hp
      exact readDouble_shown ⟨isBlank_eq_false hc hp.1, hp.2⟩ hq.1 hq.2
    · split
      -- the short escapes, by the number of the character
      iterate 12
        · rename_i h
          rw [← Char.ofNat_toNat c, h]
          exact readDouble_short rfl rfl
      · split
        · exact readDouble_number rfl rfl rfl (by decide) (by omega)
        · split
          · exact readDouble_number rfl rfl rfl (by decide) (by omega)
          · exact readDouble_number rfl rfl rfl (by decide) hvalid

end Escaped

/-- **Any text in double quotes** is read back. -/
theorem readDouble_escaped (blanks cs rest : List Char) :
    readDouble (.inline blanks) false none (cs.flatMap escaped ++ '"' :: rest)
      = some (blanks ++ cs, rest) := by
  induction cs generalizing blanks with
  | nil =>
    rw [readDouble.eq_def]
    simp [Gap.text]
  | cons c cs ih =>
    rw [List.flatMap_cons, List.append_assoc]
    by_cases hc : c = ' '
    · subst hc
      rw [show escaped ' ' = [' '] by decide, List.cons_append, List.nil_append,
        readDouble_space, ih]
      simp
    · rw [readDouble_escaped_char hc, Gap.none, ih]
      simp [Reading.prepend]

/-! ### Single quotes -/

/-- What single quotes can hold on one line or over several lines, where a line feed would be
changed. -/
structure Singly (cs : List Char) : Prop where
  printable : Printable cs
  unfed : '\n' ∉ cs
  noSpaceBefore : hasPair isSpace isBreak cs = false
  noSpaceAfter : hasPair isBreak isSpace cs = false

section Single

variable {c first : Char} {blanks more cs rest : List Char}

lemma readSingle_shown (hc : isBlank c = false ∧ isBreak c = false) (hq : c ≠ '\'') (gap : Gap) :
    readSingle gap false (c :: rest) = (readSingle .none false rest).prepend (gap.text ++ [c]) := by
  rw [readSingle]
  · simp [hc]
  · exact fun _ h _ => hq h
  · exact hq

lemma readSingle_quote (gap : Gap) :
    readSingle gap false ('\'' :: '\'' :: rest)
      = (readSingle .none false rest).prepend (gap.text ++ ['\'']) := by
  rw [readSingle]

/-- One character is read from what stands for it in single quotes. -/
lemma readSingle_char (hc : isBlank c = false ∧ isBreak c = false) (gap : Gap) :
    readSingle gap false ((if c = '\'' then ['\'', '\''] else [c]) ++ rest)
      = (readSingle .none false rest).prepend (gap.text ++ [c]) := by
  by_cases hq : c = '\''
  · subst hq
    exact readSingle_quote gap
  · rw [if_neg hq]
    exact readSingle_shown hc hq gap

lemma readSingle_gap (hc : isBlank c = true ∨ isBreak c = true) (gap : Gap) (lineStart : Bool) :
    readSingle gap lineStart (c :: rest) = readSingle (gap.push c) (isBreak c) rest := by
  have hq : c ≠ '\'' := by
    rintro rfl
    revert hc
    decide
  rw [readSingle]
  · simp [hc]
  · exact fun _ h _ => hq h
  · exact hq

lemma readSingle_close (hrest : '\'' ∉ rest.head?) (gap : Gap) (lineStart : Bool) :
    readSingle gap lineStart ('\'' :: rest) = some (gap.text, rest) := by
  rw [readSingle]
  rintro others rfl
  exact hrest rfl

/-- The indentation of a line leaves the line breaks before it as they are. -/
lemma readSingle_indentation (lineStart : Bool) :
    readSingle (.broken first more) lineStart (indentation ++ rest)
      = readSingle (.broken first more) false rest := by
  have hspace : isBlank ' ' = true ∧ isBreak ' ' = false := by decide
  simp [indentation, readSingle_gap, hspace, Gap.push]

/-- A line break goes into the gap. -/
lemma readSingle_body_break (hc : isBreak c = true) (gap : Gap) (broken lineStart : Bool) :
    readSingle gap lineStart (singleBody broken (c :: cs) ++ rest)
      = readSingle (gap.push c) true (singleBody true cs ++ rest) := by
  rw [singleBody, if_pos hc, List.cons_append, readSingle_gap (.inr hc), hc]

/-- A space in a line goes into the gap. -/
lemma readSingle_body_space :
    readSingle (.inline blanks) false (singleBody false (' ' :: cs) ++ rest)
      = readSingle (.inline (blanks ++ [' '])) false (singleBody false cs ++ rest) := by
  have hspace : isBlank ' ' = true ∧ isBreak ' ' = false := by decide
  have hbody : singleBody false (' ' :: cs) = ' ' :: singleBody false cs := by
    simp [singleBody, hspace]
  rw [hbody, List.cons_append, readSingle_gap (.inl hspace.1), hspace.2]
  simp [Gap.push, hspace]

/-- Any other character in a line ends the gap. -/
lemma readSingle_body_shown (hc : isBlank c = false ∧ isBreak c = false) :
    readSingle (.inline blanks) false (singleBody false (c :: cs) ++ rest)
      = (readSingle .none false (singleBody false cs ++ rest)).prepend (blanks ++ [c]) := by
  rw [singleBody, if_neg (by simp [hc]), if_neg (by simp), List.nil_append, List.append_assoc,
    readSingle_char hc]
  rfl

/-- Any other character ends the gap before its line, and its indentation does not count. -/
lemma readSingle_body_start (hc : isBlank c = false ∧ isBreak c = false) :
    readSingle (.broken first more) true (singleBody true (c :: cs) ++ rest)
      = (readSingle .none false (singleBody false cs ++ rest)).prepend
          ((Gap.broken first more).text ++ [c]) := by
  rw [singleBody, if_neg (by simp [hc]), if_pos rfl, List.append_assoc, List.append_assoc,
    readSingle_indentation, readSingle_char hc]

lemma Singly.tail (h : Singly (c :: cs)) : Singly cs where
  printable := h.printable.tail
  unfed hd := h.unfed (List.mem_cons_of_mem c hd)
  noSpaceBefore := ((hasPair_cons _ _ _ _).mp h.noSpaceBefore).2
  noSpaceAfter := ((hasPair_cons _ _ _ _).mp h.noSpaceAfter).2

lemma Singly.space_break (h : Singly (' ' :: cs)) : ∀ d ∈ cs.head?, isBreak d = false :=
  fun d hd => ((hasPair_cons _ _ _ _).mp h.noSpaceBefore).1 d hd rfl

lemma Singly.break_space (h : Singly (c :: cs)) (hc : isBreak c = true) :
    ∀ d ∈ cs.head?, isSpace d = false :=
  fun d hd => ((hasPair_cons _ _ _ _).mp h.noSpaceAfter).1 d hd hc

/-- Reading inside a line and reading after a line break, in one induction: each of the two goes
over into the other. -/
lemma readSingle_both (h : Singly cs) (hrest : '\'' ∉ rest.head?) :
    (∀ blanks, (blanks ≠ [] → ∀ d ∈ cs.head?, isBreak d = false) →
      readSingle (.inline blanks) false (singleBody false cs ++ '\'' :: rest)
        = some (blanks ++ cs, rest)) ∧
    (∀ first more, first ≠ '\n' → (∀ d ∈ cs.head?, isSpace d = false) →
      readSingle (.broken first more) true (singleBody true cs ++ '\'' :: rest)
        = some (first :: more ++ cs, rest)) := by
  induction cs with
  | nil =>
    refine ⟨fun blanks _ => ?_, fun first more hfirst _ => ?_⟩
    · simp [singleBody, readSingle_close hrest, Gap.text]
    · simp [singleBody, readSingle_indentation, readSingle_close hrest, Gap.text, hfirst]
  | cons c cs ih =>
    obtain ⟨hinline, hbroken⟩ := ih h.tail
    by_cases hbreak : isBreak c = true
    · have hc : c ≠ '\n' := fun e => h.unfed (e ▸ List.mem_cons_self)
      have hnext := h.break_space hbreak
      refine ⟨fun blanks hblanks => ?_, fun first more hfirst _ => ?_⟩
      · have hnil : blanks = [] := by
          by_contra hne
          rw [hblanks hne c rfl] at hbreak
          cases hbreak
        subst hnil
        rw [readSingle_body_break hbreak, Gap.push, if_pos hbreak, hbroken c [] hc hnext]
        rfl
      · rw [readSingle_body_break hbreak, Gap.push, if_pos hbreak, hbroken first _ hfirst hnext]
        simp
    · rw [Bool.not_eq_true] at hbreak
      have hrestText := hinline [] (fun e => absurd rfl e)
      have hshown (hc : c ≠ ' ') : isBlank c = false ∧ isBreak c = false :=
        ⟨isBlank_eq_false hc (h.printable c List.mem_cons_self), hbreak⟩
      refine ⟨fun blanks hblanks => ?_, fun first more hfirst hspace => ?_⟩
      · by_cases hc : c = ' '
        · subst hc
          rw [readSingle_body_space, hinline _ fun _ => h.space_break]
          simp
        · rw [readSingle_body_shown (hshown hc), Gap.none, hrestText]
          simp [Reading.prepend]
      · have hc : c ≠ ' ' := by
          rintro rfl
          exact absurd (hspace ' ' rfl) (by decide)
        rw [readSingle_body_start (hshown hc), Gap.none, hrestText]
        simp [Reading.prepend, Gap.text, hfirst]

end Single

/-- **A text that fits in single quotes** is read back. -/
theorem readSingle_body {cs rest : List Char} (h : Singly cs) (hrest : '\'' ∉ rest.head?) :
    readSingle .none false (singleBody false cs ++ '\'' :: rest) = some (cs, rest) :=
  (readSingle_both h hrest).1 [] fun e => absurd rfl e

/-! ### Plain scalars -/

/-- What a plain scalar can hold on one line of a block, from some character after its first on. -/
structure Plainly (cs : List Char) : Prop where
  printable : Printable cs
  unbroken : ∀ c ∈ cs, isBreak c = false
  uncolonned : hasEndingColon cs = false
  uncommented : hasPair (fun c => isBlank c || isBreak c) (· = '#') cs = false
  ended : cs.getLast? ≠ some ' '

section Plain

variable {c : Char} {blanks cs next : List Char} {least column : Nat}

lemma Plainly.tail (h : Plainly (c :: cs)) : Plainly cs where
  printable := h.printable.tail
  unbroken d hd := h.unbroken d (List.mem_cons_of_mem c hd)
  uncolonned := by
    have := h.uncolonned
    simp only [hasEndingColon, Bool.or_eq_false_iff] at this
    exact this.2
  uncommented := ((hasPair_cons _ _ _ _).mp h.uncommented).2
  ended := by
    cases cs with
    | nil => simp
    | cons d cs => exact h.ended

/-- The end of the line ends a word where the end of the text does. -/
lemma endsWord_line (cs next : List Char) : endsWord (cs ++ '\n' :: next) = endsWord cs := by
  cases cs <;> rfl

lemma readPlain_blank (hb : isBreak c = false) (hc : isBlank c = true) (rest : List Char) :
    readPlain ⟨false, least⟩ (.inline blanks) column (c :: rest)
      = readPlain ⟨false, least⟩ (.inline (blanks ++ [c])) (column + 1) rest := by
  rw [readPlain]
  simp [hb, hc, Gap.isBroken, Gap.push]

lemma readPlain_shown (hb : isBreak c = false) (hc : isBlank c = false) {rest : List Char}
    (hcolon : c = ':' → endsWord rest = false) (hcomment : blanks ≠ [] → c ≠ '#') :
    readPlain ⟨false, least⟩ (.inline blanks) column (c :: rest)
      = (readPlain ⟨false, least⟩ .none 0 rest).map fun (text, rest) =>
          (blanks ++ c :: text, rest) := by
  have hends : ¬ (c = ':' ∧ endsWord rest = true) := by
    rintro ⟨h, he⟩
    rw [hcolon h] at he
    cases he
  have hcomment : ¬ (c = '#' ∧ ¬ blanks = []) := fun h => hcomment h.2 h.1
  rw [readPlain]
  simp [hb, hc, Gap.isBroken, Gap.none, Gap.text, hends, hcomment]

lemma readPlain_end (hleast : 0 < least) (hnext : StartsLine next) (column : Nat) :
    readPlain ⟨false, least⟩ .none column ('\n' :: next) = some ([], next, true) := by
  have hfeed : isBreak '\n' = true := by decide
  rw [readPlain, if_pos hfeed, Gap.none, Gap.push, if_pos hfeed]
  cases next with
  | nil => rfl
  | cons c rest =>
    obtain ⟨hc, hb⟩ := hnext c rfl
    rw [readPlain]
    simp [hb, hc, Gap.isBroken, hleast]

/-- **A plain text and the end of its line** are read back, together with blanks before the text. -/
theorem readPlain_line (h : Plainly cs) (hleast : 0 < least) (hnext : StartsLine next)
    (hblanks : blanks ≠ [] → cs ≠ [] ∧ cs.head? ≠ some '#') (column : Nat) :
    readPlain ⟨false, least⟩ (.inline blanks) column (cs ++ '\n' :: next)
      = some (blanks ++ cs, next, true) := by
  induction cs generalizing blanks column with
  | nil =>
    have hnil : blanks = [] := by
      by_contra hne
      exact (hblanks hne).1 rfl
    subst hnil
    exact readPlain_end hleast hnext column
  | cons c cs ih =>
    have hb := h.unbroken c List.mem_cons_self
    by_cases hc : isBlank c = true
    · have hspace : c = ' ' := by
        by_contra hne
        rw [isBlank_eq_false hne (h.printable c List.mem_cons_self)] at hc
        cases hc
      have hrest : cs ≠ [] ∧ cs.head? ≠ some '#' := by
        refine ⟨?_, fun he => ?_⟩
        · rintro rfl
          exact h.ended (congrArg some hspace)
        · have := ((hasPair_cons _ _ _ _).mp h.uncommented).1 '#' he (by simp [hc])
          simp at this
      rw [List.cons_append, readPlain_blank hb hc, ih h.tail fun _ => hrest]
      simp
    · rw [Bool.not_eq_true] at hc
      have hcolon : c = ':' → endsWord (cs ++ '\n' :: next) = false := by
        rintro rfl
        have := h.uncolonned
        simp only [hasEndingColon, Bool.or_eq_false_iff] at this
        simpa [endsWord_line] using this.1
      rw [List.cons_append, readPlain_shown hb hc hcolon fun hne => by simpa using (hblanks hne).2,
        Gap.none, ih h.tail (fun e => absurd rfl e)]
      simp

/-- A key is read up to its colon. -/
theorem readPlain_key (least : Nat) {key rest : List Char}
    (hkey : ∀ c ∈ key, isBlank c = false ∧ isBreak c = false ∧ c ≠ ':')
    (hrest : endsWord rest = true) (column : Nat) :
    readPlain ⟨false, least⟩ .none column (key ++ ':' :: rest)
      = some (key, ':' :: rest, false) := by
  induction key generalizing column with
  | nil =>
    have hcolon : isBlank ':' = false ∧ isBreak ':' = false := by decide
    rw [List.nil_append, readPlain]
    simp [hcolon, hrest, Gap.isBroken, Gap.none]
  | cons c key ih =>
    obtain ⟨hc, hb, hne⟩ := hkey c List.mem_cons_self
    rw [List.cons_append, Gap.none, readPlain_shown hb hc (fun e => absurd e hne)
      (fun e => absurd rfl e), ih fun d hd => hkey d (List.mem_cons_of_mem c hd)]
    simp

end Plain

end ApiStencil.Yaml
