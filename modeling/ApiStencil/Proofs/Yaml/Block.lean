import ApiStencil.Proofs.Yaml.Flowing
import ApiStencil.Yaml.Block
import Mathlib.Data.List.TakeWhile
import Mathlib.Data.Nat.Init

/-!
# Reading back lines below a bar

A text with line feeds is written as its lines, indented, below a bar and a header.  The header says
how the text ends: without a line break, with one after a line, or with more.

* `Lines` — a text that starts and ends with a line, line by line;
* `readLines_lines` — its lines are read, and what the header keeps of the line breaks after them;
* `readBlock_literal` — any text is read back from its header and its lines.
-/

namespace ApiStencil.Yaml

/-! ### Lines with their indentation -/

lemma exists_prefix (p : Char → Bool) (cs : List Char) :
    ∃ front rest, cs = front ++ rest ∧ (∀ c ∈ front, p c = true) ∧
      ∀ c ∈ rest.head?, p c = false := by
  refine ⟨cs.takeWhile p, cs.dropWhile p, List.takeWhile_append_dropWhile.symm,
    fun c hc => List.mem_takeWhile_imp hc, fun c hc => ?_⟩
  have h := List.head?_dropWhile_not p cs
  rw [Option.mem_def.mp hc] at h
  simpa using h

lemma exists_suffix (p : Char → Bool) (cs : List Char) :
    ∃ front back, cs = front ++ back ∧ (∀ c ∈ back, p c = true) ∧
      ∀ c ∈ front.getLast?, p c = false := by
  obtain ⟨back, front, hsplit, hback, hfront⟩ := exists_prefix p cs.reverse
  refine ⟨front.reverse, back.reverse, ?_, by simpa using hback, by simpa using hfront⟩
  rw [← List.reverse_append, ← hsplit, List.reverse_reverse]

lemma exists_last {p : Char → Prop} {cs : List Char} (hne : cs ≠ []) (hcs : ∀ c ∈ cs, p c) :
    ∃ e, cs.getLast? = some e ∧ p e :=
  ⟨cs.getLast hne, List.getLast?_eq_some_getLast hne, hcs _ (List.getLast_mem hne)⟩

section Lines

variable {cs bs line rest : List Char} {b c : Char}

lemma literalBody_breaks (hbs : ∀ b ∈ bs, isBreak b = true) (cs : List Char) :
    literalBody true (bs ++ cs) = bs ++ literalBody true cs := by
  induction bs with
  | nil => rfl
  | cons b bs ih =>
    rw [List.cons_append, literalBody, if_pos (hbs b List.mem_cons_self),
      ih fun d hd => hbs d (List.mem_cons_of_mem b hd)]
    rfl

lemma literalBody_of_breaks (hbs : ∀ b ∈ bs, isBreak b = true) : literalBody true bs = bs := by
  have h := literalBody_breaks hbs []
  rwa [List.append_nil, literalBody, List.append_nil] at h

lemma literalBody_line (hline : ∀ c ∈ line, isBreak c = false) (hb : isBreak b = true)
    (cs : List Char) :
    literalBody false (line ++ b :: cs) = line ++ b :: literalBody true cs := by
  induction line with
  | nil => rw [List.nil_append, literalBody, if_pos hb]; rfl
  | cons c line ih =>
    have hc : isBreak c = false := hline c List.mem_cons_self
    rw [List.cons_append, literalBody, if_neg (by simp [hc]),
      ih fun d hd => hline d (List.mem_cons_of_mem c hd)]
    simp

lemma literalBody_cons (hc : isBreak c = false) (cs : List Char) :
    literalBody false (c :: cs) = c :: literalBody false cs := by
  simp [literalBody, hc]

/-- The first line after empty ones gets its indentation. -/
lemma literalBody_start (hc : isBreak c = false) (cs : List Char) :
    literalBody true (c :: cs) = indentation ++ literalBody false (c :: cs) := by
  simp [literalBody, hc]

lemma literalBody_concat (hb : isBreak b = true) (broken : Bool) (cs : List Char) :
    literalBody broken (cs ++ [b]) = literalBody broken cs ++ [b] := by
  induction cs generalizing broken with
  | nil => simp [literalBody, hb]
  | cons c cs ih =>
    by_cases hc : isBreak c = true
    · simp [literalBody, hc, ih]
    · simp [literalBody, hc, ih]

end Lines

/-- A text that starts and ends with a line. -/
inductive Lines : List Char → Prop where
  /-- One line. -/
  | last {c : Char} {line : List Char} (hline : ∀ d ∈ c :: line, isBreak d = false) :
      Lines (c :: line)
  /-- A line with its line break, and empty lines before the next one. -/
  | more {c : Char} {line : List Char} {d : Char} {bs rest : List Char}
      (hline : ∀ d ∈ c :: line, isBreak d = false) (hd : isBreak d = true)
      (hbs : ∀ b ∈ bs, isBreak b = true) (hrest : Lines rest) :
      Lines (c :: line ++ d :: (bs ++ rest))

namespace Lines

lemma exists_cons {cs : List Char} (h : Lines cs) :
    ∃ c others, cs = c :: others ∧ isBreak c = false := by
  cases h with
  | last hline => exact ⟨_, _, rfl, hline _ List.mem_cons_self⟩
  | more hline => exact ⟨_, _, rfl, hline _ List.mem_cons_self⟩

/-- Every text without a line break at its ends is one. -/
theorem of_ends {cs : List Char} (hne : cs ≠ []) (hstart : ∀ c ∈ cs.head?, isBreak c = false)
    (hend : ∀ c ∈ cs.getLast?, isBreak c = false) : Lines cs := by
  induction hn : cs.length using Nat.strong_induction_on generalizing cs with
  | _ n ih =>
    cases cs with
    | nil => exact absurd rfl hne
    | cons c cs =>
      obtain ⟨line, rest, rfl, hline, hrest⟩ := exists_prefix (fun d => !isBreak d) cs
      simp only [Bool.not_eq_true', Bool.not_eq_false'] at hline hrest
      have hline : ∀ d ∈ c :: line, isBreak d = false := by simpa [hstart c rfl] using hline
      cases rest with
      | nil =>
        rw [List.append_nil]
        exact .last hline
      | cons d rest =>
        have hd := hrest d rfl
        obtain ⟨bs, front, rfl, hbs, hfront⟩ := exists_prefix isBreak rest
        cases front with
        | nil =>
          -- the text would end in a line break
          obtain ⟨e, he, hbreak⟩ := exists_last (p := (isBreak · = true)) (List.cons_ne_nil d bs)
            (by simpa [hd] using hbs)
          rw [List.append_nil, ← List.cons_append, List.getLast?_append_cons] at hend
          rw [hend e he] at hbreak
          cases hbreak
        | cons e front =>
          have hsplit : c :: (line ++ d :: (bs ++ e :: front))
              = (c :: line ++ d :: bs) ++ e :: front := by simp
          rw [hsplit, List.getLast?_append_cons] at hend
          exact .more hline hd hbs
            (ih (e :: front).length (by simp at hn ⊢; omega) (by simp) hfront hend rfl)

end Lines

/-! ### Margins -/

namespace Margin

variable {bs next : List Char} {b c : Char} {limit : Option Nat}

lemma read_break (hb : isBreak b = true) (column widest : Nat) (rest : List Char) :
    Margin.read limit column widest (b :: rest) =
      (Margin.read limit 0 (max widest column) rest).map fun (margin, rest) =>
        ({ margin with breaks := b :: margin.breaks }, rest) := by
  have hne : b ≠ ' ' ∧ b ≠ '\t' := by
    constructor <;> (rintro rfl; revert hb; decide)
  rw [Margin.read.eq_def]
  simp [hne, hb]

/-- Empty lines are read one by one. -/
lemma read_breaks (hbs : ∀ b ∈ bs, isBreak b = true) (widest : Nat) (rest : List Char) :
    Margin.read limit 0 widest (bs ++ rest) =
      (Margin.read limit 0 widest rest).map fun (margin, rest) =>
        ({ margin with breaks := bs ++ margin.breaks }, rest) := by
  induction bs with
  | nil => cases h : Margin.read limit 0 widest rest <;> simp [h]
  | cons b bs ih =>
    rw [List.cons_append, read_break (hbs b List.mem_cons_self), Nat.max_zero,
      ih fun d hd => hbs d (List.mem_cons_of_mem b hd), Option.map_map]
    rfl

/-- The margin ends before the next line of the text around it. -/
lemma read_outside (hnext : StartsLine next) (column widest : Nat) :
    Margin.read limit column widest next = some (⟨[], column, max widest column⟩, next) := by
  cases next with
  | nil => rfl
  | cons c rest =>
    obtain ⟨hc, hb⟩ := hnext c rfl
    have hne : c ≠ ' ' ∧ c ≠ '\t' := by
      constructor <;> (rintro rfl; revert hc; decide)
    rw [Margin.read.eq_def]
    simp [hne, hb]

/-- The margin ends at the column that the header gives. -/
lemma read_limit (hb : isBreak c = false) (column widest : Nat) (rest : List Char) :
    Margin.read (some column) column widest (c :: rest)
      = some (⟨[], column, max widest column⟩, c :: rest) := by
  rw [Margin.read.eq_def]
  simp [hb]

lemma read_indentation (hlimit : ∀ n ∈ limit, n = 2) (widest : Nat) (rest : List Char) :
    Margin.read limit 0 widest (indentation ++ rest) = Margin.read limit 2 widest rest := by
  cases limit with
  | none => simp [indentation, Margin.read]
  | some n =>
    cases hlimit n rfl
    simp [indentation, Margin.read]

end Margin

/-! ### Lines -/

section ReadLines

variable {chomping : Chomping} {state : BlockState} {line front back next rest : List Char}
  {b c : Char} {fuel : Nat}

lemma readLines_outside {column : Nat} (h : column ≠ 2) (fuel : Nat) (cs : List Char) :
    readLines true chomping 2 fuel state column cs = some (state.tail chomping, cs) := by
  cases fuel with
  | zero => rfl
  | succ fuel => cases cs <;> simp [readLines, h]

lemma readLines_line (hline : ∀ d ∈ c :: line, isBreak d = false) (hb : isBreak b = true)
    {margin : Margin} {after : List Char}
    (hmargin : Margin.read (some 2) 0 0 rest = some (margin, after)) :
    readLines true chomping 2 (fuel + 1) state 2 (c :: line ++ b :: rest) =
      (readLines true chomping 2 fuel ⟨[b], margin.breaks, isBlank c⟩ margin.column after).map
        fun (text, rest) => (state.lead ++ state.trail ++ c :: line ++ text, rest) := by
  have htake : (c :: line ++ b :: rest).takeWhile (fun c => !isBreak c) = c :: line := by
    rw [List.takeWhile_append_of_pos (by simpa using hline)]
    simp [hb]
  have hdrop : (c :: line ++ b :: rest).dropWhile (fun c => !isBreak c) = b :: rest := by
    rw [List.dropWhile_append_of_pos (by simpa using hline)]
    simp [hb]
  rw [List.cons_append] at htake hdrop ⊢
  rw [readLines]
  simp only [ne_eq, not_true_eq_false, if_false, htake, hdrop, List.tail_cons, hmargin]
  simp only [List.take_succ_cons, List.take_zero, BlockState.join, Option.bind_eq_bind,
    Option.bind_some]
  cases readLines true chomping 2 fuel ⟨[b], margin.breaks, isBlank c⟩ margin.column after <;> simp

/-- The margin before a line, as the header gives the indentation. -/
lemma Margin.read_more {bs : List Char} (hbs : ∀ b ∈ bs, isBreak b = true)
    (hc : isBreak c = false) (rest : List Char) :
    Margin.read (some 2) 0 0 (bs ++ (indentation ++ c :: rest))
      = some (⟨bs, 2, 2⟩, c :: rest) := by
  rw [Margin.read_breaks hbs, Margin.read_indentation (by simp), Margin.read_limit hc]
  simp

/-- The margin after the last line. -/
lemma Margin.read_last (hback : ∀ b ∈ back, isBreak b = true) (hnext : StartsLine next) :
    Margin.read (some 2) 0 0 (back ++ next) = some (⟨back, 0, 0⟩, next) := by
  rw [Margin.read_breaks hback, Margin.read_outside hnext]
  simp

/-- **The lines of a text are read**, with the line breaks after them as far as the header keeps
them. -/
theorem readLines_lines (state : BlockState) (h : Lines front) (hb : isBreak b = true)
    (hback : ∀ c ∈ back, isBreak c = true) (hnext : StartsLine next) (fuel : Nat)
    (hfuel : front.length ≤ fuel) :
    readLines true chomping 2 fuel state 2 (literalBody false (front ++ b :: back) ++ next) =
      some (state.lead ++ state.trail ++ front ++ BlockState.tail chomping ⟨[b], back, false⟩,
        next) := by
  induction h generalizing fuel state with
  | @last c line hline =>
    obtain ⟨fuel, rfl⟩ : ∃ n, fuel = n + 1 := ⟨fuel - 1, by simp at hfuel; omega⟩
    have hbody : literalBody false (c :: line ++ b :: back) ++ next
        = c :: line ++ b :: (back ++ next) := by
      rw [literalBody_line hline hb, literalBody_of_breaks hback]
      simp
    rw [hbody, readLines_line hline hb (Margin.read_last hback hnext), readLines_outside (by simp)]
    simp [BlockState.tail]
  | @more c line d bs rest hline hd hbs hrest ih =>
    obtain ⟨fuel, rfl⟩ : ∃ n, fuel = n + 1 := ⟨fuel - 1, by simp at hfuel; omega⟩
    obtain ⟨e, others, rfl, he⟩ := hrest.exists_cons
    have hsplit : (c :: line ++ d :: (bs ++ e :: others)) ++ b :: back
        = c :: line ++ d :: (bs ++ (e :: (others ++ b :: back))) := by simp
    have hbody : literalBody false ((c :: line ++ d :: (bs ++ e :: others)) ++ b :: back) ++ next
        = c :: line ++ d ::
          (bs ++ (indentation ++ e :: (literalBody false (others ++ b :: back) ++ next))) := by
      rw [hsplit, literalBody_line hline hd, literalBody_breaks hbs, literalBody_start he,
        literalBody_cons he]
      simp
    have hnextLine := ih ⟨[d], bs, isBlank c⟩ fuel
      (by simp at hfuel ⊢; omega)
    rw [List.cons_append, literalBody_cons he, List.cons_append] at hnextLine
    rw [hbody, readLines_line hline hd (Margin.read_more hbs he _), hnextLine]
    simp

end ReadLines

/-! ### Headers -/

namespace Chomping

/-- The indicator for a chomping. -/
def indicator : Chomping → List Char
  | .strip => ['-']
  | .clip => []
  | .keep => ['+']

end Chomping

/-- The header that is written for a chomping, with the indentation or without. -/
lemma BlockHeader.read_indicators (known : Bool) (chomping : Chomping) (rest : List Char) :
    BlockHeader.read ((if known then ['2'] else []) ++ chomping.indicator ++ '\n' :: rest)
      = some (⟨chomping, if known then some 2 else none⟩, rest) := by
  cases known <;> cases chomping <;> rfl

section ReadBlock

variable {cs bs front back next rest after : List Char} {b : Char} {header : BlockHeader}
  {margin : Margin}

lemma readBlock_of_header (hheader : BlockHeader.read cs = some (header, rest))
    (hmargin : Margin.read header.indentation 0 0 rest = some (margin, after)) :
    readBlock true 0 cs = readLines true header.chomping
      (header.indentation.getD (max margin.widest 1)) (after.length + 1)
      ⟨[], margin.breaks, false⟩ margin.column after := by
  have hknown : header.indentation.map (fun n => n + (0 : Int).toNat) = header.indentation := by
    cases header.indentation <;> rfl
  simp only [readBlock, hheader, Option.bind_eq_bind, Option.bind_some, hknown, hmargin]
  rfl

lemma length_le_literalBody (broken : Bool) (cs : List Char) :
    cs.length ≤ (literalBody broken cs).length := by
  induction cs generalizing broken with
  | nil => simp
  | cons c cs ih =>
    have htrue := ih true
    have hfalse := ih false
    unfold literalBody
    split <;> simp <;> omega

/-- Where the first line does not start with a blank, the header need not give the indentation. -/
def Shown (known : Bool) (cs : List Char) : Prop := known = false → StartsLine cs

/-- The margin of the first line. -/
lemma Margin.read_first {known : Bool} (hshown : Shown known (bs ++ front)) (hne : front ≠ [])
    (hbs : ∀ c ∈ bs, isBreak c = true) (hstart : ∀ c ∈ front.head?, isBreak c = false)
    (next : List Char) :
    Margin.read (if known then some 2 else none) 0 0 (literalBody true (bs ++ front) ++ next)
      = some (⟨bs, 2, 2⟩, literalBody false front ++ next) := by
  cases front with
  | nil => exact absurd rfl hne
  | cons c front =>
    have hc := hstart c rfl
    have hbody : literalBody true (bs ++ c :: front) ++ next
        = bs ++ (indentation ++ c :: (literalBody false front ++ next)) := by
      rw [literalBody_breaks hbs, literalBody_start hc, literalBody_cons hc]
      simp
    rw [hbody, literalBody_cons hc, List.cons_append]
    cases known with
    | true => exact Margin.read_more hbs hc _
    | false =>
      have hnil : bs = [] := by
        cases bs with
        | nil => rfl
        | cons d bs =>
          have := (hshown rfl d rfl).2
          rw [hbs d List.mem_cons_self] at this
          cases this
      subst hnil
      rw [if_neg (by simp), List.nil_append, Margin.read_indentation (by simp),
        Margin.read_outside]
      · simp
      · rintro d ⟨⟩
        exact hshown rfl c rfl

/-- A text with a line in it is read back from its header and its lines, with the line breaks at its
end as far as the header keeps them. -/
lemma readBlock_front {known : Bool} (chomping : Chomping) (hshown : Shown known front)
    (hne : front ≠ []) (hend : ∀ c ∈ front.getLast?, isBreak c = false) (hb : isBreak b = true)
    (hback : ∀ c ∈ back, isBreak c = true) (hnext : StartsLine next) :
    readBlock true 0 ((if known then ['2'] else []) ++ chomping.indicator
        ++ '\n' :: (literalBody true (front ++ b :: back) ++ next))
      = some (front ++ BlockState.tail chomping ⟨[b], back, false⟩, next) := by
  obtain ⟨bs, lines, rfl, hbs, hstart⟩ := exists_prefix isBreak front
  cases lines with
  | nil =>
    -- the text would end in a line break
    rw [List.append_nil] at hne hend
    obtain ⟨e, he, hbreak⟩ := exists_last hne hbs
    rw [hend e he] at hbreak
    cases hbreak
  | cons c lines =>
    have hshown' : Shown known (bs ++ (c :: lines ++ b :: back)) := by
      intro hk d hd
      refine hshown hk d ?_
      cases bs <;> exact hd
    have hmargin := Margin.read_first hshown' (by simp) hbs hstart next
    rw [← List.append_assoc] at hmargin
    rw [List.getLast?_append_cons] at hend
    rw [readBlock_of_header (BlockHeader.read_indicators known chomping _) hmargin]
    have hindentation : (if known then some 2 else none).getD (max 2 1) = 2 := by
      cases known <;> rfl
    have hlength := length_le_literalBody false (c :: lines ++ b :: back)
    rw [hindentation, readLines_lines _ (.of_ends (by simp) hstart hend) hb hback hnext _
      (by simp at hlength ⊢; omega)]
    simp

/-- A text of line breaks only is read back. -/
lemma readBlock_breaks (hcs : ∀ c ∈ cs, isBreak c = true) (hnext : StartsLine next) :
    readBlock true 0 (['2'] ++ ['+'] ++ '\n' :: (literalBody true cs ++ next))
      = some (cs, next) := by
  have hmargin : Margin.read (some 2) 0 0 (literalBody true cs ++ next)
      = some (⟨cs, 0, 0⟩, next) := by
    rw [literalBody_of_breaks hcs, Margin.read_last hcs hnext]
  have hheader : BlockHeader.read (['2'] ++ ['+'] ++ '\n' :: (literalBody true cs ++ next))
      = some (⟨.keep, some 2⟩, literalBody true cs ++ next) :=
    BlockHeader.read_indicators true .keep _
  rw [readBlock_of_header hheader hmargin]
  have hindentation : (some 2).getD (max 0 1) = 2 := rfl
  rw [hindentation, readLines_outside (by simp)]
  simp [BlockState.tail]

end ReadBlock

/-! ### Hints -/

section Hints

variable {cs front back : List Char} {b : Char}

lemma chompingHint_strip (hne : cs ≠ []) (hend : ∀ c ∈ cs.getLast?, isBreak c = false) :
    chompingHint cs = ['-'] := by
  obtain ⟨e, he⟩ : ∃ e, cs.getLast? = some e := ⟨_, List.getLast?_eq_some_getLast hne⟩
  simp [chompingHint, he, hend e he]

lemma chompingHint_clip (hne : front ≠ []) (hend : ∀ c ∈ front.getLast?, isBreak c = false)
    (hb : isBreak b = true) : chompingHint (front ++ [b]) = [] := by
  obtain ⟨e, he⟩ : ∃ e, front.getLast? = some e := ⟨_, List.getLast?_eq_some_getLast hne⟩
  simp [chompingHint, hb, he, hend e he]

lemma chompingHint_keep (hback : ∀ c ∈ b :: back, isBreak c = true)
    (hmore : front ≠ [] → back ≠ []) : chompingHint (front ++ b :: back) = ['+'] := by
  rcases List.eq_nil_or_concat back with rfl | ⟨others, last, rfl⟩
  · have hfront : front = [] := by
      by_contra hne
      exact hmore hne rfl
    subst hfront
    simp [chompingHint, hback b (by simp)]
  · have hlast : isBreak last = true := hback last (by simp)
    obtain ⟨e, he, hbefore⟩ := exists_last (p := (isBreak · = true)) (List.cons_ne_nil b others)
      (by intro c hc; exact hback c (by simp at hc ⊢; tauto))
    have hsplit : front ++ b :: (others ++ [last]) = (front ++ b :: others) ++ [last] := by simp
    rw [List.concat_eq_append, hsplit, chompingHint, List.reverse_append]
    simp only [List.reverse_singleton, List.singleton_append, List.head?_cons, List.tail_cons,
      List.head?_reverse, List.getLast?_append_cons, he, hlast, hbefore]
    rfl

/-- Whether the header has to give the indentation. -/
def startsBlank (cs : List Char) : Bool :=
  match cs with
  | c :: _ => isSpace c || isBreak c
  | [] => false

lemma indentationHint_eq (cs : List Char) :
    indentationHint cs = if startsBlank cs then ['2'] else [] := by
  cases cs with
  | nil => rfl
  | cons c cs => rfl

lemma shown_startsBlank (htab : cs.head? ≠ some '\t') : Shown (startsBlank cs) cs := by
  intro hknown c hc
  cases cs with
  | nil => cases hc
  | cons d cs =>
    cases hc
    simp only [startsBlank, Bool.or_eq_false_iff] at hknown
    have htab : c ≠ '\t' := fun e => htab (congrArg some e)
    simpa [isBlank, isSpace, htab] using hknown

end Hints

/-- What ends the last line of a text. -/
def lastFeed (cs : List Char) : List Char :=
  match cs.getLast? with
  | some c => if isBreak c then [] else ['\n']
  | none => []

section Literal

variable {front back next : List Char} {b : Char}

/-- What is written after the bar: the header, and the lines below. -/
def belowBar (cs : List Char) : List Char :=
  indentationHint cs ++ chompingHint cs ++ '\n' :: (literalBody true cs ++ lastFeed cs)

lemma belowBar_append (cs next : List Char) :
    belowBar cs ++ next = indentationHint cs ++ chompingHint cs
      ++ '\n' :: (literalBody true cs ++ lastFeed cs ++ next) := by
  simp [belowBar]

/-- The lines of a text end in a line break. -/
lemma lines_end {cs : List Char} (hne : cs ≠ []) :
    ∃ front b, literalBody true cs ++ lastFeed cs = front ++ [b] ∧ isBreak b = true := by
  rcases List.eq_nil_or_concat cs with rfl | ⟨front, e, rfl⟩
  · exact absurd rfl hne
  · rw [List.concat_eq_append, lastFeed, List.getLast?_concat]
    by_cases he : isBreak e = true
    · exact ⟨literalBody true front, e, by simp [literalBody_concat he, he], he⟩
    · exact ⟨literalBody true (front ++ [e]), '\n', by simp [he], by decide⟩

lemma belowBar_end {cs : List Char} (hne : cs ≠ []) :
    ∃ front b, belowBar cs = front ++ [b] ∧ isBreak b = true := by
  obtain ⟨front, b, hlines, hb⟩ := lines_end hne
  exact ⟨indentationHint cs ++ chompingHint cs ++ '\n' :: front, b, by simp [belowBar, hlines], hb⟩

/-- A text that ends inside a line. -/
lemma readBlock_unended (hshown : Shown (startsBlank front) front) (hne : front ≠ [])
    (hend : ∀ c ∈ front.getLast?, isBreak c = false) (hnext : StartsLine next) :
    readBlock true 0 (belowBar front ++ next) = some (front, next) := by
  obtain ⟨e, he⟩ : ∃ e, front.getLast? = some e := ⟨_, List.getLast?_eq_some_getLast hne⟩
  have hfeed : lastFeed front = ['\n'] := by simp [lastFeed, he, hend e he]
  have hblock := readBlock_front .strip (b := '\n') hshown hne hend (by decide)
    (List.forall_mem_nil _) hnext
  rw [belowBar_append, indentationHint_eq, chompingHint_strip hne hend, hfeed,
    ← literalBody_concat (by decide)]
  simpa [BlockState.tail, Chomping.indicator] using hblock

lemma lastFeed_breaks (hback : ∀ c ∈ b :: back, isBreak c = true) :
    lastFeed (front ++ b :: back) = [] := by
  obtain ⟨e, he, hbreak⟩ := exists_last (List.cons_ne_nil b back) hback
  rw [lastFeed, List.getLast?_append_cons, he]
  exact if_pos hbreak

/-- A text that ends in line breaks after a line. -/
lemma readBlock_ended (hshown : Shown (startsBlank (front ++ b :: back)) front) (hne : front ≠ [])
    (hend : ∀ c ∈ front.getLast?, isBreak c = false) (hback : ∀ c ∈ b :: back, isBreak c = true)
    (hnext : StartsLine next) :
    readBlock true 0 (belowBar (front ++ b :: back) ++ next) = some (front ++ b :: back, next) := by
  obtain ⟨hb, hback'⟩ := List.forall_mem_cons.mp hback
  rw [belowBar_append, lastFeed_breaks hback, List.append_nil, indentationHint_eq]
  by_cases hmore : back = []
  · subst hmore
    have hblock := readBlock_front .clip hshown hne hend hb hback' hnext
    rw [chompingHint_clip hne hend hb]
    simpa [BlockState.tail, Chomping.indicator] using hblock
  · have hblock := readBlock_front .keep hshown hne hend hb hback' hnext
    rw [chompingHint_keep hback fun _ => hmore]
    simpa [BlockState.tail, Chomping.indicator] using hblock

/-- A text of line breaks only. -/
lemma readBlock_blank (hback : ∀ c ∈ b :: back, isBreak c = true) (hnext : StartsLine next) :
    readBlock true 0 (belowBar (b :: back) ++ next) = some (b :: back, next) := by
  have hfeed : lastFeed ([] ++ b :: back) = [] := lastFeed_breaks hback
  have hhint : chompingHint ([] ++ b :: back) = ['+'] := chompingHint_keep hback (by simp)
  have hknown : startsBlank (b :: back) = true := by simp [startsBlank, hback b List.mem_cons_self]
  rw [List.nil_append] at hfeed hhint
  rw [belowBar_append, hfeed, hhint, indentationHint_eq, hknown, if_pos rfl, List.append_nil]
  exact readBlock_breaks hback hnext

/-- **A text below a bar** is read back. -/
theorem readBlock_literal {cs : List Char} (hne : cs ≠ []) (htab : cs.head? ≠ some '\t')
    (hnext : StartsLine next) : readBlock true 0 (belowBar cs ++ next) = some (cs, next) := by
  have hshown := shown_startsBlank htab
  obtain ⟨front, back, rfl, hback, hend⟩ := exists_suffix isBreak cs
  cases back with
  | nil =>
    rw [List.append_nil] at hne hshown ⊢
    exact readBlock_unended hshown hne hend hnext
  | cons b back =>
    cases front with
    | nil => exact readBlock_blank hback hnext
    | cons d front =>
      have hfront : Shown (startsBlank (d :: front ++ b :: back)) (d :: front) :=
        fun hk c hc => hshown hk c hc
      exact readBlock_ended hfront (List.cons_ne_nil d front) hend hback hnext

end Literal

end ApiStencil.Yaml
