import ApiStencil.Glob
import Mathlib.Algebra.Order.BigOperators.Group.List
import Mathlib.Algebra.Ring.Nat
import Mathlib.Data.List.TakeWhile

/-!
# What patterns match

A path matches a pattern if it is a row of texts, one for each part of the pattern, that the parts
stand for (`matchesFrom_cons_iff`).  How the text of a pattern is read as parts is a relation with one
case for each kind of part (`Reads`, `reads_partsOf`).

Text in which every character stands for itself is read as itself (`Reads.literal`).  What else a text
may be read as is told from what its parts match:

* `exists_shortest`, `count_slash_le` — how short a match can be, and how many slashes it can have
  where no part stands for directories;
* `Reads.weight` — what the text of a pattern has room for: its characters pay for what its parts
  match at least, for stars, for slashes behind double stars and for the brackets of classes;
* `Reads.matches_filled` — a match of parts without classes, made from the text itself.
-/

namespace ApiStencil.Glob

variable {test : List Char → Bool} {part : Part} {parts : List Part} {cs path : List Char}
  {start : Bool}

/-! ### Parts and what they stand for -/

namespace Part

/-- The texts that a part stands for. -/
def Takes : Part → List Char → Prop
  | .directories, u => u = [] ∨ ∃ t, u = t ++ ['/']
  | .run, u => '/' ∉ u
  | .one, u => ∃ c, u = [c] ∧ c ≠ '/'
  | .oneOf negated ranges, u => ∃ c, u = [c] ∧ inClass negated ranges c = true
  | .char d, u => u = [d]

/-- The length of the shortest texts that a part stands for. -/
def least : Part → Nat
  | .directories | .run => 0
  | .one | .oneOf _ _ | .char _ => 1

/-- Whether a part is a class. -/
def isClass : Part → Bool
  | .oneOf _ _ => true
  | _ => false

end Part

lemma afterRun_iff : afterRun test cs = true ↔
    ∃ u v, cs = u ++ v ∧ '/' ∉ u ∧ test v = true := by
  induction cs with
  | nil =>
    simp only [afterRun, List.nil_eq, List.append_eq_nil_iff]
    constructor
    · intro h
      exact ⟨[], [], ⟨rfl, rfl⟩, List.not_mem_nil, h⟩
    · rintro ⟨u, v, ⟨rfl, rfl⟩, -, h⟩
      exact h
  | cons c rest ih =>
    simp only [afterRun, Bool.or_eq_true, Bool.and_eq_true, decide_eq_true_eq, ih]
    constructor
    · rintro (now | ⟨ne, u, v, rfl, free, later⟩)
      · exact ⟨[], _, rfl, List.not_mem_nil, now⟩
      · exact ⟨c :: u, v, rfl, List.not_mem_cons_of_ne_of_not_mem (Ne.symm ne) free, later⟩
    · rintro ⟨_ | ⟨d, u⟩, v, eq, free, later⟩
      · exact .inl (eq ▸ later)
      · obtain ⟨rfl, rfl⟩ := List.cons.inj eq
        exact .inr ⟨fun same => free (same ▸ List.mem_cons_self), u, v, rfl,
          List.not_mem_of_not_mem_cons free, later⟩

lemma afterDirectories_iff : afterDirectories test start cs = true ↔
    ∃ u v, cs = u ++ v ∧ (u = [] ∧ start = true ∨ ∃ t, u = t ++ ['/']) ∧ test v = true := by
  induction cs generalizing start with
  | nil =>
    simp only [afterDirectories, Bool.and_eq_true, List.nil_eq, List.append_eq_nil_iff]
    constructor
    · rintro ⟨open', h⟩
      exact ⟨[], [], ⟨rfl, rfl⟩, .inl ⟨rfl, open'⟩, h⟩
    · rintro ⟨u, v, ⟨rfl, rfl⟩, ⟨-, open'⟩ | ⟨t, eq⟩, h⟩
      · exact ⟨open', h⟩
      · exact absurd eq.symm (by simp)
  | cons c rest ih =>
    simp only [afterDirectories, Bool.or_eq_true, Bool.and_eq_true, decide_eq_true_eq, ih]
    constructor
    · rintro (⟨open', now⟩ | ⟨u, v, rfl, ⟨rfl, slash⟩ | ⟨t, rfl⟩, later⟩)
      · exact ⟨[], _, rfl, .inl ⟨rfl, open'⟩, now⟩
      · exact ⟨[c], v, rfl, .inr ⟨[], by rw [slash]; rfl⟩, later⟩
      · exact ⟨c :: (t ++ ['/']), v, rfl, .inr ⟨c :: t, rfl⟩, later⟩
    · rintro ⟨u, v, eq, ⟨rfl, open'⟩ | ⟨_ | ⟨d, t⟩, rfl⟩, later⟩
      · exact .inl ⟨open', eq ▸ later⟩
      · obtain ⟨rfl, rfl⟩ := List.cons.inj eq
        exact .inr ⟨[], _, rfl, .inl ⟨rfl, rfl⟩, later⟩
      · obtain ⟨rfl, rfl⟩ := List.cons.inj eq
        exact .inr ⟨t ++ ['/'], v, rfl, .inr ⟨t, rfl⟩, later⟩

/-- **What a pattern matches**: what its first part stands for, and behind it what the other parts
match. -/
theorem matchesFrom_cons_iff : matchesFrom (part :: parts) path = true ↔
    ∃ u v, path = u ++ v ∧ part.Takes u ∧ matchesFrom parts v = true := by
  -- the parts that stand for one character
  have single {takes : Char → Prop} : (∃ c v, path = c :: v ∧ takes c ∧ matchesFrom parts v = true) ↔
      ∃ u v, path = u ++ v ∧ (∃ c, u = [c] ∧ takes c) ∧ matchesFrom parts v = true := by
    constructor
    · rintro ⟨c, v, rfl, taken, later⟩
      exact ⟨[c], v, rfl, ⟨c, rfl, taken⟩, later⟩
    · rintro ⟨_, v, rfl, ⟨c, rfl, taken⟩, later⟩
      exact ⟨c, v, rfl, taken, later⟩
  cases part with
  | directories =>
    rw [matchesFrom, afterDirectories_iff]
    simp only [Part.Takes, and_true]
  | run =>
    rw [matchesFrom, afterRun_iff]
    rfl
  | one =>
    refine Iff.trans ?_ single
    cases path <;> simp [matchesFrom]
  | oneOf negated ranges =>
    refine Iff.trans ?_ single
    cases path <;> simp [matchesFrom]
  | char d =>
    have own {u : List Char} : (Part.char d).Takes u ↔ ∃ c, u = [c] ∧ c = d := by simp [Part.Takes]
    simp only [own]
    refine Iff.trans ?_ single
    cases path <;> simp [matchesFrom]

lemma matchesFrom_chars_append {u : List Char} : matchesFrom (u.map .char ++ parts) path = true ↔
    ∃ v, path = u ++ v ∧ matchesFrom parts v = true := by
  induction u generalizing path with
  | nil => simp
  | cons c u ih =>
    rw [List.map_cons, List.cons_append, matchesFrom_cons_iff]
    simp only [Part.Takes, ih]
    constructor
    · rintro ⟨_, _, rfl, rfl, v, rfl, later⟩
      exact ⟨v, rfl, later⟩
    · rintro ⟨v, rfl, later⟩
      exact ⟨[c], u ++ v, rfl, rfl, v, rfl, later⟩

/-! ### The lengths and slashes of what is matched -/

/-- A pattern that matches a path matches one as short as its parts allow. -/
lemma exists_shortest (matched : matchesFrom parts path = true) :
    ∃ short, matchesFrom parts short = true ∧ short.length = (parts.map Part.least).sum := by
  induction parts generalizing path with
  | nil => exact ⟨[], rfl, rfl⟩
  | cons part parts ih =>
    obtain ⟨u, v, -, taken, later⟩ := matchesFrom_cons_iff.mp matched
    obtain ⟨short, matched, length⟩ := ih later
    obtain ⟨u', taken', length'⟩ : ∃ u', part.Takes u' ∧ u'.length = part.least := by
      cases part with
      | directories => exact ⟨[], .inl rfl, rfl⟩
      | run => exact ⟨[], List.not_mem_nil, rfl⟩
      | char d => exact ⟨[d], rfl, rfl⟩
      | one | oneOf =>
        obtain ⟨c, rfl, allowed⟩ := taken
        exact ⟨[c], ⟨c, rfl, allowed⟩, rfl⟩
    exact ⟨u' ++ short, matchesFrom_cons_iff.mpr ⟨u', short, rfl, taken', matched⟩, by
      rw [List.length_append, length, length', List.map_cons, List.sum_cons]⟩

/-- A part that does not stand for directories stands for one slash at most. -/
lemma count_slash_le (flat : Part.directories ∉ parts) (matched : matchesFrom parts path = true) :
    path.count '/' ≤ parts.length := by
  induction parts generalizing path with
  | nil =>
    rw [matchesFrom, List.isEmpty_iff] at matched
    simp [matched]
  | cons part parts ih =>
    obtain ⟨u, v, rfl, taken, later⟩ := matchesFrom_cons_iff.mp matched
    have others := ih (List.not_mem_of_not_mem_cons flat) later
    have first : u.count '/' ≤ 1 := by
      cases part with
      | directories => exact absurd List.mem_cons_self flat
      | run => exact (List.count_eq_zero.mpr taken).le.trans (Nat.zero_le 1)
      | char d =>
        obtain rfl := taken
        exact List.count_le_length
      | one | oneOf =>
        obtain ⟨c, rfl, -⟩ := taken
        exact List.count_le_length
    rw [List.count_append, List.length_cons]
    omega

/-! ### Classes -/

/-- A bracket before this text opens a class: behind its sign and a first member there is a closing
bracket. -/
def Closes (cs : List Char) : Prop := ']' ∈ (signOf cs).2.tail

lemma exists_sign (cs : List Char) : ∃ sign, cs = sign ++ (signOf cs).2 := by
  unfold signOf
  split
  · exact ⟨['!'], rfl⟩
  · exact ⟨['^'], rfl⟩
  · exact ⟨[], rfl⟩

/-- **When a class is read**: exactly if there is one, and then up to its closing bracket. -/
lemma readClass_cases (cs : List Char) :
    readClass cs = none ∧ ¬ Closes cs ∨
      ∃ negated ranges inner others, readClass cs = some (.oneOf negated ranges, others) ∧
        Closes cs ∧ cs = inner ++ ']' :: others := by
  obtain ⟨sign, signed⟩ := exists_sign cs
  unfold readClass Closes
  dsimp only
  generalize (signOf cs).2 = body at signed
  cases body with
  | nil => exact .inl ⟨rfl, List.not_mem_nil⟩
  | cons first rest =>
    by_cases closes : ']' ∈ rest
    · -- the members are all that comes before the first closing bracket
      obtain ⟨members, others, rfl, free⟩ := List.eq_append_cons_of_mem closes
      have inside : (members ++ ']' :: others).takeWhile (· ≠ ']') = members := by
        have each : ∀ c ∈ members, decide (c ≠ ']') = true := fun c mem =>
          decide_eq_true (ne_of_mem_of_not_mem mem free)
        rw [List.takeWhile_append_of_pos each]
        simp
      refine .inr ⟨(signOf cs).1, rangesOf (first :: members), sign ++ first :: members, others, ?_,
        closes, by rw [signed]; simp⟩
      simp only [List.take_succ_cons, List.take_zero, List.drop_succ_cons, List.drop_zero, inside,
        List.singleton_append, List.length_cons, List.drop_left, List.isEmpty_cons,
        Bool.false_eq_true, if_false]
    · have inside : rest.takeWhile (· ≠ ']') = rest :=
        List.takeWhile_eq_self_iff.mpr fun c mem =>
          decide_eq_true (ne_of_mem_of_not_mem mem closes)
      refine .inl ⟨?_, closes⟩
      simp only [List.take_succ_cons, List.take_zero, List.drop_succ_cons, List.drop_zero, inside,
        List.singleton_append, List.length_cons, List.drop_length]

lemma readClass_eq_none_iff : readClass cs = none ↔ ¬ Closes cs := by
  rcases readClass_cases cs with ⟨read, unclosed⟩ | ⟨_, _, _, _, read, closes, -⟩
  · exact iff_of_true read unclosed
  · rw [read]
    exact iff_of_false nofun (not_not_intro closes)

/-! ### Reading a pattern -/

/-- **How a pattern is read.**  The truth value says whether a component starts here. -/
inductive Reads : Bool → List Char → List Part → Prop
  | nil {start : Bool} : Reads start [] []
  | directories {rest : List Char} {parts : List Part} (later : Reads true rest parts) :
    Reads true ('*' :: '*' :: '/' :: rest) (.directories :: parts)
  | run {start : Bool} {rest : List Char} {parts : List Part}
    (inner : start = true → ∀ others, rest ≠ '*' :: '/' :: others)
    (later : Reads false rest parts) : Reads start ('*' :: rest) (.run :: parts)
  | one {start : Bool} {rest : List Char} {parts : List Part} (later : Reads false rest parts) :
    Reads start ('?' :: rest) (.one :: parts)
  | oneOf {start : Bool} {rest others : List Char} {parts : List Part} {negated : Bool}
    {ranges : List (Char × Char)} (read : readClass rest = some (.oneOf negated ranges, others))
    (later : Reads false others parts) : Reads start ('[' :: rest) (.oneOf negated ranges :: parts)
  | char {start : Bool} {c : Char} {rest : List Char} {parts : List Part} (star : c ≠ '*')
    (mark : c ≠ '?') (bracket : c = '[' → readClass rest = none)
    (later : Reads (c = '/') rest parts) : Reads start (c :: rest) (.char c :: parts)

theorem reads_partsOf {fuel : Nat} (enough : cs.length < fuel) :
    Reads start cs (partsOf fuel start cs) := by
  induction fuel generalizing start cs with
  | zero => exact absurd enough (Nat.not_lt_zero _)
  | succ fuel ih =>
    cases cs with
    | nil => exact .nil
    | cons c rest =>
      have shorter : rest.length < fuel := Nat.lt_of_succ_lt_succ enough
      unfold partsOf
      split
      · -- a double star and a slash
        rename_i others
        cases start with
        | true =>
          rw [List.length_cons, List.length_cons] at shorter
          exact .directories (ih (by omega))
        | false => exact .run nofun (ih shorter)
      · rename_i other
        exact .run (fun _ others same => other others same) (ih shorter)
      · exact .one (ih shorter)
      · rcases readClass_cases rest with ⟨read, -⟩ | ⟨_, _, inner, others, read, -, split⟩
        · rw [read]
          exact .char (by decide) (by decide) (fun _ => read) (ih shorter)
        · rw [read]
          rw [split, List.length_append, List.length_cons] at shorter
          exact .oneOf read (ih (by omega))
      · rename_i star mark bracket _
        exact .char star mark (fun same => absurd same bracket) (ih shorter)

/-- Text in which every character stands for itself is read as itself, whatever comes after it. -/
theorem Reads.literal {text : List Char} (marks : ∀ c ∈ text, c ≠ '*' ∧ c ≠ '?')
    (brackets : ∀ before after, text = before ++ '[' :: after → ¬ Closes (after ++ cs))
    (reads : Reads start (text ++ cs) parts) :
    ∃ start' others, parts = text.map .char ++ others ∧ Reads start' cs others := by
  induction text generalizing start parts with
  | nil => exact ⟨start, parts, rfl, reads⟩
  | cons c text ih =>
    obtain ⟨⟨star, mark⟩, marks⟩ := List.forall_mem_cons.mp marks
    have bracket : c = '[' → readClass (text ++ cs) = none := fun same =>
      readClass_eq_none_iff.mpr (brackets [] text (by rw [same]; rfl))
    obtain ⟨parts, rfl, later⟩ : ∃ parts', parts = .char c :: parts' ∧
        Reads (c = '/') (text ++ cs) parts' := by
      rw [List.cons_append] at reads
      generalize text ++ cs = rest at reads bracket
      cases reads with
      | char _ _ _ later => exact ⟨_, rfl, later⟩
      | oneOf read => cases read.symm.trans (bracket rfl)
      | directories | run => exact absurd rfl star
      | one => exact absurd rfl mark
    obtain ⟨start', others, rfl, rest⟩ := ih marks
      (fun before after split => brackets (c :: before) after (by rw [split]; rfl)) later
    exact ⟨start', others, rfl, rest⟩

lemma Reads.eq_chars {text : List Char} (marks : ∀ c ∈ text, c ≠ '*' ∧ c ≠ '?')
    (brackets : ∀ before after, text = before ++ '[' :: after → ¬ Closes after)
    (reads : Reads start text parts) : parts = text.map .char := by
  rw [← List.append_nil text] at reads
  obtain ⟨_, others, rfl, none⟩ := reads.literal marks fun before after split =>
    (List.append_nil after).symm ▸ brackets before after split
  cases none
  rw [List.append_nil]

/-! ### What the text of a pattern has room for -/

/-- **The text of a pattern is as long as its parts need**: it has a character for each one that they
match at least, one for each star, and one more for each double star with a slash and for each class. -/
theorem Reads.weight (reads : Reads start cs parts) :
    (parts.map Part.least).sum + parts.countP (· = .directories) + parts.countP Part.isClass +
      cs.count '*' ≤ cs.length := by
  induction reads with
  | nil => exact Nat.le_refl 0
  | directories _ ih | run _ _ ih | one _ ih =>
    simp [Part.least, Part.isClass]
    omega
  | @oneOf start rest others parts negated ranges read later ih =>
    obtain ⟨inner, rfl⟩ : ∃ inner, rest = inner ++ ']' :: others := by
      rcases readClass_cases rest with ⟨none, -⟩ | ⟨_, _, inner, _, some, -, split⟩
      · cases none.symm.trans read
      · cases some.symm.trans read
        exact ⟨inner, split⟩
    have stars : inner.count '*' ≤ inner.length := List.count_le_length
    simp [Part.least, Part.isClass, List.countP_cons]
    omega
  | char star mark bracket later ih =>
    simp [Part.least, Part.isClass, star]
    omega

/-- A character in the place of a question mark, and every other character as it is. -/
def fillMark (c : Char) : Char := if c = '?' then 'x' else c

/-- The text of a pattern without its stars, its question marks filled in. -/
def filled (cs : List Char) : List Char := (cs.filter (· ≠ '*')).map fillMark

lemma filled_append (cs later : List Char) : filled (cs ++ later) = filled cs ++ filled later := by
  rw [filled, List.filter_append, List.map_append]
  rfl

lemma filled_of_not_mem (free : '*' ∉ cs) : filled cs = cs.map fillMark := by
  rw [filled, List.filter_eq_self.mpr fun c mem => decide_eq_true (ne_of_mem_of_not_mem mem free)]

lemma not_mem_map_fillMark (cs : List Char) : '?' ∉ cs.map fillMark := by
  intro mem
  obtain ⟨c, -, eq⟩ := List.mem_map.mp mem
  unfold fillMark at eq
  split at eq
  · cases eq
  · contradiction

section NoClass

variable (reads : Reads start cs parts) (plain : ∀ part ∈ parts, part.isClass = false)
include reads plain

/-- Where no part is a class, no bracket opens one. -/
lemma Reads.not_closes {before after : List Char} (split : cs = before ++ '[' :: after) :
    ¬ Closes after := by
  induction reads generalizing before with
  | nil => cases before <;> cases split
  | directories later ih =>
    obtain ⟨-, plain⟩ := List.forall_mem_cons.mp plain
    match before with
    | [] => cases split
    | [_] => cases split
    | [_, _] => cases split
    | _ :: _ :: _ :: before =>
      obtain ⟨-, split⟩ := List.cons.inj split
      obtain ⟨-, split⟩ := List.cons.inj split
      exact ih plain (List.cons.inj split).2
  | run _ _ ih | one _ ih =>
    obtain ⟨-, plain⟩ := List.forall_mem_cons.mp plain
    match before with
    | [] => cases split
    | _ :: before => exact ih plain (List.cons.inj split).2
  | oneOf read later ih => cases plain _ List.mem_cons_self
  | char star mark bracket later ih =>
    obtain ⟨-, plain⟩ := List.forall_mem_cons.mp plain
    match before with
    | [] =>
      obtain ⟨opens, rfl⟩ := List.cons.inj split
      exact readClass_eq_none_iff.mp (bracket opens)
    | _ :: before => exact ih plain (List.cons.inj split).2

/-- Where no part is a class, the text itself is matched when its stars are left out and its marks
are filled in. -/
lemma Reads.matches_filled : matchesFrom parts (filled cs) = true := by
  induction reads with
  | nil => rfl
  | @directories rest parts later ih =>
    obtain ⟨-, plain⟩ := List.forall_mem_cons.mp plain
    exact matchesFrom_cons_iff.mpr ⟨['/'], filled rest, rfl, .inr ⟨[], rfl⟩, ih plain⟩
  | @run start rest parts inner later ih =>
    obtain ⟨-, plain⟩ := List.forall_mem_cons.mp plain
    exact matchesFrom_cons_iff.mpr ⟨[], filled rest, rfl, List.not_mem_nil, ih plain⟩
  | @one start rest parts later ih =>
    obtain ⟨-, plain⟩ := List.forall_mem_cons.mp plain
    exact matchesFrom_cons_iff.mpr ⟨['x'], filled rest, rfl, ⟨'x', rfl, by decide⟩, ih plain⟩
  | oneOf read later ih => cases plain _ List.mem_cons_self
  | @char start c rest parts star mark bracket later ih =>
    obtain ⟨-, plain⟩ := List.forall_mem_cons.mp plain
    refine matchesFrom_cons_iff.mpr ⟨[c], filled rest, ?_, rfl, ih plain⟩
    have kept : fillMark c = c := if_neg mark
    simp [filled, star, kept]

end NoClass

end ApiStencil.Glob
