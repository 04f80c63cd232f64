import ApiStencil.Proofs.Yaml.Scanning
import ApiStencil.Yaml.Node

/-!
# Block mappings

A text whose lines are the pairs of one mapping is a document with that mapping and nothing else.
The scanner goes through the pairs one by one: after each it stands again where it stood before
the first one, except that the mapping is open.

* `Scanner.run_pair`, `Scanner.run_pairs` — what the scanner does in one pair and in all;
* `tokensOf_pairs` — the tokens of the text;
* `Document.ofText_pairs` — its document has a node for each key and for each value.
-/

namespace ApiStencil.Yaml

namespace Scanner

/-! ### Pairs -/

/-- A pair of a mapping, a key and a value, as it is written, and the scalar that its value is. -/
structure Pair where
  key : List Char
  body : List Char
  style : Style
  text : List Char

namespace Pair

/-- The characters of a pair. -/
def written (p : Pair) : List Char := p.key ++ ':' :: ' ' :: p.body

/-- The tokens of a pair. -/
def tokens (p : Pair) : List Token :=
  [.key, .scalar .plain (String.ofList p.key), .value, .scalar p.style (String.ofList p.text)]

/-- Whether a pair is written so that it can be read. -/
structure Sound (p : Pair) : Prop where
  key : IsKey p.key
  value : ReadsAs p.body p.style p.text
  printable : Printable p.body

lemma Sound.startsLine {p : Pair} (h : p.Sound) (rest : List Char) :
    StartsLine (p.written ++ rest) := by
  have hstart := h.key.start (':' :: ' ' :: (p.body ++ rest))
  simpa [written] using hstart.startsLine

end Pair

section Run

variable {opened allowed : Bool} {tokens : List Token} {mark : Mark} {gap next : List Char}

/-- **A pair** takes three steps and leaves the scanner where the next one can start. -/
theorem run_pair (opened : Bool) {p : Pair} (h : p.Sound) (hline : LineStart allowed mark gap)
    (hdone : tokens.head? ≠ some .streamEnd) (hnext : StartsLine next) :
    ∃ allowed' mark' gap', LineStart allowed' mark' gap' ∧ ∀ fuel,
      run (fuel + 3) (shallow opened tokens none allowed mark (gap ++ (p.written ++ next)))
        = run fuel (shallow true
            (.scalar p.style (String.ofList p.text) :: keyTokens opened p.key tokens) none
            allowed' mark' (gap' ++ next)) := by
  have hspace : endsWord (' ' :: (p.body ++ next)) = true := rfl
  have hunbroken : ∀ c ∈ [' '], isBreak c = false := List.forall_mem_singleton.mpr rfl
  obtain ⟨mark₁, hmark, hkey⟩ := run_key opened h.key hline hdone hspace
  obtain ⟨allowed', mark', gap', hline', hvalue⟩ := h.value.read (keyTokens opened p.key tokens)
    (mark₁.afterAll [' ']) next hnext
    (by rw [Mark.afterAll_unbroken hunbroken]; exact Nat.succ_pos _)
  refine ⟨allowed', mark', gap', hline', fun fuel => ?_⟩
  have hgap : afterGap false false false ([' '] ++ (p.body ++ next)) = (p.body ++ next, false) := by
    have hspace : isBreak ' ' = false := by decide
    obtain ⟨c, others, hbody⟩ := List.exists_cons_of_ne_nil h.value.nonempty
    obtain ⟨hblank, hbreak, hcomment⟩ := h.value.start c (by rw [hbody]; rfl)
    have hstop := afterGap_stop hblank hbreak hcomment false (others ++ next)
    rw [hbody, List.cons_append, List.nil_append, List.cons_append, afterGap]
    simpa [hspace] using hstop
  have hstep : (shallow true (keyTokens opened p.key tokens) none false mark₁
      ([' '] ++ (p.body ++ next))).next = _ := next_shallow hgap (by simp)
  rw [hvalue] at hstep
  have hwritten : p.written ++ next = p.key ++ ':' :: ' ' :: (p.body ++ next) := by
    simp [Pair.written]
  rw [hwritten, hkey (fuel + 1)]
  exact run_succ rfl hstep fuel

/-- The end takes one step, and then the scanner is done. -/
lemma run_end (hline : LineStart allowed mark gap) (hdone : tokens.head? ≠ some .streamEnd)
    (fuel : Nat) :
    run (fuel + 2) (shallow true tokens none allowed mark gap)
      = tokens.reverse ++ [.blockEnd, .streamEnd] := by
  have hgap : afterGap false allowed false (gap ++ []) = ([], true) :=
    afterGap_lineStart hline (by rintro c ⟨⟩) (by simp)
  have hstep : (shallow true tokens none allowed mark (gap ++ [])).next = _ :=
    next_shallow hgap (by simp)
  rw [List.append_nil, atToken_end, atEnd_shallow] at hstep
  rw [run_succ (isDone_shallow hdone) hstep]
  simp [run, isDone, shallow]

lemma startsLine_pairs {pairs : List Pair} (h : ∀ p ∈ pairs, p.Sound) :
    StartsLine (pairs.flatMap Pair.written) := by
  cases pairs with
  | nil => rintro c ⟨⟩
  | cons p pairs => exact (h p List.mem_cons_self).startsLine _

/-- The pairs of a mapping that is open, and its end. -/
theorem run_pairs {pairs : List Pair} (h : ∀ p ∈ pairs, p.Sound)
    (hline : LineStart allowed mark gap) (hdone : tokens.head? ≠ some .streamEnd) {fuel : Nat}
    (hfuel : 3 * pairs.length + 2 ≤ fuel) :
    run fuel (shallow true tokens none allowed mark (gap ++ pairs.flatMap Pair.written))
      = tokens.reverse ++ pairs.flatMap Pair.tokens ++ [.blockEnd, .streamEnd] := by
  induction pairs generalizing tokens allowed mark gap fuel with
  | nil =>
    obtain ⟨fuel, rfl⟩ : ∃ n, fuel = n + 2 := ⟨fuel - 2, by simp at hfuel; omega⟩
    simpa using run_end hline hdone fuel
  | cons p pairs ih =>
    obtain ⟨fuel, rfl⟩ : ∃ n, fuel = n + 3 := ⟨fuel - 3, by simp at hfuel; omega⟩
    have hothers : ∀ p ∈ pairs, p.Sound := fun q hq => h q (List.mem_cons_of_mem p hq)
    obtain ⟨allowed', mark', gap', hline', hrun⟩ := run_pair true
      (h p List.mem_cons_self) hline hdone (startsLine_pairs hothers)
    rw [List.flatMap_cons, hrun fuel, ih hothers hline' (by simp) (by simp at hfuel; omega)]
    simp [keyTokens, Pair.tokens]

end Run

end Scanner

/-! ### Whole texts -/

lemma isAllowed_of_printable {c : Char} (h : isPrintable c) : isAllowed c = true := by
  simp only [isPrintable, isAllowed, Bool.or_eq_true, Bool.and_eq_true, decide_eq_true_eq] at h ⊢
  omega

lemma unifyBreaks_printable {cs : List Char} (h : Printable cs) :
    unifyBreaks cs = cs := by
  induction cs with
  | nil => rfl
  | cons c cs ih =>
    have hne : c ≠ '\r' ∧ c ≠ '\u0085' := by
      constructor <;> (rintro rfl; exact absurd (h _ List.mem_cons_self) (by decide))
    rw [unifyBreaks]
    · simp [hne, ih h.tail]
    · rintro others rfl
      exact absurd rfl hne.1

lemma Scanner.printable_pairs {pairs : List Scanner.Pair} (h : ∀ p ∈ pairs, p.Sound) :
    Printable (pairs.flatMap Scanner.Pair.written) := by
  intro c hc
  obtain ⟨p, hp, hc⟩ := List.mem_flatMap.mp hc
  have hsound := h p hp
  exact (hsound.key.printable.append
    (.cons (by decide) (.cons (by decide) hsound.printable))) c hc

lemma Scanner.length_pairs {pairs : List Scanner.Pair} (h : ∀ p ∈ pairs, p.Sound) :
    3 * pairs.length ≤ (pairs.flatMap Scanner.Pair.written).length := by
  induction pairs with
  | nil => simp
  | cons p pairs ih =>
    have hothers := ih fun q hq => h q (List.mem_cons_of_mem p hq)
    have hkey := List.length_pos_of_ne_nil (h p List.mem_cons_self).key.nonempty
    simp only [List.flatMap_cons, Pair.written, List.length_append, List.length_cons]
    omega

/-- A text that a document may hold as it is goes to the scanner as it is. -/
lemma tokensOf_printable {text : String} (h : Printable text.toList) :
    tokensOf text = Scanner.run (text.toList.length + 2) (Scanner.start text.toList) := by
  have hmark : ∀ rest, text.toList ≠ '\uFEFF' :: rest := by
    intro rest he
    exact absurd (h '\uFEFF' (by rw [he]; exact List.mem_cons_self)) (by decide)
  have hallowed : text.toList.all isAllowed = true :=
    List.all_eq_true.mpr fun c hc => isAllowed_of_printable (h c hc)
  unfold tokensOf
  split
  · rename_i rest he
    exact absurd he (hmark rest)
  · simp only [hallowed, if_true, unifyBreaks_printable h]

/-- **The tokens of a mapping**, whose pairs are written one below the other. -/
theorem tokensOf_pairs {text : String} {pairs : List Scanner.Pair} (hne : pairs ≠ [])
    (h : ∀ p ∈ pairs, p.Sound) (htext : text.toList = pairs.flatMap Scanner.Pair.written) :
    tokensOf text = .blockMapping :: pairs.flatMap Scanner.Pair.tokens
      ++ [.blockEnd, .streamEnd] := by
  have hprintable : Printable text.toList := by
    rw [htext]
    exact Scanner.printable_pairs h
  have hlength := Scanner.length_pairs h
  rw [tokensOf_printable hprintable, htext]
  cases pairs with
  | nil => exact absurd rfl hne
  | cons p pairs =>
    have hothers : ∀ p ∈ pairs, p.Sound := fun q hq => h q (List.mem_cons_of_mem p hq)
    have hstart : Scanner.LineStart true .start [] := ⟨fun _ => rfl, fun _ => rfl, .inl rfl⟩
    have hnone : ([] : List Token).head? ≠ some .streamEnd := by simp
    obtain ⟨allowed, mark, gap, hline, hrun⟩ := Scanner.run_pair false (h p List.mem_cons_self)
      hstart hnone (Scanner.startsLine_pairs hothers)
    have hlong : 3 ≤ (p.written ++ pairs.flatMap Scanner.Pair.written).length + 2 := by
      simp at hlength ⊢
      omega
    obtain ⟨fuel, hfuel⟩ := Nat.exists_eq_add_of_le' hlong
    have hstates : Scanner.start (p.written ++ pairs.flatMap Scanner.Pair.written)
        = Scanner.shallow false [] none true .start
          ([] ++ (p.written ++ pairs.flatMap Scanner.Pair.written)) := rfl
    rw [List.flatMap_cons, hfuel, hstates, hrun fuel, Scanner.run_pairs hothers hline (by simp)]
    · simp [Scanner.keyTokens, Scanner.Pair.tokens]
    · simp at hfuel hlength
      omega

/-! ### Documents -/

namespace Scanner.Pair

/-- The nodes of a pair. -/
def nodes (p : Pair) : Node × Node :=
  (.scalar none .plain (String.ofList p.key), .scalar none p.style (String.ofList p.text))

end Scanner.Pair

namespace Node

open Scanner (Pair)

variable (shorthands : Shorthands) {fuel : Nat} {rest : List Token} {anchors : Anchors}

lemma read_scalar (block unindented : Bool) (style : Style) (text : String) :
    read shorthands block unindented (fuel + 2) (.scalar style text :: rest) anchors
      = (.scalar none style text, some (rest, anchors)) := by
  simp [read, readContent, Properties.read, fullTag, scalarTag]

/-- One pair is read, and the others after it. -/
lemma readEntries_pair (p : Pair) :
    readEntries shorthands (fuel + 3) (p.tokens ++ rest) anchors
      = (p.nodes :: (readEntries shorthands (fuel + 2) rest anchors).1,
          (readEntries shorthands (fuel + 2) rest anchors).2) := by
  rw [readEntries.eq_def]
  simp [Pair.tokens, leftOut, read_scalar, Pair.nodes]

/-- **The pairs of a mapping** are read up to its end. -/
theorem readEntries_pairs (pairs : List Pair) (hfuel : pairs.length + 3 ≤ fuel) :
    readEntries shorthands fuel (pairs.flatMap Pair.tokens ++ .blockEnd :: rest) anchors
      = (pairs.map Pair.nodes, some (rest, anchors)) := by
  induction pairs generalizing fuel with
  | nil =>
    obtain ⟨fuel, rfl⟩ : ∃ n, fuel = n + 1 := ⟨fuel - 1, by simp at hfuel; omega⟩
    simp [readEntries]
  | cons p pairs ih =>
    obtain ⟨fuel, rfl⟩ : ∃ n, fuel = n + 3 := ⟨fuel - 3, by simp at hfuel; omega⟩
    rw [List.flatMap_cons, List.append_assoc, readEntries_pair,
      ih (by simp at hfuel ⊢; omega)]
    rfl

lemma read_mapping (unindented : Bool) :
    read shorthands true unindented (fuel + 2) (.blockMapping :: rest) anchors
      = (.mapping none (readEntries shorthands fuel rest anchors).1
          (readEntries shorthands fuel rest anchors).2.isSome,
        (readEntries shorthands fuel rest anchors).2) := by
  simp [read, readContent, Properties.read, fullTag]

end Node

namespace Document

open Scanner (Pair)

/-- **The document of a mapping**, whose pairs are written one below the other. -/
theorem ofText_pairs {text : String} {pairs : List Pair} (hne : pairs ≠ [])
    (h : ∀ p ∈ pairs, p.Sound) (htext : text.toList = pairs.flatMap Pair.written) :
    ofText text = ⟨some (.mapping none (pairs.map Pair.nodes) true), true⟩ := by
  have htokens := tokensOf_pairs hne h htext
  have hlength : (pairs.flatMap Pair.tokens).length = 4 * pairs.length := by
    simp [List.length_flatMap, Pair.tokens, Nat.mul_comm]
  obtain ⟨fuel, hfuel⟩ : ∃ n, 4 * (Token.blockMapping :: pairs.flatMap Pair.tokens
      ++ [Token.blockEnd, Token.streamEnd]).length + 4 = n + 2 := ⟨_, rfl⟩
  have hpairs : Node.readEntries shorthands fuel
      (pairs.flatMap Pair.tokens ++ .blockEnd :: [.streamEnd]) []
        = (pairs.map Pair.nodes, some ([.streamEnd], [])) :=
    Node.readEntries_pairs shorthands pairs (by simp [hlength] at hfuel; omega)
  rw [ofText, htokens, ofTokens, if_neg (by simp), if_neg (by simp [isExplicit]), ofContent, hfuel,
    List.cons_append, Node.read_mapping, hpairs]
  rfl

end Document

end ApiStencil.Yaml
