import ApiStencil.Proofs.Yaml.Block
import ApiStencil.Yaml.Token

/-!
# Reading keys and values

The scanner in a mapping whose keys stand in the first column: what it does at a key, at its colon
and at its value.

* `shallow` — the scanner at any point of such a mapping;
* `run_key` — a key and its colon become the tokens of a key, and the first key opens the mapping;
* `ReadsAs` — what is asked of the form of a value, with a theorem for each form that strings are
  written in.
-/

namespace ApiStencil.Yaml

/-! ### Marks -/

namespace Mark

lemma afterAll_unbroken {cs : List Char} (h : ∀ c ∈ cs, isBreak c = false) (m : Mark) :
    m.afterAll cs = ⟨m.line, m.column + cs.length, m.index + cs.length⟩ := by
  induction cs generalizing m with
  | nil => rfl
  | cons c cs ih =>
    have hc := h c List.mem_cons_self
    rw [afterAll, List.foldl_cons, ← afterAll, ih fun d hd => h d (List.mem_cons_of_mem c hd)]
    simp [after, hc]
    omega

lemma column_afterAll_break {b : Char} (hb : isBreak b = true) (m : Mark) (cs : List Char) :
    (m.afterAll (cs ++ [b])).column = 0 := by
  simp [afterAll, after, hb]

end Mark

namespace Scanner

/-- The scanner outside brackets, with no collection open but a block mapping in the first column,
if that. -/
def shallow (opened : Bool) (tokens : List Token) (candidate : Option Candidate)
    (keyAllowed : Bool) (mark : Mark) (rest : List Char) : Scanner :=
  ⟨rest, mark, tokens, if opened then 0 else -1, if opened then [-1] else [], [candidate],
    keyAllowed⟩

/-- Whether a line starts after a gap, so that a key may come. -/
structure LineStart (keyAllowed : Bool) (mark : Mark) (gap : List Char) : Prop where
  allowed : gap = [] → keyAllowed = true
  column : gap = [] → mark.column = 0
  short : gap = [] ∨ gap = ['\n']

section Steps

variable {opened allowed allowed' : Bool} {tokens : List Token} {candidate : Option Candidate}
  {mark : Mark} {gap rest next : List Char}

lemma goTo_shallow (consumed : List Char) :
    (shallow opened tokens candidate allowed mark (consumed ++ rest)).goTo rest
      = shallow opened tokens candidate allowed (mark.afterAll consumed) rest := by
  simp [goTo, shallow]

lemma dropStale_shallow (h : ∀ k ∈ candidate, isStale mark k = false) :
    (shallow opened tokens candidate allowed mark rest).dropStale
      = some (shallow opened tokens candidate allowed mark rest) := by
  cases candidate with
  | none => rfl
  | some k => simp [shallow, dropStale, h k rfl]

/-- Nothing is indented deeper than the first column. -/
lemma unroll_shallow (column : Nat) :
    (shallow opened tokens candidate allowed mark rest).unroll column
      = shallow opened tokens candidate allowed mark rest := by
  have hcolumn : ¬ (column : Int) < 0 := by omega
  cases opened <;> simp [shallow, unroll, inFlow, closeTo, hcolumn]

/-- A step goes over the gap, closes nothing and reads one token. -/
lemma next_shallow (hgap : afterGap false allowed false (gap ++ rest) = (rest, allowed'))
    (hstale : ∀ k ∈ candidate, isStale (mark.afterAll gap) k = false) :
    (shallow opened tokens candidate allowed mark (gap ++ rest)).next
      = (shallow opened tokens candidate allowed' (mark.afterAll gap) rest).atToken := by
  have hgap : afterGap (shallow opened tokens candidate allowed mark (gap ++ rest)).inFlow
      (shallow opened tokens candidate allowed mark (gap ++ rest)).keyAllowed false
      (shallow opened tokens candidate allowed mark (gap ++ rest)).rest = (rest, allowed') := hgap
  have hgo : { (shallow opened tokens candidate allowed mark (gap ++ rest)).goTo rest with
      keyAllowed := allowed' }
        = shallow opened tokens candidate allowed' (mark.afterAll gap) rest := by
    rw [goTo_shallow]
    rfl
  simp only [next, hgap, hgo, dropStale_shallow hstale, Option.bind_eq_bind, Option.bind_some]
  exact congrArg atToken (unroll_shallow _)

/-! ### Tokens -/

/-- The candidate that a token becomes where a key may start. -/
def candidateAt (opened : Bool) (tokens : List Token) (mark : Mark) : Candidate :=
  ⟨(if opened then (0 : Int) else -1) = mark.column, tokens.length, mark⟩

lemma saveCandidate_allowed :
    (shallow opened tokens none true mark rest).saveCandidate
      = some (shallow opened tokens (some (candidateAt opened tokens mark)) true mark rest) := by
  simp [shallow, saveCandidate, dropCandidate, inFlow, candidateAt]

lemma saveCandidate_forbidden :
    (shallow opened tokens candidate false mark rest).saveCandidate
      = some (shallow opened tokens candidate false mark rest) := rfl

/-- What may come first in a plain scalar. -/
structure PlainStart (cs : List Char) : Prop where
  unindicated : startsIndicator cs = false
  startsLine : StartsLine cs

lemma PlainStart.signs {c : Char} (h : PlainStart (c :: rest)) :
    c ∉ ['#', ',', '[', ']', '{', '}', '&', '*', '!', '|', '>', '\'', '"', '%', '@', '\x60'] ∧
      ((c = '?' ∨ c = ':') ∨ c = '-' → endsWord rest = false) := by
  simpa [startsIndicator] using h.unindicated

lemma PlainStart.startsPlain {c : Char} (h : PlainStart (c :: rest)) :
    startsPlain false c rest = true := by
  obtain ⟨hnone, hword⟩ := h.signs
  obtain ⟨hblank, hbreak⟩ := h.startsLine c rfl
  by_cases hsign : (c = '?' ∨ c = ':') ∨ c = '-'
  · have hrest := hword hsign
    rcases hsign with (rfl | rfl) | rfl
    · simp [Scanner.startsPlain, hrest]
    · simp [Scanner.startsPlain, hrest]
    · cases rest with
      | nil => cases hrest
      | cons d others =>
        simp only [endsWord, Bool.or_eq_false_iff] at hrest
        simp [Scanner.startsPlain, hrest.1]
  · simp only [List.mem_cons, List.not_mem_nil, or_false, not_or] at hnone hsign
    simp [Scanner.startsPlain, hnone, hblank, hbreak, hsign]

/-- Nothing but a plain scalar starts with such a character. -/
lemma atToken_plain {c : Char} (h : PlainStart (c :: rest))
    (hmark : mark.column = 0 →
      isDocumentMark '-' (c :: rest) = false ∧ isDocumentMark '.' (c :: rest) = false) :
    (shallow opened tokens candidate allowed mark (c :: rest)).atToken
      = (shallow opened tokens candidate allowed mark (c :: rest)).atPlain := by
  obtain ⟨hnone, hword⟩ := h.signs
  have hsign (d : Char) (hd : (d = '?' ∨ d = ':') ∨ d = '-') :
      ¬ (c = d ∧ endsWord rest = true) := by
    rintro ⟨rfl, he⟩
    rw [hword hd] at he
    cases he
  have hdash := hsign '-' (by simp)
  have hquestion := hsign '?' (by simp)
  have hcolon := hsign ':' (by simp)
  simp only [List.mem_cons, List.not_mem_nil, or_false, not_or] at hnone
  by_cases hcolumn : mark.column = 0
  · simp [atToken, shallow, inFlow, hnone, hdash, hquestion, hcolon, h.startsPlain, hcolumn,
      hmark hcolumn]
  · simp [atToken, shallow, inFlow, hnone, hdash, hquestion, hcolon, h.startsPlain, hcolumn]

lemma isDocumentMark_of_ne {c d : Char} (h : c ≠ d) (rest : List Char) :
    isDocumentMark d (c :: rest) = false := by
  rcases rest with - | ⟨a, - | ⟨b, rest⟩⟩ <;> simp [isDocumentMark, h]

lemma atToken_single :
    (shallow opened tokens candidate allowed mark ('\'' :: rest)).atToken
      = (shallow opened tokens candidate allowed mark ('\'' :: rest)).atQuoted .single
        (readSingle .none false) rest := by
  simp [atToken, shallow, inFlow, isDocumentMark_of_ne]

lemma atToken_double :
    (shallow opened tokens candidate allowed mark ('"' :: rest)).atToken
      = (shallow opened tokens candidate allowed mark ('"' :: rest)).atQuoted .double
        (readDouble .none false none) rest := by
  simp [atToken, shallow, inFlow, isDocumentMark_of_ne]

lemma atToken_bar :
    (shallow opened tokens candidate allowed mark ('|' :: rest)).atToken
      = (shallow opened tokens candidate allowed mark ('|' :: rest)).atBlock .literal rest := by
  simp [atToken, shallow, inFlow, isDocumentMark_of_ne]

lemma atToken_colon (h : endsWord rest = true) :
    (shallow opened tokens candidate allowed mark (':' :: rest)).atToken
      = (shallow opened tokens candidate allowed mark (':' :: rest)).atColon rest := by
  simp [atToken, shallow, inFlow, isDocumentMark_of_ne, h]

lemma atToken_end :
    (shallow opened tokens candidate allowed mark []).atToken
      = (shallow opened tokens candidate allowed mark []).atEnd := rfl

/-! ### What the tokens do -/

lemma atQuoted_shallow {style : Style} {read : List Char → Reading} {c : Char}
    {body text : List Char} (h : read (body ++ next) = some (text, next)) :
    (shallow opened tokens candidate false mark (c :: (body ++ next))).atQuoted style read
        (body ++ next)
      = some (shallow opened (.scalar style (String.ofList text) :: tokens) candidate false
          (mark.afterAll (c :: body)) next) := by
  simp only [atQuoted, saveCandidate_forbidden, h, Option.bind_eq_bind, Option.bind_some]
  rw [← List.cons_append, goTo_shallow]
  rfl

lemma atBlock_shallow {c : Char} {body text : List Char}
    (h : readBlock true 0 (body ++ next) = some (text, next)) :
    (shallow true tokens none false mark (c :: (body ++ next))).atBlock .literal (body ++ next)
      = some (shallow true (.scalar .literal (String.ofList text) :: tokens) none true
          (mark.afterAll (c :: body)) next) := by
  have hindent : (shallow true tokens none false mark (c :: (body ++ next))).indent = 0 := rfl
  have hdrop : (shallow true tokens none false mark (c :: (body ++ next))).dropCandidate
      = some (shallow true tokens none false mark (c :: (body ++ next))) := rfl
  simp only [atBlock, hdrop, hindent, h, Option.bind_eq_bind, Option.bind_some, decide_true]
  rw [← List.cons_append, goTo_shallow]
  rfl

lemma atPlain_shallow {saved : Option Candidate} {body text : List Char} {broken : Bool}
    (hsave : (shallow opened tokens candidate allowed mark (body ++ next)).saveCandidate
      = some (shallow opened tokens saved allowed mark (body ++ next)))
    (h : readPlain ⟨false, if opened then 1 else 0⟩ .none 0 (body ++ next)
      = some (text, next, broken)) :
    (shallow opened tokens candidate allowed mark (body ++ next)).atPlain
      = some (shallow opened (.scalar .plain (String.ofList text) :: tokens) saved broken
          (mark.afterAll body) next) := by
  have hplace : (⟨(shallow opened tokens saved allowed mark (body ++ next)).inFlow,
      ((shallow opened tokens saved allowed mark (body ++ next)).indent + 1).toNat⟩ : PlainPlace)
        = ⟨false, if opened then 1 else 0⟩ := by cases opened <;> rfl
  have hrest : (shallow opened tokens saved allowed mark (body ++ next)).rest = body ++ next := rfl
  simp only [atPlain, hsave, hplace, hrest, h, Option.bind_eq_bind, Option.bind_some]
  rw [goTo_shallow]
  rfl

/-- The colon makes the candidate before it a key, and the first key opens the mapping. -/
lemma atColon_shallow {required : Bool} {scalar : Token} {line index : Nat} :
    (shallow opened (scalar :: tokens) (some ⟨required, tokens.length, ⟨line, 0, index⟩⟩) allowed
        mark (':' :: rest)).atColon rest
      = some (shallow true
          (.value :: scalar :: .key :: (if opened then tokens else .blockMapping :: tokens)) none
          false (mark.afterAll [':']) rest) := by
  have hone : tokens.length + 1 - tokens.length = 1 := by omega
  have htwo : tokens.length + 1 + 1 - tokens.length = 2 := by omega
  cases opened <;> simp [shallow, atColon, insertAt, roll, inFlow, goTo, push, hone, htwo]

/-- The end closes the mapping. -/
lemma atEnd_shallow :
    (shallow true tokens none allowed mark []).atEnd
      = some (shallow false (.streamEnd :: .blockEnd :: tokens) none false mark []) := by
  simp [shallow, atEnd, unroll, closeTo, inFlow, dropCandidate, push]

/-! ### Keys -/

/-- Whether a character can stand in the names of fields. -/
def inKey (c : Char) : Bool := c.isLower || c = '_'

/-- The names that are written as keys. -/
structure IsKey (key : List Char) : Prop where
  nonempty : key ≠ []
  chars : ∀ c ∈ key, inKey c
  short : key.length ≤ 1024

lemma IsKey.unlike {key : List Char} (h : IsKey key) {d : Char} (hd : inKey d = false) :
    ∀ c ∈ key, c ≠ d := by
  rintro c hc rfl
  rw [h.chars c hc] at hd
  cases hd

lemma IsKey.shown {key : List Char} (h : IsKey key) :
    ∀ c ∈ key, isBlank c = false ∧ isBreak c = false ∧ c ≠ ':' := by
  intro c hc
  have hne {d : Char} (hd : inKey d = false) : c ≠ d := h.unlike hd c hc
  refine ⟨?_, ?_, hne (by decide)⟩
  · simp [isBlank, hne (d := ' ') (by decide), hne (d := '\t') (by decide)]
  · simp [isBreak, hne (d := '\n') (by decide), hne (d := lineSeparator) (by decide),
      hne (d := paragraphSeparator) (by decide)]

lemma IsKey.printable {key : List Char} (h : IsKey key) : Printable key := by
  intro c hc
  have hin := h.chars c hc
  have lower : c.isLower = (decide ('a'.val ≤ c.val) && decide (c.val ≤ 'z'.val)) := rfl
  simp only [inKey, lower, Bool.or_eq_true, Bool.and_eq_true, decide_eq_true_eq] at hin
  rcases hin with ⟨hleast, hgreatest⟩ | rfl
  · have hleast : 97 ≤ c.toNat := hleast
    have hgreatest : c.toNat ≤ 122 := hgreatest
    simp only [isPrintable, Bool.or_eq_true, Bool.and_eq_true, decide_eq_true_eq]
    omega
  · decide

lemma IsKey.start {key : List Char} (h : IsKey key) (rest : List Char) :
    PlainStart (key ++ rest) := by
  obtain ⟨c, others, rfl⟩ := List.exists_cons_of_ne_nil h.nonempty
  obtain ⟨hblank, hbreak, -⟩ := h.shown c List.mem_cons_self
  have hne (d : Char) (hd : inKey d = false) : c ≠ d := h.unlike hd c List.mem_cons_self
  refine ⟨?_, ?_⟩
  · simp (disch := decide) [startsIndicator, hne]
  · rintro d ⟨⟩
    exact ⟨hblank, hbreak⟩

/-- A step that succeeds is one turn of a run. -/
lemma run_succ {s' : Scanner} {s : Scanner} (hdone : s.isDone = false) (h : s.next = some s')
    (fuel : Nat) : run (fuel + 1) s = run fuel s' := by
  rw [run, hdone, h]
  rfl

lemma isDone_shallow (h : tokens.head? ≠ some .streamEnd) :
    (shallow opened tokens candidate allowed mark rest).isDone = false := by
  cases tokens with
  | nil => rfl
  | cons t tokens => cases t <;> first | rfl | exact absurd rfl h

/-- A gap ends before a character that is none of the characters of gaps. -/
lemma afterGap_stop {c : Char} (hblank : isBlank c = false) (hbreak : isBreak c = false)
    (hmark : c ≠ '#') (allowed : Bool) (rest : List Char) :
    afterGap false allowed false (c :: rest) = (c :: rest, allowed) := by
  simp only [isBlank, Bool.or_eq_false_iff, decide_eq_false_iff_not] at hblank
  simp [afterGap, hbreak, hblank, hmark]

lemma afterGap_lineStart (h : LineStart allowed mark gap) (hnext : StartsLine next)
    (hcomment : next.head? ≠ some '#') :
    afterGap false allowed false (gap ++ next) = (next, true) := by
  have hstop : afterGap false true false next = (next, true) := by
    cases next with
    | nil => rfl
    | cons c rest =>
      obtain ⟨hblank, hbreak⟩ := hnext c rfl
      exact afterGap_stop hblank hbreak (fun e => hcomment (congrArg some e)) true rest
  rcases h.short with rfl | rfl
  · rw [h.allowed rfl]
    exact hstop
  · have hfeed : isBreak '\n' = true := by decide
    rw [List.cons_append, List.nil_append, afterGap, if_pos hfeed]
    simpa using hstop

lemma LineStart.exists_mark (h : LineStart allowed mark gap) :
    ∃ line index, mark.afterAll gap = ⟨line, 0, index⟩ := by
  refine ⟨(mark.afterAll gap).line, (mark.afterAll gap).index, ?_⟩
  have hcolumn : (mark.afterAll gap).column = 0 := by
    rcases h.short with rfl | rfl
    · exact h.column rfl
    · rfl
  rw [← hcolumn]

/-- The first step of an entry reads its key as a plain scalar. -/
lemma next_key {key : List Char} (hkey : IsKey key) (hline : LineStart allowed mark gap)
    (hrest : endsWord rest = true) {line index : Nat}
    (hmark : mark.afterAll gap = ⟨line, 0, index⟩) :
    (shallow opened tokens none allowed mark (gap ++ (key ++ ':' :: rest))).next
      = some (shallow opened (.scalar .plain (String.ofList key) :: tokens)
          (some (candidateAt opened tokens ⟨line, 0, index⟩)) false
          ⟨line, key.length, index + key.length⟩ (':' :: rest)) := by
  obtain ⟨c, others, hcons⟩ := List.exists_cons_of_ne_nil hkey.nonempty
  have hstart := hkey.start (':' :: rest)
  have hc : c ∈ key := by rw [hcons]; exact List.mem_cons_self
  have hgap : afterGap false allowed false (gap ++ (key ++ ':' :: rest))
      = (key ++ ':' :: rest, true) := by
    refine afterGap_lineStart hline hstart.startsLine ?_
    rw [hcons]
    exact fun h => hkey.unlike (by decide) c hc (Option.some.inj h)
  have hread := readPlain_key (if opened then 1 else 0) hkey.shown hrest 0
  have hafter : Mark.afterAll ⟨line, 0, index⟩ key = ⟨line, key.length, index + key.length⟩ := by
    rw [Mark.afterAll_unbroken fun d hd => (hkey.shown d hd).2.1]
    simp
  rw [next_shallow hgap (by simp), hmark, ← hafter, ← atPlain_shallow saveCandidate_allowed hread]
  rw [hcons, List.cons_append] at hstart ⊢
  refine atToken_plain hstart fun _ => ⟨?_, ?_⟩
  · exact isDocumentMark_of_ne (hkey.unlike (by decide) c hc) _
  · exact isDocumentMark_of_ne (hkey.unlike (by decide) c hc) _

/-- The second step makes it a key. -/
lemma next_colon (opened : Bool) (tokens : List Token) (scalar : Token) (line column : Nat)
    {index last : Nat} (hlast : last ≤ index + 1024) (hrest : endsWord rest = true) :
    (shallow opened (scalar :: tokens) (some (candidateAt opened tokens ⟨line, 0, index⟩)) false
        ⟨line, column, last⟩ (':' :: rest)).next
      = some (shallow true
          (.value :: scalar :: .key :: (if opened then tokens else .blockMapping :: tokens)) none
          false ⟨line, column + 1, last + 1⟩ rest) := by
  have hgap : afterGap false false false ([] ++ ':' :: rest) = (':' :: rest, false) := by
    have hcolon : isBreak ':' = false := by decide
    simp [afterGap, hcolon]
  have hstale : ∀ k ∈ some (candidateAt opened tokens ⟨line, 0, index⟩),
      isStale (Mark.afterAll ⟨line, column, last⟩ []) k = false := by
    rintro k ⟨⟩
    simp [isStale, Mark.afterAll, candidateAt, hlast]
  have hstep : (shallow opened (scalar :: tokens) _ false _ ([] ++ ':' :: rest)).next = _ :=
    next_shallow hgap hstale
  rw [List.nil_append] at hstep
  rw [hstep, atToken_colon hrest]
  exact atColon_shallow

/-- The tokens of a key, the newest first.  The first key opens the mapping. -/
def keyTokens (opened : Bool) (key : List Char) (tokens : List Token) : List Token :=
  .value :: .scalar .plain (String.ofList key) :: .key ::
    (if opened then tokens else .blockMapping :: tokens)

/-- **A key with its colon** takes two steps. -/
theorem run_key (opened : Bool) {key : List Char} (hkey : IsKey key)
    (hline : LineStart allowed mark gap) (hdone : tokens.head? ≠ some .streamEnd)
    (hrest : endsWord rest = true) :
    ∃ mark', 0 < mark'.column ∧ ∀ fuel,
      run (fuel + 2) (shallow opened tokens none allowed mark (gap ++ (key ++ ':' :: rest)))
        = run fuel (shallow true (keyTokens opened key tokens) none false mark' rest) := by
  obtain ⟨line, index, hmark⟩ := hline.exists_mark
  have hfirst : (shallow opened tokens none allowed mark (gap ++ (key ++ ':' :: rest))).next = _ :=
    next_key hkey hline hrest hmark
  have hsecond := next_colon opened tokens (.scalar .plain (String.ofList key)) line key.length
    (Nat.add_le_add_left hkey.short index) hrest
  refine ⟨⟨line, key.length + 1, index + key.length + 1⟩, Nat.succ_pos _, fun fuel => ?_⟩
  rw [run_succ (isDone_shallow hdone) hfirst, run_succ rfl hsecond]
  rfl

/-! ### Values -/

/-- **How a value has to be written**: the scanner takes it for one scalar, up to the line end that
comes with it. -/
structure ReadsAs (body : List Char) (style : Style) (text : List Char) : Prop where
  nonempty : body ≠ []
  start : ∀ c ∈ body.head?, isBlank c = false ∧ isBreak c = false ∧ c ≠ '#'
  read : ∀ tokens mark next, StartsLine next → 0 < mark.column →
    ∃ allowed mark' gap, LineStart allowed mark' gap ∧
      (shallow true tokens none false mark (body ++ next)).atToken
        = some (shallow true (.scalar style (String.ofList text) :: tokens) none allowed mark'
            (gap ++ next))

/-- A quoted value, with the line end after it. -/
lemma readsAs_quoted {quote : Char} {style : Style} {read : List Char → Reading}
    {body text : List Char} (hquote : isBlank quote = false ∧ isBreak quote = false ∧ quote ≠ '#')
    (htoken : ∀ tokens mark rest, (shallow true tokens none false mark (quote :: rest)).atToken
      = (shallow true tokens none false mark (quote :: rest)).atQuoted style read rest)
    (hread : ∀ next, read (body ++ '\n' :: next) = some (text, '\n' :: next)) :
    ReadsAs (quote :: (body ++ ['\n'])) style text where
  nonempty := by simp
  start := by
    rintro c ⟨⟩
    exact hquote
  read := by
    intro tokens mark next hnext hmark
    refine ⟨false, mark.afterAll (quote :: body), ['\n'], ⟨by simp, by simp, .inr rfl⟩, ?_⟩
    have hquoted : (shallow true tokens none false mark
        (quote :: (body ++ '\n' :: next))).atQuoted style read (body ++ '\n' :: next) = _ :=
      atQuoted_shallow (hread next)
    simpa [htoken] using hquoted

theorem readsAs_single {cs : List Char} (h : Singly cs) :
    ReadsAs ('\'' :: (singleBody false cs ++ ['\''] ++ ['\n'])) .single cs := by
  refine readsAs_quoted (by decide) (fun _ _ _ => atToken_single) fun next => ?_
  have hrest : '\'' ∉ ('\n' :: next).head? := by simp
  simpa using readSingle_body h hrest

theorem readsAs_double (cs : List Char) :
    ReadsAs ('"' :: (cs.flatMap escaped ++ ['"'] ++ ['\n'])) .double cs := by
  refine readsAs_quoted (by decide) (fun _ _ _ => atToken_double) fun next => ?_
  simpa [Gap.none] using readDouble_escaped [] cs ('\n' :: next)

theorem readsAs_literal {cs : List Char} (hne : cs ≠ []) (htab : cs.head? ≠ some '\t') :
    ReadsAs ('|' :: belowBar cs) .literal cs where
  nonempty := by simp
  start := by
    rintro c ⟨⟩
    decide
  read := by
    intro tokens mark next hnext hmark
    obtain ⟨front, b, hend, hb⟩ := belowBar_end hne
    have hcolumn : (mark.afterAll ('|' :: belowBar cs)).column = 0 := by
      rw [hend, ← List.cons_append]
      exact Mark.column_afterAll_break hb mark _
    refine ⟨true, _, [], ⟨fun _ => rfl, fun _ => hcolumn, .inl rfl⟩, ?_⟩
    rw [List.cons_append, atToken_bar, List.nil_append]
    exact atBlock_shallow (readBlock_literal hne htab hnext)

lemma PlainStart.line {cs : List Char} (h : PlainStart cs) (hne : cs ≠ []) (next : List Char) :
    PlainStart (cs ++ '\n' :: next) := by
  obtain ⟨hindicator, hline⟩ := h
  cases cs with
  | nil => exact absurd rfl hne
  | cons c cs =>
    refine ⟨?_, fun d hd => hline d hd⟩
    simpa [startsIndicator, endsWord_line] using hindicator

theorem readsAs_plain {cs : List Char} (h : Plainly cs) (hstart : PlainStart cs) (hne : cs ≠ []) :
    ReadsAs (cs ++ ['\n']) .plain cs where
  nonempty := by simp
  start := by
    obtain ⟨c, others, rfl⟩ := List.exists_cons_of_ne_nil hne
    obtain ⟨hblank, hbreak⟩ := hstart.startsLine c rfl
    rintro d ⟨⟩
    refine ⟨hblank, hbreak, ?_⟩
    rintro rfl
    cases hstart.unindicated
  read := by
    intro tokens mark next hnext hmark
    have hread : readPlain ⟨false, 1⟩ .none 0 (cs ++ '\n' :: next) = some (cs, next, true) :=
      readPlain_line h Nat.one_pos hnext (fun e => absurd rfl e) 0
    refine ⟨true, mark.afterAll (cs ++ ['\n']), [],
      ⟨fun _ => rfl, fun _ => Mark.column_afterAll_break (by decide) mark cs, .inl rfl⟩, ?_⟩
    have hplain : (shallow true tokens none false mark (cs ++ ['\n'] ++ next)).atPlain = _ :=
      atPlain_shallow saveCandidate_forbidden (by simpa using hread)
    rw [List.nil_append, ← hplain]
    have hline := hstart.line hne next
    obtain ⟨c, others, rfl⟩ := List.exists_cons_of_ne_nil hne
    simp only [List.cons_append, List.append_assoc, List.nil_append] at hline ⊢
    exact atToken_plain hline fun hcolumn => absurd hcolumn (Nat.pos_iff_ne_zero.mp hmark)

end Steps

end Scanner

end ApiStencil.Yaml
