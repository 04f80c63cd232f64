import ApiStencil.Proofs.Yaml.Mapping
import ApiStencil.Yaml.Print

/-!
# Strings written as values

Whatever a string holds, the style that is chosen for it is one in which it is read back, and what
is written can stand in a document.

* `styleOf_cases` — what is known of a string by its style;
* `writeText_readsAs` — every string is read back from what is written for it, and that consists of
  characters that a document may hold.
-/

namespace ApiStencil.Yaml

/-! ### Styles -/

/-- **What is known of a string by its style.** -/
theorem styleOf_cases (s : String) :
    (styleOf s = .literal ∧ s.toList ≠ [] ∧ fitsLiteral s.toList) ∨ styleOf s = .double ∨
      (styleOf s = .plain ∧ isAmbiguous s = false ∧ fitsPlain s.toList) ∨
      (styleOf s = .single ∧ '\n' ∉ s.toList ∧ fitsSingle s.toList) := by
  simp only [styleOf]
  split
  · rename_i hfeed
    split
    · rename_i hfits
      refine .inl ⟨rfl, ?_, hfits⟩
      intro he
      rw [he] at hfeed
      cases hfeed
    · exact .inr (.inl rfl)
  · rename_i hfeed
    split
    · rename_i hplain
      simp only [Bool.and_eq_true, Bool.not_eq_true'] at hplain
      exact .inr (.inr (.inl ⟨rfl, hplain.1, hplain.2⟩))
    · split
      · rename_i hfits
        exact .inr (.inr (.inr ⟨rfl, by simpa using hfeed, hfits⟩))
      · exact .inr (.inl rfl)

lemma printable_of_not_hidden {cs : List Char} (h : hasHidden cs = false) :
    Printable cs := by
  intro c hc
  simpa using List.any_eq_false.mp h c hc

lemma printable_of_fitsLiteral {cs : List Char} (h : fitsLiteral cs) : Printable cs := by
  simp only [fitsLiteral, Bool.and_eq_true, Bool.not_eq_true'] at h
  exact printable_of_not_hidden h.1.1

lemma singly_of_fits {cs : List Char} (hfeed : '\n' ∉ cs) (h : fitsSingle cs) : Singly cs := by
  simp only [fitsSingle, Bool.and_eq_true, Bool.not_eq_true'] at h
  exact ⟨printable_of_not_hidden h.1.1, hfeed, h.1.2, h.2⟩

lemma plainly_of_fits {cs : List Char} (h : fitsPlain cs) (hne : cs ≠ []) :
    Plainly cs ∧ Scanner.PlainStart cs := by
  simp only [fitsPlain, hasIndicator, Bool.and_eq_true, Bool.not_eq_true',
    Bool.or_eq_false_iff] at h
  obtain ⟨⟨⟨⟨hhidden, hbreak⟩, hfirst⟩, hlast⟩, ⟨⟨hmark, hindicator⟩, hcolon⟩, hcomment⟩ := h
  have hprintable := printable_of_not_hidden hhidden
  have hunbroken : ∀ c ∈ cs, isBreak c = false := fun c hc => by
    simpa using List.any_eq_false.mp hbreak c hc
  obtain ⟨c, rest, rfl⟩ := List.exists_cons_of_ne_nil hne
  have hspace : c ≠ ' ' := by
    rintro rfl
    cases hfirst
  refine ⟨⟨hprintable, hunbroken, ?_, hcomment, ?_⟩, ⟨hindicator, ?_⟩⟩
  · -- a colon in the first place would make it look like something else
    simp only [hasEndingColon, Bool.or_eq_false_iff, List.tail_cons] at hcolon ⊢
    refine ⟨?_, hcolon⟩
    by_contra hends
    simp only [Bool.not_eq_false, Bool.and_eq_true, decide_eq_true_eq] at hends
    simp [startsIndicator, hends] at hindicator
  · intro he
    rw [he] at hlast
    cases hlast
  · rintro d ⟨⟩
    exact ⟨isBlank_eq_false hspace (hprintable c List.mem_cons_self),
      hunbroken c List.mem_cons_self⟩

lemma ne_nil_of_unambiguous {s : String} (h : isAmbiguous s = false) : s.toList ≠ [] := by
  intro he
  simp [isAmbiguous, he] at h

/-! ### What is written -/

namespace Printable

variable {cs : List Char}

lemma indentation_if (broken : Bool) : Printable (if broken then indentation else []) := by
  revert broken
  decide

lemma literalBody (h : Printable cs) (broken : Bool) : Printable (literalBody broken cs) := by
  induction cs generalizing broken with
  | nil => exact List.forall_mem_nil _
  | cons c cs ih =>
    have hc := h c List.mem_cons_self
    have hcs : Printable cs := h.tail
    rw [Yaml.literalBody]
    split
    · exact cons hc (ih hcs true)
    · exact append (indentation_if broken) (cons hc (ih hcs false))

lemma singleBody (h : Printable cs) (broken : Bool) : Printable (singleBody broken cs) := by
  induction cs generalizing broken with
  | nil => exact indentation_if broken
  | cons c cs ih =>
    have hc := h c List.mem_cons_self
    have hcs : Printable cs := h.tail
    rw [Yaml.singleBody]
    split
    · exact cons hc (ih hcs true)
    · refine append (append (indentation_if broken) ?_) (ih hcs false)
      split
      · decide
      · exact cons hc (by decide)

lemma hexOf (width n : Nat) : Printable (hexOf width n) := by
  have hdigit : ∀ n < 16, isPrintable (hexDigit n) := by decide
  induction width generalizing n with
  | zero => exact List.forall_mem_nil _
  | succ width ih =>
    rw [Yaml.hexOf]
    exact append (ih (n / 16)) (cons (hdigit (n % 16) (by omega)) (by decide))

lemma escaped (c : Char) : Printable (escaped c) := by
  simp only [Yaml.escaped]
  split
  · rename_i hquote
    simp only [Bool.or_eq_true, decide_eq_true_eq] at hquote
    rcases hquote with rfl | rfl <;> decide
  · split
    · rename_i hshown
      simp only [Bool.and_eq_true] at hshown
      exact cons hshown.1 (by decide)
    · split
      -- the short escapes
      iterate 12
        · decide
      · split
        · exact cons (by decide) (cons (by decide) (hexOf 2 _))
        · split
          · exact cons (by decide) (cons (by decide) (hexOf 4 _))
          · exact cons (by decide) (cons (by decide) (hexOf 8 _))

end Printable

lemma Printable.hints (cs : List Char) : Printable (indentationHint cs ++ chompingHint cs) := by
  refine .append ?_ ?_
  · rw [indentationHint_eq]
    split <;> decide
  · unfold chompingHint
    dsimp only
    repeat' split
    all_goals decide

lemma Printable.lastFeed (cs : List Char) : Printable (lastFeed cs) := by
  unfold Yaml.lastFeed
  split
  · split <;> decide
  · decide

lemma Printable.belowBar {cs : List Char} (h : Printable cs) : Printable (belowBar cs) :=
  .append (.hints cs) (.cons (by decide) (.append (h.literalBody true) (.lastFeed cs)))

/-- **Every string is read back** from what is written for it, which can stand in a document. -/
theorem writeText_readsAs (s : String) :
    ∃ body, writeText s = ' ' :: body ∧ Scanner.ReadsAs body (styleOf s) s.toList ∧
      Printable body := by
  rcases styleOf_cases s with ⟨hstyle, hne, hfits⟩ | hstyle | ⟨hstyle, hclear, hfits⟩ |
    ⟨hstyle, hfeed, hfits⟩
  · have hprintable := printable_of_fitsLiteral hfits
    have htab : s.toList.head? ≠ some '\t' := by
      intro he
      exact absurd (hprintable '\t' (List.mem_of_mem_head? he)) (by decide)
    refine ⟨'|' :: belowBar s.toList, ?_, ?_, ?_⟩
    · simp only [writeText, hstyle, belowBar, lastFeed]
      cases s.toList.getLast? <;> simp
    · rw [hstyle]
      exact Scanner.readsAs_literal hne htab
    · exact .cons (by decide) (.belowBar hprintable)
  · refine ⟨'"' :: (s.toList.flatMap escaped ++ ['"'] ++ ['\n']), ?_, ?_, ?_⟩
    · simp [writeText, hstyle]
    · rw [hstyle]
      exact Scanner.readsAs_double s.toList
    · refine .cons (by decide) (.append (.append ?_ (by decide)) (by decide))
      intro c hc
      obtain ⟨d, -, hd⟩ := List.mem_flatMap.mp hc
      exact Printable.escaped d c hd
  · have hne := ne_nil_of_unambiguous hclear
    obtain ⟨hplainly, hstart⟩ := plainly_of_fits hfits hne
    refine ⟨s.toList ++ ['\n'], ?_, ?_, .append hplainly.printable (by decide)⟩
    · simp [writeText, hstyle]
    · rw [hstyle]
      exact Scanner.readsAs_plain hplainly hstart hne
  · have hsingly := singly_of_fits hfeed hfits
    have hprintable := hsingly.printable
    refine ⟨'\'' :: (singleBody false s.toList ++ ['\''] ++ ['\n']), ?_, ?_, ?_⟩
    · simp [writeText, hstyle]
    · rw [hstyle]
      exact Scanner.readsAs_single hsingly
    · exact .cons (by decide) (((hprintable.singleBody false).append (by decide)).append
        (by decide))

end ApiStencil.Yaml
