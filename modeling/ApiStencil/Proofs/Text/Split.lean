import Mathlib.Data.List.Basic
import Mathlib.Data.String.Basic

/-!
# Texts and their parts between separators

A text is cut at every separator into parts that have none, and parts with separators between them
are cut into these parts again.

* `not_mem_of_mem_splitOn` — no part has the separator;
* `splitOn_toList_intercalate` — strings joined by a separator are read back by cutting the text;
* `ended_iff` — a text that is empty or ends with the separator is a row of parts, each with the
  separator after it.
-/

namespace ApiStencil.Text

variable {c : Char} {text part : List Char}

/-- No part has the separator. -/
lemma not_mem_of_mem_splitOn (h : part ∈ text.splitOn c) : c ∉ part := by
  induction text generalizing part with
  | nil =>
    rw [List.splitOn_nil, List.mem_singleton] at h
    rw [h]
    exact List.not_mem_nil
  | cons d rest ih =>
    rw [List.splitOn_cons_eq_if_modifyHead] at h
    split at h
    · rcases List.mem_cons.mp h with rfl | h
      · exact List.not_mem_nil
      · exact ih h
    · rename_i other
      obtain ⟨first, others, split⟩ := List.exists_cons_of_ne_nil (List.splitOn_ne_nil c rest)
      rw [split] at h ih
      rcases List.mem_cons.mp h with rfl | h
      · have other : c ≠ d := fun same => other (by rw [same, beq_self_eq_true])
        exact List.not_mem_cons_of_ne_of_not_mem other (ih List.mem_cons_self)
      · exact ih (List.mem_cons_of_mem _ h)

/-- Strings without the separator are the parts of the text that they make with it between them. -/
lemma splitOn_toList_intercalate {separator : String} {strings : List String}
    (single : separator.toList = [c]) (free : ∀ s ∈ strings, c ∉ s.toList) (ne : strings ≠ []) :
    (separator.intercalate strings).toList.splitOn c = strings.map String.toList := by
  rw [String.toList_intercalate, single]
  exact List.splitOn_intercalate c (List.forall_mem_map.mpr free) (by simpa using ne)

lemma map_ofList_map_toList (strings : List String) :
    (strings.map String.toList).map String.ofList = strings := by
  rw [List.map_map]
  exact (List.map_congr_left fun s _ => String.ofList_toList).trans (List.map_id strings)

lemma intercalate_append_separator {parts : List (List Char)} (ne : parts ≠ []) :
    [c].intercalate parts ++ [c] = parts.flatMap (· ++ [c]) := by
  induction parts with
  | nil => exact absurd rfl ne
  | cons first rest ih =>
    cases rest with
    | nil => simp
    | cons second rest =>
      rw [List.intercalate_cons_cons, List.append_assoc, List.append_assoc, ih (List.cons_ne_nil _ _)]
      simp

/-- A text that is empty or ends with the separator is a row of parts with the separator after each. -/
lemma ended_iff : (text = [] ∨ ∃ inner, text = inner ++ [c]) ↔
    ∃ parts : List String, (∀ part ∈ parts, c ∉ part.toList) ∧
      text = parts.flatMap fun part => part.toList ++ [c] := by
  constructor
  · rintro (rfl | ⟨inner, rfl⟩)
    · exact ⟨[], by simp, rfl⟩
    · refine ⟨(inner.splitOn c).map String.ofList, ?_, ?_⟩
      · refine List.forall_mem_map.mpr fun part cut => ?_
        rw [String.toList_ofList]
        exact not_mem_of_mem_splitOn cut
      · rw [List.flatMap_map]
        simp only [String.toList_ofList]
        rw [← intercalate_append_separator (List.splitOn_ne_nil c inner), List.intercalate_splitOn]
  · rintro ⟨parts, -, rfl⟩
    rcases List.eq_nil_or_concat parts with rfl | ⟨others, last, rfl⟩
    · exact .inl rfl
    · refine .inr ⟨(others.flatMap fun part => part.toList ++ [c]) ++ last.toList, ?_⟩
      simp

/-- A first string, strings in the middle and a last one, with the separator between them. -/
lemma toList_intercalate_between {separator first last : String} {between : List String}
    (single : separator.toList = [c]) :
    (separator.intercalate (first :: (between ++ [last]))).toList =
      first.toList ++ c :: ((between.flatMap fun part => part.toList ++ [c]) ++ last.toList) := by
  induction between generalizing first with
  | nil => simp [single]
  | cons second between ih =>
    rw [List.cons_append, String.intercalate_cons_cons, String.toList_append, String.toList_append,
      ih, single]
    simp

end ApiStencil.Text
