import ApiStencil.Yaml.Core
import Mathlib.Tactic.Lemma
import Mathlib.Tactic.SplitIfs

/-!
# Null and booleans among plain scalars

Numbers come after null and booleans when a plain scalar is read, and are neither.  So a scalar without a
tag is null or a boolean by the word that it is (`ofPlain_eq_null_iff`, `bool?_of_ofScalar`).
-/

namespace ApiStencil.Yaml.Core

/-- Whether a meaning is null or a boolean. -/
def isWord : Core → Bool
  | .null | .bool _ => true
  | _ => false

lemma isWord_of_ofInt? {i : Int} {core : Core} (h : ofInt? i = some core) :
    core.isWord = false := by
  unfold ofInt? at h
  split_ifs at h
  all_goals
    cases h
    rfl

lemma isWord_of_float? {s : String} {core : Core} (h : float? s = some core) :
    core.isWord = false := by
  unfold float? at h
  split_ifs at h
  case neg =>
    obtain ⟨x, -, rfl⟩ := Option.map_eq_some_iff.mp h
    rfl
  all_goals
    cases h
    rfl

/-- A plain scalar is null, a boolean, or neither, by its text. -/
lemma ofPlain_cases (s : String) :
    ((s.isEmpty || isNull s) = true ∧ ofPlain s = .null) ∨
    (¬ (s.isEmpty || isNull s) = true ∧ ∃ b, bool? s = some b ∧ ofPlain s = .bool b) ∨
    (¬ (s.isEmpty || isNull s) = true ∧ (ofPlain s).isWord = false) := by
  by_cases nothing : (s.isEmpty || isNull s) = true
  · exact .inl ⟨nothing, if_pos nothing⟩
  refine .inr ?_
  rw [ofPlain, if_neg nothing]
  cases word : bool? s with
  | some b => exact .inl ⟨nothing, b, rfl, rfl⟩
  | none =>
    refine .inr ⟨nothing, ?_⟩
    dsimp only
    cases whole : int? s.toList >>= ofInt? with
    | some core =>
      obtain ⟨i, -, small⟩ := Option.bind_eq_some_iff.mp whole
      exact isWord_of_ofInt? small
    | none =>
      dsimp only
      split
      · rfl
      · cases float : float? s with
        | some core => exact isWord_of_float? float
        | none => rfl

lemma bool?_of_ofPlain {s : String} {b : Bool} (h : ofPlain s = .bool b) :
    bool? s = some b := by
  rcases ofPlain_cases s with ⟨-, null⟩ | ⟨-, b', word, written⟩ | ⟨-, other⟩
  · rw [null] at h
    cases h
  · rw [written, bool.injEq] at h
    rw [word, h]
  · rw [h] at other
    cases other

/-- The null of a plain scalar is the null of an optional text. -/
lemma ofPlain_eq_null_iff {s : String} :
    ofPlain s = .null ↔ (s.isEmpty || isNull s) = true := by
  rcases ofPlain_cases s with ⟨nothing, null⟩ | ⟨nothing, b, -, written⟩ | ⟨nothing, other⟩
  · exact iff_of_true null nothing
  · refine iff_of_false ?_ nothing
    rw [written]
    nofun
  · refine iff_of_false (fun null => ?_) nothing
    rw [null] at other
    cases other

lemma bool?_of_ofScalar {style : Style} {s : String} {b : Bool}
    (h : ofScalar none style s = .ok (.bool b)) : style = .plain ∧ bool? s = some b := by
  have plain : (if style = .plain then ofPlain s else .text s) = .bool b := Except.ok.inj h
  split at plain
  · exact ⟨‹_›, bool?_of_ofPlain plain⟩
  · cases plain

end ApiStencil.Yaml.Core
