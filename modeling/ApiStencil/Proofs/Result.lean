import Mathlib.Data.List.Forall2
import Mathlib.Tactic.Lemma

/-!
# Results that may be failures

When a chain of steps succeeds, and what a result is without the reason of its failure.
-/

namespace ApiStencil

variable {ε α β : Type}

/-- A chain succeeds exactly if its first step does, and the others do with its value. -/
lemma bind_eq_ok_iff {r : Except ε α} {f : α → Except ε β} {y : β} :
    (r >>= f) = .ok y ↔ ∃ x, r = .ok x ∧ f x = .ok y := by
  cases r <;> simp [bind, Except.bind]

/-- A chain of one step for each item succeeds exactly if each step does. -/
lemma mapM_eq_ok_iff {f : α → Except ε β} {as : List α} {bs : List β} :
    as.mapM f = .ok bs ↔ List.Forall₂ (fun a b => f a = .ok b) as bs := by
  induction as generalizing bs with
  | nil =>
    rw [List.forall₂_nil_left_iff]
    exact ⟨fun eq => (Except.ok.inj eq).symm, fun eq => congrArg Except.ok eq.symm⟩
  | cons a as ih =>
    rw [List.mapM_cons, bind_eq_ok_iff, List.forall₂_cons_left_iff]
    constructor
    · rintro ⟨b, first, rest⟩
      obtain ⟨bs, others, eq⟩ := bind_eq_ok_iff.mp rest
      exact ⟨b, bs, first, ih.mp others, (Except.ok.inj eq).symm⟩
    · rintro ⟨b, bs, first, others, rfl⟩
      exact ⟨b, first, bind_eq_ok_iff.mpr ⟨bs, ih.mpr others, rfl⟩⟩

lemma toOption_eq_some_iff {r : Except ε α} {x : α} : r.toOption = some x ↔ r = .ok x := by
  cases r <;> simp [Except.toOption]

lemma toOption_eq_none_iff {r : Except ε α} : r.toOption = none ↔ ∃ e, r = .error e := by
  cases r <;> simp [Except.toOption]

end ApiStencil
