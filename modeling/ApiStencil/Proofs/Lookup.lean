import Mathlib.Data.List.Forall2
import Mathlib.Data.List.Nodup
import Mathlib.Data.List.Perm.Subperm
import Mathlib.Data.Option.Basic
import Mathlib.Tactic.Lemma

/-!
# Lists that are asked by key

Where each key stands once, what is found under the keys is a map, whatever the order of the list
(`lookup_of_mem`).  Two such lists of one length are related under all keys as soon as every entry of
the first is found in the second (`matched_iff`).
-/

namespace ApiStencil

/-! ### Related options and lists -/

section Related

variable {α β : Type} {R : α → β → Prop}

lemma rel_some_iff {a : α} {y : Option β} :
    Option.Rel R (some a) y ↔ ∃ b, y = some b ∧ R a b := by
  constructor
  · rintro ⟨related⟩
    exact ⟨_, rfl, related⟩
  · rintro ⟨b, rfl, related⟩
    exact .some related

lemma rel_none_iff {y : Option β} : Option.Rel R none y ↔ y = none := by
  constructor
  · rintro ⟨⟩
    rfl
  · rintro rfl
    exact .none

lemma isNone_of_rel {x : Option α} {y : Option β} (h : Option.Rel R x y) :
    x = none ↔ y = none := by
  cases h <;> simp

lemma rel_imp {S : α → β → Prop} {x : Option α} {y : Option β} (h : Option.Rel R x y)
    (imp : ∀ a b, x = some a → y = some b → R a b → S a b) : Option.Rel S x y := by
  cases h with
  | some related => exact .some (imp _ _ rfl rfl related)
  | none => exact .none

lemma forall₂_imp {S : α → β → Prop} {as : List α} {bs : List β} (h : List.Forall₂ R as bs)
    (imp : ∀ a ∈ as, ∀ b ∈ bs, R a b → S a b) : List.Forall₂ S as bs := by
  induction h with
  | nil => exact .nil
  | cons related _ ih =>
    refine .cons (imp _ List.mem_cons_self _ List.mem_cons_self related) (ih fun a ha b hb => ?_)
    exact imp a (List.mem_cons_of_mem _ ha) b (List.mem_cons_of_mem _ hb)

lemma eq_of_rel {x y : Option α} (h : Option.Rel (· = ·) x y) : x = y := by
  cases h with
  | some eq => rw [eq]
  | none => rfl

lemma rel_flip {x : Option α} {y : Option β} (h : Option.Rel R x y) :
    Option.Rel (fun b a => R a b) y x := by
  cases h with
  | some related => exact .some related
  | none => exact .none

lemma rel_comp {γ : Type} {S : β → γ → Prop} {T : α → γ → Prop} {x : Option α} {y : Option β}
    {z : Option γ} (h : Option.Rel R x y) (h' : Option.Rel S y z)
    (comp : ∀ a b c, x = some a → R a b → S b c → T a c) : Option.Rel T x z := by
  cases h with
  | none =>
    cases h'
    exact .none
  | some related =>
    cases h' with
    | some related' => exact .some (comp _ _ _ rfl related related')

lemma forall₂_comp {γ : Type} {S : β → γ → Prop} {T : α → γ → Prop} {as : List α} {bs : List β}
    {cs : List γ} (h : List.Forall₂ R as bs) (h' : List.Forall₂ S bs cs)
    (comp : ∀ a ∈ as, ∀ b c, R a b → S b c → T a c) : List.Forall₂ T as cs := by
  induction h generalizing cs with
  | nil =>
    cases h'
    exact .nil
  | cons related _ ih =>
    cases h' with
    | cons related' rest =>
      refine .cons (comp _ List.mem_cons_self _ _ related related') (ih rest fun a ha => ?_)
      exact comp a (List.mem_cons_of_mem _ ha)

/-- What follows for an item from any other one that it is related to. -/
lemma forall_mem_of_forall₂ {P : α → Prop} {as : List α} {bs : List β} (h : List.Forall₂ R as bs)
    (imp : ∀ {a b}, R a b → P a) : ∀ a ∈ as, P a :=
  ((List.forall₂_and_left _ _).mp (h.imp fun _ _ related => ⟨imp related, related⟩)).1

lemma exists_forall₂_iff {as : List α} : (∃ bs, List.Forall₂ R as bs) ↔ ∀ a ∈ as, ∃ b, R a b := by
  constructor
  · rintro ⟨bs, related⟩
    exact forall_mem_of_forall₂ related fun h => ⟨_, h⟩
  · intro related
    induction as with
    | nil => exact ⟨[], .nil⟩
    | cons a as ih =>
      obtain ⟨⟨b, first⟩, others⟩ := List.forall_mem_cons.mp related
      obtain ⟨bs, rest⟩ := ih others
      exact ⟨b :: bs, .cons first rest⟩

end Related

/-! ### Lists of keys -/

section Lookup

variable {α β : Type} {as : List (String × α)} {bs : List (String × β)} {key : String}

lemma mem_of_lookup {a : α} (h : as.lookup key = some a) : (key, a) ∈ as := by
  obtain ⟨before, after, eq, -⟩ := List.lookup_eq_some_iff.mp h
  simp [eq]

lemma lookup_isNone_iff : as.lookup key = none ↔ key ∉ as.map Prod.fst := by
  rw [List.lookup_eq_none_iff, List.mem_map, not_exists]
  constructor
  · rintro other m ⟨mem, rfl⟩
    simpa using other m mem
  · intro other m mem
    have ne : key ≠ m.1 := fun eq => other m ⟨mem, eq.symm⟩
    simpa using ne

lemma lookup_map (f : α → β) :
    (as.map fun m => (m.1, f m.2)).lookup key = (as.lookup key).map f := by
  induction as with
  | nil => rfl
  | cons m rest ih =>
    rw [List.map_cons, List.lookup_cons, List.lookup_cons, ih]
    cases key == m.1 <;> rfl

/-- Where each key stands once, every member is found by its key. -/
lemma lookup_of_mem (distinct : (as.map Prod.fst).Nodup) {a : α} (h : (key, a) ∈ as) :
    as.lookup key = some a := by
  obtain ⟨before, after, rfl⟩ := List.append_of_mem h
  refine List.lookup_eq_some_iff.mpr ⟨before, after, rfl, fun m mem => ?_⟩
  rw [List.map_append, List.map_cons, List.nodup_append] at distinct
  have ne := distinct.2.2 m.1 (List.mem_map_of_mem mem) key List.mem_cons_self
  simpa using ne.symm

/-- **Counting keys**: as many members as on the right, each one matched there by its key, is the same
as all keys being matched in both directions. -/
theorem matched_iff {R : α → β → Prop} (distinct : (as.map Prod.fst).Nodup)
    (distinct' : (bs.map Prod.fst).Nodup) :
    (as.length = bs.length ∧ ∀ m ∈ as, ∃ b, bs.lookup m.1 = some b ∧ R m.2 b) ↔
      ∀ key, Option.Rel R (as.lookup key) (bs.lookup key) := by
  constructor
  · rintro ⟨length, found⟩ key
    have subset : as.map Prod.fst ⊆ bs.map Prod.fst := by
      intro key mem
      obtain ⟨m, own, rfl⟩ := List.mem_map.mp mem
      obtain ⟨b, eq, -⟩ := found m own
      exact List.mem_map_of_mem (mem_of_lookup eq)
    -- no key is left over on the right, since there are as many
    have perm : (as.map Prod.fst).Perm (bs.map Prod.fst) := by
      refine (distinct.subperm subset).perm_of_length_le ?_
      simp [length]
    cases left : as.lookup key with
    | some a => exact rel_some_iff.mpr (found (key, a) (mem_of_lookup left))
    | none =>
      rw [lookup_isNone_iff, perm.mem_iff, ← lookup_isNone_iff] at left
      exact rel_none_iff.mpr left
  · intro related
    have keys : ∀ key, key ∈ as.map Prod.fst ↔ key ∈ bs.map Prod.fst := by
      intro key
      rw [← not_iff_not, ← lookup_isNone_iff, ← lookup_isNone_iff]
      exact isNone_of_rel (related key)
    have perm := (List.perm_ext_iff_of_nodup distinct distinct').mpr keys
    refine ⟨by simpa using perm.length_eq, fun m mem => ?_⟩
    have found := related m.1
    rwa [lookup_of_mem distinct mem, rel_some_iff] at found

end Lookup

end ApiStencil
