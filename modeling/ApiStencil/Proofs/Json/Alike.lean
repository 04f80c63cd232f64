import ApiStencil.Json.Value
import ApiStencil.Proofs.Lookup

/-!
# Values of one form

* `Value.parts` — a value with all values inside it, and `Value.induction` over them;
* `Value.Alike` — one form with related numbers, whatever the order of members: reflexive, symmetric
  and transitive if the relation of the numbers is, and monotone in what holds of the numbers that
  occur (`Alike.imp`).
-/

namespace ApiStencil.Json.Value

/-! ### The parts of a value -/

mutual

/-- A value with all values inside it. -/
def parts : Value → List Value
  | .arr items => .arr items :: partsOfItems items
  | .obj members => .obj members :: partsOfMembers members
  | .null => [.null]
  | .bool b => [.bool b]
  | .num n => [.num n]
  | .str s => [.str s]

/-- The parts of the items of an array. -/
def partsOfItems : List Value → List Value
  | [] => []
  | v :: rest => parts v ++ partsOfItems rest

/-- The parts of the values of members. -/
def partsOfMembers : List (String × Value) → List Value
  | [] => []
  | (_, v) :: rest => parts v ++ partsOfMembers rest

end

lemma self_mem_parts (v : Value) : v ∈ v.parts := by
  cases v <;> simp [parts]

lemma mem_partsOfItems {p : Value} {items : List Value} :
    p ∈ partsOfItems items ↔ ∃ v ∈ items, p ∈ v.parts := by
  induction items with
  | nil => simp [partsOfItems]
  | cons v rest ih => simp [partsOfItems, ih]

lemma mem_partsOfMembers {p : Value} {members : List (String × Value)} :
    p ∈ partsOfMembers members ↔ ∃ m ∈ members, p ∈ m.2.parts := by
  induction members with
  | nil => simp [partsOfMembers]
  | cons m rest ih =>
    obtain ⟨key, v⟩ := m
    simp [partsOfMembers, ih]

lemma mem_parts_arr {p : Value} {items : List Value} :
    p ∈ (arr items).parts ↔ p = .arr items ∨ ∃ v ∈ items, p ∈ v.parts := by
  rw [parts, List.mem_cons, mem_partsOfItems]

lemma mem_parts_obj {p : Value} {members : List (String × Value)} :
    p ∈ (obj members).parts ↔ p = .obj members ∨ ∃ m ∈ members, p ∈ m.2.parts := by
  rw [parts, List.mem_cons, mem_partsOfMembers]

/-- Induction over a value: its items and the values of its members come first. -/
@[elab_as_elim]
theorem induction {motive : Value → Prop} (null : motive .null) (bool : ∀ b, motive (.bool b))
    (num : ∀ n, motive (.num n)) (str : ∀ s, motive (.str s))
    (arr : ∀ items, (∀ v ∈ items, motive v) → motive (.arr items))
    (obj : ∀ members, (∀ m ∈ members, motive m.2) → motive (.obj members)) (v : Value) :
    motive v := by
  refine @Value.rec motive (fun items => ∀ v ∈ items, motive v)
    (fun members => ∀ m ∈ members, motive m.2) (fun m => motive m.2)
    null bool num str arr obj ?_ ?_ ?_ ?_ ?_ v
  · exact nofun
  · exact fun v rest first others => List.forall_mem_cons.mpr ⟨first, others⟩
  · exact nofun
  · exact fun m rest first others => List.forall_mem_cons.mpr ⟨first, others⟩
  · exact fun _ _ value => value

/-! ### Values that are alike -/

/-- Values of one form whose numbers are related: arrays item by item, objects key by key in any
order of their members. -/
inductive Alike (R : Number → Number → Prop) : Value → Value → Prop
  | null : Alike R .null .null
  | bool (b : Bool) : Alike R (.bool b) (.bool b)
  | num {m n : Number} (related : R m n) : Alike R (.num m) (.num n)
  | str (s : String) : Alike R (.str s) (.str s)
  | arr {as bs : List Value} (items : List.Forall₂ (Alike R) as bs) : Alike R (.arr as) (.arr bs)
  | obj {as bs : List (String × Value)}
      (members : ∀ key, Option.Rel (Alike R) (as.lookup key) (bs.lookup key)) :
      Alike R (.obj as) (.obj bs)

namespace Alike

variable {R S : Number → Number → Prop} {a b c : Value}

lemma null_iff : Alike R .null b ↔ b = .null := by
  constructor
  · rintro ⟨⟩
    rfl
  · rintro rfl
    exact .null

lemma bool_iff {x : Bool} : Alike R (.bool x) b ↔ b = .bool x := by
  constructor
  · rintro ⟨⟩
    rfl
  · rintro rfl
    exact .bool x

lemma num_iff {m : Number} : Alike R (.num m) b ↔ ∃ n, b = .num n ∧ R m n := by
  constructor
  · rintro ⟨⟩
    exact ⟨_, rfl, ‹_›⟩
  · rintro ⟨n, rfl, related⟩
    exact .num related

lemma str_iff {s : String} : Alike R (.str s) b ↔ b = .str s := by
  constructor
  · rintro ⟨⟩
    rfl
  · rintro rfl
    exact .str s

lemma arr_iff {as : List Value} :
    Alike R (.arr as) b ↔ ∃ bs, b = .arr bs ∧ List.Forall₂ (Alike R) as bs := by
  constructor
  · rintro ⟨⟩
    exact ⟨_, rfl, ‹_›⟩
  · rintro ⟨bs, rfl, items⟩
    exact .arr items

lemma obj_iff {as : List (String × Value)} :
    Alike R (.obj as) b ↔
      ∃ bs, b = .obj bs ∧ ∀ key, Option.Rel (Alike R) (as.lookup key) (bs.lookup key) := by
  constructor
  · rintro ⟨⟩
    exact ⟨_, rfl, ‹_›⟩
  · rintro ⟨bs, rfl, members⟩
    exact .obj members

/-- Only the numbers in the two values matter. -/
theorem imp (h : Alike R a b)
    (imp : ∀ m n, .num m ∈ a.parts → .num n ∈ b.parts → R m n → S m n) : Alike S a b := by
  induction a using Value.induction generalizing b with
  | null => exact null_iff.mpr (null_iff.mp h)
  | bool x => exact bool_iff.mpr (bool_iff.mp h)
  | str s => exact str_iff.mpr (str_iff.mp h)
  | num m =>
    obtain ⟨n, rfl, related⟩ := num_iff.mp h
    exact .num (imp m n (self_mem_parts _) (self_mem_parts _) related)
  | arr as ih =>
    obtain ⟨bs, rfl, items⟩ := arr_iff.mp h
    refine .arr (forall₂_imp items fun a ha b hb alike => ih a ha alike fun m n hm hn => ?_)
    exact imp m n (mem_parts_arr.mpr (.inr ⟨a, ha, hm⟩)) (mem_parts_arr.mpr (.inr ⟨b, hb, hn⟩))
  | obj as ih =>
    obtain ⟨bs, rfl, members⟩ := obj_iff.mp h
    refine .obj fun key => rel_imp (members key) fun a b ha hb alike => ?_
    refine ih _ (mem_of_lookup ha) alike fun m n hm hn => ?_
    exact imp m n (mem_parts_obj.mpr (.inr ⟨_, mem_of_lookup ha, hm⟩))
      (mem_parts_obj.mpr (.inr ⟨_, mem_of_lookup hb, hn⟩))

theorem refl (hR : ∀ n, R n n) (v : Value) : Alike R v v := by
  induction v using Value.induction with
  | null => exact .null
  | bool x => exact .bool x
  | str s => exact .str s
  | num n => exact .num (hR n)
  | arr items ih => exact .arr (List.forall₂_same.mpr ih)
  | obj members ih =>
    refine .obj fun key => ?_
    cases found : members.lookup key with
    | some v => exact .some (ih _ (mem_of_lookup found))
    | none => exact .none

theorem symm (hR : ∀ m n, R m n → R n m) (h : Alike R a b) : Alike R b a := by
  induction a using Value.induction generalizing b with
  | null =>
    cases null_iff.mp h
    exact .null
  | bool x =>
    cases bool_iff.mp h
    exact .bool x
  | str s =>
    cases str_iff.mp h
    exact .str s
  | num m =>
    obtain ⟨n, rfl, related⟩ := num_iff.mp h
    exact .num (hR m n related)
  | arr as ih =>
    obtain ⟨bs, rfl, items⟩ := arr_iff.mp h
    exact .arr (forall₂_imp items fun a ha b _ alike => ih a ha alike).flip
  | obj as ih =>
    obtain ⟨bs, rfl, members⟩ := obj_iff.mp h
    exact .obj fun key => rel_flip (rel_imp (members key) fun a b ha _ alike =>
      ih _ (mem_of_lookup ha) alike)

theorem trans (hR : ∀ l m n, R l m → R m n → R l n) (h : Alike R a b) (h' : Alike R b c) :
    Alike R a c := by
  induction a using Value.induction generalizing b c with
  | null => exact null_iff.mp h ▸ h'
  | bool x => exact bool_iff.mp h ▸ h'
  | str s => exact str_iff.mp h ▸ h'
  | num l =>
    obtain ⟨m, rfl, related⟩ := num_iff.mp h
    obtain ⟨n, rfl, related'⟩ := num_iff.mp h'
    exact .num (hR l m n related related')
  | arr as ih =>
    obtain ⟨bs, rfl, items⟩ := arr_iff.mp h
    obtain ⟨cs, rfl, items'⟩ := arr_iff.mp h'
    exact .arr (forall₂_comp items items' fun a ha b c => ih a ha)
  | obj as ih =>
    obtain ⟨bs, rfl, members⟩ := obj_iff.mp h
    obtain ⟨cs, rfl, members'⟩ := obj_iff.mp h'
    exact .obj fun key => rel_comp (members key) (members' key) fun a b c ha =>
      ih _ (mem_of_lookup ha)

end Alike

end ApiStencil.Json.Value
