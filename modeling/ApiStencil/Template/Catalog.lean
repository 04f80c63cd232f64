/-!
Catalogs: entries under names, in ascending order of names, each name once.  A later entry takes
the place of an earlier one of its name.
-/

namespace ApiStencil

/-- Entries in strictly ascending order of their names. -/
structure Catalog (α : Type) where
  entries : List (String × α)
  ascending : entries.Pairwise fun a b => a.1 < b.1

namespace Catalog

variable {α : Type}

/-- The catalog without entries. -/
def empty : Catalog α := ⟨[], .nil⟩

instance : Inhabited (Catalog α) := ⟨empty⟩

/-- Puts an entry at its place in an ascending list, instead of one of its name. -/
def put (name : String) (entry : α) : List (String × α) → List (String × α)
  | [] => [(name, entry)]
  | (n, e) :: rest =>
    if name < n then (name, entry) :: (n, e) :: rest
    else if name = n then (name, entry) :: rest
    else (n, e) :: put name entry rest

theorem mem_put {name : String} {entry : α} {entries : List (String × α)} {x : String × α}
    (h : x ∈ put name entry entries) : x = (name, entry) ∨ x ∈ entries := by
  induction entries with
  | nil => simp_all [put]
  | cons e rest ih =>
    unfold put at h
    split at h
    · exact List.mem_cons.1 h
    · split at h
      · exact (List.mem_cons.1 h).imp_right (List.mem_cons_of_mem _)
      · rcases List.mem_cons.1 h with rfl | h
        · exact .inr List.mem_cons_self
        · exact (ih h).imp_right (List.mem_cons_of_mem _)

theorem fst_of_mem_put {name : String} {entry : α} {entries : List (String × α)}
    {x : String × α} (h : x ∈ put name entry entries) : x.1 = name ∨ x ∈ entries :=
  (mem_put h).imp_left (congrArg Prod.fst)

theorem pairwise_put {name : String} {entry : α} {entries : List (String × α)}
    (h : entries.Pairwise fun a b => a.1 < b.1) :
    (put name entry entries).Pairwise fun a b => a.1 < b.1 := by
  induction entries with
  | nil => simp [put]
  | cons e rest ih =>
    have ⟨first, tail⟩ := List.pairwise_cons.1 h
    unfold put
    split
    · rename_i lt
      refine List.pairwise_cons.2 ⟨fun x hx => ?_, h⟩
      rcases List.mem_cons.1 hx with rfl | hx
      · exact lt
      · exact String.lt_trans lt (first x hx)
    · split
      · rename_i eq
        exact List.pairwise_cons.2 ⟨fun x hx => eq ▸ first x hx, tail⟩
      · rename_i notLt ne
        refine List.pairwise_cons.2 ⟨fun x hx => ?_, ih tail⟩
        rcases fst_of_mem_put hx with eq | hx
        · exact eq ▸ Std.lt_of_le_of_ne (String.not_lt.1 notLt) (Ne.symm ne)
        · exact first x hx

theorem lookup_cons {name n : String} {entry : α} {entries : List (String × α)} :
    ((name, entry) :: entries).lookup n = if n = name then some entry else entries.lookup n := by
  rw [List.lookup_cons]
  by_cases h : n = name
  · simp [h]
  · simp [beq_false_of_ne h, h]

theorem lookup_put {name n : String} {entry : α} {entries : List (String × α)} :
    (put name entry entries).lookup n = if n = name then some entry else entries.lookup n := by
  induction entries with
  | nil => exact lookup_cons
  | cons e rest ih =>
    obtain ⟨m, old⟩ := e
    unfold put
    split
    · exact lookup_cons
    · split
      · rename_i eq
        subst eq
        simp only [lookup_cons]
        split <;> rfl
      · rename_i ne
        rw [lookup_cons, ih, lookup_cons]
        by_cases h : n = m
        · rw [if_pos h, if_pos h, if_neg fun eq => ne (eq.symm.trans h)]
        · rw [if_neg h, if_neg h]

/-- The catalog with one more entry, which replaces an entry of its name. -/
def insert (c : Catalog α) (name : String) (entry : α) : Catalog α :=
  ⟨put name entry c.entries, pairwise_put c.ascending⟩

/-- The entry of a name. -/
def find? (c : Catalog α) (name : String) : Option α := c.entries.lookup name

/-- The names in ascending order. -/
def names (c : Catalog α) : List String := c.entries.map (·.1)

/-- Both catalogs in one; of two entries of one name the second catalog's stays. -/
def extend (c other : Catalog α) : Catalog α :=
  other.entries.foldl (fun c (name, entry) => c.insert name entry) c

/-- The catalog of a list of entries, later ones replacing earlier ones of the same name. -/
def ofList (entries : List (String × α)) : Catalog α :=
  entries.foldl (fun c (name, entry) => c.insert name entry) empty

/-! ### Finding entries -/

@[simp] theorem find?_empty {n : String} : (empty : Catalog α).find? n = none := rfl

theorem find?_insert {c : Catalog α} {name n : String} {entry : α} :
    (c.insert name entry).find? n = if n = name then some entry else c.find? n := lookup_put

theorem mem_of_find? {c : Catalog α} {n : String} {entry : α} (h : c.find? n = some entry) :
    (n, entry) ∈ c.entries := by
  obtain ⟨before, after, eq, _⟩ := List.lookup_eq_some_iff.mp h
  simp [eq]

theorem find?_foldl_insert {entries : List (String × α)}
    (h : entries.Pairwise fun a b => a.1 < b.1) {c : Catalog α} {n : String} :
    (entries.foldl (fun c (name, entry) => c.insert name entry) c).find? n =
      (entries.lookup n).or (c.find? n) := by
  induction entries generalizing c with
  | nil => rfl
  | cons e rest ih =>
    have ⟨first, tail⟩ := List.pairwise_cons.1 h
    obtain ⟨name, entry⟩ := e
    rw [List.foldl_cons, ih tail, find?_insert, lookup_cons]
    by_cases eq : n = name
    · -- the names are distinct, so no later entry takes the place of this one
      have none : rest.lookup n = none := by
        cases found : rest.lookup n with
        | none => rfl
        | some x =>
          obtain ⟨before, after, split, _⟩ := List.lookup_eq_some_iff.mp found
          have lt := first (n, x) (by simp [split])
          exact absurd lt (eq ▸ String.lt_irrefl n)
      simp [eq, eq ▸ none]
    · simp [eq]

/-- Of two catalogs put together the second one is asked first. -/
theorem find?_extend {c other : Catalog α} {n : String} :
    (c.extend other).find? n = (other.find? n).or (c.find? n) :=
  find?_foldl_insert other.ascending

end Catalog

end ApiStencil
