import ApiStencil.Proofs.Lookup
import ApiStencil.Template.Catalog
import Mathlib.Data.List.Sort

/-!
# Catalogs are maps

The entries of a catalog stand in one order, so what is found under each name decides the catalog
(`eq_of_find?`).  Putting catalogs together is therefore associative, with the empty catalog as its
neutral element, since the last catalog that has a name is asked for it (`find?_extend`); and for
catalogs without a common name the order does not matter (`extend_comm`).
-/

namespace ApiStencil.Catalog

variable {α : Type}

/-- In ascending entries each name stands once. -/
lemma nodup_of_ascending {entries : List (String × α)}
    (h : entries.Pairwise fun a b => a.1 < b.1) : (entries.map Prod.fst).Nodup := by
  refine List.Pairwise.imp ?_ (List.pairwise_map.mpr h)
  rintro name name' lt rfl
  exact String.lt_irrefl name lt

/-- In ascending entries each name is found with its entry. -/
lemma lookup_of_mem {entries : List (String × α)} (h : entries.Pairwise fun a b => a.1 < b.1)
    {name : String} {entry : α} (mem : (name, entry) ∈ entries) :
    entries.lookup name = some entry :=
  ApiStencil.lookup_of_mem (nodup_of_ascending h) mem

lemma mem_entries_iff {c : Catalog α} {name : String} {entry : α} :
    (name, entry) ∈ c.entries ↔ c.find? name = some entry :=
  ⟨lookup_of_mem c.ascending, mem_of_find?⟩

/-! ### Names -/

theorem pairwise_names (c : Catalog α) : c.names.Pairwise (· < ·) :=
  List.pairwise_map.mpr c.ascending

theorem mem_names_iff {c : Catalog α} {name : String} :
    name ∈ c.names ↔ ∃ entry, c.find? name = some entry := by
  simp only [names, List.mem_map, Prod.exists, mem_entries_iff, exists_and_right, exists_eq_right]

theorem nodup_names (c : Catalog α) : c.names.Nodup := nodup_of_ascending c.ascending

/-! ### What holds of every entry -/

/-- A property holds of every entry with its name. -/
def Each (c : Catalog α) (P : String → α → Prop) : Prop := ∀ n e, c.find? n = some e → P n e

section Each

variable {P : String → α → Prop} {c other : Catalog α}

theorem each_empty : (empty : Catalog α).Each P := nofun

theorem Each.insert (h : c.Each P) {name : String} {entry : α} (he : P name entry) :
    (c.insert name entry).Each P := by
  intro n e found
  rw [find?_insert] at found
  split at found
  · rename_i same
    cases found
    exact same ▸ he
  · exact h n e found

theorem Each.extend (h : c.Each P) (ho : other.Each P) : (c.extend other).Each P := by
  intro n e found
  rw [find?_extend, Option.or_eq_some_iff] at found
  rcases found with own | ⟨-, own⟩
  · exact ho n e own
  · exact h n e own

end Each

/-! ### Catalogs put together -/

/-- **What is found under each name decides a catalog.** -/
theorem eq_of_find? {c c' : Catalog α} (h : ∀ n, c.find? n = c'.find? n) : c = c' := by
  have antisymm : Std.Antisymm fun a b : String × α => a.1 < b.1 :=
    ⟨fun a b lt gt => absurd (String.lt_trans lt gt) (String.lt_irrefl a.1)⟩
  have irrefl : Std.Irrefl fun a b : String × α => a.1 < b.1 := ⟨fun a => String.lt_irrefl a.1⟩
  have entries : c.entries = c'.entries := by
    refine c.ascending.eq_of_mem_iff c'.ascending fun ⟨name, entry⟩ => ?_
    rw [mem_entries_iff, mem_entries_iff, h]
  obtain ⟨list, ascending⟩ := c
  obtain ⟨list', ascending'⟩ := c'
  obtain rfl : list = list' := entries
  rfl

@[simp] theorem empty_extend (c : Catalog α) : empty.extend c = c := by
  refine eq_of_find? fun n => ?_
  rw [find?_extend, find?_empty, Option.or_none]

/-- The order does not matter for catalogs without a common name. -/
theorem extend_comm {c other : Catalog α} (h : ∀ name ∈ c.names, name ∉ other.names) :
    c.extend other = other.extend c := by
  refine eq_of_find? fun n => ?_
  rw [find?_extend, find?_extend]
  cases own : c.find? n with
  | none => exact Option.or_none
  | some entry =>
    have absent : other.find? n = none := by
      rw [Option.eq_none_iff_forall_ne_some]
      exact fun entry' found => h n (mem_names_iff.mpr ⟨entry, own⟩) (mem_names_iff.mpr ⟨entry', found⟩)
    rw [absent]
    rfl

/-- **Putting catalogs together is associative.** -/
theorem extend_extend (c d e : Catalog α) : (c.extend d).extend e = c.extend (d.extend e) := by
  refine eq_of_find? fun n => ?_
  rw [find?_extend, find?_extend, find?_extend, find?_extend, Option.or_assoc]

/-- A catalog of a longer list is one with a further entry. -/
theorem ofList_concat (entries : List (String × α)) (name : String) (entry : α) :
    ofList (entries ++ [(name, entry)]) = (ofList entries).insert name entry := by
  unfold ofList
  rw [List.foldl_append]
  rfl

end ApiStencil.Catalog
