/-!
Sets of flags: keys that templates accumulate, such as names to import.  A set lists its keys in
ascending order of code points, each once, and that order is part of the type.
-/

namespace ApiStencil

/-- A set of keys in strictly ascending order. -/
structure FlagSet where
  keys : List String
  ascending : keys.Pairwise (· < ·)
deriving DecidableEq

namespace FlagSet

/-- The set without keys. -/
def empty : FlagSet := ⟨[], .nil⟩

instance : Inhabited FlagSet := ⟨empty⟩

instance : Membership String FlagSet := ⟨fun s key => key ∈ s.keys⟩

/-- Puts a key at its place in an ascending list that may hold it already. -/
def insertKey (key : String) : List String → List String
  | [] => [key]
  | k :: rest =>
    if key < k then key :: k :: rest
    else if key = k then k :: rest
    else k :: insertKey key rest

theorem mem_insertKey {key x : String} {keys : List String} :
    x ∈ insertKey key keys ↔ x = key ∨ x ∈ keys := by
  induction keys with
  | nil => simp [insertKey]
  | cons k rest ih =>
    unfold insertKey
    split
    · simp
    · split
      · rename_i h
        subst h
        simp
      · simp only [List.mem_cons, ih]
        exact or_left_comm

theorem pairwise_insertKey {key : String} {keys : List String} (h : keys.Pairwise (· < ·)) :
    (insertKey key keys).Pairwise (· < ·) := by
  induction keys with
  | nil => simp [insertKey]
  | cons k rest ih =>
    have ⟨first, tail⟩ := List.pairwise_cons.1 h
    unfold insertKey
    split
    · rename_i lt
      refine List.pairwise_cons.2 ⟨fun x hx => ?_, h⟩
      rcases List.mem_cons.1 hx with rfl | hx
      · exact lt
      · exact String.lt_trans lt (first x hx)
    · split
      · exact h
      · rename_i notLt ne
        refine List.pairwise_cons.2 ⟨fun x hx => ?_, ih tail⟩
        rcases mem_insertKey.1 hx with rfl | hx
        · exact Std.lt_of_le_of_ne (String.not_lt.1 notLt) (Ne.symm ne)
        · exact first x hx

/-- Whether the set has a key. -/
def contains (s : FlagSet) (key : String) : Bool := s.keys.contains key

/-- The set with one more key. -/
def insert (s : FlagSet) (key : String) : FlagSet :=
  ⟨insertKey key s.keys, pairwise_insertKey s.ascending⟩

/-- The keys in order, one a line. -/
def listing (s : FlagSet) : String := "\n".intercalate s.keys

/-- The number of keys. -/
def size (s : FlagSet) : Nat := s.keys.length

/-- Whether there is no key. -/
def isEmpty (s : FlagSet) : Bool := s.keys.isEmpty

@[simp] theorem not_mem_empty {key : String} : ¬ key ∈ empty := List.not_mem_nil

@[simp] theorem mem_insert {s : FlagSet} {key x : String} :
    x ∈ s.insert key ↔ x = key ∨ x ∈ s := mem_insertKey

theorem contains_iff {s : FlagSet} {key : String} : s.contains key = true ↔ key ∈ s := by
  simp only [contains, List.contains_iff_mem]
  exact Iff.rfl

/-! ### Calls -/

/-- A call on a set of flags. -/
inductive Call where
  | add (key : String)
  | contains (key : String)
  | reset
  | get
  | size
  | isEmpty
  | keys
deriving DecidableEq, Repr

/-- The answer to a call. -/
inductive Answer where
  | bool (b : Bool)
  | text (s : String)
  | count (n : Nat)
  | keys (keys : List String)
  | nothing
deriving DecidableEq, Repr

/-- The answer to a call and the set after it.  Adding answers whether the key is new. -/
def call (s : FlagSet) : Call → Answer × FlagSet
  | .add key => (.bool (!s.contains key), s.insert key)
  | .contains key => (.bool (s.contains key), s)
  | .reset => (.nothing, empty)
  | .get => (.text s.listing, s)
  | .size => (.count s.size, s)
  | .isEmpty => (.bool s.isEmpty, s)
  | .keys => (.keys s.keys, s)

/-- The answers to calls made one after the other, and the set after them. -/
def run (s : FlagSet) : List Call → List Answer × FlagSet
  | [] => ([], s)
  | c :: rest =>
    let (answer, s) := s.call c
    let (answers, s) := s.run rest
    (answer :: answers, s)

end FlagSet

end ApiStencil
