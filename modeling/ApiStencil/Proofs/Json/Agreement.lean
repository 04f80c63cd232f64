import ApiStencil.Proofs.Json.Alike
import ApiStencil.Proofs.Json.Number
import ApiStencil.Proofs.Template.Catalog

/-!
# Agreement of values

Agreement compares the number of members and then looks up the members of one side only.  As each key
stands once in an object this is likeness of the two values with agreeing numbers (`agrees_iff_alike`),
and what holds of numbers carries over:

* `agrees_equivalence` — reflexive and symmetric on all values, transitive where whole numbers are
  exact;
* `agrees_iff_eq` — equality where no number is a binary64 number.
-/

namespace ApiStencil.Json.Value

/-! ### Agreement -/

section Agrees

variable {a b c : Value}

/-- In every object of a value each key stands once. -/
def DistinctKeys (v : Value) : Prop :=
  ∀ members, .obj members ∈ v.parts → (members.map Prod.fst).Nodup

lemma DistinctKeys.of_item {items : List Value} (h : (arr items).DistinctKeys)
    (mem : a ∈ items) : a.DistinctKeys := fun members part =>
  h members (mem_parts_arr.mpr (.inr ⟨a, mem, part⟩))

lemma DistinctKeys.of_lookup {members : List (String × Value)} {key : String}
    (h : (obj members).DistinctKeys) (found : members.lookup key = some a) : a.DistinctKeys :=
  fun members' part => h members' (mem_parts_obj.mpr (.inr ⟨_, mem_of_lookup found, part⟩))

lemma agreesItems_iff {as bs : List Value} :
    agreesItems as bs = true ↔ List.Forall₂ (fun a b => a.agrees b = true) as bs := by
  induction as generalizing bs with
  | nil => cases bs <;> simp [agreesItems]
  | cons a rest ih => cases bs <;> simp [agreesItems, ih]

lemma agreesMembers_iff {as bs : List (String × Value)} :
    agreesMembers as bs = true ↔
      ∀ m ∈ as, ∃ b, bs.lookup m.1 = some b ∧ m.2.agrees b = true := by
  induction as with
  | nil => simp [agreesMembers]
  | cons m rest ih =>
    obtain ⟨key, a⟩ := m
    rw [agreesMembers, Bool.and_eq_true, ih, List.forall_mem_cons]
    refine and_congr_left fun _ => ?_
    cases bs.lookup key <;> simp

lemma agrees_obj_iff {as bs : List (String × Value)} (ha : (obj as).DistinctKeys)
    (hb : (obj bs).DistinctKeys) :
    (obj as).agrees (.obj bs) = true ↔
      ∀ key, Option.Rel (fun a b => a.agrees b = true) (as.lookup key) (bs.lookup key) := by
  rw [agrees, Bool.and_eq_true, beq_iff_eq, agreesMembers_iff]
  exact matched_iff (R := fun a b : Value => a.agrees b = true) (ha as (self_mem_parts _))
    (hb bs (self_mem_parts _))

/-- **Agreement is likeness with agreeing numbers.** -/
theorem agrees_iff_alike (ha : a.DistinctKeys) (hb : b.DistinctKeys) :
    a.agrees b = true ↔ Alike (fun m n => m.agrees n = true) a b := by
  induction a using Value.induction generalizing b with
  | null => cases b <;> simp [agrees, Alike.null_iff]
  | bool x =>
    rw [Alike.bool_iff]
    cases b <;> simp [agrees, @eq_comm _ x]
  | str s =>
    rw [Alike.str_iff]
    cases b <;> simp [agrees, @eq_comm _ s]
  | num m => cases b <;> simp [agrees, Alike.num_iff]
  | arr as ih =>
    cases b with
    | arr bs =>
      rw [agrees, agreesItems_iff]
      constructor
      · intro items
        exact .arr (forall₂_imp items fun a mem b mem' =>
          (ih a mem (ha.of_item mem) (hb.of_item mem')).mp)
      · rintro ⟨⟩
        exact forall₂_imp ‹_› fun a mem b mem' =>
          (ih a mem (ha.of_item mem) (hb.of_item mem')).mpr
    | _ => simp [agrees, Alike.arr_iff]
  | obj as ih =>
    cases b with
    | obj bs =>
      rw [agrees_obj_iff ha hb]
      constructor
      · intro members
        exact .obj fun key => rel_imp (members key) fun a b found found' =>
          (ih _ (mem_of_lookup found) (ha.of_lookup found) (hb.of_lookup found')).mp
      · rintro ⟨⟩ key
        rename_i members
        exact rel_imp (members key) fun a b found found' =>
          (ih _ (mem_of_lookup found) (ha.of_lookup found) (hb.of_lookup found')).mpr
    | _ => simp [agrees, Alike.obj_iff]

/-- Every whole number in the value is at most `2 ^ 53` in magnitude. -/
def SmallWholes (v : Value) : Prop :=
  ∀ i fits, .num (.whole i fits) ∈ v.parts → |i| ≤ 2 ^ 53

/-- A small whole number is not rounded. -/
lemma SmallWholes.not_roundsTo (h : a.SmallWholes) {m n : Number} (part : .num m ∈ a.parts) :
    ¬ m.RoundsTo n := by
  intro rounds
  have large := rounds.lt_abs
  obtain ⟨i, fits, x, rfl, -⟩ := rounds
  have small := h i fits part
  rw [Number.value, ← Int.cast_abs] at large
  have : (2 : ℤ) ^ 53 < |i| := by exact_mod_cast large
  omega

lemma agrees_iff_alike_value (ha : a.DistinctKeys) (hb : b.DistinctKeys) (sa : a.SmallWholes)
    (sb : b.SmallWholes) : a.agrees b = true ↔ Alike (fun m n => m.value = n.value) a b := by
  rw [agrees_iff_alike ha hb]
  constructor
  · intro alike
    refine alike.imp fun m n hm hn agrees => ?_
    rcases (Number.agrees_iff m n).mp agrees with eq | rounds | rounds
    · exact eq
    · exact absurd rounds (sa.not_roundsTo hm)
    · exact absurd rounds (sb.not_roundsTo hn)
  · intro alike
    exact alike.imp fun m n _ _ eq => (Number.agrees_iff m n).mpr (.inl eq)

/-- **Agreement is an equivalence where whole numbers are exact**: it is reflexive and symmetric on
all values, and transitive on those whose whole numbers are at most `2 ^ 53` in magnitude. -/
theorem agrees_equivalence (a b c : Value) (ha : a.DistinctKeys) (hb : b.DistinctKeys)
    (hc : c.DistinctKeys) :
    a.agrees a = true ∧ a.agrees b = b.agrees a ∧
      (a.SmallWholes → b.SmallWholes → c.SmallWholes →
        a.agrees b = true → b.agrees c = true → a.agrees c = true) := by
  refine ⟨?_, ?_, fun sa sb sc first second => ?_⟩
  · exact (agrees_iff_alike ha ha).mpr (.refl Number.agrees_refl a)
  · have comm : ∀ m n : Number, m.agrees n = true → n.agrees m = true := fun m n agrees => by
      rwa [Number.agrees_comm]
    rw [Bool.eq_iff_iff, agrees_iff_alike ha hb, agrees_iff_alike hb ha]
    exact ⟨.symm comm, .symm comm⟩
  · rw [agrees_iff_alike_value ha hb sa sb] at first
    rw [agrees_iff_alike_value hb hc sb sc] at second
    rw [agrees_iff_alike_value ha hc sa sc]
    exact first.trans (fun _ _ _ => Eq.trans) second

/-- A further whole number. -/
def two : Number := .whole 2 (by decide)

/-- One as a whole number and as a binary64 number. -/
def one : Number := .whole 1 (by decide)

def floatOne : Number := .float ⟨false, Binary64.unitsPerOne, by decide +kernel⟩

/-- An object with a number in an array. -/
def tagged (n : Number) : Value := .obj [("tags", .arr [.num n]), ("note", .null)]

/-- The same object with its members in another order. -/
def taggedLast (n : Number) : Value := .obj [("note", .null), ("tags", .arr [.num n])]

/-- The numbers of both forms agree, and two numbers do not, in either order. -/
theorem agrees_equivalence_tagged :
    (tagged one).agrees (tagged one) = true ∧
      (tagged one).agrees (taggedLast floatOne) = (taggedLast floatOne).agrees (tagged one) ∧
      (tagged one).agrees (taggedLast one) = true ∧
      (taggedLast floatOne).agrees (tagged two) = false ∧
      (tagged two).agrees (taggedLast floatOne) = false := by
  have distinct : ∀ n, (tagged n).DistinctKeys := by
    intro n members part
    simp [tagged, parts, partsOfItems, partsOfMembers] at part
    simp [part]
  have distinctLast : ∀ n, (taggedLast n).DistinctKeys := by
    intro n members part
    simp [taggedLast, parts, partsOfItems, partsOfMembers] at part
    simp [part]
  have small : (tagged one).SmallWholes := by
    intro i fits part
    simp [tagged, one, parts, partsOfItems, partsOfMembers] at part
    simp [part]
  have smallLast : ∀ n, n = one ∨ n = floatOne → (taggedLast n).SmallWholes := by
    rintro n (rfl | rfl) i fits part
    · simp [taggedLast, one, parts, partsOfItems, partsOfMembers] at part
      simp [part]
    · simp [taggedLast, floatOne, parts, partsOfItems, partsOfMembers] at part
  obtain ⟨own, swapped, chained⟩ := agrees_equivalence (tagged one) (taggedLast floatOne)
    (taggedLast one) (distinct one) (distinctLast floatOne) (distinctLast one)
  obtain ⟨-, apart, -⟩ := agrees_equivalence (tagged two) (taggedLast floatOne) (tagged two)
    (distinct two) (distinctLast floatOne) (distinct two)
  have differ : (tagged two).agrees (taggedLast floatOne) = false := by decide +kernel
  refine ⟨own, swapped, chained small ?_ ?_ (by decide +kernel) (by decide +kernel),
    apart.symm.trans differ, differ⟩
  · exact smallLast floatOne (.inr rfl)
  · exact smallLast one (.inl rfl)

/-- No number in the value is a binary64 number. -/
def FloatFree (v : Value) : Prop := ∀ x, .num (.float x) ∉ v.parts

lemma FloatFree.exists_whole (h : a.FloatFree) {n : Number} (part : .num n ∈ a.parts) :
    ∃ i fits, n = .whole i fits := by
  cases n with
  | whole i fits => exact ⟨i, fits, rfl⟩
  | float x => exact absurd part (h x)

lemma agrees_iff_alike_eq (ha : a.DistinctKeys) (hb : b.DistinctKeys) (fa : a.FloatFree)
    (fb : b.FloatFree) : a.agrees b = true ↔ Alike (fun m n => m = n) a b := by
  rw [agrees_iff_alike ha hb]
  constructor
  · intro alike
    refine alike.imp fun m n hm hn agrees => ?_
    obtain ⟨i, fits, rfl⟩ := fa.exists_whole hm
    obtain ⟨j, fits', rfl⟩ := fb.exists_whole hn
    obtain rfl := Number.agrees_whole_whole.mp agrees
    rfl
  · intro alike
    refine alike.imp fun m n _ _ eq => ?_
    rw [eq]
    exact Number.agrees_refl n

/-! ### Ordered values -/

lemma orderedItems_iff {items : List Value} : OrderedItems items ↔ ∀ v ∈ items, v.Ordered := by
  induction items with
  | nil => simp [OrderedItems]
  | cons v rest ih => simp [OrderedItems, ih]

lemma orderedMembers_iff {members : List (String × Value)} :
    OrderedMembers members ↔ ∀ m ∈ members, m.2.Ordered := by
  induction members with
  | nil => simp [OrderedMembers]
  | cons m rest ih => simp [OrderedMembers, ih]

lemma Ordered.of_mem_parts {p : Value} (h : a.Ordered) (part : p ∈ a.parts) : p.Ordered := by
  induction a using Value.induction with
  | arr items ih =>
    rcases mem_parts_arr.mp part with rfl | ⟨v, mem, part⟩
    · exact h
    · rw [Ordered, orderedItems_iff] at h
      exact ih v mem (h v mem) part
  | obj members ih =>
    rcases mem_parts_obj.mp part with rfl | ⟨m, mem, part⟩
    · exact h
    · rw [Ordered, orderedMembers_iff] at h
      exact ih m mem (h.2 m mem) part
  | _ =>
    simp only [parts, List.mem_singleton] at part
    rw [part]
    exact h

lemma Ordered.distinctKeys (h : a.Ordered) : a.DistinctKeys := by
  intro members part
  have ascending := (h.of_mem_parts part).1
  refine List.Pairwise.imp ?_ (List.pairwise_map.mpr ascending)
  rintro key key' lt rfl
  exact String.lt_irrefl key lt

/-- In ascending order of keys likeness leaves only equal values. -/
lemma Alike.eq_of_ordered (ha : a.Ordered) (hb : b.Ordered)
    (h : Alike (fun m n => m = n) a b) : a = b := by
  induction a using Value.induction generalizing b with
  | null => exact (Alike.null_iff.mp h).symm
  | bool x => exact (Alike.bool_iff.mp h).symm
  | str s => exact (Alike.str_iff.mp h).symm
  | num m =>
    obtain ⟨n, rfl, rfl⟩ := Alike.num_iff.mp h
    rfl
  | arr as ih =>
    obtain ⟨bs, rfl, items⟩ := Alike.arr_iff.mp h
    rw [Ordered, orderedItems_iff] at ha hb
    have equal : List.Forall₂ (· = ·) as bs := forall₂_imp items fun a mem b mem' alike =>
      ih a mem (ha a mem) (hb b mem') alike
    rw [List.forall₂_eq_eq_eq] at equal
    rw [equal]
  | obj as ih =>
    obtain ⟨bs, rfl, members⟩ := Alike.obj_iff.mp h
    rw [Ordered, orderedMembers_iff] at ha hb
    have found : ∀ key, as.lookup key = bs.lookup key := fun key =>
      eq_of_rel (rel_imp (members key) fun a b mem mem' alike =>
        ih _ (mem_of_lookup mem) (ha.2 _ (mem_of_lookup mem)) (hb.2 _ (mem_of_lookup mem')) alike)
    have same : (⟨as, ha.1⟩ : Catalog Value) = ⟨bs, hb.1⟩ := Catalog.eq_of_find? found
    exact congrArg Value.obj (congrArg Catalog.entries same)

/-- **Without binary64 numbers agreement is equality** of arrays item by item and of objects as maps,
and so of whole values where the members of objects stand in ascending order. -/
theorem agrees_iff_eq (l r : Value) (hl : l.DistinctKeys) (hr : r.DistinctKeys) (fl : l.FloatFree)
    (fr : r.FloatFree) :
    (l.agrees r = true ↔ Alike (fun m n => m = n) l r) ∧
      (l.Ordered → r.Ordered → (l.agrees r = true ↔ l = r)) := by
  have alike := agrees_iff_alike_eq hl hr fl fr
  refine ⟨alike, fun ordered ordered' => ?_⟩
  rw [alike]
  constructor
  · exact Alike.eq_of_ordered ordered ordered'
  · rintro rfl
    exact .refl (fun _ => rfl) l

/-- A negative number and one beyond the signed range. -/
def low : Number := .whole (-1) (by decide)

def high : Number := .whole (2 ^ 63) (by decide)

/-- Two members, whose order is that of their keys. -/
def range (a b : Number) : Value := .obj [("from", .num a), ("to", .num b)]

def rangeLast (a b : Number) : Value := .obj [("to", .num b), ("from", .num a)]

theorem agrees_iff_eq_range :
    Alike (fun m n => m = n) (range low high) (rangeLast low high) ∧
      (range low high).agrees (range low low) = false := by
  have ordered : ∀ a b, (range a b).Ordered := by
    intro a b
    have keys : "from" < "to" := by decide
    exact ⟨List.pairwise_pair.mpr keys, trivial, trivial, trivial⟩
  have distinctLast : (rangeLast low high).DistinctKeys := by
    intro members part
    simp [rangeLast, parts, partsOfMembers] at part
    simp [part]
  have free : ∀ a b, a = low ∨ a = high → b = low ∨ b = high → (range a b).FloatFree := by
    rintro a b (rfl | rfl) (rfl | rfl) x part <;>
      simp [range, low, high, parts, partsOfMembers] at part
  have freeLast : (rangeLast low high).FloatFree := by
    intro x part
    simp [rangeLast, low, high, parts, partsOfMembers] at part
  have distinct : ∀ a b, (range a b).DistinctKeys := fun a b => (ordered a b).distinctKeys
  have freeRange := free low high (.inl rfl) (.inr rfl)
  have freeLow := free low low (.inl rfl) (.inl rfl)
  obtain ⟨alike, -⟩ := agrees_iff_eq (range low high) (rangeLast low high) (distinct low high)
    distinctLast freeRange freeLast
  obtain ⟨-, equal⟩ := agrees_iff_eq (range low high) (range low low) (distinct low high)
    (distinct low low) freeRange freeLow
  refine ⟨alike.mp (by decide +kernel), ?_⟩
  rw [← Bool.not_eq_true, equal (ordered low high) (ordered low low)]
  simp [range, low, high]

end Agrees

end ApiStencil.Json.Value
