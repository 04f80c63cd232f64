import ApiStencil.Json.Shape
import ApiStencil.Proofs.Result

/-!
# Records and their members

A record is decoded from an object one member after the other.  A *slot* is the place of one field
among what has been read so far: a member that goes by a name of the field fills it, once, and all
other members leave it alone.  So after all members a slot tells which of them there were:

* `Filled` — what members make of one field, with a lemma for each way a member can go;
* `ofMembers_eq_ok_iff`, `of_ofItems_eq_ok` — the parts of a record that is decoded from members, and
  of one that is decoded from items;
* `Slot.takeIn_filled` — a slot is filled by the one member that has a name of its field.
-/

namespace ApiStencil.Json

/-! ### Members by name -/

/-- The members that go by one of these names. -/
def named {α : Type} (names : List String) (members : List (String × α)) : List (String × α) :=
  members.filter fun m => m.1 ∈ names

section Named

variable {α β : Type} {names : List String} {members : List (String × α)}

lemma named_map (f : α → β) :
    named names (members.map fun m => (m.1, f m.2)) =
      (named names members).map fun m => (m.1, f m.2) :=
  List.filter_map

/-- The members of other names do not matter where one of these names is looked up. -/
lemma lookup_named {name : String} (h : name ∈ names) :
    (named names members).lookup name = members.lookup name := by
  induction members with
  | nil => rfl
  | cons m rest ih =>
    obtain ⟨key, x⟩ := m
    by_cases own : key ∈ names
    · rw [named, List.filter_cons_of_pos (by simpa using own), List.lookup_cons, List.lookup_cons]
      exact congrArg (fun found => bif name == key then some x else found) ih
    · have other : (name == key) = false := beq_false_of_ne fun same => own (same ▸ h)
      rw [named, List.filter_cons_of_neg (by simpa using own), List.lookup_cons, other]
      exact ih

end Named

/-! ### Values as drafts -/

namespace Draft

theorem ofMembers_eq_map (members : List (String × Value)) :
    ofMembers members = members.map fun m => (m.1, ofValue m.2) := by
  induction members with
  | nil => rfl
  | cons m rest ih => rw [List.map_cons, ← ih, ofMembers]

theorem ofValue_eq_str_iff {v : Value} {s : String} : ofValue v = .str s ↔ v = .str s := by
  cases v <;> simp [ofValue]

theorem ofValue_eq_null_iff {v : Value} : ofValue v = .null ↔ v = .null := by
  cases v <;> simp [ofValue]

theorem ofValue_eq_single_iff {v : Value} {key : String} {closed : Bool} :
    ofValue v = .obj [(key, .null)] closed ↔ v = .obj [(key, .null)] ∧ closed = true := by
  cases v with
  | obj members =>
    rw [ofValue, ofMembers_eq_map, obj.injEq, List.map_eq_singleton_iff]
    constructor
    · rintro ⟨⟨⟨k, v⟩, rfl, same⟩, rfl⟩
      obtain ⟨rfl, null⟩ := Prod.mk.inj same
      obtain rfl := ofValue_eq_null_iff.mp null
      exact ⟨rfl, rfl⟩
    · rintro ⟨same, rfl⟩
      cases same
      exact ⟨⟨_, rfl, rfl⟩, rfl⟩
  | _ => simp [ofValue]

theorem mismatch_ne_ok {α : Type} {expected : String} {d : Draft} {x : α} :
    d.mismatch expected ≠ .ok x := by
  unfold mismatch
  cases d.found <;> simp [bind, Except.bind, Decoded.wrong]

/-- A field that may occur once is read exactly if it was not read before. -/
theorem once_eq_ok_iff {α β : Type} {name : String} {before : Option α} {read : Decoded α}
    {add : α → β} {y : β} :
    once name before read add = .ok y ↔ before = none ∧ ∃ x, read = .ok x ∧ add x = y := by
  unfold once
  cases before with
  | some x => simp [Decoded.wrong]
  | none => cases read <;> simp [Except.map]

lemma asText_eq_ok_iff {expected : String} {d : Draft} {s : String} :
    d.asText expected = .ok s ↔ d = .str s := by
  cases d <;> simp [asText, mismatch_ne_ok]

lemma asBool_eq_ok_iff {d : Draft} {b : Bool} : d.asBool = .ok b ↔ d = .bool b := by
  cases d <;> simp [asBool, mismatch_ne_ok]

lemma asTextOrNull_eq_ok_iff {expected : String} {d : Draft} {text : Option String} :
    d.asTextOrNull expected = .ok text ↔
      (d = .null ∧ text = none) ∨ ∃ s, d = .str s ∧ text = some s := by
  cases d <;> simp [asTextOrNull, mismatch_ne_ok, @eq_comm _ text]

lemma exists_asTextOrNull_iff {expected : String} {d : Draft} :
    (∃ x, d.asTextOrNull expected = .ok x) ↔ d = .null ∨ ∃ s, d = .str s := by
  cases d <;> simp [asTextOrNull, mismatch_ne_ok]

/-- A value that is skipped has to be well formed. -/
lemma skip_map_eq_ok_iff {α : Type} {d : Draft} {x y : α} :
    (d.skip.map fun _ => x) = .ok y ↔ d.wellFormed = true ∧ x = y := by
  unfold skip
  cases d.wellFormed <;> simp [Except.map]

/-! ### Fields and members -/

section Filled

variable {β : Type} {names : List String} {read : Draft → Decoded β} {before after : Option β}
  {key : String} {d : Draft} {rest : List (String × Draft)}

/-- What members make of a field: they leave it alone if none goes by a name of it, and fill it if it
is empty and exactly one does. -/
def Filled (names : List String) (read : Draft → Decoded β) (before : Option β)
    (members : List (String × Draft)) (after : Option β) : Prop :=
  (named names members = [] ∧ after = before) ∨
    ∃ m x, before = none ∧ named names members = [m] ∧ read m.2 = .ok x ∧ after = some x

lemma filled_nil : Filled names read before [] after ↔ after = before := by
  simp [Filled, named]

lemma filled_cons_own (own : key ∈ names) :
    Filled names read before ((key, d) :: rest) after ↔
      before = none ∧ ∃ x, read d = .ok x ∧ Filled names read (some x) rest after := by
  unfold Filled
  rw [named, List.filter_cons_of_pos (by simpa using own)]
  constructor
  · rintro (⟨none, -⟩ | ⟨m, x, empty, only, reads, rfl⟩)
    · cases none
    · obtain ⟨rfl, others⟩ := List.cons_eq_cons.mp only
      exact ⟨empty, x, reads, .inl ⟨others, rfl⟩⟩
  · rintro ⟨empty, x, reads, ⟨others, rfl⟩ | ⟨-, -, filled, -⟩⟩
    · exact .inr ⟨_, x, empty, congrArg _ others, reads, rfl⟩
    · cases filled

lemma filled_cons_other (other : key ∉ names) :
    Filled names read before ((key, d) :: rest) after ↔ Filled names read before rest after := by
  unfold Filled
  rw [named, List.filter_cons_of_neg (by simpa using other), ← named]

/-- A member with a name of the field is the one that fills it. -/
lemma Filled.of_mem {members : List (String × Draft)} (h : Filled names read none members after)
    (own : key ∈ names) (mem : (key, d) ∈ members) :
    named names members = [(key, d)] ∧ ∃ x, read d = .ok x ∧ after = some x := by
  have mem : (key, d) ∈ named names members := List.mem_filter.mpr ⟨mem, by simpa using own⟩
  rcases h with ⟨none, -⟩ | ⟨m, x, -, only, reads, filled⟩
  · rw [none] at mem
    cases mem
  · rw [only, List.mem_singleton] at mem
    subst mem
    exact ⟨only, x, reads, filled⟩

/-- A field can be read exactly if one member at most goes by a name of it, and that one can be read. -/
lemma exists_filled_iff {members : List (String × Draft)} : (∃ after, Filled names read none members after) ↔
    (named names members).length ≤ 1 ∧ ∀ m ∈ named names members, ∃ x, read m.2 = .ok x := by
  constructor
  · rintro ⟨after, ⟨none, -⟩ | ⟨m, x, -, only, reads, -⟩⟩
    · simp [none]
    · simp [only, reads]
  · rintro ⟨le, readable⟩
    match eq : named names members with
    | [] => exact ⟨none, .inl ⟨eq, rfl⟩⟩
    | [m] =>
      obtain ⟨x, reads⟩ := readable m (by simp [eq])
      exact ⟨some x, .inr ⟨m, x, rfl, eq, reads, rfl⟩⟩
    | _ :: _ :: _ =>
      rw [eq] at le
      simp at le

end Filled

namespace RecordShape

variable {Fields Record β : Type} {shape : RecordShape Fields Record} {source : Source}

/-- The fields after members were taken in one after the other. -/
def takeIn (shape : RecordShape Fields Record) (source : Source) (fields : Fields)
    (members : List (String × Draft)) : Decoded Fields :=
  members.foldlM (fun fields (key, d) => shape.member source fields key d) fields

lemma takeIn_cons_eq_ok_iff {fields fields' : Fields} {m : String × Draft}
    {rest : List (String × Draft)} :
    shape.takeIn source fields (m :: rest) = .ok fields' ↔
      ∃ next, shape.member source fields m.1 m.2 = .ok next ∧
        shape.takeIn source next rest = .ok fields' := by
  rw [takeIn, List.foldlM_cons]
  exact bind_eq_ok_iff

/-- A record is decoded from members exactly if all of them are taken in and none is missing. -/
theorem ofMembers_eq_ok_iff {members : List (String × Draft)} {closed : Bool} {record : Record} :
    shape.ofMembers source members closed = .ok record ↔
      closed = true ∧ ∃ fields, shape.takeIn source shape.start members = .ok fields ∧
        shape.finish fields = .ok record := by
  have parts : shape.ofMembers source members closed =
      (shape.takeIn source shape.start members >>= _) := rfl
  rw [parts]
  cases shape.takeIn source shape.start members with
  | error e => simp [bind, Except.bind]
  | ok fields =>
    cases closed with
    | false => simp [bind, Except.bind]
    | true => cases finished : shape.finish fields <;> simp [bind, Except.bind, finished,
        Decoded.wrong]

/-- A record is decoded from items only if each is taken in as the field at its place. -/
theorem of_ofItems_eq_ok {items : List Draft} {closed : Bool} {record : Record}
    (h : shape.ofItems source items closed = .ok record) :
    ∃ fields, shape.takeIn source shape.start (shape.fields.zip items) = .ok fields ∧
      shape.finish fields = .ok record := by
  have parts : shape.ofItems source items closed =
      (shape.takeIn source shape.start (shape.fields.zip items) >>= _) := rfl
  rw [parts] at h
  obtain ⟨fields, taken, made⟩ := bind_eq_ok_iff.mp h
  refine ⟨fields, taken, ?_⟩
  split at made
  · cases made
  · cases finished : shape.finish fields with
    | error missing =>
      rw [finished] at made
      cases made
    | ok record' =>
      rw [finished] at made
      dsimp only at made
      split at made
      · split at made
        · exact congrArg _ (Except.ok.inj made)
        · cases made
      · split at made <;> cases made

/-! ### Slots -/

/-- The place of a field among the fields read so far.  A member with a name of the field fills it
with what it reads as, if it is empty; other members leave it as it is. -/
structure Slot (shape : RecordShape Fields Record) (source : Source) (slot : Fields → Option β)
    (names : List String) (read : Draft → Decoded β) : Prop where
  start : slot shape.start = none
  fills : ∀ {fields fields' key d}, key ∈ names → shape.member source fields key d = .ok fields' →
    slot fields = none ∧ ∃ x, read d = .ok x ∧ slot fields' = some x
  keeps : ∀ {fields fields' key d}, key ∉ names → shape.member source fields key d = .ok fields' →
    slot fields' = slot fields

namespace Slot

variable {slot : Fields → Option β} {names : List String} {read : Draft → Decoded β}

/-- **What a slot tells after all members**: it is filled by the one that has a name of its field, if
there is one. -/
theorem takeIn_filled (h : shape.Slot source slot names read) {members : List (String × Draft)}
    {fields fields' : Fields} (done : shape.takeIn source fields members = .ok fields') :
    Filled names read (slot fields) members (slot fields') := by
  induction members generalizing fields with
  | nil =>
    cases done
    exact filled_nil.mpr rfl
  | cons m rest ih =>
    obtain ⟨key, d⟩ := m
    obtain ⟨next, taken, done⟩ := takeIn_cons_eq_ok_iff.mp done
    by_cases own : key ∈ names
    · obtain ⟨empty, x, reads, filled⟩ := h.fills own taken
      exact (filled_cons_own own).mpr ⟨empty, x, reads, filled ▸ ih done⟩
    · rw [filled_cons_other own, ← h.keeps own taken]
      exact ih done

end Slot

end RecordShape

end Draft

end ApiStencil.Json
