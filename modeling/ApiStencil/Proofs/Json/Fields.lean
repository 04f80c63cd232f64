import ApiStencil.Proofs.Json.Alike
import ApiStencil.Proofs.Json.Reading
import ApiStencil.Proofs.Json.Record
import Mathlib.Data.List.Perm.Basic

/-!
# Records by their fields

Records are decoded in one way, and differ in their fields only: the names of each, how it is read and
where it is kept.  That is the *table* of a record (`FieldTable`).  From it follows for every record what
its members decode to (`FieldTable.decode_obj_eq_ok_iff`): each field is filled by the one member that has
a name of it, and all else is skipped.  So two objects that say the same of each field decode to the same
record, whatever the spelling, the order and the other members (`FieldTable.blind`).
-/

namespace ApiStencil.Json

/-! ### What is said of a field -/

section Contents

variable {α : Type} {names : List String} {key : String} {x : α} {members members' : List (String × α)}

/-- What the members that go by one of these names hold. -/
def contents (names : List String) (members : List (String × α)) : List α :=
  (named names members).map Prod.snd

lemma contents_append (members members' : List (String × α)) :
    contents names (members ++ members') = contents names members ++ contents names members' := by
  simp only [contents, named, List.filter_append, List.map_append]

lemma contents_cons_own (own : key ∈ names) :
    contents names ((key, x) :: members) = x :: contents names members := by
  rw [contents, named, List.filter_cons_of_pos (by simpa using own)]
  rfl

lemma contents_cons_other (other : key ∉ names) :
    contents names ((key, x) :: members) = contents names members := by
  rw [contents, named, List.filter_cons_of_neg (by simpa using other)]
  rfl

lemma contents_perm (same : members.Perm members') :
    (contents names members).Perm (contents names members') :=
  (same.filter _).map _

lemma contents_map {β : Type} (f : α → β) :
    contents names (members.map fun m => (m.1, f m.2)) = (contents names members).map f := by
  rw [contents, named_map, List.map_map, contents, List.map_map]
  rfl

/-- Two members of one field are two contents. -/
lemma two_le_length_contents {key' : String} {x' : α} (own : key ∈ names) (own' : key' ∈ names)
    (ne : key ≠ key') (mem : (key, x) ∈ members) (mem' : (key', x') ∈ members) :
    2 ≤ (contents names members).length := by
  have first : (key, x) ∈ named names members := List.mem_filter.mpr ⟨mem, by simpa using own⟩
  have second : (key', x') ∈ named names members := List.mem_filter.mpr ⟨mem', by simpa using own'⟩
  rw [contents, List.length_map]
  match eq : named names members with
  | [] =>
    rw [eq] at first
    cases first
  | [m] =>
    rw [eq, List.mem_singleton] at first second
    exact absurd (congrArg Prod.fst (first.trans second.symm)) ne
  | _ :: _ :: rest => exact Nat.le_add_left 2 rest.length

/-- Where each key stands once, no name has two contents. -/
lemma length_contents_le (distinct : (members.map Prod.fst).Nodup) :
    (contents [key] members).length ≤ 1 := by
  have keys : ((named [key] members).map Prod.fst).Nodup :=
    distinct.sublist (List.filter_sublist.map _)
  have same : ∀ k ∈ (named [key] members).map Prod.fst, k = key := by
    intro k mem
    obtain ⟨m, own, rfl⟩ := List.mem_map.mp mem
    simpa using (List.mem_filter.mp own).2
  rw [List.eq_replicate_of_mem same, List.nodup_replicate, List.length_map] at keys
  rw [contents, List.length_map]
  exact keys

/-- The one content of a name is what is found under it. -/
lemma contents_eq_lookup (once : (contents [key] members).length ≤ 1) :
    contents [key] members = (members.lookup key).toList := by
  induction members with
  | nil => rfl
  | cons m rest ih =>
    obtain ⟨k, x⟩ := m
    by_cases same : k = key
    · subst same
      have own : k ∈ [k] := List.mem_singleton.mpr rfl
      rw [contents_cons_own own] at once ⊢
      have others : contents [k] rest = [] :=
        List.eq_nil_of_length_eq_zero (by rw [List.length_cons] at once; omega)
      rw [others, List.lookup_cons_self, Option.toList_some]
    · have other : k ∉ [key] := by simpa using same
      have ne : (key == k) = false := beq_false_of_ne fun eq => same eq.symm
      rw [contents_cons_other other] at once ⊢
      rw [ih once, List.lookup_cons, ne]

end Contents

/-! ### Objects that say the same -/

/-- One object says the same of its fields as another one: it has a field under another of the names that
the field goes by, a member more or less of a name that no field goes by, or the members in another order,
any number of times. -/
inductive Respelled {ι α : Type} (names : ι → List String) :
    List (String × α) → List (String × α) → Prop
  | rename {i : ι} {key key' : String} (own : key ∈ names i) (own' : key' ∈ names i) (x : α)
      (front rest : List (String × α)) :
    Respelled names (front ++ (key, x) :: rest) (front ++ (key', x) :: rest)
  | add {key : String} (other : ∀ i, key ∉ names i) (x : α) (front rest : List (String × α)) :
    Respelled names (front ++ rest) (front ++ (key, x) :: rest)
  | remove {key : String} (other : ∀ i, key ∉ names i) (x : α) (front rest : List (String × α)) :
    Respelled names (front ++ (key, x) :: rest) (front ++ rest)
  | reorder {members members' : List (String × α)} (same : members.Perm members') :
    Respelled names members members'
  | trans {a b c : List (String × α)} (first : Respelled names a b) (second : Respelled names b c) :
    Respelled names a c

/-- The contents of each field stay. -/
lemma Respelled.contents_perm {ι α : Type} {names : ι → List String}
    {members members' : List (String × α)} (h : Respelled names members members')
    (disjoint : ∀ {i j key}, key ∈ names i → key ∈ names j → i = j) (i : ι) :
    (contents (names i) members).Perm (contents (names i) members') := by
  induction h with
  | @rename j key key' own own' x front rest =>
    rw [contents_append, contents_append]
    by_cases field : key ∈ names i
    · obtain rfl := disjoint field own
      rw [contents_cons_own own, contents_cons_own own']
    · have field' : key' ∉ names i := fun mem => field (disjoint own' mem ▸ own)
      rw [contents_cons_other field, contents_cons_other field']
  | add other x front rest =>
    rw [contents_append, contents_append, contents_cons_other (other i)]
  | remove other x front rest =>
    rw [contents_append, contents_append, contents_cons_other (other i)]
  | reorder same => exact Json.contents_perm same
  | trans first second ih ih' => exact ih.trans ih'

namespace Draft

/-! ### Well-formed drafts -/

lemma wellFormedItems_iff {items : List Draft} :
    wellFormedItems items = true ↔ ∀ d ∈ items, d.wellFormed = true := by
  induction items with
  | nil => simp [wellFormedItems]
  | cons d rest ih => simp [wellFormedItems, ih]

lemma wellFormedMembers_iff {members : List (String × Draft)} :
    wellFormedMembers members = true ↔ ∀ m ∈ members, m.2.wellFormed = true := by
  induction members with
  | nil => simp [wellFormedMembers]
  | cons m rest ih => simp [wellFormedMembers, ih]

lemma ofItems_eq_map (items : List Value) : ofItems items = items.map ofValue := by
  induction items with
  | nil => rfl
  | cons v rest ih => rw [ofItems, ih, List.map_cons]

/-- Values are well formed. -/
theorem wellFormed_ofValue (v : Value) : (ofValue v).wellFormed = true := by
  induction v using Value.induction with
  | arr items ih =>
    rw [ofValue, wellFormed, Bool.true_and, wellFormedItems_iff, ofItems_eq_map]
    exact List.forall_mem_map.mpr ih
  | obj members ih =>
    rw [ofValue, wellFormed, Bool.true_and, wellFormedMembers_iff, ofMembers_eq_map]
    exact List.forall_mem_map.mpr ih
  | _ => rfl

lemma wellFormed_of_mem_ofMembers {members : List (String × Value)} {m : String × Draft}
    (mem : m ∈ ofMembers members) : m.2.wellFormed = true := by
  rw [ofMembers_eq_map] at mem
  obtain ⟨_, -, rfl⟩ := List.mem_map.mp mem
  exact wellFormed_ofValue _

/-- The members of a text that is an object to its end are well formed. -/
lemma wellFormed_of_mem_ofText {text : String} {members : List (String × Draft)} {closed : Bool}
    (h : ofText text = (.obj members closed, true)) {m : String × Draft} (mem : m ∈ members) :
    m.2.wellFormed = true := by
  have formed := wellFormed_of_ofText h
  rw [wellFormed, Bool.and_eq_true, wellFormedMembers_iff] at formed
  exact formed.2 m mem

/-! ### Fields by what is said of them -/

/-- Only the contents of a field matter for what members make of it. -/
lemma filled_iff {β : Type} {names : List String} {read : Draft → Decoded β}
    {before after : Option β} {members : List (String × Draft)} :
    Filled names read before members after ↔
      (contents names members = [] ∧ after = before) ∨
        ∃ d x, before = none ∧ contents names members = [d] ∧ read d = .ok x ∧ after = some x := by
  unfold Filled contents
  refine or_congr (by rw [List.map_eq_nil_iff]) ?_
  constructor
  · rintro ⟨m, x, empty, only, reads, filled⟩
    exact ⟨m.2, x, empty, by rw [only, List.map_singleton], reads, filled⟩
  · rintro ⟨d, x, empty, holds, reads, filled⟩
    obtain ⟨m, only, rfl⟩ := List.map_eq_singleton_iff.mp holds
    exact ⟨m, x, empty, only, reads, filled⟩

lemma Filled.congr {β : Type} {names : List String} {read : Draft → Decoded β}
    {before after : Option β} {members members' : List (String × Draft)}
    (same : (contents names members).Perm (contents names members'))
    (h : Filled names read before members after) : Filled names read before members' after := by
  rw [filled_iff] at h ⊢
  rcases h with ⟨none, keeps⟩ | ⟨d, x, empty, only, reads, filled⟩
  · rw [none] at same
    exact .inl ⟨same.nil_eq.symm, keeps⟩
  · rw [only] at same
    exact .inr ⟨d, x, empty, same.singleton_eq.symm, reads, filled⟩

/-- A field with one name is filled by what is found under it. -/
lemma filled_iff_lookup {β : Type} {key : String} {read : Draft → Decoded β} {after : Option β}
    {members : List (String × Draft)} (once : (contents [key] members).length ≤ 1) :
    Filled [key] read none members after ↔
      (members.lookup key = none ∧ after = none) ∨
        ∃ d x, members.lookup key = some d ∧ read d = .ok x ∧ after = some x := by
  rw [filled_iff, contents_eq_lookup once]
  cases members.lookup key <;> simp

/-- A field that is filled has one content at most. -/
lemma Filled.length_le {β : Type} {names : List String} {read : Draft → Decoded β}
    {before after : Option β} {members : List (String × Draft)}
    (h : Filled names read before members after) : (contents names members).length ≤ 1 := by
  rcases filled_iff.mp h with ⟨none, -⟩ | ⟨d, x, -, only, -⟩
  · rw [none]
    exact Nat.zero_le 1
  · rw [only]
    exact Nat.le_refl 1

namespace RecordShape

/-! ### Tables of fields -/

/-- **The fields of a record**: the names that each goes by, how its content is read, and its place among
what has been read so far.  A member with a name of a field fills that place, once; other members are
skipped. -/
structure FieldTable {Fields Record : Type} (shape : RecordShape Fields Record)
    {Field : Type} (Content : Field → Type) where
  /-- The name of a field in messages. -/
  label : Field → String
  /-- The names that a field goes by. -/
  names : Field → List String
  /-- How the content of a field is read. -/
  read : Source → (f : Field) → Draft → Decoded (Content f)
  /-- The content of a field that has been read. -/
  slot : (f : Field) → Fields → Option (Content f)
  /-- Keeps the content of a field. -/
  put : (f : Field) → Content f → Fields → Fields
  slot_start : ∀ f, slot f shape.start = none
  slot_put : ∀ f x fields, slot f (put f x fields) = some x
  slot_put_of_ne : ∀ {f g}, g ≠ f → ∀ x fields, slot g (put f x fields) = slot g fields
  ext : ∀ {fields fields'}, (∀ f, slot f fields = slot f fields') → fields = fields'
  disjoint : ∀ {f g key}, key ∈ names f → key ∈ names g → f = g
  member_own : ∀ {f key}, key ∈ names f → ∀ source fields d, shape.member source fields key d =
    once (label f) (slot f fields) (read source f d) fun x => put f x fields
  member_other : ∀ {key}, (∀ f, key ∉ names f) → ∀ source fields d,
    shape.member source fields key d = d.skip.map fun _ => fields

namespace FieldTable

variable {Fields Record Field : Type} {Content : Field → Type} {shape : RecordShape Fields Record}
  (table : shape.FieldTable Content) {source : Source} {fields fields' : Fields}
  {members members' : List (String × Draft)} {record : Record} {closed : Bool}

/-- Whether the members that no field goes by can be skipped. -/
def Skips (members : List (String × Draft)) : Prop :=
  ∀ m ∈ members, (∀ f, m.1 ∉ table.names f) → m.2.wellFormed = true

/-- Each field of a table is a slot. -/
theorem slot_of (source : Source) (f : Field) :
    shape.Slot source (table.slot f) (table.names f) (table.read source f) where
  start := table.slot_start f
  fills own taken := by
    rw [table.member_own own, once_eq_ok_iff] at taken
    obtain ⟨empty, x, reads, rfl⟩ := taken
    exact ⟨empty, x, reads, table.slot_put f x _⟩
  keeps {fields fields' key d} other taken := by
    by_cases field : ∃ g, key ∈ table.names g
    · obtain ⟨g, own⟩ := field
      have ne : f ≠ g := fun same => other (same ▸ own)
      rw [table.member_own own, once_eq_ok_iff] at taken
      obtain ⟨-, x, -, rfl⟩ := taken
      exact table.slot_put_of_ne ne x fields
    · rw [table.member_other (not_exists.mp field), skip_map_eq_ok_iff] at taken
      obtain ⟨-, rfl⟩ := taken
      rfl

/-- Members that fill each field and can be skipped otherwise are taken in. -/
lemma takeIn_of_filled
    (filled : ∀ f, Filled (table.names f) (table.read source f) (table.slot f fields) members
      (table.slot f fields'))
    (skips : table.Skips members) : shape.takeIn source fields members = .ok fields' := by
  induction members generalizing fields with
  | nil =>
    have same : fields = fields' := table.ext fun f => (filled_nil.mp (filled f)).symm
    rw [same]
    rfl
  | cons m rest ih =>
    obtain ⟨key, d⟩ := m
    have skipsRest : table.Skips rest := fun m mem => skips m (List.mem_cons_of_mem _ mem)
    rw [takeIn_cons_eq_ok_iff]
    by_cases field : ∃ f, key ∈ table.names f
    · obtain ⟨f, own⟩ := field
      obtain ⟨empty, x, reads, others⟩ := (filled_cons_own own).mp (filled f)
      refine ⟨table.put f x fields, ?_, ih (fun g => ?_) skipsRest⟩
      · rw [table.member_own own, once_eq_ok_iff]
        exact ⟨empty, x, reads, rfl⟩
      · by_cases same : g = f
        · subst same
          rw [table.slot_put]
          exact others
        · have other : key ∉ table.names g := fun mem => same (table.disjoint mem own)
          rw [table.slot_put_of_ne same]
          exact (filled_cons_other other).mp (filled g)
    · have other := not_exists.mp field
      refine ⟨fields, ?_, ih (fun g => (filled_cons_other (other g)).mp (filled g)) skipsRest⟩
      rw [table.member_other other, skip_map_eq_ok_iff]
      exact ⟨skips _ List.mem_cons_self other, rfl⟩

/-- Members that are taken in can be skipped if no field goes by their names. -/
lemma skips_of_takeIn (taken : shape.takeIn source fields members = .ok fields') :
    table.Skips members := by
  induction members generalizing fields with
  | nil => exact nofun
  | cons m rest ih =>
    obtain ⟨key, d⟩ := m
    obtain ⟨next, first, others⟩ := takeIn_cons_eq_ok_iff.mp taken
    refine List.forall_mem_cons.mpr ⟨fun other => ?_, ih others⟩
    rw [table.member_other other, skip_map_eq_ok_iff] at first
    exact first.1

/-- **What is read from members**: each field from the one member that goes by a name of it. -/
theorem takeIn_eq_ok_iff : shape.takeIn source fields members = .ok fields' ↔
    (∀ f, Filled (table.names f) (table.read source f) (table.slot f fields) members
      (table.slot f fields')) ∧ table.Skips members := by
  constructor
  · intro taken
    exact ⟨fun f => (table.slot_of source f).takeIn_filled taken, table.skips_of_takeIn taken⟩
  · rintro ⟨filled, skips⟩
    exact table.takeIn_of_filled filled skips

/-- **When an object decodes, and to what.** -/
theorem decode_obj_eq_ok_iff : shape.decode source (.obj members closed) = .ok record ↔
    closed = true ∧ table.Skips members ∧ ∃ fields,
      (∀ f, Filled (table.names f) (table.read source f) none members (table.slot f fields)) ∧
        shape.finish fields = .ok record := by
  have object : shape.decode source (.obj members closed) =
      shape.ofMembers source members closed := rfl
  rw [object, ofMembers_eq_ok_iff]
  simp only [table.takeIn_eq_ok_iff, table.slot_start]
  constructor
  · rintro ⟨closed, fields, ⟨filled, skips⟩, made⟩
    exact ⟨closed, skips, fields, filled, made⟩
  · rintro ⟨closed, skips, fields, filled, made⟩
    exact ⟨closed, fields, ⟨filled, skips⟩, made⟩

/-- Objects with the same contents of each field decode to the same record. -/
theorem decode_congr
    (same : ∀ f, (contents (table.names f) members).Perm (contents (table.names f) members'))
    (skips : table.Skips members')
    (h : shape.decode source (.obj members true) = .ok record) :
    shape.decode source (.obj members' true) = .ok record := by
  obtain ⟨-, -, fields, filled, made⟩ := table.decode_obj_eq_ok_iff.mp h
  exact table.decode_obj_eq_ok_iff.mpr
    ⟨rfl, skips, fields, fun f => (filled f).congr (same f), made⟩

/-- No object decodes that has two members for one field. -/
theorem decode_ne_ok_of_two {f : Field} (two : 2 ≤ (contents (table.names f) members).length) :
    shape.decode source (.obj members closed) ≠ .ok record := by
  intro decodes
  obtain ⟨-, -, fields, filled, -⟩ := table.decode_obj_eq_ok_iff.mp decodes
  have le := (filled f).length_le
  omega

end FieldTable

end RecordShape

end Draft

/-! ### Decoding that is blind to the spelling -/

lemma decodeText_of_ofText {R : Type} {decode : Source → Draft → Decoded R} {text : String} {d : Draft}
    (h : Draft.ofText text = (d, true)) : decodeText decode text = decode .text d := by
  rw [decodeText, h]
  dsimp only
  cases decode .text d <;> rfl

lemma exists_error_of_ne_ok {R : Type} {r : Decoded R} (h : ∀ x, r ≠ .ok x) : ∃ e, r = .error e := by
  cases r with
  | error e => exact ⟨e, rfl⟩
  | ok x => exact absurd rfl (h x)

/-- **A decoder is blind to the spelling of objects**: objects that say the same of each field decode to
the same record, as values and as texts, and none decodes that has a field under two of its names. -/
structure BlindToSpelling {ι R : Type} (decode : Source → Draft → Decoded R)
    (names : ι → List String) : Prop where
  /-- Values that say the same. -/
  values : ∀ {members members' : List (String × Value)}, Respelled names members members' →
    ∀ r, decodeValue decode (.obj members) = .ok r ↔ decodeValue decode (.obj members') = .ok r
  /-- Texts that say the same. -/
  texts : ∀ {text text' : String} {members members' : List (String × Draft)},
    Draft.ofText text = (.obj members true, true) → Draft.ofText text' = (.obj members' true, true) →
    Respelled names members members' →
    ∀ r, decodeText decode text = .ok r ↔ decodeText decode text' = .ok r
  /-- A value with a field under two names. -/
  valueTwice : ∀ {members : List (String × Value)} {i : ι} {key key' : String} {x x' : Value},
    key ∈ names i → key' ∈ names i → key ≠ key' → (key, x) ∈ members → (key', x') ∈ members →
    ∃ e, decodeValue decode (.obj members) = .error e
  /-- A text with a field under two names. -/
  textTwice : ∀ {text : String} {members : List (String × Draft)} {i : ι} {key key' : String}
    {x x' : Draft}, Draft.ofText text = (.obj members true, true) →
    key ∈ names i → key' ∈ names i → key ≠ key' → (key, x) ∈ members → (key', x') ∈ members →
    ∃ e, decodeText decode text = .error e

namespace Draft.RecordShape.FieldTable

variable {Fields Record Field : Type} {Content : Field → Type} {shape : RecordShape Fields Record}
  (table : shape.FieldTable Content)

lemma perm_ofMembers {members members' : List (String × Value)}
    (h : Respelled table.names members members') (f : Field) :
    (contents (table.names f) (Draft.ofMembers members)).Perm
      (contents (table.names f) (Draft.ofMembers members')) := by
  rw [Draft.ofMembers_eq_map, Draft.ofMembers_eq_map, contents_map, contents_map]
  exact (h.contents_perm table.disjoint f).map Draft.ofValue

/-- **Records with a table are blind to the spelling.** -/
theorem blind : BlindToSpelling shape.decode table.names where
  values {members members'} h r := by
    have skips : ∀ members : List (String × Value), table.Skips (Draft.ofMembers members) :=
      fun _ _ mem _ => wellFormed_of_mem_ofMembers mem
    exact ⟨table.decode_congr (table.perm_ofMembers h) (skips members'),
      table.decode_congr (fun f => (table.perm_ofMembers h f).symm) (skips members)⟩
  texts {text text' members members'} object object' h r := by
    have same := h.contents_perm table.disjoint
    rw [decodeText_of_ofText object, decodeText_of_ofText object']
    exact ⟨table.decode_congr same fun _ mem _ => wellFormed_of_mem_ofText object' mem,
      table.decode_congr (fun f => (same f).symm) fun _ mem _ => wellFormed_of_mem_ofText object mem⟩
  valueTwice {members i key key' x x'} own own' ne mem mem' := by
    have two := two_le_length_contents own own' ne mem mem'
    refine exists_error_of_ne_ok fun r => table.decode_ne_ok_of_two (f := i) ?_
    rw [Draft.ofMembers_eq_map, contents_map, List.length_map]
    exact two
  textTwice object own own' ne mem mem' := by
    rw [decodeText_of_ofText object]
    exact exists_error_of_ne_ok fun r =>
      table.decode_ne_ok_of_two (two_le_length_contents own own' ne mem mem')

end Draft.RecordShape.FieldTable

end ApiStencil.Json
