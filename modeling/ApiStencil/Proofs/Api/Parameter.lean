import ApiStencil.Api.Parameter
import ApiStencil.Proofs.Json.Fields
import Mathlib.Data.List.Basic

/-!
# Raw and decoded parameters

The location of a parameter can be read off its raw record or decoded with the parameter.  The two
readers differ in what they accept: only the decoder takes arrays and locations that are spelled as
objects, and only the raw reader looks at one member where there are two.

* `Parameter.decode_cases` — the forms of a record that decodes;
* `Parameter.ofRecord?_of_decode` — on a record that decodes, the raw reader finds the location
  exactly if it is spelled as a string;
* `Parameter.ofRecord?_agrees` — so choosing by location and decoding can change places.
-/

namespace ApiStencil

open Json

namespace Location

/-- **The spellings of a location**: its tag, or an object with null under the tag. -/
theorem decode_value_eq_ok_iff {d : Draft} {l : Location} :
    decode .value d = .ok l ↔ d = .str l.tag ∨ ∃ closed, d = .obj [(l.tag, .null)] closed := by
  have variant : ∀ {tag : String}, ofVariant tag = .ok l ↔ tag = l.tag := by
    intro tag
    unfold ofVariant
    constructor
    · intro h
      split at h
      · cases h
        exact eq_tag_of_ofTag? ‹_›
      · cases h
    · rintro rfl
      rw [ofTag?_tag]
  constructor
  · intro h
    cases d with
    | str tag => exact .inl (congrArg Draft.str (variant.mp h))
    | obj members closed =>
      rcases members with - | ⟨⟨tag, content⟩, - | ⟨second, others⟩⟩
      · cases h
      · cases found : ofVariant tag with
        | error e => simp [decode, found, bind, Except.bind] at h
        | ok l' =>
          simp only [decode, found, bind, Except.bind] at h
          cases content with
          | null =>
            cases h
            exact .inr ⟨closed, by rw [variant.mp found]⟩
          | _ =>
            split at h
            · cases h
            · rename_i mismatched
              exact absurd mismatched Draft.mismatch_ne_ok
      · cases h
    | _ => exact absurd h Draft.mismatch_ne_ok
  · rintro (rfl | ⟨closed, rfl⟩)
    · exact variant.mpr rfl
    · have tag : ofVariant l.tag = .ok l := variant.mpr rfl
      simp [decode, tag, noContent, bind, Except.bind]

end Location

namespace Parameter

/-- The names of the field for the location. -/
def locationNames : List String := ["in", "location"]

/-- The fields of a parameter. -/
inductive Field where
  | name
  | location
  | required
  | description
deriving DecidableEq

namespace Field

/-- What a field holds. -/
def Content : Field → Type
  | .name => String
  | .location => Location
  | .required => Bool
  | .description => Option String

/-- The names that a field goes by. -/
def names : Field → List String
  | .name => ["name"]
  | .location => locationNames
  | .required => ["required"]
  | .description => ["description"]

end Field

/-- **The fields of a parameter** as they are decoded. -/
def table : shape.FieldTable Field.Content where
  label
    | .name => "name"
    | .location => "in"
    | .required => "required"
    | .description => "description"
  names := Field.names
  read source
    | .name => Draft.asText "a string"
    | .location => Location.decode source
    | .required => Draft.asBool
    | .description => Draft.asTextOrNull "a string"
  slot
    | .name => Fields.name
    | .location => Fields.location
    | .required => Fields.required
    | .description => Fields.description
  put
    | .name, s, fields => { fields with name := some s }
    | .location, l, fields => { fields with location := some l }
    | .required, b, fields => { fields with required := some b }
    | .description, s, fields => { fields with description := some s }
  slot_start f := by cases f <;> rfl
  slot_put f x fields := by cases f <;> rfl
  slot_put_of_ne {f g} ne x fields := by
    cases f <;> cases g <;> try rfl
    all_goals exact absurd rfl ne
  ext {fields fields'} same := by
    obtain ⟨name, location, required, description⟩ := fields
    obtain rfl : name = fields'.name := same .name
    obtain rfl : location = fields'.location := same .location
    obtain rfl : required = fields'.required := same .required
    obtain rfl : description = fields'.description := same .description
    rfl
  disjoint {f g} := by cases f <;> cases g <;> decide
  member_own {f key} own source fields d := by
    cases f with
    | location => rcases List.mem_pair.mp own with rfl | rfl <;> rfl
    | _ =>
      obtain rfl := List.mem_singleton.mp own
      rfl
  member_other {key} other source fields d := by
    simp only [shape]
    split
    · exact absurd (by decide) (other .name)
    · exact absurd (by decide) (other .location)
    · exact absurd (by decide) (other .location)
    · exact absurd (by decide) (other .required)
    · exact absurd (by decide) (other .description)
    · rfl

/-- The location among the fields read so far. -/
theorem slot_location (source : Source) :
    shape.Slot source Fields.location locationNames (Location.decode source) :=
  table.slot_of source .location

/-! ### Records that decode -/

/-- **The forms of a record that decodes**: an array, or an object with exactly one member for the
location, which is spelled as a string or as an object. -/
theorem decode_cases {v : Value} {p : Parameter} (h : decodeValue decode v = .ok p) :
    (∃ items, v = .arr items) ∨
      ∃ members key w, v = .obj members ∧ named locationNames members = [(key, w)] ∧
        (w = .str p.location.tag ∨ w = .obj [(p.location.tag, .null)]) := by
  cases v with
  | arr items => exact .inl ⟨items, rfl⟩
  | obj members =>
    right
    have object : shape.ofMembers .value (Draft.ofMembers members) true = .ok p := h
    obtain ⟨-, fields, taken, finished⟩ := Draft.RecordShape.ofMembers_eq_ok_iff.mp object
    have location : fields.location = some p.location := by
      simp only [shape] at finished
      split at finished
      · cases finished
      · cases finished
      · rename_i located
        cases finished
        exact located
    rcases (slot_location .value).takeIn_filled taken with
      ⟨-, empty⟩ | ⟨⟨key, d⟩, l, -, only, decoded, filled⟩
    · rw [location] at empty
      cases empty
    · obtain rfl : l = p.location := Option.some.inj (filled.symm.trans location)
      rw [Draft.ofMembers_eq_map, named_map, List.map_eq_singleton_iff] at only
      obtain ⟨⟨key', w⟩, only, same⟩ := only
      obtain ⟨rfl, rfl⟩ := Prod.mk.inj same
      refine ⟨members, _, w, rfl, only, ?_⟩
      rcases Location.decode_value_eq_ok_iff.mp decoded with text | ⟨closed, single⟩
      · exact .inl (Draft.ofValue_eq_str_iff.mp text)
      · exact .inr (Draft.ofValue_eq_single_iff.mp single).1
  | _ => exact absurd h Draft.mismatch_ne_ok

/-- A record whose one member for the location is a string. -/
def SpellsLocation (v : Value) : Prop :=
  ∃ members key s, v = .obj members ∧ named locationNames members = [(key, .str s)]

/-- Where one member is for the location, the raw reader looks at it. -/
lemma ofRecord?_of_named {members : List (String × Value)} {key : String} {w : Value}
    (only : named locationNames members = [(key, w)]) :
    Location.ofRecord? (.obj members) = w.asText? >>= Location.ofTag? := by
  have own : key ∈ locationNames := by
    have mem : (key, w) ∈ named locationNames members := by
      rw [only]
      exact List.mem_cons_self
    simpa using (List.mem_filter.mp mem).2
  have first : members.lookup "in" = [(key, w)].lookup "in" := by
    rw [← only, lookup_named (by decide)]
  have second : members.lookup "location" = [(key, w)].lookup "location" := by
    rw [← only, lookup_named (by decide)]
  have found : (members.lookup "in").or (members.lookup "location") = some w := by
    rw [first, second]
    rcases List.mem_pair.mp own with rfl | rfl <;> rfl
  simp only [Location.ofRecord?, Value.get?, found, Option.bind_some]

/-- **What the raw reader finds in a record that decodes**: the location of the parameter if that is
spelled as a string, and else nothing. -/
theorem ofRecord?_of_decode {v : Value} {p : Parameter} (h : decodeValue decode v = .ok p) :
    (SpellsLocation v ∧ Location.ofRecord? v = some p.location) ∨
      (¬ SpellsLocation v ∧ Location.ofRecord? v = none) := by
  rcases decode_cases h with ⟨items, rfl⟩ | ⟨members, key, w, rfl, only, rfl | rfl⟩
  · refine .inr ⟨?_, rfl⟩
    rintro ⟨members, key, s, object, -⟩
    cases object
  · refine .inl ⟨⟨members, key, _, rfl, only⟩, ?_⟩
    rw [ofRecord?_of_named only]
    exact Location.ofTag?_tag p.location
  · refine .inr ⟨?_, by rw [ofRecord?_of_named only]; rfl⟩
    rintro ⟨members', key', s, object, text⟩
    cases object
    rw [only] at text
    cases text

/-! ### Lists of records -/

/-- Decoding a list and choosing from it can change places if the choices agree. -/
lemma mapM_filter_of_agree {α β ε : Type} {read : α → Except ε β} {raw : α → Bool}
    {typed : β → Bool} {records : List α} {decoded : List β}
    (h : records.mapM read = .ok decoded)
    (agree : ∀ x ∈ records, ∀ y, read x = .ok y → raw x = typed y) :
    (records.filter raw).mapM read = .ok (decoded.filter typed) := by
  induction records generalizing decoded with
  | nil =>
    cases h
    rfl
  | cons x rest ih =>
    rw [List.mapM_cons] at h
    obtain ⟨y, first, h⟩ := bind_eq_ok_iff.mp h
    obtain ⟨ys, others, h⟩ := bind_eq_ok_iff.mp h
    cases h
    have chosen := ih others fun z mem => agree z (List.mem_cons_of_mem x mem)
    have same := agree x List.mem_cons_self y first
    cases kept : typed y with
    | false =>
      rw [List.filter_cons_of_neg (by simp [same, kept]), List.filter_cons_of_neg (by simp [kept])]
      exact chosen
    | true =>
      rw [List.filter_cons_of_pos (same.trans kept), List.filter_cons_of_pos kept, List.mapM_cons,
        first, chosen]
      rfl

/-- **The raw record and the decoded parameter have the same location** exactly if the record spells
it as a string; in any other record that decodes the raw reader finds none.  So on records that
spell their locations it makes no difference whether parameters are chosen by location before they
are decoded or after. -/
theorem ofRecord?_agrees :
    (∀ v p, decodeValue decode v = .ok p →
      (Location.ofRecord? v = some p.location ↔ SpellsLocation v) ∧
        (¬ SpellsLocation v → Location.ofRecord? v = none)) ∧
    ∀ (location : Location) (records : List Value) (parameters : List Parameter),
      (∀ v ∈ records, SpellsLocation v) →
      records.mapM (decodeValue decode) = .ok parameters →
        (atLocation Location.ofRecord? location (some records)).mapM (decodeValue decode) =
            .ok (atLocation (fun p => some p.location) location (some parameters)) ∧
          (notAtLocation Location.ofRecord? location (some records)).mapM (decodeValue decode) =
            .ok (notAtLocation (fun p => some p.location) location (some parameters)) := by
  constructor
  · intro v p decoded
    rcases ofRecord?_of_decode decoded with ⟨spells, found⟩ | ⟨other, none⟩
    · exact ⟨⟨fun _ => spells, fun _ => found⟩, fun other => absurd spells other⟩
    · refine ⟨⟨fun found => ?_, fun spells => absurd spells other⟩, fun _ => none⟩
      rw [none] at found
      cases found
  · intro location records parameters spelled decoded
    have same : ∀ v ∈ records, ∀ p, decodeValue decode v = .ok p →
        Location.ofRecord? v = some p.location := by
      intro v mem p decoded
      rcases ofRecord?_of_decode decoded with ⟨-, found⟩ | ⟨other, -⟩
      · exact found
      · exact absurd (spelled v mem) other
    constructor
    · exact mapM_filter_of_agree decoded fun v mem p hp => by rw [same v mem p hp]
    · exact mapM_filter_of_agree decoded fun v mem p hp => by rw [same v mem p hp]

/-- Two records that tell their location under either name. -/
def spelledRecords : List Value :=
  [.obj [("in", .str "path"), ("name", .str "petId"), ("required", .bool true)],
    .obj [("location", .str "query"), ("name", .str "limit?")]]

theorem ofRecord?_agrees_spelled :
    (∀ v ∈ spelledRecords, SpellsLocation v) ∧
      (atLocation Location.ofRecord? .query (some spelledRecords)).mapM (decodeValue decode) =
        .ok [⟨"limit?", .query, false, none⟩] ∧
      (notAtLocation Location.ofRecord? .query (some spelledRecords)).mapM (decodeValue decode) =
        .ok [⟨"petId", .path, true, none⟩] := by
  have spelled : ∀ v ∈ spelledRecords, SpellsLocation v := by
    rintro v mem
    rcases List.mem_pair.mp mem with rfl | rfl
    · exact ⟨_, "in", "path", rfl, rfl⟩
    · exact ⟨_, "location", "query", rfl, rfl⟩
  have decoded : spelledRecords.mapM (decodeValue decode) =
      .ok [⟨"petId", .path, true, none⟩, ⟨"limit?", .query, false, none⟩] := by
    decide +kernel
  exact ⟨spelled, ofRecord?_agrees.2 .query spelledRecords _ spelled decoded⟩

end Parameter

end ApiStencil
