import ApiStencil.Api.Response
import ApiStencil.Proofs.Json.Fields
import Mathlib.Data.List.Basic

/-!
# Responses decoded from objects

Both fields of a response go by two names (`table`).  A member either fills one of the fields or is
skipped; so an object decodes exactly if no field is filled twice and what is there can be read
(`decode_obj_eq_ok_iff`).
-/

namespace ApiStencil

open Json

namespace Response

/-- The names of the field for the status code. -/
def codeNames : List String := ["statusCode", "e1"]

/-- The names of the field for the type of the payload. -/
def payloadNames : List String := ["payloadType", "e2"]

section Members

variable {source : Source} {fields : Fields} {key : String} {d : Draft}

lemma member_code (own : key ∈ codeNames) : shape.member source fields key d =
    Draft.once "statusCode" fields.statusCode (codeText source d) fun s =>
      { fields with statusCode := some s } := by
  rcases List.mem_pair.mp own with rfl | rfl <;> rfl

lemma member_payload (own : key ∈ payloadNames) : shape.member source fields key d =
    Draft.once "payloadType" fields.payloadType (d.asTextOrNull "a string") fun s =>
      { fields with payloadType := some s } := by
  rcases List.mem_pair.mp own with rfl | rfl <;> rfl

lemma member_other (other : key ∉ codeNames) (other' : key ∉ payloadNames) :
    shape.member source fields key d = d.skip.map fun _ => fields := by
  simp only [codeNames, payloadNames, List.mem_pair, not_or] at other other'
  simp only [shape]
  split
  · exact absurd rfl other.1
  · exact absurd rfl other.2
  · exact absurd rfl other'.1
  · exact absurd rfl other'.2
  · rfl

end Members

/-! ### Fields -/

/-- The fields of a response. -/
inductive Field where
  | statusCode
  | payloadType
deriving DecidableEq

namespace Field

/-- What a field holds. -/
def Content : Field → Type
  | .statusCode => String
  | .payloadType => Option String

/-- The names that a field goes by. -/
def names : Field → List String
  | .statusCode => codeNames
  | .payloadType => payloadNames

end Field

/-- **The fields of a response** as they are decoded. -/
def table : shape.FieldTable Field.Content where
  label
    | .statusCode => "statusCode"
    | .payloadType => "payloadType"
  names := Field.names
  read source
    | .statusCode => codeText source
    | .payloadType => Draft.asTextOrNull "a string"
  slot
    | .statusCode => Fields.statusCode
    | .payloadType => Fields.payloadType
  put
    | .statusCode, s, fields => { fields with statusCode := some s }
    | .payloadType, s, fields => { fields with payloadType := some s }
  slot_start f := by cases f <;> rfl
  slot_put f x fields := by cases f <;> rfl
  slot_put_of_ne {f g} ne x fields := by
    cases f <;> cases g <;> try rfl
    all_goals exact absurd rfl ne
  ext {fields fields'} same := by
    obtain ⟨code, payload⟩ := fields
    obtain rfl : code = fields'.statusCode := same .statusCode
    obtain rfl : payload = fields'.payloadType := same .payloadType
    rfl
  disjoint {f g} := by cases f <;> cases g <;> decide
  member_own {f key} own source fields d := by
    cases f with
    | statusCode => exact member_code own
    | payloadType => exact member_payload own
  member_other other source fields d := member_other (other .statusCode) (other .payloadType)

section Decoding

variable {source : Source} {fields fields' : Fields} {key : String} {d : Draft}
  {members : List (String × Draft)} {closed : Bool} {r : Response}

lemma forall_field_iff {p : Field → Prop} : (∀ f, p f) ↔ p .statusCode ∧ p .payloadType := by
  constructor
  · intro all
    exact ⟨all .statusCode, all .payloadType⟩
  · rintro ⟨code, payload⟩ f
    cases f with
    | statusCode => exact code
    | payloadType => exact payload

lemma skips_iff : table.Skips members ↔
    ∀ m ∈ members, m.1 ∉ codeNames → m.1 ∉ payloadNames → m.2.wellFormed = true := by
  refine forall₂_congr fun m _ => ?_
  rw [forall_field_iff, and_imp]
  rfl

/-- What is read from members: each field from the one member that goes by a name of it. -/
lemma takeIn_eq_ok_iff : shape.takeIn source fields members = .ok fields' ↔
    Draft.Filled codeNames (codeText source) fields.statusCode members fields'.statusCode ∧
    Draft.Filled payloadNames (Draft.asTextOrNull "a string") fields.payloadType members
      fields'.payloadType ∧
    ∀ m ∈ members, m.1 ∉ codeNames → m.1 ∉ payloadNames → m.2.wellFormed = true := by
  rw [table.takeIn_eq_ok_iff, forall_field_iff, skips_iff, and_assoc]
  rfl

/-- **When an object decodes, and to what**: for each of the two fields one member at most goes by a
name of it and can be read, and all other members are well formed. -/
theorem decode_obj_eq_ok_iff : decode source (.obj members closed) = .ok r ↔
    closed = true ∧ ∃ code payload, Draft.Filled codeNames (codeText source) none members code ∧
      Draft.Filled payloadNames (Draft.asTextOrNull "a string") none members payload ∧
      (∀ m ∈ members, m.1 ∉ codeNames → m.1 ∉ payloadNames → m.2.wellFormed = true) ∧
      r = ⟨code.getD "", payload.getD none⟩ := by
  have object : decode source (.obj members closed) = shape.ofMembers source members closed := rfl
  have finish : ∀ fields : Fields, shape.finish fields = .ok r ↔
      r = ⟨fields.statusCode.getD "", fields.payloadType.getD none⟩ := fun fields => by
    simp only [shape, Except.ok.injEq, @eq_comm _ r]
  rw [object, Draft.RecordShape.ofMembers_eq_ok_iff]
  simp only [takeIn_eq_ok_iff, finish]
  refine and_congr_right fun _ => ⟨?_, ?_⟩
  · rintro ⟨⟨code, payload⟩, ⟨filled, filled', others⟩, made⟩
    exact ⟨code, payload, filled, filled', others, made⟩
  · rintro ⟨code, payload, filled, filled', others, made⟩
    exact ⟨⟨code, payload⟩, ⟨filled, filled', others⟩, made⟩

/-- A response decoded from an object has the code that is a member of it. -/
lemma codeText_of_decode (own : key ∈ codeNames) (mem : (key, d) ∈ members)
    (h : decode source (.obj members closed) = .ok r) :
    codeText source d = .ok r.statusCode ∧ named codeNames members = [(key, d)] := by
  obtain ⟨-, code, payload, filled, -, -, rfl⟩ := decode_obj_eq_ok_iff.mp h
  obtain ⟨only, s, reads, rfl⟩ := filled.of_mem own mem
  exact ⟨reads, only⟩

/-- The first item of an array is in the place of the status code. -/
lemma codeText_of_decode_arr {rest : List Draft}
    (h : decode source (.arr (d :: rest) closed) = .ok r) :
    codeText source d = .ok r.statusCode := by
  obtain ⟨⟨code, payload⟩, taken, made⟩ := Draft.RecordShape.of_ofItems_eq_ok h
  obtain ⟨filled, -, -⟩ := takeIn_eq_ok_iff.mp taken
  obtain ⟨-, s, reads, eq⟩ := filled.of_mem (by decide : "statusCode" ∈ codeNames) List.mem_cons_self
  obtain rfl : code = some s := eq
  cases made
  exact reads

end Decoding

/-- Only the status and the payload matter for the wrapper. -/
lemma wrapper_congr {r r' : Response} (status : r.status? = r'.status?) (payload : r.payload = r'.payload) :
    r.wrapper = r'.wrapper := by
  rw [wrapper, wrapper, status, payload]

end Response

end ApiStencil
