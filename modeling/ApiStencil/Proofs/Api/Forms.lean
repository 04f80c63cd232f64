import ApiStencil.Proofs.Api.Parameter
import ApiStencil.Proofs.Api.Response

/-!
# The forms of records

A parameter and a response can be given in many forms: fields under either of their names, in any order,
among other members, as an array, with a location that is spelled as an object, with a code that is a
number.  Two things hold of all of them:

* `decode_blind` — the spelling of an object does not matter, and no field is given twice;
* `decode_readBack` — what is decoded from any form is written in one form, which is read back; so
  decoding, writing and decoding again is decoding.
-/

namespace ApiStencil

open Json

/-! ### Spelling -/

/-- **The spelling of an object does not matter** for the parameter or response that it decodes to: not
which of its names a field goes by, nor the order of the members, nor what members there are of other
names.  An object that gives a field under two names is refused, whatever else is in it. -/
theorem decode_blind : BlindToSpelling Parameter.decode Parameter.Field.names ∧
    BlindToSpelling Response.decode Response.Field.names :=
  ⟨Parameter.table.blind, Response.table.blind⟩

/-- A parameter, with its location under the first name. -/
def petRecord : List (String × Value) := [("in", .str "path"), ("name", .str "petId")]

/-- The same parameter, with its location under the second name and a member more. -/
def petRespelled : List (String × Value) :=
  [("example", .arr [.null]), ("location", .str "path"), ("name", .str "petId")]

/-- A response, with its numeric code and its payload under the first names. -/
def petsRecord : List (String × Value) :=
  [("statusCode", .num (.whole 200 (by decide))), ("payloadType", .str "IPet")]

/-- The same response, with both under the second names. -/
def petsRespelled : List (String × Value) :=
  [("e1", .num (.whole 200 (by decide))), ("e2", .str "IPet")]

/-- A parameter and a response under both spellings, and a field under two names at once, one of them
with null. -/
theorem decode_blind_pet :
    Respelled Parameter.Field.names petRecord petRespelled ∧
      decodeValue Parameter.decode (.obj petRespelled) = .ok ⟨"petId", .path, false, none⟩ ∧
      (∃ e, decodeValue Parameter.decode (.obj (("in", .null) :: petRespelled)) = .error e) ∧
    Respelled Response.Field.names petsRecord petsRespelled ∧
      decodeValue Response.decode (.obj petsRespelled) = .ok ⟨"200", some "IPet"⟩ ∧
      decodeValue Response.decode (.obj [("e1", .null)]) = .ok ⟨"", none⟩ ∧
      ∃ e, decodeValue Response.decode (.obj (("statusCode", .null) :: petsRespelled)) = .error e := by
  have own : "in" ∈ Parameter.Field.names .location := by decide
  have own' : "location" ∈ Parameter.Field.names .location := by decide
  have renamed : Respelled Parameter.Field.names petRecord
      [("location", .str "path"), ("name", .str "petId")] :=
    .rename own own' (Value.str "path") [] [("name", Value.str "petId")]
  have other : ∀ f : Parameter.Field, "example" ∉ f.names := by
    intro f
    cases f <;> decide
  have respelled : Respelled Parameter.Field.names petRecord petRespelled :=
    renamed.trans (.add other (Value.arr [.null]) [] _)
  have decodes : decodeValue Parameter.decode (.obj petRecord) = .ok ⟨"petId", .path, false, none⟩ :=
    rfl
  have code : "statusCode" ∈ Response.Field.names .statusCode := by decide
  have code' : "e1" ∈ Response.Field.names .statusCode := by decide
  have respelledPets : Respelled Response.Field.names petsRecord petsRespelled :=
    .trans (.rename code code' _ [] _)
      (.rename (i := .payloadType) (by decide) (by decide) (Value.str "IPet") [("e1", _)] [])
  have decodesPets : decodeValue Response.decode (.obj petsRecord) = .ok ⟨"200", some "IPet"⟩ := by
    decide +kernel
  have nameless : Respelled Response.Field.names [("statusCode", Value.null)] [("e1", .null)] :=
    .rename code code' Value.null [] []
  have decodesNull : decodeValue Response.decode (.obj [("statusCode", .null)]) = .ok ⟨"", none⟩ := rfl
  refine ⟨respelled, (decode_blind.1.values respelled _).mp decodes, ?_, respelledPets,
    (decode_blind.2.values respelledPets _).mp decodesPets,
    (decode_blind.2.values nameless _).mp decodesNull, ?_⟩
  · have mem : ("location", .str "path") ∈ petRespelled :=
      List.mem_cons_of_mem _ List.mem_cons_self
    exact decode_blind.1.valueTwice own own' (by decide) List.mem_cons_self
      (List.mem_cons_of_mem _ mem)
  · exact decode_blind.2.valueTwice code code' (by decide) List.mem_cons_self
      (List.mem_cons_of_mem _ List.mem_cons_self)

/-! ### Writing and reading -/

/-- **What is written is read back**: a record is written as an object, and every text or value of that
object gives the record again, whatever the order of the members.  So decoding a value or a text of any
form, writing the record and decoding that gives what decoding gave at first. -/
structure ReadBack {R : Type} (decode : Source → Draft → Decoded R) (encode : R → Value) : Prop where
  /-- Records are written as objects. -/
  object : ∀ r, ∃ members, encode r = .obj members
  /-- The value is read back. -/
  value : ∀ {r members members'}, encode r = .obj members → members.Perm members' →
    decodeValue decode (.obj members') = .ok r
  /-- The text on one line is read back. -/
  line : ∀ {r members members'}, encode r = .obj members → members.Perm members' →
    decodeText decode (Value.obj members').write = .ok r
  /-- The text over several lines is read back. -/
  lines : ∀ {r members members'}, encode r = .obj members → members.Perm members' →
    decodeText decode ((Value.obj members').pretty "") = .ok r
  /-- Values of any form. -/
  ofValue : ∀ v, (decodeValue decode v >>= fun r => decodeValue decode (encode r)) =
    decodeValue decode v
  /-- Texts of any form. -/
  ofText : ∀ text, (decodeText decode text >>= fun r => decodeText decode (encode r).write) =
    decodeText decode text

/-- The written form itself is read back. -/
lemma ReadBack.encoded {R : Type} {decode : Source → Draft → Decoded R} {encode : R → Value}
    (h : ReadBack decode encode) (r : R) :
    decodeValue decode (encode r) = .ok r ∧ decodeText decode (encode r).write = .ok r := by
  obtain ⟨members, written⟩ := h.object r
  rw [written]
  exact ⟨h.value written (.refl members), h.line written (.refl members)⟩

lemma bind_eq_self {R : Type} {first : Decoded R} {again : R → Decoded R}
    (h : ∀ r, again r = .ok r) : (first >>= again) = first := by
  cases first with
  | error e => rfl
  | ok r => exact h r

namespace Json.Draft.RecordShape.FieldTable

variable {Fields Record Field : Type} {Content : Field → Type} {shape : RecordShape Fields Record}

/-- A record with a table is read back if it is written as an object without nesting from which it is
decoded. -/
theorem readBack (table : shape.FieldTable Content) {encode : Record → Value}
    (object : ∀ r, ∃ members, encode r = .obj members ∧ (∀ m ∈ members, m.2.isFlat) ∧
      ∀ source, shape.decode source (.ofValue (encode r)) = .ok r) :
    ReadBack shape.decode encode := by
  have members : ∀ source {r members members'}, encode r = .obj members → members.Perm members' →
      (∀ m ∈ members', m.2.isFlat) ∧ shape.decode source (.ofValue (.obj members')) = .ok r := by
    intro source r members members' written same
    obtain ⟨_, written', flat, decodes⟩ := object r
    obtain rfl := Value.obj.inj (written'.symm.trans written)
    refine ⟨fun m mem => flat m (same.mem_iff.mpr mem), ?_⟩
    have decodes := decodes source
    rw [written] at decodes
    refine table.decode_congr (fun f => ?_) (fun _ mem _ => wellFormed_of_mem_ofMembers mem) decodes
    exact table.perm_ofMembers (.reorder same) f
  have line : ∀ {r members members'}, encode r = .obj members → members.Perm members' →
      decodeText shape.decode (Value.obj members').write = .ok r := by
    intro r ms ms' written same
    rw [decodeText_of_ofText (ofText_write (members .text written same).1)]
    exact (members _ written same).2
  have value : ∀ {r members members'}, encode r = .obj members → members.Perm members' →
      decodeValue shape.decode (.obj members') = .ok r :=
    fun written same => (members _ written same).2
  refine ⟨?_, value, line, ?_, ?_, ?_⟩
  · intro r
    obtain ⟨ms, written, -⟩ := object r
    exact ⟨ms, written⟩
  · intro r ms ms' written same
    rw [decodeText_of_ofText (ofText_pretty (members .text written same).1)]
    exact (members _ written same).2
  · refine fun v => bind_eq_self fun r => ?_
    obtain ⟨ms, written, -⟩ := object r
    rw [written]
    exact value written (.refl ms)
  · refine fun text => bind_eq_self fun r => ?_
    obtain ⟨ms, written, -⟩ := object r
    rw [written]
    exact line written (.refl ms)

end Json.Draft.RecordShape.FieldTable

/-- Parameters are read back. -/
theorem Parameter.readBack : ReadBack Parameter.decode Parameter.toJson := by
  refine Parameter.table.readBack fun p => ?_
  obtain ⟨name, location, required, description⟩ := p
  cases description with
  | none =>
    refine ⟨_, rfl, by simp [Value.isFlat, Location.toJson], fun source => ?_⟩
    cases source <;> cases location <;> rfl
  | some text =>
    refine ⟨_, rfl, by simp [Value.isFlat, Location.toJson], fun source => ?_⟩
    cases source <;> cases location <;> rfl

/-- Responses are read back. -/
theorem Response.readBack : ReadBack Response.decode Response.toJson := by
  refine Response.table.readBack fun r => ?_
  obtain ⟨code, payload⟩ := r
  cases payload with
  | none => exact ⟨_, rfl, by simp [Value.isFlat], fun source => by cases source <;> rfl⟩
  | some s => exact ⟨_, rfl, by simp [Value.isFlat], fun source => by cases source <;> rfl⟩

/-- **What is written is read back** for parameters and responses, whatever form they were decoded from;
so a response keeps its status and its payload. -/
theorem decode_readBack :
    ReadBack Parameter.decode Parameter.toJson ∧ ReadBack Response.decode Response.toJson ∧
    (∀ v r, decodeValue Response.decode v = .ok r → ∃ r', decodeValue Response.decode r.toJson = .ok r' ∧
      r'.status? = r.status? ∧ r'.payload = r.payload) ∧
    ∀ text r, decodeText Response.decode text = .ok r →
      ∃ r', decodeText Response.decode r.toJson.write = .ok r' ∧
        r'.status? = r.status? ∧ r'.payload = r.payload := by
  have back := fun r => Response.readBack.encoded r
  refine ⟨Parameter.readBack, Response.readBack, ?_, ?_⟩
  · intro v r _
    exact ⟨r, (back r).1, rfl, rfl⟩
  · intro text r _
    exact ⟨r, (back r).2, rfl, rfl⟩

/-- A parameter as an array, with its location spelled as an object. -/
def positionalParameter : Value := .arr [.str "limit?", .obj [("query", .null)]]

/-- A response as an array, with a number for its code. -/
def positionalResponse : Value := .arr [.num (.whole 200 (by decide))]

theorem decode_readBack_positional :
    (decodeValue Parameter.decode positionalParameter >>= fun p =>
      decodeValue Parameter.decode p.toJson) = .ok ⟨"limit?", .query, false, none⟩ ∧
    ∃ r, decodeValue Response.decode positionalResponse = .ok ⟨"200", none⟩ ∧
      decodeValue Response.decode (Response.toJson ⟨"200", none⟩) = .ok r ∧
      r.status? = some 200 ∧ r.payload = Response.undefinedPayload := by
  have located : decodeValue Parameter.decode positionalParameter =
      .ok ⟨"limit?", .query, false, none⟩ := by
    decide +kernel
  have decodes : decodeValue Response.decode positionalResponse = .ok ⟨"200", none⟩ := by
    decide +kernel
  obtain ⟨r, again, status, payload⟩ := decode_readBack.2.2.1 _ _ decodes
  have code : (⟨"200", none⟩ : Response).status? = some 200 := by decide +kernel
  exact ⟨(decode_readBack.1.ofValue _).trans located, r, decodes, again, status.trans code, payload⟩

end ApiStencil
