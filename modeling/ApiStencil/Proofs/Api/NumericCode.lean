import ApiStencil.Proofs.Api.Response
import ApiStencil.Proofs.Api.Status
import ApiStencil.Proofs.Decimal.Layout
import ApiStencil.Proofs.Json.Number

/-!
# Numbers as status codes

A number in the place of a status code is kept as the text it is written as, and that text is read by
its value.  Writing loses nothing, so the status is the value of the number (`status?_write`), and all
forms of one code have the same wrapper (`status?_of_isCode`).
-/

namespace ApiStencil

open Json

namespace Response

open Literal

variable {source source' : Source} {members members' : List (String × Draft)} {key key' : String}
  {closed closed' : Bool} {d d' : Draft} {r r' : Response} {n : ℕ}

/-! ### Numbers in texts -/

lemma stands_of_text {s : Spelling} {text : String} (h : s.text = text.toList) : s.Stands text :=
  ⟨[], [], nofun, nofun, by simp [h]⟩

/-- Whole numbers of any size are read as themselves. -/
lemma status?_toString (i : ℤ) (payload : Option String) :
    (⟨toString i, payload⟩ : Response).status? = some n ↔ (i : ℚ) = n ∧ n ≤ 65535 := by
  obtain ⟨s, text, value⟩ := exists_spelling_toString i
  have stands : s.Stands (⟨toString i, payload⟩ : Response).statusCode := stands_of_text text
  constructor
  · intro eq
    obtain ⟨le, within⟩ := within_of_status? stands eq
    have near := within.abs_sub_lt le
    rw [value] at near
    have apart : |i - n| < 1 := by exact_mod_cast near
    have same : i = n := by
      rw [Int.abs_lt_one_iff] at apart
      omega
    exact ⟨by exact_mod_cast same, le⟩
  · rintro ⟨eq, le⟩
    exact status?_of_value stands le (value.trans eq)

/-- **The status of a number that is written out** is its value. -/
theorem status?_write (x : Number) (payload : Option String) :
    (⟨x.write, payload⟩ : Response).status? = some n ↔ x.value = n ∧ n ≤ 65535 := by
  cases x with
  | whole i fits => exact status?_toString i payload
  | float y =>
    obtain ⟨s, text, reads⟩ := Layout.data.exists_spelling_write y
    have stands : s.Stands (⟨Layout.data.write y, payload⟩ : Response).statusCode := stands_of_text text
    refine (status?_eq_some_iff stands).trans ?_
    simp [reads, Number.value, and_comm]

/-! ### Forms of a code -/

/-- The forms of a code: a number of its value, or a string of its digits. -/
def IsCode (d : Draft) (n : ℕ) : Prop :=
  (∃ x : Number, d = .num x ∧ x.value = n) ∨ d = .str (toString n)

lemma status?_of_isCode {s : String} {payload : Option String} {m : ℕ} (h : IsCode d n)
    (reads : codeText source d = .ok s) :
    (⟨s, payload⟩ : Response).status? = some m ↔ m = n ∧ m ≤ 65535 := by
  rcases h with ⟨x, rfl, value⟩ | rfl
  · cases reads
    rw [status?_write, value, Nat.cast_inj, eq_comm]
  · cases reads
    have digits : toString n = toString (n : ℤ) := rfl
    rw [digits, status?_toString, Int.cast_natCast, Nat.cast_inj, eq_comm]

/-- Responses decoded from two forms of one code have one wrapper, if their payloads are the same. -/
lemma wrapper_eq_of_isCode (own : key ∈ codeNames) (mem : (key, d) ∈ members) (h : IsCode d n)
    (decodes : decode source (.obj members closed) = .ok r) (own' : key' ∈ codeNames)
    (mem' : (key', d') ∈ members') (h' : IsCode d' n)
    (decodes' : decode source' (.obj members' closed') = .ok r') (payload : r.payload = r'.payload) :
    r.wrapper = r'.wrapper := by
  have reads := (codeText_of_decode own mem decodes).1
  have reads' := (codeText_of_decode own' mem' decodes').1
  refine wrapper_congr (Option.ext fun m => ?_) payload
  exact (status?_of_isCode h reads).trans (status?_of_isCode h' reads').symm

/-- The codes that have a wrapper, each in three spellings. -/
def spelledCodes : List (ℕ × String) :=
  [(200, "200"), (200, "200.0"), (200, "2e2"), (201, "201"), (201, "201.0"), (201, "2.01e2"),
    (202, "202"), (202, "202.0"), (202, "2.02e2")]

lemma exists_num_of_spelled : ∀ c ∈ spelledCodes,
    ∃ x : Number, Value.ofText? c.2 = some (.num x) ∧ x.value = c.1 := by
  have all : spelledCodes.all (fun c => c.1 ≤ 202 ∧ (Value.ofText? c.2).any fun v =>
      (Number.ofInt? c.1).any fun n => v.agrees (.num n)) = true := by decide +kernel
  intro c mem
  have agree := List.all_eq_true.mp all c mem
  simp only [decide_eq_true_eq, Option.any_eq_true] at agree
  obtain ⟨small, v, reads, m, eq, agrees⟩ := agree
  obtain ⟨x, rfl, agrees⟩ := Value.agrees_num_iff.mp agrees
  obtain ⟨fits, rfl⟩ : ∃ fits, m = .whole c.1 fits := by
    unfold Number.ofInt? at eq
    split at eq
    · exact ⟨_, (Option.some.inj eq).symm⟩
    · cases eq
  refine ⟨x, reads, ?_⟩
  rcases (Number.agrees_iff _ _).mp agrees with same | rounds | rounds
  · exact same
  · exact absurd rounds (Number.not_roundsTo_whole x)
  · have large := rounds.lt_abs
    have small : (c.1 : ℚ) ≤ 202 := by exact_mod_cast small
    simp only [Number.value, Int.cast_natCast, Nat.abs_cast] at large
    linarith

/-- An object with a number in the place of the status code decodes exactly if nothing else in it is
wrong. -/
lemma exists_decode_iff {x : Number} (own : key ∈ codeNames) (mem : (key, .num x) ∈ members) :
    (∃ r, decode source (.obj members true) = .ok r) ↔
      named codeNames members = [(key, .num x)] ∧ (named payloadNames members).length ≤ 1 ∧
      (∀ m ∈ named payloadNames members, m.2 = .null ∨ ∃ s, m.2 = .str s) ∧
      ∀ m ∈ members, m.1 ∉ codeNames → m.1 ∉ payloadNames → m.2.wellFormed = true := by
  constructor
  · rintro ⟨r, decodes⟩
    obtain ⟨-, code, payload, filled, filled', others, -⟩ := decode_obj_eq_ok_iff.mp decodes
    obtain ⟨one, readable⟩ := Draft.exists_filled_iff.mp ⟨payload, filled'⟩
    refine ⟨(filled.of_mem own mem).1, one, ?_, others⟩
    intro m hm
    exact Draft.exists_asTextOrNull_iff.mp (readable m hm)
  · rintro ⟨only, one, readable, others⟩
    obtain ⟨payload, filled⟩ := Draft.exists_filled_iff.mpr
      ⟨one, fun m hm => Draft.exists_asTextOrNull_iff.mpr (readable m hm)⟩
    refine ⟨_, decode_obj_eq_ok_iff.mpr ⟨rfl, some x.write, payload, ?_, filled, others, rfl⟩⟩
    exact .inr ⟨_, x.write, rfl, only, rfl, rfl⟩

/-- **A number keeps its value as a status code.**  An object with a number in the place of the status
code decodes exactly if nothing else in it is wrong.  The status is then the value of the number, if that
is a whole one up to 65535, and the wrapper depends on that value and on the payload: numbers of one value
and the string of its digits give the same one. -/
theorem status?_of_number {x : Number} (own : key ∈ codeNames) (mem : (key, .num x) ∈ members) :
    ((∃ r, decode source (.obj members true) = .ok r) ↔
      named codeNames members = [(key, .num x)] ∧ (named payloadNames members).length ≤ 1 ∧
      (∀ m ∈ named payloadNames members, m.2 = .null ∨ ∃ s, m.2 = .str s) ∧
      ∀ m ∈ members, m.1 ∉ codeNames → m.1 ∉ payloadNames → m.2.wellFormed = true) ∧
    (∀ closed r, decode source (.obj members closed) = .ok r →
      (∀ n : ℕ, r.status? = some n ↔ x.value = n ∧ n ≤ 65535) ∧
      (x.value = 200 → r.wrapper = .successJson r.payload) ∧
      (x.value = 201 → r.wrapper = .redirectToResource r.payload) ∧
      (x.value = 202 → r.wrapper = .accepted r.payload) ∧
      ∀ (n : ℕ) source' members' key' d' closed' r', x.value = n → key' ∈ codeNames →
        (key', d') ∈ members' → IsCode d' n → decode source' (.obj members' closed') = .ok r' →
        r'.payload = r.payload → r'.wrapper = r.wrapper) ∧
    ∀ c ∈ spelledCodes, ∃ y : Number, Value.ofText? c.2 = some (.num y) ∧ y.value = c.1 := by
  refine ⟨exists_decode_iff own mem, ?_, exists_num_of_spelled⟩
  intro closed r decodes
  have reads := (codeText_of_decode own mem decodes).1
  have status : ∀ n : ℕ, r.status? = some n ↔ x.value = n ∧ n ≤ 65535 := by
    intro n
    obtain ⟨code, payload⟩ := r
    obtain rfl : x.write = code := Except.ok.inj reads
    exact status?_write x payload
  have ok := status 200
  have created := status 201
  have accepted := status 202
  refine ⟨status, ?_, ?_, ?_, ?_⟩
  · intro value
    simp [wrapper, ok.mpr ⟨by simpa using value, by decide⟩]
  · intro value
    simp [wrapper, created.mpr ⟨by simpa using value, by decide⟩]
  · intro value
    simp [wrapper, accepted.mpr ⟨by simpa using value, by decide⟩]
  · intro n source' members' key' d' closed' r' value own' mem' form decodes' payload
    exact wrapper_eq_of_isCode own' mem' form decodes' own mem (.inl ⟨x, rfl, value⟩) decodes payload

/-- The number 200 in binary64. -/
def twoHundred : Number := .float ⟨false, 200 * Binary64.unitsPerOne, by decide +kernel⟩

lemma value_twoHundred : twoHundred.value = (200 : ℕ) := by
  refine Binary64.value_eq_intCast_iff.mpr ?_
  rw [Binary64.signedUnits, if_neg Bool.false_ne_true]
  push_cast
  rfl

/-- An object with that number. -/
def petMembers : List (String × Draft) := [("e1", .num twoHundred), ("payloadType", .str "Pet")]

/-- An object with the digits of that number. -/
def petMembers' : List (String × Draft) := [("statusCode", .str "200"), ("e2", .str "Pet")]

theorem status?_of_number_pet :
    ("e1" ∈ codeNames ∧ ("e1", .num twoHundred) ∈ petMembers) ∧
    ∃ r r', decode .text (.obj petMembers true) = .ok r ∧ r.wrapper = .successJson "Pet" ∧
      decode .value (.obj petMembers' true) = .ok r' ∧ r'.wrapper = r.wrapper := by
  have own : "e1" ∈ codeNames := by decide
  have mem : ("e1", .num twoHundred) ∈ petMembers := List.mem_cons_self
  have decodes : decode .text (.obj petMembers true) = .ok ⟨twoHundred.write, some "Pet"⟩ := rfl
  have decodes' : decode .value (.obj petMembers' true) = .ok ⟨"200", some "Pet"⟩ := rfl
  obtain ⟨-, ok, -, -, same⟩ := (status?_of_number own mem).2.1 true _ decodes
  refine ⟨⟨own, mem⟩, _, _, decodes, ?_, decodes', ?_⟩
  · exact ok (value_twoHundred.trans Nat.cast_ofNat)
  · exact same 200 .value petMembers' "statusCode" (.str "200") true _ value_twoHundred (by decide)
      List.mem_cons_self (.inr rfl) decodes' (by rw [payload, payload])

end Response

end ApiStencil
