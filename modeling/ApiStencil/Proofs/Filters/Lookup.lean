import ApiStencil.Proofs.Action.Relation
import ApiStencil.Proofs.Filters.Location
import Mathlib.Order.Bounds.Basic

/-!
# Looking records up by a field

A record matches if it is an object with the field and the value there agrees with the one wanted.  The
search gives the record at the least place of one that matches (`findByField_eq_some_iff`), so a list
can be searched part by part.  What it finds is an object, and null is none: the filter that gives null
where nothing is found cannot be misunderstood (`parameterEqual_first`).
-/

namespace ApiStencil

open Json Template ApiStencil.Action

namespace Json.Value

/-- A record is an object with the field, and the value of the field agrees with the one wanted. -/
def Matches (field : String) (wanted record : Value) : Prop :=
  ∃ members candidate, record = .obj members ∧ members.lookup field = some candidate ∧
    candidate.agrees wanted = true

/-- The places of the records that match. -/
def places (records : List Value) (field : String) (wanted : Value) : Set ℕ :=
  {i | ∃ x, records[i]? = some x ∧ Matches field wanted x}

variable {records : List Value} {field : String} {wanted record : Value}

lemma hasField_iff : hasField field wanted record = true ↔ Matches field wanted record := by
  unfold hasField Matches
  cases record with
  | obj members =>
    cases found : members.lookup field with
    | none => simp [get?, found]
    | some candidate => simp [get?, found]
  | _ => simp [get?]

/-- **The search gives the first record that matches.** -/
theorem findByField_eq_some_iff : findByField records field wanted = some record ↔
    ∃ i, IsLeast (places records field wanted) i ∧ records[i]? = some record := by
  rw [findByField, List.find?_eq_some_iff_getElem]
  constructor
  · rintro ⟨has, i, lt, rfl, before⟩
    have at_ : records[i]? = some records[i] := List.getElem?_eq_getElem lt
    refine ⟨i, ⟨⟨_, at_, hasField_iff.mp has⟩, ?_⟩, at_⟩
    rintro j ⟨x, at', matches_⟩
    by_contra earlier
    obtain ⟨lt', rfl⟩ := List.getElem?_eq_some_iff.mp at'
    have none := before j (by omega)
    rw [hasField_iff.mpr matches_] at none
    cases none
  · rintro ⟨i, ⟨⟨x, at_, matches_⟩, least⟩, at'⟩
    obtain rfl : x = record := Option.some.inj (at_.symm.trans at')
    obtain ⟨lt, eq⟩ := List.getElem?_eq_some_iff.mp at_
    refine ⟨hasField_iff.mpr matches_, i, lt, eq, ?_⟩
    intro j earlier
    rw [Bool.not_eq_true', Bool.eq_false_iff]
    intro has
    have le : i ≤ j := least ⟨_, List.getElem?_eq_getElem (by omega), hasField_iff.mp has⟩
    omega

/-- Nothing is found exactly if no record matches. -/
theorem findByField_eq_none_iff :
    findByField records field wanted = none ↔ places records field wanted = ∅ := by
  rw [findByField, List.find?_eq_none, Set.eq_empty_iff_forall_notMem]
  constructor
  · rintro none i ⟨x, at_, matches_⟩
    exact none x (List.mem_of_getElem? at_) (hasField_iff.mpr matches_)
  · intro none x mem has
    obtain ⟨i, at_⟩ := List.mem_iff_getElem?.mp mem
    exact none i ⟨x, at_, hasField_iff.mp has⟩

/-- A list is searched part by part. -/
theorem findByField_append (others : List Value) : findByField (records ++ others) field wanted =
    (findByField records field wanted).or (findByField others field wanted) :=
  List.find?_append

/-- What is found is an object. -/
lemma ne_null_of_findByField (h : findByField records field wanted = some record) :
    record ≠ .null := by
  obtain ⟨members, -, rfl, -⟩ := hasField_iff.mp (List.find?_some h)
  exact nofun

end Json.Value

namespace Filters

open Value

section ParameterEqual

variable {v wanted : Value} {args : Arguments} {records : List Value} {field : String}

/-- What the filter gives for null and for a list. -/
lemma perform_parameterEqual (list : recordsOf? v = some records)
    (names : args.lookup "field" = some (.str field)) (wants : args.lookup "value" = some wanted)
    (l : Ledger) : (parameterEqual.run v args).perform l =
      (.ok ((findByField records field wanted).getD .null), l) := by
  have asks : textArgument parameterEqualName "field" args = .ok field := by
    simp [textArgument, requiredArgument, names, bind, Except.bind]
  have asks' : requiredArgument parameterEqualName "value" args = .ok wanted := by
    simp [requiredArgument, wants]
  unfold parameterEqual Filter.ofPure
  simp only [asks, asks', perform_liftM]
  cases v with
  | null =>
    cases list
    rfl
  | arr items =>
    cases list
    rfl
  | _ => cases list

end ParameterEqual

/-- **The first match, or null for none.**  The search by a field gives the record at the least place of
one that matches, and nothing exactly if there is no such place; so of two lists together the first one
decides if it can.  The filter gives that record as it is, and null exactly if there is none. -/
theorem parameterEqual_first :
    (∀ (records : List Value) (field : String) (wanted : Value),
      (∀ x, findByField records field wanted = some x ↔
        ∃ i, IsLeast (places records field wanted) i ∧ records[i]? = some x) ∧
      (findByField records field wanted = none ↔ places records field wanted = ∅) ∧
      ∀ others, findByField (records ++ others) field wanted =
        (findByField records field wanted).or (findByField others field wanted)) ∧
    ∀ (v wanted : Value) (args : Arguments) (records : List Value) (field : String) (l : Ledger),
      recordsOf? v = some records → args.lookup "field" = some (.str field) →
      args.lookup "value" = some wanted →
      ∃ found, (parameterEqual.run v args).perform l = (.ok found, l) ∧
        (found = .null ↔ places records field wanted = ∅) ∧
        (found ≠ .null → ∃ i, IsLeast (places records field wanted) i ∧
          records[i]? = some found) := by
  constructor
  · intro records field wanted
    exact ⟨fun x => findByField_eq_some_iff, findByField_eq_none_iff, findByField_append⟩
  · intro v wanted args records field l list names wants
    refine ⟨_, perform_parameterEqual list names wants l, ?_⟩
    rw [← findByField_eq_none_iff]
    cases found : findByField records field wanted with
    | none => simp
    | some x =>
      have object := ne_null_of_findByField found
      simp only [Option.getD_some, object, reduceCtorEq, ne_eq, not_false_eq_true, forall_const,
        true_and]
      exact findByField_eq_some_iff.mp found

/-- Records of which two have the code, with null for it. -/
def listed : List Value :=
  [.null, .obj [("payload", .null)], .obj [("code", .null)],
    .obj [("code", .null), ("payload", .null)]]

theorem parameterEqual_first_null :
    recordsOf? (.arr listed) = some listed ∧ ∃ found,
      (parameterEqual.run (.arr listed) [("field", .str "code"), ("value", .null)]).perform
        ⟨.empty, []⟩ = (.ok found, ⟨.empty, []⟩) ∧ found ≠ .null := by
  obtain ⟨found, run, null, -⟩ := parameterEqual_first.2 (.arr listed) .null
    [("field", .str "code"), ("value", .null)] listed "code" ⟨.empty, []⟩ rfl rfl rfl
  refine ⟨rfl, found, run, ?_⟩
  rw [Ne, null, ← Ne, ← Set.nonempty_iff_ne_empty]
  exact ⟨2, .obj [("code", .null)], rfl, _, _, rfl, rfl, rfl⟩

end Filters

end ApiStencil
