import ApiStencil.Filters.Api
import ApiStencil.Proofs.Accumulator.Runs
import ApiStencil.Proofs.Action.Relation
import ApiStencil.Proofs.Result

/-!
# Identifiers and their optionality markers

An identifier is split into a name and a marker, and both put together are the identifier again
(`Parted`).  The two filters that give names and markers read the same values, decode them to the
same identifiers and map over these; so they fail on the same values, are null for the same ones and
give parts that fit together place by place (`stripQuestionMark_setOptionalSymbol_parted`).
-/

namespace ApiStencil

open Json ApiStencil.Action

/-! ### One identifier -/

/-- A name and a marker are the parts of an identifier: together they are the identifier, and the
marker is there exactly if the identifier ends in it. -/
structure Parted (identifier name marker : String) : Prop where
  joined : name ++ marker = identifier
  marked : (∃ front, identifier = front ++ "?") → marker = "?"
  unmarked : (¬ ∃ front, identifier = front ++ "?") → marker = ""

lemma getLast?_eq_marker_iff {s : String} :
    s.toList.getLast? = some optionalityMarker ↔ ∃ front, s = front ++ "?" := by
  rw [List.getLast?_eq_some_iff]
  constructor
  · rintro ⟨front, eq⟩
    refine ⟨String.ofList front, String.toList_inj.mp ?_⟩
    rw [eq, String.toList_append, String.toList_ofList]
    rfl
  · rintro ⟨front, rfl⟩
    exact ⟨front.toList, String.toList_append⟩

/-- Exactly one marker is split off. -/
theorem parted (s : String) : Parted s (stripMarker s) (markerOf s) := by
  unfold stripMarker markerOf
  by_cases ends : s.toList.getLast? = some optionalityMarker
  · rw [if_pos ends, if_pos ends]
    obtain ⟨front, rfl⟩ := getLast?_eq_marker_iff.mp ends
    have drop : (front ++ "?").toList.dropLast = front.toList := by
      rw [String.toList_append]
      exact List.dropLast_concat
    rw [drop, String.ofList_toList]
    exact ⟨rfl, fun _ => rfl, fun none => absurd ⟨front, rfl⟩ none⟩
  · rw [if_neg ends, if_neg ends]
    refine ⟨String.append_empty, ?_, fun _ => rfl⟩
    intro has
    exact absurd (getLast?_eq_marker_iff.mpr has) ends

example : stripMarker "a??" = "a?" ∧ stripMarker "?" = "" ∧ stripMarker "a" = "a" := by decide

/-! ### Values -/

namespace Identifiers

lemma mapM_nameOf?_ofItems (items : List Value) :
    (Draft.ofItems items).mapM nameOf? = items.mapM Value.asText? := by
  induction items with
  | nil => rfl
  | cons v rest ih =>
    have same : nameOf? (Draft.ofValue v) = v.asText? := by cases v <;> rfl
    rw [Draft.ofItems, List.mapM_cons, List.mapM_cons, ih, same]

/-- A name that is not empty is there. -/
lemma mapPresent_single (f : String → String) {s : String} (ne : s ≠ "") :
    mapPresent f (some (.single s)) = some (.single (f s)) := by
  have present : (!(single s).isAbsent) = true := by simp [isAbsent, ne]
  rw [mapPresent, Option.filter_some, if_pos present]
  rfl

end Identifiers

namespace Filters

variable (filter : String) {v : Value} {subject : Option Identifiers}

/-- Of arrays the filters read those that hold strings only. -/
lemma identifiersOf_arr (items : List Value) : identifiersOf filter (.arr items) =
    match items.mapM Value.asText? with
    | some names => .ok (some (.many names))
    | none => .error (.undecodable filter .texts (.shape (.noMatch "Identifiers"))) := by
  unfold identifiersOf
  rw [decodeValue, Draft.ofValue, Identifiers.decode]
  simp only [Identifiers.mapM_nameOf?_ofItems]
  cases items.mapM Value.asText? with
  | none => rfl
  | some names => rfl

/-- **What the filters read**: null as absent identifiers, and identifiers in the form in which they
are given back. -/
theorem identifiersOf_eq_ok_iff :
    identifiersOf filter v = .ok subject ↔ v = identifiersValue subject := by
  constructor
  · intro reads
    cases v with
    | null =>
      cases reads
      rfl
    | str s =>
      cases reads
      rfl
    | arr items =>
      rw [identifiersOf_arr] at reads
      split at reads
      · rename_i names texts
        cases reads
        rw [eq_map_of_mapM_asText? texts]
        rfl
      · cases reads
    | _ => cases reads
  · rintro rfl
    match subject with
    | none => rfl
    | some (.single name) => rfl
    | some (.many names) =>
      have own := identifiersOf_arr filter (names.map .str)
      rw [mapM_asText?_map] at own
      exact own

/-- The filters fail on all other values. -/
lemma exists_identifiersOf_error_iff : (∃ e, identifiersOf filter v = .error e) ↔
    ∀ subject, v ≠ identifiersValue subject := by
  simp only [Ne, ← identifiersOf_eq_ok_iff filter]
  cases identifiersOf filter v with
  | error e => simp
  | ok subject => simp

/-- A value is a subject: null, a string, or an array of strings only. -/
def IsSubject (v : Value) : Prop :=
  v = .null ∨ (∃ s, v = .str s) ∨ ∃ names : List String, v = .arr (names.map .str)

lemma isSubject_iff : IsSubject v ↔ ∃ subject, v = identifiersValue subject := by
  constructor
  · rintro (rfl | ⟨s, rfl⟩ | ⟨names, rfl⟩)
    · exact ⟨none, rfl⟩
    · exact ⟨some (.single s), rfl⟩
    · exact ⟨some (.many names), rfl⟩
  · rintro ⟨subject, rfl⟩
    match subject with
    | none => exact .inl rfl
    | some (.single s) => exact .inr (.inl ⟨s, rfl⟩)
    | some (.many names) => exact .inr (.inr ⟨names, rfl⟩)

/-! ### Results -/

/-- What is left of the identifiers of a value where a function is applied to each. -/
def resultOf (f : String → String) (v : Value) : Except Failure Value :=
  (identifiersOf filter v).map fun subject => identifiersValue (Identifiers.mapPresent f subject)

lemma perform_stripQuestionMark (args : Arguments) (l : Ledger) :
    (stripQuestionMark.run v args).perform l = (resultOf stripQuestionMarkName stripMarker v, l) := by
  unfold stripQuestionMark Filter.ofPure resultOf
  dsimp only
  rw [perform_liftM]
  cases identifiersOf stripQuestionMarkName v with
  | error e => rfl
  | ok subject => rfl

lemma perform_setOptionalSymbol (args : Arguments) (l : Ledger) :
    (setOptionalSymbol.run v args).perform l = (resultOf setOptionalSymbolName markerOf v, l) := by
  unfold setOptionalSymbol Filter.ofPure resultOf
  dsimp only
  rw [perform_liftM]
  cases identifiersOf setOptionalSymbolName v with
  | error e => rfl
  | ok subject => rfl

section Result

variable (f : String → String)

lemma resultOf_identifiersValue (subject : Option Identifiers) :
    resultOf filter f (identifiersValue subject) =
      .ok (identifiersValue (Identifiers.mapPresent f subject)) := by
  rw [resultOf, (identifiersOf_eq_ok_iff filter).mpr rfl]
  rfl

lemma resultOf_error_iff : (∃ e, resultOf filter f v = .error e) ↔ ¬ IsSubject v := by
  rw [isSubject_iff, not_exists, ← exists_identifiersOf_error_iff filter, resultOf]
  cases identifiersOf filter v with
  | error e => simp [Except.map]
  | ok subject => simp [Except.map]

lemma resultOf_str {s : String} (ne : s ≠ "") : resultOf filter f (.str s) = .ok (.str (f s)) := by
  refine (resultOf_identifiersValue filter f (some (.single s))).trans ?_
  rw [Identifiers.mapPresent_single f ne]
  rfl

lemma resultOf_arr (names : List String) :
    resultOf filter f (.arr (names.map .str)) = .ok (.arr ((names.map f).map .str)) :=
  resultOf_identifiersValue filter f (some (.many names))

lemma resultOf_eq_null_iff : resultOf filter f v = .ok .null ↔ v = .null ∨ v = .str "" := by
  constructor
  · intro null
    by_cases is_ : IsSubject v
    · rcases is_ with rfl | ⟨s, rfl⟩ | ⟨names, rfl⟩
      · exact .inl rfl
      · by_cases ne : s = ""
        · exact .inr (congrArg _ ne)
        · rw [resultOf_str filter f ne] at null
          cases null
      · rw [resultOf_arr] at null
        cases null
    · obtain ⟨e, failed⟩ := (resultOf_error_iff filter f).mpr is_
      rw [failed] at null
      cases null
  · rintro (rfl | rfl)
    · exact resultOf_identifiersValue filter f none
    · exact resultOf_identifiersValue filter f (some (.single ""))

end Result

/-- **Names and markers fit together.**  The two filters fail on the same values, those that are neither
null nor a string nor an array of strings; they give null for null and for the empty string.  Of another
string they give the parts, and of an array the parts of each string in it, the empty ones included. -/
theorem stripQuestionMark_setOptionalSymbol_parted (v : Value) :
    ∃ names markers : Except Failure Value,
      (∀ args l, (stripQuestionMark.run v args).perform l = (names, l)) ∧
      (∀ args l, (setOptionalSymbol.run v args).perform l = (markers, l)) ∧
      ((∃ e, names = .error e) ↔ ¬ IsSubject v) ∧ ((∃ e, markers = .error e) ↔ ¬ IsSubject v) ∧
      (names = .ok .null ↔ v = .null ∨ v = .str "") ∧
      (markers = .ok .null ↔ v = .null ∨ v = .str "") ∧
      (∀ s, v = .str s → s ≠ "" → ∃ name marker,
        names = .ok (.str name) ∧ markers = .ok (.str marker) ∧ Parted s name marker) ∧
      ∀ texts : List String, v = .arr (texts.map .str) → ∃ as bs : List String,
        names = .ok (.arr (as.map .str)) ∧ markers = .ok (.arr (bs.map .str)) ∧
        as.length = texts.length ∧ bs.length = texts.length ∧
        ∀ (i : ℕ) s, texts[i]? = some s →
          ∃ name marker, as[i]? = some name ∧ bs[i]? = some marker ∧ Parted s name marker := by
  refine ⟨_, _, perform_stripQuestionMark, perform_setOptionalSymbol,
    resultOf_error_iff _ _, resultOf_error_iff _ _, resultOf_eq_null_iff _ _,
    resultOf_eq_null_iff _ _, ?_, ?_⟩
  · rintro s rfl ne
    exact ⟨_, _, resultOf_str _ _ ne, resultOf_str _ _ ne, parted s⟩
  · rintro texts rfl
    refine ⟨_, _, resultOf_arr _ _ texts, resultOf_arr _ _ texts, List.length_map _,
      List.length_map _, ?_⟩
    intro i s at_
    refine ⟨stripMarker s, markerOf s, ?_, ?_, parted s⟩
    · rw [List.getElem?_map, at_, Option.map_some]
    · rw [List.getElem?_map, at_, Option.map_some]

/-- An optional name, no name at all and a name that is nothing but markers. -/
def namedFields : List String := ["id?", "", "??"]

theorem stripQuestionMark_setOptionalSymbol_parted_list : ∃ as bs : List String,
    (stripQuestionMark.run (.arr (namedFields.map .str)) []).perform ⟨.empty, []⟩ =
      (.ok (.arr (as.map .str)), ⟨.empty, []⟩) ∧
    (setOptionalSymbol.run (.arr (namedFields.map .str)) []).perform ⟨.empty, []⟩ =
      (.ok (.arr (bs.map .str)), ⟨.empty, []⟩) ∧
    ∃ name marker, as[2]? = some name ∧ bs[2]? = some marker ∧ Parted "??" name marker := by
  obtain ⟨names, markers, strips, keeps, -, -, -, -, -, lists⟩ :=
    stripQuestionMark_setOptionalSymbol_parted (.arr (namedFields.map .str))
  obtain ⟨as, bs, rfl, rfl, -, -, places⟩ := lists namedFields rfl
  exact ⟨as, bs, strips _ _, keeps _ _, places 2 "??" rfl⟩

end Filters

end ApiStencil
