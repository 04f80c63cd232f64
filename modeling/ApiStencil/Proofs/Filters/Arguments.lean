import ApiStencil.Filters.Api
import ApiStencil.Proofs.Action.Relation
import ApiStencil.Proofs.Lookup
import ApiStencil.Proofs.Result

/-!
# Destructured arguments

The argument list of a function is the text of the names of its parameters.

* `arguments_injective` — the text determines the names, if these have no commas;
* `perform_toFnArgs`, `namesOf_eq_ok_iff` — the filter renders the names of null and of arrays of records
  with names, and takes nothing else;
* `toFnArgs_arguments` — both, and that typed records, their names and their JSON forms give one text.
-/

namespace ApiStencil

open Json

namespace Parameter

/-! ### Reading the names off the text -/

section Text

variable {names as bs : List String} {a b : Option (List String)}

/-- What stands between the commas of an argument list with these names. -/
def pieces : List String → List (List Char)
  | [] => [[]]
  | first :: rest => first.toList :: rest.map fun s => ' ' :: s.toList

/-- Names that can be read off an argument list: absent, or without commas and not a single empty name,
which would look like no name. -/
def IsLegible : Option (List String) → Prop
  | none => True
  | some names => (∀ s ∈ names, ',' ∉ s.toList) ∧ names ≠ [""]

lemma intercalate_cons_head {α : Type} (sep : List α) (c : α) (first : List α) (rest : List (List α)) :
    sep.intercalate ((c :: first) :: rest) = c :: sep.intercalate (first :: rest) := by
  cases rest <;> simp

/-- A comma and a blank between names are a comma between the pieces. -/
lemma toList_intercalate_names (names : List String) :
    (", ".intercalate names).toList = [','].intercalate (pieces names) := by
  cases names with
  | nil => rfl
  | cons first rest =>
    induction rest generalizing first with
    | nil => simp [pieces]
    | cons second rest ih =>
      have others : (", ".intercalate (second :: rest)).toList =
          [','].intercalate (second.toList :: rest.map fun s => ' ' :: s.toList) := ih second
      rw [pieces, List.map_cons, List.intercalate_cons_cons, intercalate_cons_head, ← others,
        String.intercalate_cons_cons, String.toList_append, String.toList_append]
      simp

lemma pieces_ne_nil (names : List String) : pieces names ≠ [] := by
  cases names <;> exact List.cons_ne_nil _ _

/-- **The pieces can be read off the text.** -/
theorem splitOn_names (clean : ∀ s ∈ names, ',' ∉ s.toList) :
    (", ".intercalate names).toList.splitOn ',' = pieces names := by
  rw [toList_intercalate_names]
  refine List.splitOn_intercalate ',' ?_ (pieces_ne_nil names)
  cases names with
  | nil => simp [pieces]
  | cons first rest =>
    obtain ⟨clean, others⟩ := List.forall_mem_cons.mp clean
    refine List.forall_mem_cons.mpr ⟨clean, List.forall_mem_map.mpr fun s mem => ?_⟩
    simpa using others s mem

/-- The names can be read off their pieces, a single empty name apart. -/
lemma names_of_pieces (same : pieces as = pieces bs) (ha : as ≠ [""]) (hb : bs ≠ [""]) : as = bs := by
  have single {first : String} {rest : List String} (h : pieces [] = pieces (first :: rest)) :
      first :: rest = [""] := by
    obtain ⟨empty, none⟩ := List.cons.inj h
    rw [List.map_eq_nil_iff.mp none.symm, String.toList_eq_nil_iff.mp empty.symm]
  match as, bs with
  | [], [] => rfl
  | [], _ :: _ => exact absurd (single same) hb
  | _ :: _, [] => exact absurd (single same.symm) ha
  | _ :: _, _ :: _ =>
    obtain ⟨first, rest⟩ := List.cons.inj same
    have injective : Function.Injective fun s : String => ' ' :: s.toList := fun s t eq =>
      String.toList_inj.mp (List.cons.inj eq).2
    rw [String.toList_inj.mp first, List.map_injective_iff.mpr injective rest]

lemma arguments_none_ne_some : arguments none ≠ arguments (some names) := by
  intro same
  have chars := congrArg String.toList same
  simp [arguments] at chars

/-- **The text determines the names.** -/
theorem arguments_injective (ha : IsLegible a) (hb : IsLegible b)
    (same : arguments a = arguments b) : a = b := by
  match a, b with
  | none, none => rfl
  | none, some _ => exact absurd same arguments_none_ne_some
  | some _, none => exact absurd same.symm arguments_none_ne_some
  | some as, some bs =>
    have inner : (", ".intercalate as).toList = (", ".intercalate bs).toList := by
      have chars := congrArg String.toList same
      simpa only [arguments, String.toList_append, List.append_cancel_left_eq,
        List.append_cancel_right_eq] using chars
    have pieces : pieces as = pieces bs := by
      rw [← splitOn_names ha.1, ← splitOn_names hb.1, inner]
    rw [names_of_pieces pieces ha.2 hb.2]

/-- A single empty name looks like no name. -/
example : arguments (some [""]) = arguments (some []) := rfl

end Text

end Parameter

namespace Filters

open ApiStencil.Action Parameter

/-! ### Records with names -/

section Names

variable {v record : Value} {s : String} {names : Option (List String)}

/-- A record is an object with a string for its name. -/
def HasName (record : Value) (s : String) : Prop :=
  ∃ members, record = .obj members ∧ members.lookup "name" = some (.str s)

/-- A value is a list of records with these names, or null where the list is absent. -/
def HaveNames (v : Value) : Option (List String) → Prop
  | none => v = .null
  | some names => ∃ records, v = .arr records ∧ List.Forall₂ HasName records names

lemma nameOf_eq_ok_iff : nameOf record = .ok s ↔ HasName record s := by
  cases record with
  | obj members =>
    have lookup : HasName (.obj members) s ↔ members.lookup "name" = some (.str s) :=
      ⟨fun ⟨_, eq, named⟩ => Value.obj.inj eq ▸ named, fun named => ⟨members, rfl, named⟩⟩
    rw [lookup, nameOf, Value.get?]
    split
    · rename_i found
      rw [found, Except.ok.injEq, Option.some.injEq, Value.str.injEq]
    · rename_i other
      exact ⟨nofun, fun named => absurd named (other s)⟩
  | _ => exact ⟨nofun, fun ⟨_, eq, _⟩ => nomatch eq⟩

/-- The names in a list of records, if there is one. -/
def namesOf (v : Value) : Except Failure (Option (List String)) := do
  match ← optionalArray toFnArgsName v with
  | none => .ok none
  | some records => (records.mapM nameOf).map some

lemma namesOf_eq_ok_iff : namesOf v = .ok names ↔ HaveNames v names := by
  cases v with
  | null =>
    have absent : namesOf .null = .ok none := rfl
    rw [absent, Except.ok.injEq]
    cases names with
    | none => exact iff_of_true rfl rfl
    | some names => exact iff_of_false nofun fun ⟨_, eq, _⟩ => nomatch eq
  | arr records =>
    have present : namesOf (.arr records) = (records.mapM nameOf).map some := rfl
    rw [present]
    cases names with
    | none => exact iff_of_false (by cases records.mapM nameOf <;> nofun) nofun
    | some names =>
      have given : (records.mapM nameOf).map some = .ok (some names) ↔
          records.mapM nameOf = .ok names := by
        cases records.mapM nameOf <;> simp [Except.map]
      rw [given, mapM_eq_ok_iff]
      simp only [nameOf_eq_ok_iff]
      exact ⟨fun named => ⟨records, rfl, named⟩, fun ⟨_, eq, named⟩ => Value.arr.inj eq ▸ named⟩
  | _ =>
    refine iff_of_false nofun ?_
    cases names with
    | none => exact nofun
    | some names => exact fun ⟨_, eq, _⟩ => nomatch eq

/-- **Which values have names**: null, and the arrays of records with names. -/
lemma exists_haveNames_iff : (∃ names, HaveNames v names) ↔
    v = .null ∨ ∃ records, v = .arr records ∧ ∀ record ∈ records, ∃ s, HasName record s := by
  constructor
  · rintro ⟨none | names, h⟩
    · exact .inl h
    · obtain ⟨records, eq, named⟩ := h
      exact .inr ⟨records, eq, exists_forall₂_iff.mp ⟨names, named⟩⟩
  · rintro (null | ⟨records, eq, named⟩)
    · exact ⟨none, null⟩
    · obtain ⟨names, named⟩ := exists_forall₂_iff.mpr named
      exact ⟨some names, records, eq, named⟩

/-- The filter renders the names of its value. -/
lemma perform_toFnArgs (v : Value) (args : Arguments) (l : Ledger) :
    (toFnArgs.run v args).perform l = ((namesOf v).map fun names => .str (arguments names), l) := by
  unfold toFnArgs Filter.ofPure namesOf
  dsimp only
  rw [perform_liftM]
  cases optionalArray toFnArgsName v with
  | error e => rfl
  | ok records =>
    cases records with
    | none => rfl
    | some records =>
      refine congrArg (·, l) ?_
      change (records.mapM nameOf >>= _) = ((records.mapM nameOf).map some).map _
      cases records.mapM nameOf <;> rfl

lemma perform_toFnArgs_of_names (h : HaveNames v names) (args : Arguments) (l : Ledger) :
    (toFnArgs.run v args).perform l = (.ok (.str (arguments names)), l) := by
  rw [perform_toFnArgs, namesOf_eq_ok_iff.mpr h]
  rfl

lemma perform_toFnArgs_eq_error_iff (v : Value) (args : Arguments) (l : Ledger) :
    (∃ e, (toFnArgs.run v args).perform l = (.error e, l)) ↔ ¬ ∃ names, HaveNames v names := by
  simp only [← namesOf_eq_ok_iff, perform_toFnArgs]
  cases namesOf v <;> simp [Except.map]

end Names

/-! ### Parameters as records -/

section Parameters

variable {p : Parameter} {record : Value}

/-- A value is the written form of a parameter: the object with its members, in any order. -/
def IsForm (p : Parameter) (record : Value) : Prop :=
  ∃ members members', p.toJson = .obj members ∧ members.Perm members' ∧ record = .obj members'

lemma isForm_toJson (p : Parameter) : IsForm p p.toJson := ⟨_, _, rfl, .refl _, rfl⟩

/-- A written form has the name of the parameter. -/
lemma hasName_of_isForm (h : IsForm p record) : HasName record p.name := by
  obtain ⟨members, members', eq, same, rfl⟩ := h
  refine ⟨members', rfl, lookup_of_mem ?_ (same.mem_iff.mp ?_)⟩
  · rw [← (same.map Prod.fst).nodup_iff, ← Value.obj.inj eq]
    cases p.description with
    | none => exact (by decide : ["name", "in", "required"].Nodup)
    | some text => exact (by decide : ["name", "in", "required", "description"].Nodup)
  · rw [← Value.obj.inj eq]
    exact List.mem_cons_self

end Parameters

/-- **Argument lists.**  A list of parameters, the list of their names and the array of their JSON forms
give one text; the filter fails exactly on what is neither null nor an array of objects that all have a
string for their name, and renders these names otherwise; and the text determines the names, whether
absent or without commas, a single empty name apart. -/
theorem toFnArgs_arguments :
    (∀ (ps : List Parameter) (records : List Value) (args : Arguments) (l : Ledger),
      List.Forall₂ IsForm ps records →
        (toFnArgs.run (.arr records) args).perform l =
          (.ok (.str (argumentsFor Parameter.name (some ps))), l) ∧
        argumentsFor Parameter.name (some ps) = argumentsFor id (some (ps.map Parameter.name))) ∧
    (∀ (v : Value) (args : Arguments) (l : Ledger),
      ((∃ e, (toFnArgs.run v args).perform l = (.error e, l)) ↔
        ¬ (v = .null ∨ ∃ records, v = .arr records ∧ ∀ record ∈ records, ∃ s, HasName record s)) ∧
      ∀ names, HaveNames v names →
        (toFnArgs.run v args).perform l = (.ok (.str (argumentsFor id names)), l)) ∧
    (∀ names : List String, argumentsFor id none ≠ argumentsFor id (some names)) ∧
    ∀ a b : Option (List String), IsLegible a → IsLegible b →
      argumentsFor id a = argumentsFor id b → a = b := by
  have plain (names : Option (List String)) : argumentsFor id names = arguments names := by
    rw [argumentsFor, List.map_id_fun, Option.map_id]
    rfl
  refine ⟨fun ps records args l forms => ⟨?_, ?_⟩, fun v args l => ⟨?_, fun names named => ?_⟩,
    fun names => ?_, fun a b ha hb same => ?_⟩
  · have named : List.Forall₂ HasName records (ps.map Parameter.name) := by
      rw [List.forall₂_map_right_iff]
      exact List.Forall₂.flip (forms.imp fun _ _ => hasName_of_isForm)
    have names : HaveNames (.arr records) (some (ps.map Parameter.name)) := ⟨records, rfl, named⟩
    exact perform_toFnArgs_of_names names args l
  · rw [plain]
    rfl
  · rw [perform_toFnArgs_eq_error_iff, exists_haveNames_iff]
  · rw [plain]
    exact perform_toFnArgs_of_names named args l
  · rw [plain, plain]
    exact arguments_none_ne_some
  · rw [plain, plain] at same
    exact arguments_injective ha hb same

/-- A parameter that is written with its name first. -/
def queryId : Parameter := .ofName "id?" .query

/-- The form of the parameter with its members in ascending order. -/
def queryIdForm : Value :=
  .obj [("in", .str "query"), ("name", .str "id?"), ("required", .bool false)]

theorem toFnArgs_arguments_queryId :
    (toFnArgs.run (.arr [queryId.toJson, queryIdForm]) []).perform ⟨.empty, []⟩ =
      (.ok (.str (argumentsFor Parameter.name (some [queryId, queryId]))), ⟨.empty, []⟩) ∧
    (toFnArgs.run .null []).perform ⟨.empty, []⟩ = (.ok (.str (argumentsFor id none)), ⟨.empty, []⟩) ∧
    argumentsFor id (some ["a", ""]) ≠ argumentsFor id (some ["a"]) := by
  have form : IsForm queryId queryIdForm := ⟨_, _, rfl, .swap _ _ _, rfl⟩
  refine ⟨(toFnArgs_arguments.1 _ _ _ _ (.cons (isForm_toJson _) (.cons form .nil))).1,
    (toFnArgs_arguments.2.1 .null _ _).2 none rfl, fun same => ?_⟩
  have legible : IsLegible (some ["a", ""]) := ⟨by decide, by decide⟩
  have legible' : IsLegible (some ["a"]) := ⟨by decide, by decide⟩
  cases toFnArgs_arguments.2.2.2 _ _ legible legible' same

end Filters

end ApiStencil
