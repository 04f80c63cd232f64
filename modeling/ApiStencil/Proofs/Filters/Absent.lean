import ApiStencil.Proofs.Environment.Escaping
import ApiStencil.Proofs.Filters.Arguments
import ApiStencil.Proofs.Filters.Identifiers
import ApiStencil.Proofs.Filters.Lookup
import ApiStencil.Proofs.Filters.Table

/-!
# Absent input

Null is absent input.  The filters on records take it: with the arguments that they ask for they give
an empty or absent result and do nothing else (`stateless_takesNull`).  The accumulator entries take no
keys from it, so an entry that adds changes nothing; but they have to lock their flags, and fail on a
spoilt lock as they do on all input.

`full_null` says this of the whole table of a render.  The filter for response types is left out, which
decodes its value and has no case for null.
-/

namespace ApiStencil

open Json Template ApiStencil.Action

/-! ### Plain filters -/

/-- A plain filter gives one result whatever has been accumulated, and leaves that as it is. -/
lemma Filter.perform_of_plain {f : Filter} (h : f.Plain) (v : Value) (args : Arguments) (l : Ledger) :
    (f.run v args).perform l = (f.result v args, l) := by
  obtain ⟨run, eq⟩ := h
  rw [Filter.result, eq, perform_liftM, perform_liftM]

namespace Filters

/-! ### Arguments that are asked for, and results -/

/-- The arguments that the filter of a name asks for are there, with values of the right shapes. -/
structure HasArguments (name : String) (args : Arguments) : Prop where
  location : name = paramInName ∨ name = paramNotInName →
    ∃ tag, args.lookup "location" = some (.str tag)
  field : name = parameterEqualName → ∃ field, args.lookup "field" = some (.str field)
  value : name = parameterEqualName → ∃ wanted, args.lookup "value" = some wanted

/-- What the filter of a name gives for absent input: the argument list without names, no records, or
null. -/
def absentResult (name : String) : Value :=
  if name = toFnArgsName then .str "()"
  else if name = paramInName ∨ name = paramNotInName then .arr []
  else .null

/-- A plain filter that takes absent input. -/
structure TakesNull (name : String) (f : Filter) : Prop where
  plain : f.Plain
  result : ∀ {args}, HasArguments name args → f.result .null args = .ok (absentResult name)

lemma takesNull_toFnArgs : TakesNull toFnArgsName toFnArgs where
  plain := Filter.plain_ofPure _
  result _ := rfl

lemma takesNull_paramIn : TakesNull paramInName paramIn where
  plain := Filter.plain_ofPure _
  result given := by
    obtain ⟨tag, asks⟩ := given.location (.inl rfl)
    exact paramIn_eq_ok_iff.mpr ⟨[], tag, rfl, tagOf?_eq_some_iff.mpr asks, rfl⟩

lemma takesNull_paramNotIn : TakesNull paramNotInName paramNotIn where
  plain := Filter.plain_ofPure _
  result given := by
    obtain ⟨tag, asks⟩ := given.location (.inr rfl)
    exact paramNotIn_eq_ok_iff.mpr ⟨[], tag, rfl, tagOf?_eq_some_iff.mpr asks, rfl⟩

lemma takesNull_stripQuestionMark : TakesNull stripQuestionMarkName stripQuestionMark where
  plain := Filter.plain_ofPure _
  result {args} _ := (congrArg Prod.fst (perform_stripQuestionMark args ⟨.empty, []⟩)).trans
    ((resultOf_eq_null_iff stripQuestionMarkName stripMarker).mpr (.inl rfl))

lemma takesNull_setOptionalSymbol : TakesNull setOptionalSymbolName setOptionalSymbol where
  plain := Filter.plain_ofPure _
  result {args} _ := (congrArg Prod.fst (perform_setOptionalSymbol args ⟨.empty, []⟩)).trans
    ((resultOf_eq_null_iff setOptionalSymbolName markerOf).mpr (.inl rfl))

lemma takesNull_parameterEqual : TakesNull parameterEqualName parameterEqual where
  plain := Filter.plain_ofPure _
  result given := by
    obtain ⟨field, names⟩ := given.field rfl
    obtain ⟨wanted, wants⟩ := given.value rfl
    exact congrArg Prod.fst (perform_parameterEqual (v := .null) rfl names wants ⟨.empty, []⟩)

end Filters

/-! ### The rows of the table -/

namespace FilterTable

/-- All filters on records but the one for response types take absent input. -/
lemma stateless_takesNull (strict : Bool) : (stateless strict).filters.Each fun name f =>
    name ≠ Filters.responseTypeName → Filters.TakesNull name f := by
  refine .insert ?_ fun other => absurd rfl other
  refine .insert ?_ fun _ => Filters.takesNull_parameterEqual
  refine .insert ?_ fun _ => Filters.takesNull_setOptionalSymbol
  refine .insert ?_ fun _ => Filters.takesNull_stripQuestionMark
  refine .insert ?_ fun _ => Filters.takesNull_paramNotIn
  refine .insert ?_ fun _ => Filters.takesNull_paramIn
  refine .insert ?_ fun _ => Filters.takesNull_toFnArgs
  exact Catalog.each_empty

lemma accumulators_entries (i : Handle) : (accumulators i).filters.Each fun name f =>
    ∃ entry : Entry, entry.name = name ∧ f = (entry.on i).asFilter := by
  repeat refine .insert ?_ ⟨_, rfl, rfl⟩
  exact Catalog.each_empty

end FilterTable

/-! ### Absent input of an entry -/

namespace Entry

variable {entry : Entry} {i : Handle} {l : Ledger}

/-- No entry looks for keys in absent input. -/
lemma keysOf_null (entry : Entry) : entry.keysOf .null = .ok [] := by
  obtain ⟨kind, action⟩ := entry
  cases action <;> rfl

lemma perform_null_unlocked (unlocked : ((l.scope i).get entry.kind).poisoned = false) :
    ∃ text after, ((entry.on i).apply .null).perform l = (.ok (.str text), after) := by
  rw [BoundEntry.perform_apply, keysOf_null]
  dsimp only
  rw [unlocked]
  exact ⟨_, _, rfl⟩

/-- Nothing is added for absent input. -/
lemma perform_null_add (unlocked : ((l.scope i).get entry.kind).poisoned = false)
    (adds : entry.action = .add) :
    ((entry.on i).apply .null).perform l = (.ok (.str ""), l) := by
  have keyed : Keyed (EntryCall.filter entry .null []).input [] := .null
  have added := EntryCall.perform_add_of_unlocked (.filter entry .null []) unlocked adds keyed
  exact added.trans (congrArg (Prod.mk _) (Ledger.added_nil unlocked))

end Entry

/-! ### The full table -/

namespace FilterTable

open Filters

lemma find?_full (strict : Bool) (i : Handle) (name : String) :
    (full strict i).filters.find? name =
      ((accumulators i).filters.find? name).or ((stateless strict).filters.find? name) :=
  Catalog.find?_extend

/-- In the full table the filters on records stand as they do on their own. -/
lemma find?_full_of_stateless {strict : Bool} {i : Handle} {name : String}
    (has : (stateless strict).containsFilter name = true) :
    (full strict i).filters.find? name = (stateless strict).filters.find? name := by
  have none : (accumulators i).filters.find? name = none := by
    rw [Option.eq_none_iff_forall_ne_some]
    intro f found
    exact (names_disjoint strict i).1 name (Catalog.mem_names_iff.mpr ⟨f, found⟩)
      (Catalog.mem_names_iff.mpr (Option.isSome_iff_exists.mp has))
  rw [find?_full, none, Option.none_or]

lemma find?_full_name (strict : Bool) (i : Handle) (entry : Entry) :
    (full strict i).filters.find? entry.name = some (entry.on i).asFilter := by
  rw [find?_full, find?_filters_accumulators, Option.some_or]

/-- **Absent input.**  With the arguments that it asks for, a filter of the full table other than the one
for response types

* succeeds on null, if no lock is spoilt that it needs;
* gives its absent result and changes nothing, if it is a filter on records;
* gives the empty text and changes nothing, if it adds to an accumulator;
* fails, and changes nothing, if it needs a lock that is spoilt. -/
theorem full_null (config : Config) (i : Handle) {name : String} {f : Filter} {args : Arguments}
    (found : (full config.strictStatusCodes i).filters.find? name = some f)
    (other : name ≠ responseTypeName) (given : HasArguments name args) (l : Ledger) :
    ((∀ entry : Entry, entry.name = name → ((l.scope i).get entry.kind).poisoned = false) →
      ∃ result after, (f.run .null args).perform l = (.ok result, after)) ∧
    ((stateless config.strictStatusCodes).containsFilter name = true →
      (f.run .null args).perform l = (.ok (absentResult name), l)) ∧
    (∀ entry : Entry, entry.name = name → entry.action = .add →
      ((l.scope i).get entry.kind).poisoned = false →
        (f.run .null args).perform l = (.ok (.str ""), l)) ∧
    ∀ entry : Entry, entry.name = name → ((l.scope i).get entry.kind).poisoned = true →
      (f.run .null args).perform l = (.error (.accumulatorPoisoned name entry.kind), l) := by
  have onRecords (own : (stateless config.strictStatusCodes).filters.find? name = some f) :
      (f.run .null args).perform l = (.ok (absentResult name), l) := by
    have takes := stateless_takesNull _ name f own other
    rw [Filter.perform_of_plain takes.plain, takes.result given]
  have ofEntry {entry : Entry} (named : entry.name = name) : f = (entry.on i).asFilter := by
    have own := find?_full_name config.strictStatusCodes i entry
    rw [named, found] at own
    exact Option.some.inj own
  refine ⟨fun unlocked => ?_, fun has => ?_, fun entry named adds unlocked => ?_,
    fun entry named poisoned => ?_⟩
  · rcases Option.or_eq_some_iff.mp ((find?_full _ i name).symm.trans found) with own | ⟨-, own⟩
    · obtain ⟨entry, named, rfl⟩ := accumulators_entries i name f own
      obtain ⟨text, after, ok⟩ := Entry.perform_null_unlocked (unlocked entry named)
      exact ⟨_, _, ok⟩
    · exact ⟨_, _, onRecords own⟩
  · exact onRecords ((find?_full_of_stateless has).symm.trans found)
  · rw [ofEntry named]
    exact Entry.perform_null_add unlocked adds
  · rw [ofEntry named, ← named]
    exact BoundEntry.perform_apply_poisoned entry.keysOf_null poisoned

/-- Two filters on null: one whose location is no known one, and one that adds. -/
theorem full_null_unknown :
    (paramIn.run .null [("location", .str "Query")]).perform ⟨.empty, []⟩ =
      (.ok (.arr []), ⟨.empty, []⟩) ∧
    (((Entry.mk .imports .add).on .first).asFilter.run .null []).perform ⟨.empty, []⟩ =
      (.ok (.str ""), ⟨.empty, []⟩) := by
  have located : HasArguments paramInName [("location", .str "Query")] :=
    ⟨fun _ => ⟨"Query", rfl⟩, fun eq => absurd eq (by decide), fun eq => absurd eq (by decide)⟩
  have unasked : HasArguments (Entry.mk .imports .add).name [] :=
    ⟨fun eq => absurd eq (by decide), fun eq => absurd eq (by decide), fun eq => absurd eq (by decide)⟩
  have records : (full Config.default.strictStatusCodes .first).filters.find? paramInName =
      some paramIn := rfl
  exact ⟨(full_null .default .first records (by decide) located _).2.1 rfl,
    (full_null .default .first (find?_full_name _ _ _) (by decide) unasked _).2.2.1 _ rfl rfl rfl⟩

/-- One scope, whose imports cannot be used. -/
def spoilt : Scopes := .single (Scope.empty.poison .imports)

/-- Absent input is refused where a lock is spoilt, and by the filter for response types. -/
theorem full_null_refused :
    (full true .first).filters.find? "addImport" =
      some ((Entry.mk .imports .add).on .first).asFilter ∧
    (((Entry.mk .imports .add).on .first).asFilter.run .null []).perform ⟨spoilt, []⟩ =
      (.error (.accumulatorPoisoned "addImport" .imports), ⟨spoilt, []⟩) ∧
    (full false .first).filters.find? responseTypeName = some (responseType false) ∧
    ∃ e, ((responseType false).run .null []).perform ⟨.empty, []⟩ = (.error e, ⟨.empty, []⟩) :=
  ⟨rfl, rfl, rfl, _, rfl⟩

end FilterTable

end ApiStencil
