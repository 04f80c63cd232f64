import ApiStencil.Proofs.Environment.Installation
import Mathlib.Data.Set.Card

/-!
# Filter tables put together from parts

A table is put together from filters and from whole tables, one part after the other.  Under each name
it holds what the last part with that name has for it (`find?_filters_ofParts`,
`find?_functions_ofParts`), and an engine with the table runs just that (`RunsFilter`, `RunsFunction`).
Filters and functions do not touch each other, so a filter of a name leaves the function of that name
as it is.

`ofParts_bindings` is all of this together with the algebra of tables: putting tables together is
associative, the empty table is neutral, and the two halves of the full table can be put together in
either order.  Two names are not an engine's to look up: pipes that are marks, `safe` and `default`, do
not run a filter of that name, and a section `safe` does not either (`renderSource_safe_kept`).
-/

namespace ApiStencil

open Json Template ApiStencil.Action

/-! ### Running a filter or a function of a name -/

/-- What a use of a filter by a name does; failures of its arguments are failures of the filter. -/
def Filter.called (f : Filter) (name : String) (v : Value) (args : Action Arguments) :
    Action Marked :=
  mapFailure (.filterCall name) do
    let result ← f.run v (← args)
    pure ⟨result, !f.safe⟩

/-- What a use of a function by a name does; failures of its arguments are failures of the function. -/
def Function.called (g : Function) (name : String) (args : Action Arguments) : Action Marked :=
  mapFailure (.functionCall name) do
    let result ← g.run (← args)
    pure ⟨result, !g.safe⟩

/-- Templates run a filter under a name: a pipe of that name, if it is no mark, sends its value through
the filter, and a section of that name, if it is not `safe`, sends its text through it. -/
structure RunsFilter (tools : Tools) (name : String) (f : Filter) : Prop where
  pipe : isMark name = false → ∀ vars args rest v,
    throughPipes tools vars (.mk name args :: rest) v = (do
      let next ← f.called name v.value (argumentsOf tools vars args)
      throughPipes tools vars rest next)
  body : name ≠ safeName → ∀ (setting : Setting) frames args nodes, setting.tools = tools →
    renderNode setting frames (.filtered (.mk name args) nodes) = (do
      let (s, frames) ← renderNodes setting frames nodes
      let result ← f.called name (.str s) (argumentsOf tools (setting.variables frames) args)
      pure (result.value.shown, frames))

/-- Templates run a function under a name, wherever a call of that name stands: as a value, as a
condition, or among texts that are joined. -/
structure RunsFunction (tools : Tools) (name : String) (g : Function) : Prop where
  value : ∀ vars escaping negated standIn args,
    startOf tools vars escaping negated standIn (.function (.mk name args)) = (do
      let result ← g.called name (argumentsOf tools vars args)
      pure (some result))
  condition : ∀ vars escaping negated args pipes,
    truthOf tools vars escaping (.mk negated (.function (.mk name args)) pipes) = (do
      match ← g.called name (argumentsOf tools vars args) with
      | ⟨.bool b, _⟩ => pure (b != negated)
      | _ => throw (.notBoolean name))
  operand : ∀ vars escaped args,
    operandOf tools vars escaped (.function (.mk name args)) = (do
      let result ← g.called name (argumentsOf tools vars args)
      let s ← liftM (joinedText ("function call " ++ name) result.value)
      pure (s, result.escaped))

section Runs

variable {tools : Tools} {name : String}

lemma runsFilter_of_find? {f : Filter} (found : tools.filters.find? name = some f) :
    RunsFilter tools name f := by
  have applied (v : Value) (args : Action Arguments) :
      tools.applyFilter name v args = f.called name v args := by
    rw [Tools.applyFilter, found]
    rfl
  refine ⟨fun unmarked vars args rest v => ?_, fun ne setting frames args nodes same => ?_⟩
  · rw [throughPipes, unmarked, if_neg Bool.false_ne_true, applied]
  · subst same
    rw [renderNode]
    simp only [if_neg ne, applied]

lemma runsFunction_of_find? {g : Function} (found : tools.functions.find? name = some g) :
    RunsFunction tools name g := by
  have applied (args : Action Arguments) : tools.callFunction name args = g.called name args := by
    rw [Tools.callFunction, found]
    rfl
  refine ⟨fun vars escaping negated standIn args => ?_, fun vars escaping negated args pipes => ?_,
    fun vars escaped args => ?_⟩
  · rw [startOf, applied]
  · rw [truthOf]
    exact congrArg (· >>= _) (applied (argumentsOf tools vars args))
  · rw [operandOf, applied]

end Runs

namespace FilterTable

/-! ### Parts -/

/-- A part of a table: a filter under a name, or a whole table. -/
inductive Part where
  | filter (name : String) (f : Filter)
  | table (t : FilterTable)

namespace Part

/-- The filter that a part has for a name. -/
def filter? : Part → String → Option Filter
  | .filter name f, n => if n = name then some f else none
  | .table t, n => t.filters.find? n

/-- The function that a part has for a name. -/
def function? : Part → String → Option Function
  | .filter _ _, _ => none
  | .table t, n => t.functions.find? n

end Part

/-- The table with one more part. -/
def add (table : FilterTable) : Part → FilterTable
  | .filter name f => table.withFilter name f
  | .table t => table.extend t

/-- The table of parts that are added one after the other to the empty table. -/
def ofParts (parts : List Part) : FilterTable := parts.foldl add empty

/-- The filter of the last part that has one for a name. -/
def lastFilter? (parts : List Part) (n : String) : Option Filter :=
  parts.reverse.findSome? (·.filter? n)

/-- The function of the last part that has one for a name. -/
def lastFunction? (parts : List Part) (n : String) : Option Function :=
  parts.reverse.findSome? (·.function? n)

section Parts

variable (table : FilterTable) (parts : List Part) (part : Part) (n : String)

lemma ofParts_concat : ofParts (parts ++ [part]) = (ofParts parts).add part := by
  rw [ofParts, List.foldl_append]
  rfl

lemma find?_filters_add :
    (table.add part).filters.find? n = (part.filter? n).or (table.filters.find? n) := by
  cases part with
  | filter name f =>
    refine Catalog.find?_insert.trans ?_
    rw [Part.filter?]
    split <;> rfl
  | table t => exact Catalog.find?_extend

lemma find?_functions_add :
    (table.add part).functions.find? n = (part.function? n).or (table.functions.find? n) := by
  cases part with
  | filter name f => rfl
  | table t => exact Catalog.find?_extend

/-- Where each part has the say over those before it, the last part that says something decides. -/
lemma ofParts_of_add {β : Type} (look : FilterTable → Option β) (own : Part → Option β)
    (nothing : look empty = none)
    (decides : ∀ table part, look (table.add part) = (own part).or (look table)) :
    look (ofParts parts) = parts.reverse.findSome? own := by
  induction parts using List.reverseRecOn with
  | nil => exact nothing
  | append_singleton parts part ih =>
    rw [ofParts_concat, decides, ih, List.reverse_concat, List.findSome?_cons]
    cases own part <;> rfl

/-- **The last part decides** which filter a name has. -/
theorem find?_filters_ofParts : (ofParts parts).filters.find? n = lastFilter? parts n :=
  ofParts_of_add parts (·.filters.find? n) (·.filter? n) rfl fun table part =>
    find?_filters_add table part n

/-- **The last part decides** which function a name has. -/
theorem find?_functions_ofParts : (ofParts parts).functions.find? n = lastFunction? parts n :=
  ofParts_of_add parts (·.functions.find? n) (·.function? n) rfl fun table part =>
    find?_functions_add table part n

lemma exists_lastFilter?_iff :
    (∃ f, lastFilter? parts n = some f) ↔ ∃ part ∈ parts, ∃ f, part.filter? n = some f := by
  simp only [lastFilter?, ← Option.isSome_iff_exists, List.findSome?_isSome_iff, List.mem_reverse]

/-- The number of filters is that of the names that some part has a filter for. -/
lemma size_ofParts :
    (ofParts parts).size = {n | ∃ part ∈ parts, ∃ f, part.filter? n = some f}.ncard := by
  have names : {n | ∃ part ∈ parts, ∃ f, part.filter? n = some f} =
      ((ofParts parts).filters.names.toFinset : Set String) := by
    ext n
    rw [List.coe_toFinset, Set.mem_ofPred_eq, Set.mem_ofPred_eq, Catalog.mem_names_iff,
      find?_filters_ofParts, exists_lastFilter?_iff]
  rw [names, Set.ncard_coe_finset, List.toFinset_card_of_nodup (Catalog.nodup_names _)]
  exact (List.length_map _).symm

end Parts

/-! ### Whole tables -/

theorem extend_extend (a b c : FilterTable) : (a.extend b).extend c = a.extend (b.extend c) := by
  simp only [extend, Catalog.extend_extend]

theorem empty_extend (table : FilterTable) : empty.extend table = table := by
  rw [extend, empty, Catalog.empty_extend, Catalog.empty_extend]

/-- The halves of the full table have no name in common. -/
lemma names_disjoint (strict : Bool) (i : Handle) :
    (∀ name ∈ (accumulators i).filters.names, name ∉ (stateless strict).filters.names) ∧
      ∀ name ∈ (accumulators i).functions.names, name ∉ (stateless strict).functions.names := by
  -- the names are the same for all scopes
  obtain ⟨filters, functions⟩ := accumulators_paired strict strict i .first
  simp only [filters.mem_names_iff, functions.mem_names_iff]
  cases strict <;> decide +kernel

/-- The halves of the full table can be put together in either order. -/
theorem accumulators_extend_stateless (strict : Bool) (i : Handle) :
    (accumulators i).extend (stateless strict) = full strict i := by
  obtain ⟨filters, functions⟩ := names_disjoint strict i
  rw [full, extend, extend, Catalog.extend_comm filters, Catalog.extend_comm functions]

/-- **Filter tables put together.**  However a table is put together from filters and tables,

* its filters and its functions are listed in strictly ascending order of their names;
* it has a filter of a name exactly if some part has one, and its size is the number of such names;
* in an engine with the table, templates run under a name the filter of the last part that has one for
  it, and likewise the function, the engine's own marks apart;
* a further filter changes no function.

Putting tables together is associative with the empty table as its neutral element, and the two halves
of the full table give it in either order. -/
theorem ofParts_bindings :
    (∀ parts, (ofParts parts).filterNames.Pairwise (· < ·) ∧
      (ofParts parts).functionNames.Pairwise (· < ·) ∧
      (∀ n, (ofParts parts).containsFilter n = true ↔
        ∃ part ∈ parts, ∃ f, part.filter? n = some f) ∧
      (ofParts parts).size = {n | ∃ part ∈ parts, ∃ f, part.filter? n = some f}.ncard ∧
      (∀ engine n f, lastFilter? parts n = some f →
        RunsFilter ((ofParts parts).install engine).tools n f) ∧
      (∀ engine n g, lastFunction? parts n = some g →
        RunsFunction ((ofParts parts).install engine).tools n g) ∧
      ∀ n f, (ofParts (parts ++ [.filter n f])).functions = (ofParts parts).functions) ∧
    (∀ a b c : FilterTable, (a.extend b).extend c = a.extend (b.extend c)) ∧
    (∀ table : FilterTable, empty.extend table = table ∧ table.extend empty = table) ∧
    ∀ strict i, (stateless strict).extend (accumulators i) = full strict i ∧
      (accumulators i).extend (stateless strict) = full strict i := by
  refine ⟨fun parts => ⟨Catalog.pairwise_names _, Catalog.pairwise_names _, fun n => ?_,
    size_ofParts parts, fun engine n f last => ?_, fun engine n g last => ?_, fun n f => ?_⟩,
    extend_extend, fun table => ⟨empty_extend table, rfl⟩,
    fun strict i => ⟨rfl, accumulators_extend_stateless strict i⟩⟩
  · rw [containsFilter, find?_filters_ofParts, Option.isSome_iff_exists, exists_lastFilter?_iff]
  · refine runsFilter_of_find? (Catalog.find?_extend.trans ?_)
    rw [find?_filters_ofParts, last, Option.some_or]
  · refine runsFunction_of_find? (Catalog.find?_extend.trans ?_)
    rw [find?_functions_ofParts, last, Option.some_or]
  · rw [ofParts_concat]
    rfl

/-! ### A filter under the name of a mark -/

/-- The filter that gives one text for every value. -/
def answering (text : String) : Filter := .ofPure fun _ _ => .ok (.str text)

/-- A pipe whose name is no mark runs the filter that was put last. -/
theorem ofParts_bindings_shout : lastFilter? [.filter "shout" (answering "Y"), .table (full true .first),
      .filter "shout" (answering "Z")] "shout" = some (answering "Z") ∧
    RunsFilter ((ofParts [.filter "shout" (answering "Y"), .table (full true .first),
      .filter "shout" (answering "Z")]).install .bare).tools "shout" (answering "Z") := by
  have last : lastFilter? [.filter "shout" (answering "Y"), .table (full true .first),
      .filter "shout" (answering "Z")] "shout" = some (answering "Z") := rfl
  exact ⟨last, (ofParts_bindings.1 _).2.2.2.2.1 _ _ _ last⟩

/-- The string x sent through a pipe of a name. -/
def sentThrough (name : String) : String := "\x7b\x7b 'x' | " ++ name ++ " \x7d\x7d"

/-- A filter under the name of a mark is not run, unlike one under another name. -/
theorem renderSource_safe_kept :
    lastFilter? [.filter "safe" (answering "Z")] "safe" = some (answering "Z") ∧
    ((ofParts [.filter "safe" (answering "Z")]).renderSource "t" (sentThrough "safe") (.obj [])
      .empty).1 = .ok "x" ∧
    ((ofParts [.filter "shout" (answering "Z")]).renderSource "t" (sentThrough "shout") (.obj [])
      .empty).1 = .ok "Z" := by
  refine ⟨rfl, ?_, ?_⟩ <;> decide +kernel

end FilterTable

end ApiStencil
