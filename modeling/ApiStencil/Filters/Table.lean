import ApiStencil.Filters.Api
import ApiStencil.Filters.Entry
import ApiStencil.Template.Engine

/-!
Filter tables: filters and functions by name, in two catalogs that do not touch each other.  A table
is put together from parts, of which a later one wins where names clash, and is then installed in a
template engine.
-/

namespace ApiStencil

/-- Filters and functions by name. -/
structure FilterTable where
  filters : Catalog Filter
  functions : Catalog Function

namespace FilterTable

/-- The table without entries. -/
def empty : FilterTable := ⟨.empty, .empty⟩

/-- The table with one more filter. -/
def withFilter (table : FilterTable) (name : String) (filter : Filter) : FilterTable :=
  { table with filters := table.filters.insert name filter }

/-- The table with one more function. -/
def withFunction (table : FilterTable) (name : String) (function : Function) : FilterTable :=
  { table with functions := table.functions.insert name function }

/-- Both tables in one; where names clash the second one wins. -/
def extend (table other : FilterTable) : FilterTable :=
  ⟨table.filters.extend other.filters, table.functions.extend other.functions⟩

/-- The filters on records of an API description. -/
def stateless (strict : Bool) : FilterTable :=
  empty
    |>.withFilter Filters.toFnArgsName Filters.toFnArgs
    |>.withFilter Filters.paramInName Filters.paramIn
    |>.withFilter Filters.paramNotInName Filters.paramNotIn
    |>.withFilter Filters.stripQuestionMarkName Filters.stripQuestionMark
    |>.withFilter Filters.setOptionalSymbolName Filters.setOptionalSymbol
    |>.withFilter Filters.parameterEqualName Filters.parameterEqual
    |>.withFilter Filters.responseTypeName (Filters.responseType strict)

/-- The accumulator entries bound to a scope, each as a filter and as a function.  The first scope is
meant where there is only one. -/
def accumulators (i : Handle := .first) : FilterTable :=
  Entry.all.foldl
    (fun table entry =>
      let bound := entry.on i
      (table.withFilter entry.name bound.asFilter).withFunction entry.name bound.asFunction) empty

/-- The full table of a render in a scope. -/
def full (strict : Bool) (i : Handle := .first) : FilterTable :=
  (stateless strict).extend (accumulators i)

/-- The names of the filters in order. -/
def filterNames (table : FilterTable) : List String := table.filters.names

/-- The names of the functions in order. -/
def functionNames (table : FilterTable) : List String := table.functions.names

/-- Whether there is a filter of a name. -/
def containsFilter (table : FilterTable) (name : String) : Bool :=
  (table.filters.find? name).isSome

/-- The number of filters. -/
def size (table : FilterTable) : Nat := table.filters.entries.length

/-- Whether there is no filter. -/
def isEmpty (table : FilterTable) : Bool := table.filters.entries.isEmpty

/-- The table as it is shown in reports. -/
def text (table : FilterTable) : String :=
  "FilterTable \x7b filters: " ++ Text.quotedList table.filterNames ++ ", functions: "
    ++ Text.quotedList table.functionNames ++ " \x7d"

/-- The engine with the entries of a table, which replace those of the same names. -/
def install (table : FilterTable) (engine : Engine) : Engine :=
  { engine with
    tools := ⟨engine.tools.filters.extend table.filters,
      engine.tools.functions.extend table.functions⟩ }

end FilterTable

end ApiStencil
