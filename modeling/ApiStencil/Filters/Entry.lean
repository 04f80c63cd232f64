import ApiStencil.Template.Tools

/-!
The entries through which templates use the accumulators of a scope: for each kind of flags one that
empties it, one that adds to it and one that lists it.  An entry is bound to the scope that it works
on.  It is both a filter, which takes its keys from the value, and a function, which takes them from
the argument `key`.
-/

namespace ApiStencil

open Json

/-- What an entry does with the flags. -/
inductive EntryAction where
  | reset
  | add
  | get
deriving DecidableEq, Repr

namespace EntryAction

/-- All actions in order. -/
def all : List EntryAction := [.reset, .add, .get]

end EntryAction

/-- An entry: an action on the flags of a kind. -/
structure Entry where
  kind : FlagKind
  action : EntryAction
deriving DecidableEq, Repr

namespace Entry

/-- The name of an entry in templates. -/
def name : Entry → String
  | ⟨.imports, .reset⟩ => "resetImports"
  | ⟨.imports, .add⟩ => "addImport"
  | ⟨.imports, .get⟩ => "getImports"
  | ⟨.typeAliases, .reset⟩ => "resetTypeAliases"
  | ⟨.typeAliases, .add⟩ => "addTypeAlias"
  | ⟨.typeAliases, .get⟩ => "getTypeAliases"

/-- All entries in order. -/
def all : List Entry := FlagKind.all.flatMap fun kind => EntryAction.all.map (⟨kind, ·⟩)

/-- The keys that an entry adds: a string or the strings of an array.  Null adds nothing, and
entries that do not add take no keys. -/
def keysOf (entry : Entry) (input : Value) : Except Failure (List String) :=
  match entry.action, input with
  | .add, .str key => .ok [key]
  | .add, .arr items =>
    match items.mapM Value.asText? with
    | some keys => .ok keys
    | none => .error (.expects entry.name .textKeys)
  | .add, .null => .ok []
  | .add, _ => .error (.expects entry.name .textOrTexts)
  | _, _ => .ok []

end Entry

/-- Adds keys one after the other: those that were new in their turn, and the set after them. -/
def FlagSet.insertAll (s : FlagSet) : List String → List String × FlagSet
  | [] => ([], s)
  | key :: rest =>
    let (added, after) := (s.insert key).insertAll rest
    (if s.contains key then added else key :: added, after)

namespace Entry

/-- What an entry does with the flags: the text it gives and the keys that are new. -/
def work (entry : Entry) (keys : List String) (flags : FlagSet) :
    (String × List String) × FlagSet :=
  match entry.action with
  | .reset => (("", []), .empty)
  | .add =>
    let (added, after) := flags.insertAll keys
    (("", added), after)
  | .get => ((flags.listing, []), flags)

end Entry

/-- An entry that is bound to a scope. -/
structure BoundEntry where
  entry : Entry
  scope : Handle

/-- The entry bound to the scope of a handle. -/
def Entry.on (entry : Entry) (i : Handle) : BoundEntry := ⟨entry, i⟩

namespace BoundEntry

/-- **The action of a bound entry on its input.**  The keys are checked before the flags are
touched. -/
def apply (bound : BoundEntry) (input : Value) : Action Value := do
  let ⟨entry, i⟩ := bound
  let keys ← liftM (entry.keysOf input)
  let ledger ← get
  match (ledger.scope i).withFlags entry.kind (entry.work keys) with
  | (.error e, _) => throw (.accumulatorPoisoned entry.name e.kind)
  | (.ok (text, added), scope) =>
    set (⟨ledger.scopes.set i scope,
      ledger.journal ++ added.map (Event.flagAdded entry.kind)⟩ : Ledger)
    pure (.str text)

/-- The entry as a filter on its keys. -/
def asFilter (bound : BoundEntry) : Filter := ⟨fun v _ => bound.apply v, true⟩

/-- The entry as a function of its keys. -/
def asFunction (bound : BoundEntry) : Function :=
  ⟨fun args => bound.apply ((args.lookup "key").getD .null), true⟩

end BoundEntry

end ApiStencil
