import ApiStencil.Environment

/-!
Sessions: steps on an environment and on scopes that go by names.  A scope is made when it is first
named, and is empty; a clone is another name of the same scope.
-/

namespace ApiStencil

open Json

namespace Session

/-! ### Scopes by name -/

/-- The scopes of a session, and the handles that names stand for. -/
structure State where
  handles : List (String × Handle)
  scopes : Scopes

namespace State

/-- No scope and no name. -/
def empty : State := ⟨[], .empty⟩

/-- The handle that a name stands for; a scope is made if it stands for none. -/
def handle (s : State) (name : String) : Handle × State :=
  match s.handles.lookup name with
  | some i => (i, s)
  | none =>
    let (i, scopes) := s.scopes.make
    (i, ⟨(name, i) :: s.handles, scopes⟩)

/-- The scope that a name stands for. -/
def get (s : State) (name : String) : Scope :=
  match s.handles.lookup name with
  | some i => s.scopes.get i
  | none => .empty

/-- Changes the scope of a handle. -/
def set (s : State) (i : Handle) (scope : Scope) : State :=
  { s with scopes := s.scopes.set i scope }

/-- Lets a name stand for the scope of a handle. -/
def name (s : State) (other : String) (i : Handle) : State :=
  { s with handles := (other, i) :: s.handles }

end State

/-- What a step does. -/
inductive Work where
  | clone (other : String)
  | flags (kind : FlagKind) (calls : List FlagSet.Call)
  | snapshot
  | reset
  /-- Spoils the lock of an accumulator. -/
  | poison (kind : FlagKind)
  | filter (entry : Entry) (value : Value) (args : Arguments)
  | function (entry : Entry) (args : Arguments)
  | names
  /-- Renders a template in a scope of its own. -/
  | render (template : String) (context : Value)
  /-- Renders a template in the scope of the step. -/
  | renderScoped (template : String) (context : Value)
  | renderSource (source : String) (context : Value)

/-- A step, which names a scope. -/
structure Step where
  scope : String
  work : Work

/-- The result of a step. -/
inductive Result where
  | nothing
  | flags (answers : Except Error (List FlagSet.Answer))
  | snapshot (imports typeAliases : Except Error (List String))
  | reset (done : Except Error Unit)
  | entry (name : String) (result : Except Failure Value)
  | names (names : List String)
  | output (result : Except Error Output)
  | text (result : Except Error String)

/-- Runs an action on the scopes. -/
def act {α : Type} (state : State) (action : Action α) : Except Failure α × State × List Event :=
  let (result, ledger) := action.perform ⟨state.scopes, []⟩
  (result, { state with scopes := ledger.scopes }, ledger.journal)

/-- The keys of a kind that a scope holds. -/
def keysOf (scope : Scope) (kind : FlagKind) : Except Error (List String) :=
  match scope.flags? kind with
  | .ok flags => .ok flags.keys
  | .error p => .error (.ofPoisoned p)

/-- What a step does that names the scope of a handle: its result, the scopes after it and what it
reports. -/
def stepOn (environment : Environment) (state : State) (i : Handle) (work : Work) :
    Result × State × List Event :=
  let scope := state.scopes.get i
  match work with
  | .clone other => (.nothing, state.name other i, [])
  | .flags kind calls =>
    match scope.withFlags kind fun flags => flags.run calls with
    | (.ok answers, scope) => (.flags (.ok answers), state.set i scope, [])
    | (.error p, scope) => (.flags (.error (.ofPoisoned p)), state.set i scope, [])
  | .snapshot => (.snapshot (keysOf scope .imports) (keysOf scope .typeAliases), state, [])
  | .reset =>
    match scope.reset with
    | (.ok (), scope) => (.reset (.ok ()), state.set i scope, [])
    | (.error p, scope) => (.reset (.error (.ofPoisoned p)), state.set i scope, [])
  | .poison kind => (.nothing, state.set i (scope.poison kind), [])
  | .filter entry value args =>
    let (result, state, events) := act state ((entry.on i).asFilter.run value args)
    (.entry entry.name result, state, events)
  | .function entry args =>
    let (result, state, events) := act state ((entry.on i).asFunction.run args)
    (.entry entry.name result, state, events)
  | .names => (.names environment.templateNames, state, [])
  | .render template context =>
    let (result, ledger) := environment.render template context state.scopes
    (.output result, { state with scopes := ledger.scopes }, ledger.journal)
  | .renderScoped template context =>
    let (result, ledger) := environment.renderIn template context i state.scopes
    (.output result, { state with scopes := ledger.scopes }, ledger.journal)
  | .renderSource source context =>
    let (result, ledger) := environment.renderSource source context i state.scopes
    (.text result, { state with scopes := ledger.scopes }, ledger.journal)

/-- **One step**, on the scope that it names. -/
def step (environment : Environment) (state : State) (s : Step) : Result × State × List Event :=
  let (i, state) := state.handle s.scope
  stepOn environment state i s.work

/-- **Steps one after the other**: their results, the scopes after them and what they report. -/
def run (environment : Environment) (state : State) :
    List Step → List Result × State × List Event
  | [] => ([], state, [])
  | s :: rest =>
    let (result, state, events) := step environment state s
    let (results, state, later) := run environment state rest
    (result :: results, state, events ++ later)

end Session

end ApiStencil
