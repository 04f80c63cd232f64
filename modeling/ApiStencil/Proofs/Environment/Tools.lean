import ApiStencil.Environment
import ApiStencil.Proofs.Template.Catalog
import ApiStencil.Proofs.Template.Related

/-!
# The filters and functions of a render

A render puts three layers on one another: the filters and functions that its engine came with, the
filters on records of an API description, and the accumulator entries bound to its scope.  What an
engine comes with is *plain*: it makes a value of values and does nothing else, so it reaches no scope.

So two renders with the same engine are related as soon as the accumulator entries are, each bound to
the scope of its render, and, where the two differ in strictness, the filter for response types
(`tools_related`).
-/

namespace ApiStencil

open Json Template ApiStencil.Action

/-! ### Catalogs by entries -/

namespace Catalog

variable {α : Type} {R : String → α → α → Prop}

/-- Two catalogs have the same names, and the entries of one name are related. -/
def Paired (R : String → α → α → Prop) (c c' : Catalog α) : Prop :=
  ∀ n, Option.Rel (R n) (c.find? n) (c'.find? n)

theorem paired_empty : Paired R empty empty := fun _ => .none

theorem paired_self {c : Catalog α} (h : ∀ {n e}, c.find? n = some e → R n e e) :
    Paired R c c := by
  intro n
  cases found : c.find? n with
  | none => exact .none
  | some e => exact .some (h found)

theorem Paired.mem_names_iff {c c' : Catalog α} (h : Paired R c c') {n : String} :
    n ∈ c.names ↔ n ∈ c'.names := by
  rw [Catalog.mem_names_iff, Catalog.mem_names_iff]
  have same := h n
  generalize c.find? n = found at same
  generalize c'.find? n = found' at same
  cases same <;> simp

theorem Paired.insert {c c' : Catalog α} (h : Paired R c c') {name : String} {e e' : α}
    (he : R name e e') : Paired R (c.insert name e) (c'.insert name e') := by
  intro n
  rw [find?_insert, find?_insert]
  by_cases eq : n = name
  · rw [if_pos eq, if_pos eq, eq]
    exact .some he
  · rw [if_neg eq, if_neg eq]
    exact h n

theorem Paired.extend {c c' other other' : Catalog α} (h : Paired R c c')
    (ho : Paired R other other') : Paired R (c.extend other) (c'.extend other') := by
  intro n
  rw [find?_extend, find?_extend]
  have second := ho n
  generalize other.find? n = found at second
  generalize other'.find? n = found' at second
  cases second with
  | none => exact h n
  | some he => exact .some he

end Catalog

/-! ### Plain filters and functions -/

/-- A filter that makes a value of values and does nothing else. -/
def Filter.Plain (f : Filter) : Prop :=
  ∃ run : Value → Arguments → Except Failure Value, ∀ v args, f.run v args = liftM (run v args)

/-- A function that makes a value of values and does nothing else. -/
def Function.Plain (f : Function) : Prop :=
  ∃ run : Arguments → Except Failure Value, ∀ args, f.run args = liftM (run args)

theorem Filter.plain_ofPure (run : Value → Arguments → Except Failure Value) :
    (Filter.ofPure run).Plain := ⟨run, fun _ _ => rfl⟩

/-- An engine whose own filters and functions are plain, as the built-in ones are. -/
structure Engine.Plain (engine : Engine) : Prop where
  filters : ∀ {name f}, engine.tools.filters.find? name = some f → f.Plain
  functions : ∀ {name f}, engine.tools.functions.find? name = some f → f.Plain

theorem Engine.plain_withTemplates {engine : Engine} (h : engine.Plain)
    (templates : Catalog Template) : (engine.withTemplates templates).Plain :=
  ⟨h.filters, h.functions⟩

/-- The engine with templates that are given by their nodes. -/
def Engine.ofNodes (named : List (String × List Node)) : Engine :=
  bare.withTemplates (.ofList (named.map fun (name, nodes) => (name, ⟨nodes⟩)))

theorem Engine.plain_bare : Engine.bare.Plain where
  filters {name f} h := by
    have each : Filter.builtIn.Each fun _ f => f.Plain := by
      repeat refine .insert ?_ (Filter.plain_ofPure _)
      exact Catalog.each_empty
    exact each name f h
  functions h := by cases h

theorem Engine.plain_ofNodes (named : List (String × List Node)) : (Engine.ofNodes named).Plain :=
  plain_withTemplates plain_bare _

/-! ### Tables -/

/-- The two filters of a name in tables that may differ in strictness and in their scopes. -/
inductive FilterPair (strict strict' : Bool) (i i' : Handle) (name : String) :
    Filter → Filter → Prop
  | plain {f : Filter} (h : f.Plain) : FilterPair strict strict' i i' name f f
  | entry {entry : Entry} (h : entry.name = name) :
    FilterPair strict strict' i i' name (entry.on i).asFilter (entry.on i').asFilter
  | responseType (h : name = Filters.responseTypeName) :
    FilterPair strict strict' i i' name (Filters.responseType strict)
      (Filters.responseType strict')

/-- The two functions of a name in tables that may differ in their scopes. -/
inductive FunctionPair (i i' : Handle) (name : String) : Function → Function → Prop
  | plain {f : Function} (h : f.Plain) : FunctionPair i i' name f f
  | entry {entry : Entry} (h : entry.name = name) :
    FunctionPair i i' name (entry.on i).asFunction (entry.on i').asFunction

namespace FilterTable

theorem stateless_paired (strict strict' : Bool) (i i' : Handle) :
    Catalog.Paired (FilterPair strict strict' i i') (stateless strict).filters
      (stateless strict').filters := by
  refine .insert ?_ (.responseType rfl)
  repeat refine .insert ?_ (.plain (Filter.plain_ofPure _))
  exact Catalog.paired_empty

theorem accumulators_paired (strict strict' : Bool) (i i' : Handle) :
    Catalog.Paired (FilterPair strict strict' i i') (accumulators i).filters
        (accumulators i').filters ∧
      Catalog.Paired (FunctionPair i i') (accumulators i).functions
        (accumulators i').functions := by
  constructor
  · repeat refine .insert ?_ (.entry rfl)
    exact Catalog.paired_empty
  · repeat refine .insert ?_ (.entry rfl)
    exact Catalog.paired_empty

end FilterTable

/-! ### Environments -/

namespace Environment

/-- An environment that is made of an engine with plain filters and functions, as all are that are
made of sources or of a directory. -/
def Plain (environment : Environment) : Prop :=
  ∃ engine config, engine.Plain ∧ environment = (ofEngine engine config).1

theorem plain_ofTemplates {sources : List (String × String)} {config : Config}
    {environment : Environment} {events : List Event}
    (h : ofTemplates sources config = (.ok environment, events)) : environment.Plain := by
  unfold ofTemplates at h
  split at h
  · cases h
  · cases h
    exact ⟨_, config, Engine.plain_withTemplates Engine.plain_bare _, rfl⟩

theorem plain_ofConfig {fs : FileSystem} {config : Config} {environment : Environment}
    {events : List Event} (h : ofConfig fs config = (.ok environment, events)) :
    environment.Plain := by
  unfold ofConfig at h
  split at h
  · split at h
    · cases h
    · cases h
      exact ⟨_, config, Engine.plain_withTemplates Engine.plain_bare _, rfl⟩
  · cases h

@[simp] theorem templates_ofEngine (engine : Engine) (config : Config) :
    (ofEngine engine config).1.engine.templates = engine.templates := rfl

@[simp] theorem escapedEndings_ofEngine (engine : Engine) (config : Config) :
    (ofEngine engine config).1.engine.escapedEndings = if config.autoescape then [""] else [] := rfl

/-- The filters and functions that the templates of an environment mention. -/
def uses (environment : Environment) : List Use := environment.engine.templates.uses

/-- What a render does, bound to the scope that it gets. -/
def rendering (environment : Environment) (i : Handle) (template : String) (context : Value) :
    Action String := do
  let vars ← liftM (contextOf context)
  (environment.bound i).render template vars

theorem renderIn_eq (environment : Environment) (template : String) (context : Value)
    (i : Handle) (scopes : Scopes) :
    environment.renderIn template context i scopes =
      match (environment.rendering i template context).perform ⟨scopes, []⟩ with
      | (.error e, ledger) => (.error (.engine e), ledger)
      | (.ok content, ledger) => finish template content i ledger := rfl

/-! ### Related tools -/

section Related

variable {related : Bool → Relation}

lemma applyFilter_related (respected : Respected related) {T T' : Tools} {caught : Bool}
    {name : String} {R : Filter → Filter → Prop}
    (h : Option.Rel R (T.filters.find? name) (T'.filters.find? name))
    (hR : ∀ {f f'}, R f f' →
      f.safe = f'.safe ∧ ∀ v args, related caught _ (f.run v args) (f'.run v args))
    (v : Value) {args args' : Action Arguments} (hargs : related caught _ args args') :
    related caught _ (T.applyFilter name v args) (T'.applyFilter name v args') := by
  unfold Tools.applyFilter
  generalize T.filters.find? name = found at h
  generalize T'.filters.find? name = found' at h
  cases h with
  | none => exact respected.throw _ _
  | some h =>
    obtain ⟨safe, run⟩ := hR h
    dsimp only
    rw [safe]
    exact respected.mapFailure _ (respected.bind hargs fun given => respected.map (run v given) _)

lemma callFunction_related (respected : Respected related) {T T' : Tools} {caught : Bool}
    {name : String} {R : Function → Function → Prop}
    (h : Option.Rel R (T.functions.find? name) (T'.functions.find? name))
    (hR : ∀ {f f'}, R f f' →
      f.safe = f'.safe ∧ ∀ args, related caught _ (f.run args) (f'.run args))
    {args args' : Action Arguments} (hargs : related caught _ args args') :
    related caught _ (T.callFunction name args) (T'.callFunction name args') := by
  unfold Tools.callFunction
  generalize T.functions.find? name = found at h
  generalize T'.functions.find? name = found' at h
  cases h with
  | none => exact respected.throw _ _
  | some h =>
    obtain ⟨safe, run⟩ := hR h
    dsimp only
    rw [safe]
    exact respected.mapFailure _ (respected.bind hargs fun given => respected.map (run given) _)

/-- Tools are related to themselves by every relation in which actions are related to themselves. -/
lemma tools_related_self (respected : Respected related)
    (refl : ∀ caught {α : Type} (a : Action α), related caught α a a) (tools : Tools)
    (caught : Bool) (name : String) : tools.Related (related caught) tools name where
  filter v := by
    intro args args' hargs
    have same : Option.Rel Eq (tools.filters.find? name) (tools.filters.find? name) := by
      cases tools.filters.find? name <;> constructor
      rfl
    refine applyFilter_related respected same (fun eq => ?_) v hargs
    subst eq
    exact ⟨rfl, fun v args => refl caught _⟩
  function := by
    intro args args' hargs
    have same : Option.Rel Eq (tools.functions.find? name) (tools.functions.find? name) := by
      cases tools.functions.find? name <;> constructor
      rfl
    refine callFunction_related respected same (fun eq => ?_) hargs
    subst eq
    exact ⟨rfl, fun args => refl caught _⟩

/-- **Renders in two environments**, bound to any two scopes, are related if the environments have the
same templates and escape the same output, and their tools are related for all that the templates
mention. -/
theorem rendering_related (respected : Respected related) {environment environment' : Environment}
    (templates : environment.engine.templates = environment'.engine.templates)
    (endings : environment.engine.escapedEndings = environment'.engine.escapedEndings)
    (i i' : Handle)
    (h : (environment.bound i).tools.RelatedOn related (environment'.bound i').tools
      environment.uses)
    (template : String) (context : Value) :
    related false _ (environment.rendering i template context)
      (environment'.rendering i' template context) := by
  have templates : (environment.bound i).templates = (environment'.bound i').templates := templates
  have endings : (environment.bound i).escapedEndings = (environment'.bound i').escapedEndings :=
    endings
  refine respected.bind (respected.liftM _) fun vars => ?_
  exact Engine.render_related respected (environment.bound i) templates endings h template vars

/-- The filter for response types is related to itself if its reports are. -/
lemma responseType_related (respected : Respected related) (caught strict : Bool)
    (h : ∀ events, related caught _ (report events) (report events)) (v : Value)
    (args : Arguments) :
    related caught _ ((Filters.responseType strict).run v args)
      ((Filters.responseType strict).run v args) := by
  unfold Filters.responseType
  dsimp only
  split
  · exact respected.throw _ _
  · rename_i r _
    refine respected.bind (h _) fun _ => ?_
    split
    · cases r.wrapperOrCode with
      | ok => exact respected.pure _ _
      | error => exact respected.throw _ _
    · exact respected.pure _ _

variable {engine : Engine} (plain : engine.Plain) {config config' : Config} {i i' : Handle}
include plain

lemma find?_filters_bound (name : String) :
    Option.Rel (FilterPair config.strictStatusCodes config'.strictStatusCodes i i' name)
      (((ofEngine engine config).1.bound i).tools.filters.find? name)
      (((ofEngine engine config').1.bound i').tools.filters.find? name) :=
  ((Catalog.paired_self fun h => .plain (plain.filters h)).extend
    (FilterTable.stateless_paired _ _ i i')).extend
    (FilterTable.accumulators_paired _ _ i i').1 name

lemma find?_functions_bound (name : String) :
    Option.Rel (FunctionPair i i' name)
      (((ofEngine engine config).1.bound i).tools.functions.find? name)
      (((ofEngine engine config').1.bound i').tools.functions.find? name) :=
  ((Catalog.paired_self fun h => .plain (plain.functions h)).extend
    Catalog.paired_empty).extend (FilterTable.accumulators_paired false false i i').2 name

/-- **Tools that may differ in strictness and in their scopes** are related under a name if an
accumulator entry of that name, bound to the one scope, is related to the entry bound to the other one,
and the two filters for response types, under theirs, to each other. -/
theorem tools_related (respected : Respected related) (caught : Bool) {name : String}
    (entries : ∀ entry : Entry, entry.name = name →
      ∀ input, related caught _ ((entry.on i).apply input) ((entry.on i').apply input))
    (responses : name = Filters.responseTypeName →
      ∀ v args, related caught _ ((Filters.responseType config.strictStatusCodes).run v args)
        ((Filters.responseType config'.strictStatusCodes).run v args)) :
    ((ofEngine engine config).1.bound i).tools.Related (related caught)
      ((ofEngine engine config').1.bound i').tools name where
  filter v := by
    refine applyFilter_related respected (find?_filters_bound plain name) (fun pair => ?_) v
    cases pair with
    | plain h =>
      obtain ⟨run, eq⟩ := h
      exact ⟨rfl, fun v args => by rw [eq]; exact respected.liftM _⟩
    | entry h => exact ⟨rfl, fun v _ => entries _ h v⟩
    | responseType h => exact ⟨rfl, responses h⟩
  function := by
    refine callFunction_related respected (find?_functions_bound plain name) (fun pair => ?_)
    cases pair with
    | plain h =>
      obtain ⟨run, eq⟩ := h
      exact ⟨rfl, fun args => by rw [eq]; exact respected.liftM _⟩
    | entry h => exact ⟨rfl, fun args => entries _ h _⟩

end Related

end Environment

end ApiStencil
