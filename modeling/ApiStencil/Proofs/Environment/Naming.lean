import ApiStencil.Proofs.Environment.Binding
import ApiStencil.Proofs.Template.Catalog

/-!
# The name of a template does not matter

A template does the same under every name that no template embeds: the name is told in failures
only.  So rendering a source once, which puts it under a name of its own for that time, agrees with
rendering it as a template under any other name.  The one name that has to be left alone is that of
the sources that are rendered once: whoever embeds it gets the source.

* `Similar` — two actions do the same, and where they fail, they may fail differently;
* `value_toOption` — the values of paths do not depend on the name of the template;
* `similar_rendering` — a template under two names;
* `renderSource_agrees` — rendering a source once and rendering it by a name.
-/

namespace ApiStencil

open Json Template ApiStencil.Action

/-! ### Actions that fail differently -/

/-- Two actions do the same, but where they fail, they may fail differently. -/
def Similar (α : Type) (a a' : Action α) : Prop :=
  ∀ l, (a.perform l).1.toOption = (a'.perform l).1.toOption ∧ (a.perform l).2 = (a'.perform l).2

section Similar

variable {α β : Type}

lemma similar_throw (e e' : Failure) : Similar α (throw e) (throw e') := fun _ => ⟨rfl, rfl⟩

lemma Similar.mapFailure {a a' : Action α} (h : Similar α a a') (wrap wrap' : Failure → Failure) :
    Similar α (a.mapFailure wrap) (a'.mapFailure wrap') := by
  intro l
  obtain ⟨same, after⟩ := h l
  rw [perform_mapFailure, perform_mapFailure]
  refine ⟨?_, after⟩
  dsimp only
  generalize (a.perform l).1 = r at same
  generalize (a'.perform l).1 = r' at same
  cases r <;> cases r' <;> first | rfl | exact same

/-- What comes after similar actions that succeed starts from one value and one ledger. -/
lemma Similar.bind {a a' : Action α} {f f' : α → Action β} (ha : Similar α a a')
    (hf : ∀ x, Similar β (f x) (f' x)) : Similar β (a >>= f) (a' >>= f') := by
  intro l
  obtain ⟨same, after⟩ := ha l
  rw [perform_bind, perform_bind]
  generalize a.perform l = p at same after
  generalize a'.perform l = p' at same after
  obtain ⟨r, l⟩ := p
  obtain ⟨r', l'⟩ := p'
  obtain rfl : l = l' := after
  cases r with
  | error e =>
    cases r' with
    | error e' => exact ⟨rfl, rfl⟩
    | ok x => cases same
  | ok x =>
    cases r' with
    | error e' => cases same
    | ok y =>
      obtain rfl : x = y := Option.some.inj same
      exact hf x l

/-- **Similarity is respected** by all combinators. -/
theorem similar_respected : Respected fun _ => Similar where
  pure _ _ _ := ⟨rfl, rfl⟩
  throw _ e := similar_throw e e
  bind := Similar.bind
  mapFailure wrap h := h.mapFailure wrap wrap
  orElse {α} _ {a a'} fallback h l := by
    obtain ⟨same, after⟩ := h l
    rw [perform_orElse, perform_orElse, same, after]
    exact ⟨rfl, rfl⟩

lemma toOption_bind {r r' : Except Failure α} {f f' : α → Except Failure β}
    (h : r.toOption = r'.toOption) (hf : ∀ x, (f x).toOption = (f' x).toOption) :
    (r >>= f).toOption = (r' >>= f').toOption := by
  cases r with
  | error e =>
    cases r' with
    | error e' => rfl
    | ok x => cases h
  | ok x =>
    cases r' with
    | error e' => cases h
    | ok y =>
      obtain rfl : x = y := Option.some.inj h
      exact hf x

lemma alike_of_toOption {r r' : Except Failure α} (h : r.toOption = r'.toOption) :
    Alike (fun _ => Similar) r r' := by
  cases r with
  | error e =>
    cases r' with
    | error e' => exact .error fun _ _ => similar_throw e e'
    | ok x => cases h
  | ok x =>
    cases r' with
    | error e' => cases h
    | ok y =>
      obtain rfl : x = y := Option.some.inj h
      exact .ok x

end Similar

/-! ### Variables -/

namespace Template

section Names

variable (frames : Frames) (context : List (String × Value)) (template template' : String)

mutual

lemma resolveStep_toOption (path : String) (step : Step) :
    (Variables.resolveStep ⟨frames, context, template⟩ path step).toOption =
      (Variables.resolveStep ⟨frames, context, template'⟩ path step).toOption := by
  cases step with
  | key | quoted => rfl
  | position i =>
    unfold Variables.resolveStep
    split <;> rfl
  | computed inner =>
    have same := value_toOption inner
    unfold Variables.resolveStep
    generalize Variables.value ⟨frames, context, template⟩ inner = r at same
    generalize Variables.value ⟨frames, context, template'⟩ inner = r' at same
    cases r with
    | error e =>
      cases r' with
      | error e' => rfl
      | ok v => cases same
    | ok v =>
      cases r' with
      | error e' => cases same
      | ok v' =>
        obtain rfl : v = v' := Option.some.inj same
        rfl

lemma resolveSteps_toOption (path : String) (steps : List Step) :
    (Variables.resolveSteps ⟨frames, context, template⟩ path steps).toOption =
      (Variables.resolveSteps ⟨frames, context, template'⟩ path steps).toOption := by
  cases steps with
  | nil => rfl
  | cons step rest =>
    rw [Variables.resolveSteps, Variables.resolveSteps]
    exact toOption_bind (resolveStep_toOption path step) fun _ =>
      toOption_bind (resolveSteps_toOption path rest) fun _ => rfl

/-- **The value of a path** does not depend on the name of the template it stands in. -/
theorem value_toOption (path : Path) :
    (Variables.value ⟨frames, context, template⟩ path).toOption =
      (Variables.value ⟨frames, context, template'⟩ path).toOption := by
  obtain ⟨written, head, steps⟩ := path
  rw [Variables.value, Variables.value]
  refine toOption_bind (resolveSteps_toOption written steps) fun ⟨keys, resolved⟩ => ?_
  have found : Variables.find? ⟨frames, context, template⟩ head keys =
      Variables.find? ⟨frames, context, template'⟩ head keys := rfl
  dsimp only
  rw [found]
  cases Variables.find? ⟨frames, context, template'⟩ head keys with
  | some v => rfl
  | none =>
    dsimp only
    split <;> rfl

end

end Names

lemma alikeIn_of_similar (context : List (String × Value)) (template template' : String) :
    AlikeIn (fun _ => Similar) context template template' :=
  fun frames path => alike_of_toOption (value_toOption frames context template template' path)

end Template

/-! ### A template under two names -/

namespace Environment

/-- The names of the templates that the templates of an environment embed. -/
def embeds (environment : Environment) : List String := environment.engine.templates.embeds

/-- Output is escaped as the configuration says. -/
lemma escapes_bound (engine : Engine) (config : Config) (i : Handle) (name : String) :
    ((ofEngine engine config).1.bound i).escapes name = config.autoescape := by
  have endings : ((ofEngine engine config).1.bound i).escapedEndings =
      if config.autoescape then [""] else [] := rfl
  rw [Engine.escapes, endings]
  cases config.autoescape with
  | true => simp
  | false => rfl

/-- Whether output is escaped does not depend on the name of the template. -/
lemma escapes_bound_eq {environment : Environment} (plain : environment.Plain) (i : Handle)
    (name name' : String) :
    (environment.bound i).escapes name = (environment.bound i).escapes name' := by
  obtain ⟨engine, config, -, rfl⟩ := plain
  rw [escapes_bound, escapes_bound]

/-- **A template does the same under two names** that nothing embeds. -/
theorem similar_rendering {environment : Environment} (plain : environment.Plain) (i : Handle)
    (t : Template) {name name' : String}
    (unmentioned : ∀ other, other ∈ environment.embeds ∨ other ∈ t.embeds →
      other ≠ name ∧ other ≠ name') (context : Value) :
    Similar _ ((environment.withTemplate name t).rendering i name context)
      ((environment.withTemplate name' t).rendering i name' context) := by
  have respected := similar_respected
  refine Similar.bind (fun _ => ⟨rfl, rfl⟩) fun vars => ?_
  have escapes : ((environment.withTemplate name t).bound i).escapes name =
      ((environment.withTemplate name' t).bound i).escapes name' :=
    escapes_bound_eq plain i name name'
  have tools : ((environment.withTemplate name t).bound i).tools.RelatedOn (fun _ => Similar)
      ((environment.withTemplate name' t).bound i).tools
      ((environment.withTemplate name t).bound i).templates.uses :=
    fun use _ => tools_related_self respected (fun _ _ a _ => ⟨rfl, rfl⟩) _ use.caught use.name
  -- both environments have the old templates under all names that are embedded
  have same : ∀ other, other ∈ environment.embeds ∨ other ∈ t.embeds →
      ((environment.withTemplate name t).bound i).templates.find? other =
        ((environment.withTemplate name' t).bound i).templates.find? other := by
    intro other mentioned
    obtain ⟨ne, ne'⟩ := unmentioned other mentioned
    have old : (environment.engine.templates.insert name t).find? other =
        (environment.engine.templates.insert name' t).find? other := by
      rw [Catalog.find?_insert, Catalog.find?_insert, if_neg ne, if_neg ne']
    exact old
  have found : ((environment.withTemplate name t).bound i).templates.find? name = some t := by
    have new : (environment.engine.templates.insert name t).find? name = some t := by
      rw [Catalog.find?_insert, if_pos rfl]
    exact new
  have found' : ((environment.withTemplate name' t).bound i).templates.find? name' = some t := by
    have new : (environment.engine.templates.insert name' t).find? name' = some t := by
      rw [Catalog.find?_insert, if_pos rfl]
    exact new
  rw [Engine.render, Engine.render, found, found', escapes]
  refine Similar.mapFailure (Engine.renderBody_related respected tools ?_ _ vars _
    (alikeIn_of_similar vars name name') _ t.nodes ?_ ?_) _ _
  · intro other mentioned
    exact same other (Catalog.mem_embeds_insert mentioned).symm
  · exact fun use hu => tools use (Catalog.mem_uses found hu)
  · exact fun other mentioned => same other (.inr mentioned)

/-! ### Sources and names -/

/-- With one more source there is one more template. -/
lemma templatesOf_concat {sources : List (String × String)} {templates : Catalog Template}
    (made : templatesOf sources = .ok templates) {name source : String} {t : Template}
    (read : Template.ofSource? source = some t) :
    templatesOf (sources ++ [(name, source)]) = .ok (templates.insert name t) := by
  simp only [templatesOf, bind, Except.bind] at made ⊢
  split at made
  · cases made
  · rename_i named all
    cases made
    rw [List.mapM_append, all, List.mapM_cons, read]
    exact congrArg Except.ok (Catalog.ofList_concat named name t)

/-- With one more source an environment has one more template. -/
lemma ofTemplates_concat {sources : List (String × String)} {config : Config}
    {environment : Environment} {events : List Event}
    (made : ofTemplates sources config = (.ok environment, events)) {name source : String}
    {t : Template} (read : Template.ofSource? source = some t) :
    ofTemplates (sources ++ [(name, source)]) config =
      (.ok (environment.withTemplate name t), events) := by
  unfold ofTemplates at made ⊢
  cases templates : templatesOf sources with
  | error e =>
    rw [templates] at made
    cases made
  | ok catalog =>
    rw [templates] at made
    rw [templatesOf_concat templates read]
    cases made
    have same : Engine.bare.withTemplates (catalog.insert name t) =
        { Engine.bare.withTemplates catalog with
          templates := (Engine.bare.withTemplates catalog).templates.insert name t } := by
      simp [Engine.withTemplates, Engine.bare]
    dsimp only
    rw [same]
    rfl

/-- **Rendering a source once agrees with rendering it by a name**, in the environment that has it as
one more template, if no template embeds that name or the name for sources that are rendered once.
In both cases the scopes are left the same, and unless a lock of the scope of the render is spoilt,
both fail or both succeed with one content.  A render in a scope of its own gives and reports what one
in an empty scope does. -/
theorem renderSource_agrees {sources : List (String × String)} {config : Config}
    {environment : Environment} {events : List Event}
    (made : ofTemplates sources config = (.ok environment, events)) {name source : String}
    {t : Template} (read : Template.ofSource? source = some t)
    (unmentioned : ∀ other, other ∈ environment.embeds ∨ other ∈ t.embeds →
      other ≠ name ∧ other ≠ Engine.oneOffName) :
    ∃ environment', ofTemplates (sources ++ [(name, source)]) config = (.ok environment', events) ∧
      (∀ context i scopes, Agrees (scopes.get i)
        (environment.renderSource source context i scopes)
        (environment'.renderIn name context i scopes)) ∧
      ∀ template context scopes,
        (environment.render template context scopes).1 =
            (environment.renderIn template context .first .empty).1 ∧
          (environment.render template context scopes).2.journal =
            (environment.renderIn template context .first .empty).2.journal := by
  have plain := plain_ofTemplates made
  refine ⟨_, ofTemplates_concat made read, fun context i scopes => ?_,
    fun template context scopes => ?_⟩
  · have similar := similar_rendering plain i t (fun other h => (unmentioned other h).symm) context
      ⟨scopes, []⟩
    rw [renderSource_eq read]
    exact agrees_renderIn (plain.withTemplate name t) similar.1 similar.2
  · obtain ⟨result, journal, -⟩ := render_own plain template context scopes
    exact ⟨result, journal⟩

/-! ### Sources that are rendered both ways -/

/-- The result of rendering a source once, and that of rendering it by a name where it is one more
template; nothing where a source is no template. -/
def bothWays (sources : List (String × String)) (name source : String) (context : Value)
    (scope : Scope) : Option (Except Error String × Except Error Output) :=
  match (ofTemplates sources .default).1, (ofTemplates (sources ++ [(name, source)]) .default).1 with
  | .ok environment, .ok environment' =>
    some ((environment.renderSource source context .first (.single scope)).1,
      (environment'.renderIn name context .first (.single scope)).1)
  | _, _ => none

/-- A page with a part in it that adds an import. -/
def partSources : List (String × String) := [("part", "\x7b\x7b name | addImport \x7d\x7d")]

theorem renderSource_agrees_page :
    ∃ environment environment' events,
      ofTemplates partSources .default = (.ok environment, events) ∧
      ofTemplates (partSources ++ [("page", "\x7b% include 'part' %\x7d")]) .default =
        (.ok environment', events) ∧
      Agrees .empty (environment.renderSource "\x7b% include 'part' %\x7d" (.obj []) .first .empty)
        (environment'.renderIn "page" (.obj []) .first .empty) := by
  have embedded : (Template.ofSource? "\x7b% include 'part' %\x7d").map Template.embeds =
      some ["part"] := by decide +kernel
  have parts : (ofTemplates partSources .default).1.toOption.map embeds = some [] := by
    decide +kernel
  obtain ⟨t, read, embeds⟩ := Option.map_eq_some_iff.mp embedded
  cases made : ofTemplates partSources .default with
  | mk result events =>
    rw [made] at parts
    cases result with
    | error e => cases parts
    | ok environment =>
      have none : environment.embeds = [] := Option.some.inj parts
      have unmentioned : ∀ other, other ∈ environment.embeds ∨ other ∈ t.embeds →
          other ≠ "page" ∧ other ≠ Engine.oneOffName := by
        rw [none, embeds]
        rintro other (mentioned | mentioned)
        · cases mentioned
        · rw [List.mem_singleton.mp mentioned]
          decide
      obtain ⟨environment', made', agrees, -⟩ := renderSource_agrees made read unmentioned
      exact ⟨environment, environment', events, rfl, made', agrees (.obj []) .first .empty⟩

/-- **Where the two ways differ.**  A spoilt lock makes only the render by a name fail; and a source
that embeds the name for sources that are rendered once gets itself there, while under its own name
it gets another template or none. -/
theorem bothWays_differ :
    bothWays [] "n" "x" (.obj []) (Scope.empty.poison .imports) =
        some (.ok "x", .error (.template "imports accumulator lock poisoned")) ∧
      bothWays [(Engine.oneOffName, "Y")] "n"
          ("\x7b% if deep is defined %\x7dX\x7b% else %\x7d\x7b% set deep = 1 %\x7d" ++
            "\x7b% include '__tera_one_off' %\x7d\x7b% endif %\x7d") (.obj []) .empty =
        some (.ok "X", .ok ⟨"Y", [], []⟩) := by
  constructor <;> decide +kernel

end Environment

end ApiStencil
