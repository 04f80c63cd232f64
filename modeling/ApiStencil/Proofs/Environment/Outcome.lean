import ApiStencil.Proofs.Accumulator.Entry
import ApiStencil.Proofs.Environment.Tools

/-!
# What a render gives

The result of a render in a scope, told from what its template does there: the scope is left as the
template leaves it, and the render succeeds exactly if the template does and no lock of the scope is
spoilt (`renderIn_eq_ok_iff`).  A source that is rendered once is a template of an environment with
one more template (`renderSource_eq`).

Two renders are related by way of what their templates do (`renderIn_coupled`).  What every accumulator
entry that the templates mention leads to, the render leads to (`leads_rendering`); so no render touches
a lock (`locks_rendering`).

`Agrees` compares a text with an output where both come from one template: the text does not look at
the locks of the scope in the end, the output does.
-/

namespace ApiStencil

open Json Template ApiStencil.Action

namespace Output

/-- What an output lists of a kind. -/
def listing (output : Output) : FlagKind → List String
  | .imports => output.imports
  | .typeAliases => output.typeAliases

/-- An output is collected from a scope exactly if no lock is spoilt, and lists what it holds. -/
theorem collect_eq_ok_iff {content : String} {scope : Scope} {output : Output} :
    collect content scope = .ok output ↔
      output.content = content ∧ ∀ kind, (scope.get kind).poisoned = false ∧
        output.listing kind = (scope.get kind).flags.keys := by
  obtain ⟨⟨imports, poisoned⟩, ⟨aliases, poisoned'⟩⟩ := scope
  constructor
  · intro h
    cases poisoned <;> cases poisoned' <;> cases h
    exact ⟨rfl, fun kind => by cases kind <;> exact ⟨rfl, rfl⟩⟩
  · rintro ⟨rfl, held⟩
    obtain ⟨intact, listed⟩ := held .imports
    obtain ⟨intact', listed'⟩ := held .typeAliases
    obtain ⟨content, importKeys, aliasKeys⟩ := output
    simp only [Scope.get, listing] at intact listed intact' listed'
    subst intact listed intact' listed'
    rfl

end Output

namespace Environment

variable {environment : Environment} {i : Handle}

/-! ### Renders in a scope -/

@[simp] lemma scopes_finish (template content : String) (i : Handle) (l : Ledger) :
    (finish template content i l).2.scopes = l.scopes := by
  unfold finish
  split <;> rfl

lemma finish_eq_ok_iff {template content : String} {l : Ledger} {output : Output} :
    (finish template content i l).1 = .ok output ↔
      Output.collect content (l.scope i) = .ok output := by
  unfold finish
  cases Output.collect content (l.scope i) with
  | error p => simp
  | ok collected => simp

/-- A render leaves all scopes as its template leaves them. -/
theorem scopes_renderIn (environment : Environment) (template : String) (context : Value)
    (i : Handle) (scopes : Scopes) :
    (environment.renderIn template context i scopes).2.scopes =
      ((environment.rendering i template context).perform ⟨scopes, []⟩).2.scopes := by
  rw [renderIn_eq]
  rcases (environment.rendering i template context).perform ⟨scopes, []⟩ with ⟨e | content, l⟩
  · rfl
  · exact scopes_finish template content i l

lemma scope_renderIn (environment : Environment) (template : String) (context : Value)
    (i : Handle) (scopes : Scopes) :
    (environment.renderIn template context i scopes).2.scope i =
      ((environment.rendering i template context).perform ⟨scopes, []⟩).2.scope i :=
  congrArg (Scopes.get · i) (scopes_renderIn environment template context i scopes)

/-- Two renders are related if what their templates do is coupled, and if failures and the two ends of
the renders are related. -/
lemma renderIn_coupled {R : Ledger → Ledger → Prop}
    {S : Except Error Output × Ledger → Except Error Output × Ledger → Prop} {i' : Handle}
    {template : String} {context : Value}
    (coupled : Coupled R _ (environment.rendering i template context)
      (environment.rendering i' template context))
    (fails : ∀ e {l l'}, R l l' → S (.error e, l) (.error e, l'))
    (finishes : ∀ content {l l'}, R l l' →
      S (finish template content i l) (finish template content i' l'))
    {scopes scopes' : Scopes} (start : R ⟨scopes, []⟩ ⟨scopes', []⟩) :
    S (environment.renderIn template context i scopes)
      (environment.renderIn template context i' scopes') := by
  obtain ⟨same, after⟩ := coupled _ _ start
  rw [renderIn_eq, renderIn_eq]
  generalize (environment.rendering i template context).perform ⟨scopes, []⟩ = p at same after
  generalize (environment.rendering i' template context).perform ⟨scopes', []⟩ = p' at same after
  obtain ⟨r, l⟩ := p
  obtain ⟨r', l'⟩ := p'
  obtain rfl : r = r' := same
  cases r with
  | error e => exact fails _ after
  | ok content => exact finishes content after

/-- **When a render succeeds**: exactly if its template does and no lock of the scope is spoilt.
The output then has the text of the template and lists what the scope holds. -/
theorem renderIn_eq_ok_iff {template : String} {context : Value} {scopes : Scopes}
    {output : Output} :
    (environment.renderIn template context i scopes).1 = .ok output ↔
      ((environment.rendering i template context).perform ⟨scopes, []⟩).1 = .ok output.content ∧
        ∀ kind, (((environment.renderIn template context i scopes).2.scope i).get kind).poisoned =
            false ∧
          output.listing kind =
            (((environment.renderIn template context i scopes).2.scope i).get kind).flags.keys := by
  rw [scope_renderIn, renderIn_eq]
  rcases (environment.rendering i template context).perform ⟨scopes, []⟩ with ⟨e | content, l⟩
  · simp
  · dsimp only
    rw [finish_eq_ok_iff, Output.collect_eq_ok_iff]
    constructor
    · rintro ⟨rfl, held⟩
      exact ⟨rfl, held⟩
    · rintro ⟨same, held⟩
      exact ⟨(Except.ok.inj same).symm, held⟩

/-! ### Sources -/

/-- The environment with one more template, which replaces one of its name. -/
def withTemplate (environment : Environment) (name : String) (t : Template) : Environment :=
  ⟨{ environment.engine with templates := environment.engine.templates.insert name t }⟩

lemma Plain.withTemplate (plain : environment.Plain) (name : String) (t : Template) :
    (environment.withTemplate name t).Plain := by
  obtain ⟨engine, config, plain, rfl⟩ := plain
  exact ⟨{ engine with templates := engine.templates.insert name t }, config,
    ⟨plain.filters, plain.functions⟩, rfl⟩

/-- What the text of a source gives, with what it leaves in the scope. -/
def asText (outcome : Except Failure String × Ledger) : Except Error String × Ledger :=
  (outcome.1.mapError .engine, outcome.2)

/-- **A source that is rendered once** is a template under the name for such sources. -/
theorem renderSource_eq {source : String} {t : Template} (h : Template.ofSource? source = some t)
    (context : Value) (i : Handle) (scopes : Scopes) :
    environment.renderSource source context i scopes =
      asText (((environment.withTemplate Engine.oneOffName t).rendering i Engine.oneOffName
        context).perform ⟨scopes, []⟩) := by
  unfold renderSource rendering
  rw [perform_bind, perform_liftM]
  cases contextOf context with
  | error e => rfl
  | ok vars =>
    dsimp only
    rw [h]
    have once : (environment.bound i).renderOnce t vars =
        ((environment.withTemplate Engine.oneOffName t).bound i).render Engine.oneOffName vars :=
      rfl
    dsimp only
    rw [once]
    rcases Action.perform _ _ with ⟨e | content, l⟩ <;> rfl

/-- A source that is no template is not rendered. -/
theorem scopes_renderSource_eq {source : String} (h : Template.ofSource? source = none)
    (context : Value) (i : Handle) (scopes : Scopes) :
    (environment.renderSource source context i scopes).2.scopes = scopes := by
  unfold renderSource
  cases contextOf context with
  | error e => rfl
  | ok vars =>
    dsimp only
    rw [h]

/-! ### What a render leads to -/

section Leads

variable {order : Ledger → Ledger → Prop} (refl : ∀ l, order l l)
  (trans : ∀ {l l' l''}, order l l' → order l' l'' → order l l'')
include refl trans

/-- **A render leads to a later ledger** if reports do and the accumulator entries that its
templates mention. -/
theorem leads_rendering (plain : environment.Plain)
    (reports : ∀ events, Leads order _ (report events) (report events))
    (entries : ∀ use ∈ environment.uses, ∀ entry : Entry, entry.name = use.name →
      ∀ input, Leads order _ ((entry.on i).apply input) ((entry.on i).apply input))
    (template : String) (context : Value) (l : Ledger) :
    order l ((environment.rendering i template context).perform l).2 := by
  obtain ⟨engine, config, hplain, rfl⟩ := plain
  have respected := leads_respected refl trans
  refine rendering_related respected rfl rfl i i (fun use hu => ?_) template context l
  refine tools_related hplain respected use.caught (fun entry named input => ?_) fun _ => ?_
  · exact entries use hu entry named input
  · exact responseType_related respected use.caught _ reports

end Leads

/-- An entry leaves all locks as they are. -/
lemma locks_apply (entry : Entry) (i : Handle) (input : Value) (l : Ledger) (kind : FlagKind) :
    (((((entry.on i).apply input).perform l).2.scope i).get kind).poisoned =
      ((l.scope i).get kind).poisoned := by
  rcases BoundEntry.perform_apply_cases entry i input l with ⟨e, fails⟩ | ⟨keys, unlocked, works⟩
  · rw [fails]
  · rw [works]
    by_cases same : kind = entry.kind
    · simp [same, unlocked]
    · simp [Scope.get_set_of_ne same]

/-- **No render touches a lock.** -/
theorem locks_rendering (plain : environment.Plain) (i : Handle) (template : String)
    (context : Value) (l : Ledger) (kind : FlagKind) :
    ((((environment.rendering i template context).perform l).2.scope i).get kind).poisoned =
      ((l.scope i).get kind).poisoned := by
  let order (l l' : Ledger) : Prop :=
    ∀ kind, ((l'.scope i).get kind).poisoned = ((l.scope i).get kind).poisoned
  have refl : ∀ l, order l l := fun _ _ => rfl
  have trans : ∀ {l l' l''}, order l l' → order l' l'' → order l l'' :=
    fun first second kind => (second kind).trans (first kind)
  exact leads_rendering refl trans plain (fun _ _ _ => rfl)
    (fun _ _ entry _ input => locks_apply entry i input) template context l kind

/-! ### Texts and outputs -/

/-- **A text agrees with an output** of a render in a scope: all scopes are left the same, and if no lock
of that scope is spoilt, then both fail or both succeed with one content.  A spoilt lock lets the
output fail whatever the text is. -/
structure Agrees (scope : Scope) (text : Except Error String × Ledger)
    (output : Except Error Output × Ledger) : Prop where
  held : text.2.scopes = output.2.scopes
  content : (∀ kind, (scope.get kind).poisoned = false) →
    text.1.toOption = output.1.toOption.map Output.content
  spoilt : ∀ kind, (scope.get kind).poisoned = true → ∃ e, output.1 = .error e

/-- A text agrees with the render of a template that does the same. -/
theorem agrees_renderIn (plain : environment.Plain) {template : String} {context : Value}
    {scopes : Scopes} {outcome : Except Failure String × Ledger}
    (same : outcome.1.toOption =
      ((environment.rendering i template context).perform ⟨scopes, []⟩).1.toOption)
    (ledger : outcome.2 =
      ((environment.rendering i template context).perform ⟨scopes, []⟩).2) :
    Agrees (scopes.get i) (asText outcome) (environment.renderIn template context i scopes) := by
  have locks := locks_rendering plain i template context ⟨scopes, []⟩
  have after := scopes_renderIn environment template context i scopes
  refine ⟨?_, fun intact => ?_, fun kind poisoned => ?_⟩
  · rw [after, ← ledger]
    rfl
  · obtain ⟨result, l⟩ := outcome
    obtain rfl := ledger
    rw [renderIn_eq]
    generalize (environment.rendering i template context).perform ⟨scopes, []⟩ = p at same locks
    obtain ⟨e | content, l⟩ := p
    · cases result with
      | error e' => rfl
      | ok content => cases same
    · cases result with
      | error e' => cases same
      | ok content' =>
        obtain rfl : content' = content := Option.some.inj same
        -- the locks are as they were, so the output can be collected
        have collected : Output.collect content' (l.scope i) =
            .ok ⟨content', (l.scope i).imports.flags.keys, (l.scope i).typeAliases.flags.keys⟩ := by
          refine Output.collect_eq_ok_iff.mpr ⟨rfl, fun kind => ⟨?_, by cases kind <;> rfl⟩⟩
          exact (locks kind).trans (intact kind)
        dsimp only
        rw [finish_eq_ok_iff.mpr collected]
        rfl
  · cases result : (environment.renderIn template context i scopes).1 with
    | error e => exact ⟨e, rfl⟩
    | ok output =>
      have intact := ((renderIn_eq_ok_iff.mp result).2 kind).1
      rw [scope_renderIn, locks kind] at intact
      exact absurd (intact.symm.trans poisoned) Bool.false_ne_true

end Environment

end ApiStencil
