import ApiStencil.Proofs.Accumulator.Entry
import ApiStencil.Proofs.Environment.Tools

/-!
# Strict and lenient renders

In strict mode a response without a wrapper makes its filter fail, in lenient mode it does not.
Until a run meets such a response the two modes cannot be told apart; after that nothing is said,
for a condition on a variable catches the failure and goes on with another branch.

* `Ledger.Met` — a run has met a response without a wrapper, which it reports in both modes;
* `Agree` — two runs are the same, or the first one meets such a response;
* `Alarmed` — a run that meets such a response fails; where failures are caught it meets none;
* `KeepsPromise` — what strict mode promises, which a condition can break.
-/

namespace ApiStencil

open Json Template ApiStencil.Action

/-- Whether a response without a wrapper has been met. -/
def Ledger.Met (l : Ledger) : Prop := ∃ code, Event.unmappedStatus code ∈ l.journal

/-! ### Runs that agree -/

/-- What has been met stays met, and the two actions do the same unless the first one meets a
response without a wrapper. -/
def Agree (α : Type) (a a' : Action α) : Prop :=
  ∀ l, (l.Met → (a.perform l).2.Met) ∧ (a.perform l = a'.perform l ∨ (a.perform l).2.Met)

/-- Agreement is respected, also where failures are caught: from then on nothing is said. -/
theorem agree_respected : Respected fun _ => Agree where
  pure _ _ _ := ⟨id, .inl rfl⟩
  throw _ _ _ := ⟨id, .inl rfl⟩
  bind {α β _ a a' f f'} ha hf l := by
    obtain ⟨stays, same⟩ := ha l
    rw [perform_bind, perform_bind]
    rcases same with eq | met
    · rw [← eq]
      generalize a.perform l = p at stays
      obtain ⟨x | x, after⟩ := p
      · exact ⟨stays, .inl rfl⟩
      · obtain ⟨later, same⟩ := hf x after
        exact ⟨fun h => later (stays h), same⟩
    · -- the first action has met one, and what comes after it cannot undo that
      generalize a.perform l = p at met
      obtain ⟨x | x, after⟩ := p
      · exact ⟨fun _ => met, .inr met⟩
      · have met' := (hf x after).1 met
        exact ⟨fun _ => met', .inr met'⟩
  mapFailure {α _ a a'} wrap ha l := by
    obtain ⟨stays, same⟩ := ha l
    rw [perform_mapFailure, perform_mapFailure]
    exact ⟨stays, same.imp (fun eq => by rw [eq]) id⟩
  orElse {α} _ {a a'} fallback ha l := by
    obtain ⟨stays, same⟩ := ha l
    rw [perform_orElse, perform_orElse]
    exact ⟨stays, same.imp (fun eq => by rw [eq]) id⟩

/-- What an entry does, it reports as flags only. -/
lemma met_apply_iff (entry : Entry) (i : Handle) (input : Value) (l : Ledger) :
    (((entry.on i).apply input).perform l).2.Met ↔ l.Met := by
  rcases BoundEntry.perform_apply_cases entry i input l with ⟨e, fails⟩ | ⟨keys, -, works⟩
  · rw [fails]
  · rw [works]
    simp [Ledger.Met]

lemma agree_apply (entry : Entry) (i : Handle) (input : Value) :
    Agree _ ((entry.on i).apply input) ((entry.on i).apply input) :=
  fun l => ⟨(met_apply_iff entry i input l).mpr, .inl rfl⟩

/-! ### Runs that raise the alarm -/

/-- An action fails if it meets a response without a wrapper; where its failure would be caught it
meets none. -/
def Alarmed (caught : Bool) (α : Type) (a _ : Action α) : Prop :=
  ∀ l, (a.perform l).2.Met → l.Met ∨ caught = false ∧ ∃ e, (a.perform l).1 = .error e

theorem alarmed_respected : Respected Alarmed where
  pure _ _ _ met := .inl met
  throw _ _ _ met := .inl met
  bind {α β caught a a' f f'} ha hf l := by
    have first := ha l
    rw [perform_bind]
    generalize a.perform l = p at first
    obtain ⟨e | x, after⟩ := p
    · intro met
      exact (first met).imp id fun h => ⟨h.1, e, rfl⟩
    · intro met
      rcases hf x after met with before | alarm
      · -- met by the first action, which then would have failed
        rcases first before with before | ⟨_, e, eq⟩
        · exact .inl before
        · cases eq
      · exact .inr alarm
  mapFailure {α caught a a'} wrap ha l := by
    rw [perform_mapFailure]
    intro met
    rcases ha l met with before | ⟨out, e, eq⟩
    · exact .inl before
    · exact .inr ⟨out, wrap e, by rw [eq]; rfl⟩
  orElse {α} caught {a a'} fallback ha l := by
    rw [perform_orElse]
    intro met
    rcases ha l met with before | ⟨out, _⟩
    · exact .inl before
    · cases out

lemma alarmed_apply (caught : Bool) (entry : Entry) (i : Handle) (input : Value) :
    Alarmed caught _ ((entry.on i).apply input) ((entry.on i).apply input) :=
  fun l met => .inl ((met_apply_iff entry i input l).mp met)

/-! ### The filter for response types -/

namespace Filters

/-- The run of the filter on a response. -/
lemma perform_responseType (strict : Bool) (v : Value) (args : Arguments) (l : Ledger) :
    ((responseType strict).run v args).perform l =
      match decodeValue Response.decode v with
      | .error e => (.error (.undecodable responseTypeName .response e), l)
      | .ok r =>
        (if strict && !r.wrapper.isImplemented then
            .error (.unsupportedStatus responseTypeName r.statusCode)
          else .ok (.str r.wrapper.text),
          { l with journal := l.journal ++ responseEvents r }) := by
  unfold responseType
  dsimp only
  cases decodeValue Response.decode v with
  | error e => rfl
  | ok r =>
    simp only [perform_bind, perform_report, Response.wrapperOrCode]
    cases strict <;> cases r.wrapper.isImplemented <;> rfl

/-- A response is met as one without a wrapper exactly if it has none. -/
lemma met_responseEvents_iff (r : Response) (l : Ledger) :
    Ledger.Met { l with journal := l.journal ++ responseEvents r } ↔
      l.Met ∨ r.wrapper.isImplemented = false := by
  unfold Ledger.Met responseEvents
  cases r.wrapper.isImplemented with
  | true => simp
  | false => simp

/-- The filter in strict mode and the one in lenient mode agree. -/
lemma agree_responseType (v : Value) (args : Arguments) :
    Agree _ ((responseType true).run v args) ((responseType false).run v args) := by
  intro l
  rw [perform_responseType, perform_responseType]
  cases decodeValue Response.decode v with
  | error e => exact ⟨id, .inl rfl⟩
  | ok r =>
    dsimp only
    rw [met_responseEvents_iff]
    refine ⟨.inl, ?_⟩
    cases r.wrapper.isImplemented with
    | true => exact .inl rfl
    | false => exact .inr (.inr rfl)

/-- In strict mode the filter fails on every response without a wrapper. -/
lemma alarmed_responseType (v : Value) (args : Arguments) :
    Alarmed false _ ((responseType true).run v args) ((responseType true).run v args) := by
  intro l
  rw [perform_responseType]
  cases decodeValue Response.decode v with
  | error e => exact .inl
  | ok r =>
    dsimp only
    rw [met_responseEvents_iff]
    rintro (before | none)
    · exact .inl before
    · rw [none]
      exact .inr ⟨rfl, _, rfl⟩

end Filters

/-! ### Renders in both modes -/

namespace Environment

/-- The environment of an engine in strict mode or not, configured alike otherwise. -/
def ofMode (engine : Engine) (config : Config) (strict : Bool) : Environment :=
  (ofEngine engine { config with strictStatusCodes := strict }).1

/-- **What strict mode promises** for a render: if it succeeds, then the lenient render is the same,
its output and what it leaves in all scopes; and if it meets a response without a wrapper, then it
fails. -/
def KeepsPromise (engine : Engine) (config : Config) (template : String) (context : Value)
    (i : Handle) (scopes : Scopes) : Prop :=
  let strict := (ofMode engine config true).renderIn template context i scopes
  let lenient := (ofMode engine config false).renderIn template context i scopes
  (∀ output, strict.1 = .ok output → lenient = strict) ∧
    (strict.2.Met → ∃ e, strict.1 = .error e)

section Modes

variable {engine : Engine} (plain : engine.Plain) (config : Config) (i : Handle)
include plain

lemma agree_rendering (template : String) (context : Value) :
    Agree _ ((ofMode engine config true).rendering i template context)
      ((ofMode engine config false).rendering i template context) := by
  have templates : (ofMode engine config true).engine.templates =
      (ofMode engine config false).engine.templates := by
    simp only [ofMode, templates_ofEngine]
  have endings : (ofMode engine config true).engine.escapedEndings =
      (ofMode engine config false).engine.escapedEndings := by
    simp only [ofMode, escapedEndings_ofEngine]
  refine rendering_related agree_respected templates endings i i (fun use _ => ?_) template context
  refine tools_related plain agree_respected use.caught (fun entry _ input => ?_) fun _ => ?_
  · exact agree_apply entry i input
  · exact Filters.agree_responseType

/-- If no failure of the filter for response types can be caught, then the alarm gets out. -/
lemma alarmed_rendering
    (uncaught : ∀ use ∈ engine.templates.uses, use.name = Filters.responseTypeName →
      use.caught = false) (template : String) (context : Value) :
    Alarmed false _ ((ofMode engine config true).rendering i template context)
      ((ofMode engine config true).rendering i template context) := by
  refine rendering_related alarmed_respected rfl rfl i i (fun use hu => ?_) template context
  refine tools_related plain alarmed_respected use.caught (fun entry _ input => ?_) fun named => ?_
  · exact alarmed_apply use.caught entry i input
  · rw [uncaught use hu named]
    exact Filters.alarmed_responseType

omit plain in
variable {i} in
/-- What a successful render has met, its template has met. -/
lemma met_of_renderIn_ok {environment : Environment} {template : String} {context : Value}
    {scopes : Scopes} {output : Output}
    (h : (environment.renderIn template context i scopes).1 = .ok output) :
    ∃ content, ((environment.rendering i template context).perform ⟨scopes, []⟩).1 = .ok content ∧
      ((environment.renderIn template context i scopes).2.Met ↔
        ((environment.rendering i template context).perform ⟨scopes, []⟩).2.Met) := by
  rw [renderIn_eq] at h ⊢
  generalize (environment.rendering i template context).perform ⟨scopes, []⟩ = p at h ⊢
  obtain ⟨e | content, l⟩ := p
  · cases h
  · refine ⟨content, rfl, ?_⟩
    dsimp only [finish] at h ⊢
    split at h
    · cases h
    · simp [Ledger.Met]

/-- A strict render that succeeds without meeting a response without a wrapper is the lenient
one. -/
lemma renderIn_lenient_eq {template : String} {context : Value} {scopes : Scopes} {output : Output}
    (ok : ((ofMode engine config true).renderIn template context i scopes).1 = .ok output)
    (unmet : ¬ ((ofMode engine config true).renderIn template context i scopes).2.Met) :
    (ofMode engine config false).renderIn template context i scopes =
      (ofMode engine config true).renderIn template context i scopes := by
  obtain ⟨content, _, met⟩ := met_of_renderIn_ok ok
  rcases (agree_rendering plain config i template context ⟨scopes, []⟩).2 with eq | h
  · rw [renderIn_eq, renderIn_eq, eq]
  · exact absurd (met.mpr h) unmet

/-- **When strict mode keeps its promise**: for every render that does not succeed after it has met
a response without a wrapper, so for all renders of templates in which no condition catches a
failure of the filter for response types. -/
theorem keepsPromise_iff (template : String) (context : Value) (scopes : Scopes) :
    (KeepsPromise engine config template context i scopes ↔
      ¬ ((∃ output,
          ((ofMode engine config true).renderIn template context i scopes).1 = .ok output) ∧
        ((ofMode engine config true).renderIn template context i scopes).2.Met)) ∧
      ((∀ use ∈ engine.templates.uses, use.name = Filters.responseTypeName →
          use.caught = false) →
        KeepsPromise engine config template context i scopes) := by
  have keeps : ¬ ((∃ output, ((ofMode engine config true).renderIn template context i scopes).1 =
        .ok output) ∧ ((ofMode engine config true).renderIn template context i scopes).2.Met) →
      KeepsPromise engine config template context i scopes := by
    intro apart
    refine ⟨fun output ok => ?_, fun met => ?_⟩
    · exact renderIn_lenient_eq plain config i ok fun met => apart ⟨⟨output, ok⟩, met⟩
    · cases result : ((ofMode engine config true).renderIn template context i scopes).1 with
      | error e => exact ⟨e, rfl⟩
      | ok output => exact absurd ⟨⟨output, result⟩, met⟩ apart
  refine ⟨⟨?_, keeps⟩, fun uncaught => keeps ?_⟩
  · rintro ⟨-, fails⟩ ⟨⟨output, ok⟩, met⟩
    obtain ⟨e, failed⟩ := fails met
    rw [ok] at failed
    cases failed
  · rintro ⟨⟨output, ok⟩, met⟩
    obtain ⟨content, done, same⟩ := met_of_renderIn_ok ok
    rcases alarmed_rendering plain config i uncaught template context ⟨scopes, []⟩
      (same.mp met) with ⟨code, before⟩ | ⟨-, e, failed⟩
    · cases before
    · rw [done] at failed
      cases failed

end Modes

/-! ### A response as output and as a condition -/

/-- A template that prints the wrapper type of a response, and one that has it as a condition. -/
def wrappers : Engine :=
  .ofNodes [("printed", [.output wrapper]),
    ("tested", [.branch [(wrapper, [.text "A"])] [.text "B"]])]
where
  /-- The wrapper type of the variable for the response. -/
  wrapper : Expr := .mk false (.variable (.mk "r" "r" [])) [.mk Filters.responseTypeName []]

/-- A context with a response that has no wrapper. -/
def unmapped : Value := .obj [("r", .obj [("statusCode", .str "404")])]

lemma plain_wrappers : wrappers.Plain := Engine.plain_ofNodes _

theorem keepsPromise_printed :
    KeepsPromise wrappers .default "printed" unmapped .first .empty := by
  refine (keepsPromise_iff plain_wrappers .default .first "printed" unmapped .empty).1.mpr ?_
  rintro ⟨⟨output, ok⟩, -⟩
  have fails : ((ofMode wrappers .default true).renderIn "printed" unmapped .first .empty).1.isOk =
      false := by decide +kernel
  rw [ok] at fails
  cases fails

/-- **The promise is broken** where a condition catches the failure of the filter. -/
theorem promise_broken_by_condition :
    ((ofMode wrappers .default true).renderIn "tested" unmapped .first .empty).1 = .ok ⟨"B", [], []⟩ ∧
      ((ofMode wrappers .default false).renderIn "tested" unmapped .first .empty).1 =
        .ok ⟨"A", [], []⟩ ∧
      ¬ KeepsPromise wrappers .default "tested" unmapped .first .empty := by
  have strict : ((ofMode wrappers .default true).renderIn "tested" unmapped .first .empty).1 =
      .ok ⟨"B", [], []⟩ := by decide +kernel
  refine ⟨strict, by decide +kernel, ?_⟩
  rintro ⟨-, fails⟩
  obtain ⟨e, failed⟩ := fails ⟨"404", by decide +kernel⟩
  rw [strict] at failed
  cases failed

end Environment

end ApiStencil
