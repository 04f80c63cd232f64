import ApiStencil.Proofs.Environment.Outcome
import ApiStencil.Proofs.Template.Catalog

/-!
# Filters installed at once and in two steps

An environment installs the filters on records when it is made and the accumulator entries for each
render.  That gives the engine which a table with both halves gives, since installing one table
after another is installing both put together (`install_install`).

So a template of a bare engine with the full table does what it does in an environment that escapes
nothing, unless its name makes the bare engine escape (`renderSource_full_agrees`).
-/

namespace ApiStencil

open Json Template ApiStencil.Action

/-! ### Engines that escape alike -/

namespace Engine

/-- Nodes are rendered without a look at the endings of names. -/
lemma renderBody_withEndings (engine : Engine) (endings : List String) (escaping : Bool)
    (context : List (String × Value)) (depth : Nat) (name : String) (frames : Frames)
    (nodes : List Node) :
    renderBody { engine with escapedEndings := endings } escaping context depth name frames nodes =
      renderBody engine escaping context depth name frames nodes := by
  induction depth generalizing name frames nodes with
  | zero => rfl
  | succ depth ih => simp only [renderBody, ih]

/-- The endings of escaped names matter only as far as they escape a template. -/
lemma render_withEndings (engine : Engine) (endings : List String) {name : String}
    (h : { engine with escapedEndings := endings }.escapes name = engine.escapes name)
    (context : List (String × Value)) :
    { engine with escapedEndings := endings }.render name context = engine.render name context := by
  simp only [render, renderBody_withEndings, h]

/-- A bare engine escapes by three endings of names. -/
lemma escapes_bare {name : String}
    (h : ∀ ending ∈ [".html", ".htm", ".xml"], ¬ ending.toList <:+ name.toList) :
    bare.escapes name = false := by
  refine List.any_eq_false.mpr fun ending mem => ?_
  rw [List.isSuffixOf_iff_suffix]
  exact h ending mem

end Engine

namespace FilterTable

/-! ### Tables one after the other -/

/-- **Installing one table after another** is installing both put together. -/
theorem install_install (table other : FilterTable) (engine : Engine) :
    other.install (table.install engine) = (table.extend other).install engine := by
  simp only [install, extend, Catalog.extend_extend]

/-- **The full table** gives the engine of a render. -/
theorem install_full (engine : Engine) (config : Config) (i : Handle) :
    (Environment.ofEngine engine config).1.bound i =
      (full config.strictStatusCodes i).install
        { engine with escapedEndings := if config.autoescape then [""] else [] } :=
  install_install _ _ _

/-- Renders a source as the one template of a bare engine with a table. -/
def renderSource (table : FilterTable) (name source : String) (context : Value)
    (scopes : Scopes) : Except Error String × Ledger :=
  match Template.ofSource? source with
  | none => (.error .templateForm, ⟨scopes, []⟩)
  | some t =>
    let engine := table.install (Engine.bare.withTemplates (.ofList [(name, t)]))
    let action : Action String := do
      let vars ← liftM (contextOf context)
      engine.render name vars
    Environment.asText (action.perform ⟨scopes, []⟩)

end FilterTable

namespace Environment

/-! ### The two ways -/

/-- The environment of one source. -/
lemma ofTemplates_single (config : Config) (name source : String) :
    (ofTemplates [(name, source)] config).1 =
      match Template.ofSource? source with
      | none => .error .templateForm
      | some t => .ok (ofEngine (Engine.bare.withTemplates (.ofList [(name, t)])) config).1 := by
  unfold ofTemplates templatesOf
  rw [List.mapM_cons, List.mapM_nil]
  dsimp only
  cases Template.ofSource? source <;> rfl

/-- In an environment that escapes nothing a template does what it does in an engine with the full
table that does not escape it. -/
lemma rendering_ofEngine (engine : Engine) {config : Config} (unescaped : config.autoescape = false)
    {name : String} (h : engine.escapes name = false) (i : Handle) (context : Value) :
    (ofEngine engine config).1.rendering i name context =
      (do
        let vars ← liftM (contextOf context)
        ((FilterTable.full config.strictStatusCodes i).install engine).render name vars) := by
  unfold rendering
  rw [FilterTable.install_full, unescaped]
  have escapes : ((FilterTable.full config.strictStatusCodes i).install
      { engine with escapedEndings := [] }).escapes name =
      ((FilterTable.full config.strictStatusCodes i).install engine).escapes name := h.symm
  have same := Engine.render_withEndings
    ((FilterTable.full config.strictStatusCodes i).install engine) [] escapes
  exact congrArg (liftM (contextOf context) >>= ·) (funext same)

/-- **Installing the filters in two steps agrees with installing them at once.**  Where output is not
escaped, by the configuration and by the ending of the name, a source that is rendered on a bare
engine with the full table for a scope and one that is rendered as the one template of an environment
in that scope leave all scopes the same, and unless a lock of that scope is spoilt, both fail or both
succeed with one content.  A source that is no template fails both ways. -/
theorem renderSource_full_agrees {config : Config} (unescaped : config.autoescape = false)
    {name : String}
    (unmarked : ∀ ending ∈ [".html", ".htm", ".xml"], ¬ ending.toList <:+ name.toList)
    (source : String) (context : Value) (i : Handle) (scopes : Scopes) :
    (∀ e, (ofTemplates [(name, source)] config).1 = .error e →
      (FilterTable.full config.strictStatusCodes i).renderSource name source context scopes =
        (.error e, ⟨scopes, []⟩)) ∧
    ∀ environment, (ofTemplates [(name, source)] config).1 = .ok environment →
      Agrees (scopes.get i)
        ((FilterTable.full config.strictStatusCodes i).renderSource name source context scopes)
        (environment.renderIn name context i scopes) := by
  rw [ofTemplates_single, FilterTable.renderSource]
  cases Template.ofSource? source with
  | none =>
    refine ⟨fun e failed => ?_, fun environment made => ?_⟩
    · cases failed
      rfl
    · cases made
  | some t =>
    refine ⟨fun e failed => ?_, fun environment made => ?_⟩
    · cases failed
    · cases made
      have plain := Engine.plain_withTemplates Engine.plain_bare (.ofList [(name, t)])
      have same := rendering_ofEngine (Engine.bare.withTemplates (.ofList [(name, t)])) unescaped
        (Engine.escapes_bare unmarked) i context
      refine agrees_renderIn ⟨_, config, plain, rfl⟩ ?_ ?_ <;> rw [same]

/-! ### A source that lists its imports -/

/-- A source that adds an import and lists all imports. -/
def importing : String := "\x7b\x7b 'IPet' | addImport \x7d\x7d\x7b\x7b getImports() \x7d\x7d"

theorem renderSource_full_agrees_imports :
    ∃ environment, (ofTemplates [("imports", importing)] .default).1 = .ok environment ∧
      Agrees .empty
        ((FilterTable.full Config.default.strictStatusCodes .first).renderSource "imports"
          importing (.obj []) .empty)
        (environment.renderIn "imports" (.obj []) .first .empty) := by
  have unmarked : ∀ ending ∈ [".html", ".htm", ".xml"],
      ¬ ending.toList <:+ "imports".toList := by decide +kernel
  have made : (ofTemplates [("imports", importing)] .default).1.isOk = true := by decide +kernel
  obtain ⟨environment, result⟩ : ∃ environment,
      (ofTemplates [("imports", importing)] .default).1 = .ok environment := by
    generalize (ofTemplates [("imports", importing)] .default).1 = result at made
    cases result with
    | error e => cases made
    | ok environment => exact ⟨environment, rfl⟩
  have unescaped : Config.default.autoescape = false := rfl
  exact ⟨environment, result,
    (renderSource_full_agrees unescaped unmarked importing (.obj []) .first .empty).2 environment
      result⟩

/-- A spoilt lock makes only the render in the environment fail. -/
theorem renderSource_full_poisoned_ne :
    ((FilterTable.full Config.default.strictStatusCodes .first).renderSource "t" "x" (.obj [])
        (.single (Scope.empty.poison .imports))).1 = .ok "x" ∧
      (ofTemplates [("t", "x")] .default).1.toOption.map (fun environment =>
          (environment.renderIn "t" (.obj []) .first
            (.single (Scope.empty.poison .imports))).1) =
        some (.error (.template "imports accumulator lock poisoned")) := by
  constructor <;> decide +kernel

end Environment

end ApiStencil
