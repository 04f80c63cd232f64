import ApiStencil.Proofs.Environment.SharedScope

/-!
# A shared scope only grows

Templates that mention no entry that resets take nothing out of the scope they are rendered in,
whatever else they do: they may list what it holds and let that decide how they go on, and they may
fail at any point.

* `Scope.Grows` — a later scope holds what an earlier one holds;
* `grows_apply` — one entry, unless it resets;
* `scope_grows` — whole renders of templates and of sources, and what a successful one lists.
-/

namespace ApiStencil

open Json Template ApiStencil.Action

namespace Scope

/-- A later scope holds all that an earlier one holds. -/
def Grows (s s' : Scope) : Prop := ∀ kind key, s.Holds kind key → s'.Holds kind key

lemma Grows.refl (s : Scope) : s.Grows s := fun _ _ held => held

lemma Grows.trans {s s' s'' : Scope} (first : s.Grows s') (second : s'.Grows s'') : s.Grows s'' :=
  fun kind key held => second kind key (first kind key held)

end Scope

/-- **An entry that does not reset** takes nothing out of the scope, whether it fails or not. -/
theorem grows_apply {entry : Entry} (h : entry.action ≠ .reset) (i : Handle) (input : Value)
    (l : Ledger) :
    (l.scope i).Grows ((((entry.on i).apply input).perform l).2.scope i) := by
  rcases BoundEntry.perform_apply_cases entry i input l with ⟨e, fails⟩ | ⟨keys, -, works⟩
  · rw [fails]
    exact Scope.Grows.refl _
  · intro kind key held
    rw [works]
    unfold Scope.Holds at held ⊢
    rw [Ledger.scope_mk, Scopes.get_set_self]
    by_cases same : kind = entry.kind
    · subst same
      rw [Scope.get_set_self]
      cases action : entry.action with
      | reset => exact absurd action h
      | add =>
        rw [Entry.work, action]
        exact FlagSet.mem_insertAll.mpr (.inr held)
      | get =>
        rw [Entry.work, action]
        exact held
    · rw [Scope.get_set_of_ne same]
      exact held

namespace Environment

/-- No entry that resets is mentioned, neither as a filter nor as a function. -/
def ResetFree (uses : List Use) : Prop :=
  ∀ use ∈ uses, ∀ kind, use.name ≠ Entry.name ⟨kind, .reset⟩

section ResetFree

variable {environment : Environment} (plain : environment.Plain)
include plain

/-- What templates do that mention no entry that resets, whether they fail or not. -/
lemma grows_rendering (free : ResetFree environment.uses) (i : Handle) (template : String)
    (context : Value) (l : Ledger) :
    (l.scope i).Grows (((environment.rendering i template context).perform l).2.scope i) := by
  let order (l l' : Ledger) : Prop := (l.scope i).Grows (l'.scope i)
  have refl : ∀ l, order l l := fun l => Scope.Grows.refl (l.scope i)
  have trans : ∀ {l l' l''}, order l l' → order l' l'' → order l l'' := Scope.Grows.trans
  have entries : ∀ use ∈ environment.uses, ∀ entry : Entry, entry.name = use.name →
      ∀ input, Leads order _ ((entry.on i).apply input) ((entry.on i).apply input) := by
    intro use hu entry named input
    have keeps : entry.action ≠ .reset := by
      intro resets
      refine free use hu entry.kind ?_
      rw [← named, ← resets]
    exact grows_apply keeps i input
  exact leads_rendering refl trans plain (fun _ l => Scope.Grows.refl (l.scope i)) entries template
    context l

/-- **A scope only grows** while templates are rendered in it that mention no entry that resets, be
it by name or from a source, and also where the render fails.  A render by name that succeeds lists
exactly what the scope holds after it, in strictly ascending order, and so all that the scope held
before.

The filters and functions that the engine itself comes with are taken to be plain
(`Environment.Plain`): they make values of values and touch no scope. -/
theorem scope_grows (free : ResetFree environment.uses) :
    (∀ template context (i : Handle) (scopes : Scopes),
      (scopes.get i).Grows ((environment.renderIn template context i scopes).2.scope i) ∧
      ∀ output, (environment.renderIn template context i scopes).1 = .ok output →
        ∀ kind,
          output.listing kind =
            (((environment.renderIn template context i scopes).2.scope i).get kind).flags.keys ∧
          (output.listing kind).Pairwise (· < ·) ∧
          ∀ key, (scopes.get i).Holds kind key → key ∈ output.listing kind) ∧
    (∀ source context (i : Handle) (scopes : Scopes),
      (∀ t, Template.ofSource? source = some t → ResetFree t.uses) →
        (scopes.get i).Grows
          ((environment.renderSource source context i scopes).2.scope i)) := by
  constructor
  · intro template context i scopes
    have grows : (scopes.get i).Grows
        ((environment.renderIn template context i scopes).2.scope i) := by
      rw [scope_renderIn]
      exact grows_rendering plain free i template context ⟨scopes, []⟩
    refine ⟨grows, fun output ok kind => ?_⟩
    have listed := ((renderIn_eq_ok_iff.mp ok).2 kind).2
    refine ⟨listed, ?_, fun key held => ?_⟩
    · rw [listed]
      exact FlagSet.ascending _
    · rw [listed]
      exact grows kind key held
  · intro source context i scopes freeSource
    cases read : Template.ofSource? source with
    | none =>
      rw [Ledger.scope, scopes_renderSource_eq read]
      exact Scope.Grows.refl _
    | some t =>
      rw [renderSource_eq read]
      refine grows_rendering (plain.withTemplate _ t) (fun use hu => ?_) i _ context ⟨scopes, []⟩
      rcases Catalog.mem_uses_insert hu with mentioned | mentioned
      · exact freeSource t read use mentioned
      · exact free use mentioned

end ResetFree

/-! ### A template that looks at its scope -/

/-- A template that adds an import where another one is there already, lists all, and then fails. -/
def steered : Engine :=
  .ofNodes [("steered",
    [.branch [(.ofBase (.equal true listed (.ofBase (.text "IOld"))), [importOf "INew"])] [],
      .output listed, .output (.ofBase (.variable (.mk "total" "total" [])))])]
where
  /-- The imports so far. -/
  listed : Expr := .ofBase (.function (.mk "getImports" []))

/-- A scope that holds an import. -/
def holding : Scope := ⟨⟨FlagSet.empty.insert "IOld", false⟩, ⟨.empty, false⟩⟩

lemma resetFree_steered : ResetFree (ofEngine steered .default).1.uses := by
  have uses : (ofEngine steered .default).1.uses =
      [⟨"getImports", false⟩, ⟨"addImport", false⟩, ⟨"getImports", false⟩] := by
    decide +kernel
  rw [ResetFree, uses]
  intro use hu kind
  cases kind <;> revert use <;> decide

theorem grows_steered :
    holding.Holds .imports "IOld" ∧
      (((ofEngine steered .default).1.renderIn "steered" (.obj []) .first
        (.single holding)).2.scope .first).Holds .imports "IOld" := by
  have held : holding.Holds .imports "IOld" := List.mem_cons_self
  have plain : (ofEngine steered .default).1.Plain :=
    ⟨steered, .default, Engine.plain_ofNodes _, rfl⟩
  have kept : ((Scopes.single holding).get .first).Holds .imports "IOld" := held
  obtain ⟨grows, -⟩ :=
    (scope_grows plain resetFree_steered).1 "steered" (.obj []) .first (.single holding)
  exact ⟨held, grows .imports "IOld" kept⟩

end Environment

end ApiStencil
