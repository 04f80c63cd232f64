import ApiStencil.Proofs.Environment.Binding

/-!
# Renders that share a scope

Templates that only add to the accumulators cannot tell what these hold.  So a render in a scope
does what it does in the scope *emptied*, with its locks as they are, and leaves the scope with what
it held before and what the render adds alone.

* `Joined` — one scope holds what another one does, and what a third one held before;
* `joined_renderIn` — a render keeps scopes joined and gives the same text in both;
* `renderAll_alone` — renders in one scope, by what each of them does alone.

The emptied scope need not be a fresh one: a lock that is spoilt makes every render fail that comes
to it, also those that would do well in a fresh scope.
-/

namespace ApiStencil

open Json Template ApiStencil.Action

/-! ### Scopes that hold more -/

namespace Scope

/-- The scope with nothing in it, and with its locks as they are. -/
def emptied (s : Scope) : Scope :=
  ⟨⟨.empty, s.imports.poisoned⟩, ⟨.empty, s.typeAliases.poisoned⟩⟩

@[simp] theorem get_emptied (s : Scope) (kind : FlagKind) :
    s.emptied.get kind = ⟨.empty, (s.get kind).poisoned⟩ := by
  cases kind <;> rfl

/-- Scopes with the same locks are the same when emptied. -/
theorem emptied_eq_of_locks {s t : Scope}
    (h : ∀ kind, (s.get kind).poisoned = (t.get kind).poisoned) : s.emptied = t.emptied := by
  have i : s.imports.poisoned = t.imports.poisoned := h .imports
  have a : s.typeAliases.poisoned = t.typeAliases.poisoned := h .typeAliases
  unfold emptied
  rw [i, a]

/-- Without spoilt locks the emptied scope is a fresh one. -/
theorem emptied_eq_empty {s : Scope} (h : ∀ kind, (s.get kind).poisoned = false) :
    s.emptied = .empty := by
  have same : s.emptied = empty.emptied :=
    emptied_eq_of_locks fun kind => (h kind).trans (by cases kind <;> rfl)
  exact same

/-- A scope holds what another one holds, and what a base held before; the locks of all three are
alike. -/
structure Joined (base s s' : Scope) : Prop where
  lock : ∀ kind, (s.get kind).poisoned = (base.get kind).poisoned
  lock' : ∀ kind, (s'.get kind).poisoned = (base.get kind).poisoned
  held : ∀ kind key, s.Holds kind key ↔ base.Holds kind key ∨ s'.Holds kind key

theorem joined_emptied (s : Scope) : Joined s s s.emptied where
  lock _ := rfl
  lock' kind := by rw [get_emptied]
  held kind key := by simp [Holds]

/-- Adding the same keys to both scopes keeps them joined. -/
theorem Joined.insertAll {base s s' : Scope} (h : Joined base s s') {kind : FlagKind}
    (intact : (s.get kind).poisoned = false) (keys : List String) :
    Joined base (s.set kind ⟨((s.get kind).flags.insertAll keys).2, false⟩)
      (s'.set kind ⟨((s'.get kind).flags.insertAll keys).2, false⟩) := by
  have lock : (base.get kind).poisoned = false := (h.lock kind).symm.trans intact
  refine ⟨fun other => ?_, fun other => ?_, fun other key => ?_⟩
  · by_cases e : other = kind
    · rw [e, get_set_self, lock]
    · rw [get_set_of_ne e]
      exact h.lock other
  · by_cases e : other = kind
    · rw [e, get_set_self, lock]
    · rw [get_set_of_ne e]
      exact h.lock' other
  · unfold Holds
    by_cases e : other = kind
    · rw [e, get_set_self, get_set_self, FlagSet.mem_insertAll, FlagSet.mem_insertAll]
      have held : key ∈ (s.get kind).flags ↔
          key ∈ (base.get kind).flags ∨ key ∈ (s'.get kind).flags := h.held kind key
      rw [held]
      exact or_left_comm
    · rw [get_set_of_ne e, get_set_of_ne e]
      exact h.held other key

end Scope

open Scope

/-! ### Actions on joined scopes -/

/-- A scope of one ledger and one of another are joined. -/
def JoinedLedgers (base : Scope) (i i' : Handle) (l l' : Ledger) : Prop :=
  Joined base (l.scope i) (l'.scope i')

/-- **An entry that adds** cannot tell joined scopes apart. -/
theorem joined_apply {base : Scope} {i i' : Handle} {entry : Entry} (h : entry.action = .add)
    (input : Value) :
    Coupled (JoinedLedgers base i i') _ ((entry.on i).apply input) ((entry.on i').apply input) := by
  intro l l' joined
  have locks : ((l.scope i).get entry.kind).poisoned = ((l'.scope i').get entry.kind).poisoned :=
    (joined.lock _).trans (joined.lock' _).symm
  rw [BoundEntry.perform_apply, BoundEntry.perform_apply]
  cases entry.keysOf input with
  | error e => exact ⟨rfl, joined⟩
  | ok keys =>
    dsimp only
    cases poisoned : ((l.scope i).get entry.kind).poisoned with
    | true =>
      rw [← locks, poisoned]
      exact ⟨rfl, joined⟩
    | false =>
      rw [← locks, poisoned]
      simp only [Entry.work, h, Bool.false_eq_true, if_false, true_and, JoinedLedgers,
        Ledger.scope_mk, Scopes.get_set_self]
      exact joined.insertAll poisoned keys

theorem joined_report {base : Scope} {i i' : Handle} (events : List Event) :
    Coupled (JoinedLedgers base i i') _ (report events) (report events) :=
  fun _ _ joined => ⟨rfl, joined⟩

namespace Environment

/-! ### One render -/

section Adds

variable {environment : Environment} (plain : environment.Plain)
  (adds : ∀ use ∈ environment.uses, ∀ entry : Entry, entry.name = use.name → entry.action = .add)

include plain adds in
/-- Templates that only add do the same in joined scopes and keep them joined. -/
theorem joined_rendering (base : Scope) (i i' : Handle) (template : String) (context : Value) :
    Coupled (JoinedLedgers base i i') _ (environment.rendering i template context)
      (environment.rendering i' template context) := by
  obtain ⟨engine, config, hplain, rfl⟩ := plain
  have respected := coupled_respected (JoinedLedgers base i i')
  refine rendering_related respected rfl rfl i i' (fun use hu => ?_) template context
  refine tools_related hplain respected use.caught (fun entry named input => ?_) fun _ => ?_
  · exact joined_apply (adds use hu entry named) input
  · exact responseType_related respected use.caught _ joined_report

/-- The text of an output is decided by the locks of the scope. -/
lemma content_finish {template content : String} {i i' : Handle} {l l' : Ledger}
    (h : ∀ kind, ((l.scope i).get kind).poisoned = ((l'.scope i').get kind).poisoned) :
    (finish template content i l).1.map Output.content =
      (finish template content i' l').1.map Output.content := by
  have imports := h .imports
  have aliases := h .typeAliases
  simp only [finish, Output.collect, Scope.flags?, imports, aliases]
  cases ((l'.scope i').get .imports).poisoned <;>
    cases ((l'.scope i').get .typeAliases).poisoned <;> rfl

include plain adds in
/-- **One render** by templates that only add gives the same text in joined scopes, or fails in the
same way, and keeps them joined. -/
theorem joined_renderIn {base : Scope} {i i' : Handle} {scopes scopes' : Scopes}
    (joined : Joined base (scopes.get i) (scopes'.get i')) (template : String) (context : Value) :
    (environment.renderIn template context i scopes).1.map Output.content =
        (environment.renderIn template context i' scopes').1.map Output.content ∧
      Joined base ((environment.renderIn template context i scopes).2.scope i)
        ((environment.renderIn template context i' scopes').2.scope i') := by
  refine renderIn_coupled (R := JoinedLedgers base i i')
    (S := fun p p' => p.1.map Output.content = p'.1.map Output.content ∧
      Joined base (p.2.scope i) (p'.2.scope i'))
    (joined_rendering plain adds base i i' template context) (fun _ _ _ after => ⟨rfl, after⟩)
    (fun content l l' after => ?_) joined
  rw [Ledger.scope, Ledger.scope, scopes_finish, scopes_finish]
  exact ⟨content_finish fun kind => (after.lock kind).trans (after.lock' kind).symm, after⟩

end Adds

/-! ### Renders one after the other -/

/-- The results of renders in one scope one after the other, and the scopes after them. -/
def renderAll (environment : Environment) (i : Handle) (scopes : Scopes) :
    List (String × Value) → List (Except Error Output) × Scopes
  | [] => ([], scopes)
  | (template, context) :: rest =>
    let (result, ledger) := environment.renderIn template context i scopes
    let (results, after) := environment.renderAll i ledger.scopes rest
    (result :: results, after)

/-- What a render by itself does in a scope that is emptied, where there is no other one: its text or
failure, and the scope after it. -/
def alone (environment : Environment) (scope : Scope) (render : String × Value) :
    Except Error String × Scope :=
  let (result, ledger) := environment.renderIn render.1 render.2 .first (.single scope.emptied)
  (result.map Output.content, ledger.scope .first)

/-- Renders in one scope leave all others as they are. -/
lemma scopes_renderAll {environment : Environment} (plain : environment.Plain) (i : Handle)
    (scopes : Scopes) (renders : List (String × Value)) :
    (environment.renderAll i scopes renders).2 =
      scopes.set i ((environment.renderAll i scopes renders).2.get i) := by
  induction renders generalizing scopes with
  | nil => exact (Scopes.set_get _ _).symm
  | cons first rest ih =>
    obtain ⟨template, context⟩ := first
    have later := ih (environment.renderIn template context i scopes).2.scopes
    rw [(bound_renderIn plain template context).scopes_single i scopes, Scopes.set_set,
      ← (bound_renderIn plain template context).scopes_single i scopes] at later
    exact later

lemma alone_eq_of_locks {environment : Environment} {s t : Scope}
    (h : ∀ kind, (s.get kind).poisoned = (t.get kind).poisoned) :
    environment.alone s = environment.alone t := by
  unfold alone
  rw [emptied_eq_of_locks h]

section Adds

variable {environment : Environment} (plain : environment.Plain)
  (adds : ∀ use ∈ environment.uses, ∀ entry : Entry, entry.name = use.name → entry.action = .add)
include plain adds

/-- Renders in one scope give what they give alone, keep the locks, and leave in the scope what it
held before and what they add alone. -/
lemma renderAll_alone (i : Handle) (scopes : Scopes) (renders : List (String × Value)) :
    (environment.renderAll i scopes renders).1.map (Except.map Output.content) =
        renders.map (fun render => (environment.alone (scopes.get i) render).1) ∧
      (∀ kind, (((environment.renderAll i scopes renders).2.get i).get kind).poisoned =
        ((scopes.get i).get kind).poisoned) ∧
      ∀ kind key, ((environment.renderAll i scopes renders).2.get i).Holds kind key ↔
        (scopes.get i).Holds kind key ∨
          ∃ render ∈ renders, (environment.alone (scopes.get i) render).2.Holds kind key := by
  induction renders generalizing scopes with
  | nil => exact ⟨rfl, fun _ => rfl, fun _ _ => by simp [renderAll]⟩
  | cons first rest ih =>
    obtain ⟨template, context⟩ := first
    have start : Joined (scopes.get i) (scopes.get i)
        ((Scopes.single (scopes.get i).emptied).get .first) := by
      rw [Scopes.get_single]
      exact joined_emptied _
    obtain ⟨same, joined⟩ := joined_renderIn plain adds start template context
    obtain ⟨results, locks, held⟩ := ih (environment.renderIn template context i scopes).2.scopes
    -- the first render has kept the locks, so the others are alone in the same emptied scope
    have keeps : ∀ kind,
        (((environment.renderIn template context i scopes).2.scopes.get i).get kind).poisoned =
          ((scopes.get i).get kind).poisoned := joined.lock
    rw [alone_eq_of_locks keeps] at results held
    refine ⟨?_, fun kind => ?_, fun kind key => ?_⟩
    · rw [List.map_cons, ← results]
      exact congrArg (· :: _) same
    · exact (locks kind).trans (keeps kind)
    · refine (held kind key).trans ?_
      have first : ((environment.renderIn template context i scopes).2.scopes.get i).Holds kind key ↔
          _ := joined.held kind key
      rw [first, List.exists_mem_cons_iff, or_assoc]
      rfl

/-- **Renders that share a scope**, by templates that only add to the accumulators.  In any number
and order each one gives the text, or fails with the failure, that it gives alone in the scope when
emptied, and in the end the scope holds what it held before and what each of them adds alone, a
failing one until it fails.  So the order of the renders and how often one is made does not matter.
A scope without spoilt locks is a fresh one when emptied.

The filters and functions that the engine itself comes with are taken to be plain
(`Environment.Plain`): they make values of values and touch no scope. -/
theorem renderAll_of_adds (i : Handle) (scopes : Scopes) (renders : List (String × Value)) :
    (environment.renderAll i scopes renders).1.map (Except.map Output.content) =
        renders.map (fun render => (environment.alone (scopes.get i) render).1) ∧
      (∀ kind key, ((environment.renderAll i scopes renders).2.get i).Holds kind key ↔
        (scopes.get i).Holds kind key ∨
          ∃ render ∈ renders, (environment.alone (scopes.get i) render).2.Holds kind key) ∧
      (∀ others, (∀ render, render ∈ others ↔ render ∈ renders) →
        (environment.renderAll i scopes others).2 = (environment.renderAll i scopes renders).2) ∧
      ((∀ kind, ((scopes.get i).get kind).poisoned = false) → (scopes.get i).emptied = .empty) := by
  obtain ⟨results, locks, held⟩ := renderAll_alone plain adds i scopes renders
  refine ⟨results, held, fun others h => ?_, emptied_eq_empty⟩
  obtain ⟨-, locks', held'⟩ := renderAll_alone plain adds i scopes others
  have same : (environment.renderAll i scopes others).2.get i =
      (environment.renderAll i scopes renders).2.get i := by
    refine Scope.eq_of_holds_iff (fun kind => (locks' kind).trans (locks kind).symm) ?_
    intro kind key
    rw [held, held']
    simp only [h]
  rw [scopes_renderAll plain i scopes others, same, ← scopes_renderAll plain]

end Adds

/-! ### Two units -/

/-- An import added, as a template writes it. -/
def importOf (name : String) : Node := .output (.mk false (.text name) [.mk "addImport" []])

/-- Templates of two units, of which the second one fails after its import. -/
def units : Engine :=
  .ofNodes [("pets", [importOf "IPet"]),
    ("orders", [importOf "IOrder", .output (.ofBase (.variable (.mk "total" "total" [])))])]

lemma adds_units : ∀ use ∈ (ofEngine units .default).1.uses, ∀ entry : Entry,
    entry.name = use.name → entry.action = .add := by
  have all : (ofEngine units .default).1.uses = [⟨"addImport", false⟩, ⟨"addImport", false⟩] := by
    decide +kernel
  have name : ∀ use ∈ (ofEngine units .default).1.uses, use.name = "addImport" := by
    rw [all]
    decide
  have adds : ∀ entry ∈ Entry.all, entry.name = "addImport" → entry.action = .add := by decide
  intro use hu entry named
  exact adds entry entry.mem_all (named.trans (name use hu))

theorem renderAll_units :
    ((ofEngine units .default).1.renderAll .first .empty
        [("orders", .obj []), ("pets", .obj [])]).2 =
      ((ofEngine units .default).1.renderAll .first .empty
        [("pets", .obj []), ("orders", .obj []), ("pets", .obj [])]).2 :=
  (renderAll_of_adds ⟨units, .default, Engine.plain_ofNodes _, rfl⟩ adds_units .first .empty
    _).2.2.1 _ fun render => by simp; tauto

/-- A spoilt lock makes a render fail that succeeds alone in a fresh scope. -/
theorem renderAll_poisoned_ne :
    (∀ use ∈ (ofEngine units .default).1.uses, ∀ entry : Entry,
        entry.name = use.name → entry.action = .add) ∧
      ((ofEngine units .default).1.renderAll .first (.single (Scope.empty.poison .imports))
          [("pets", .obj [])]).1.map (Except.map Output.content) ≠
        [("pets", Value.obj [])].map fun render =>
          ((ofEngine units .default).1.renderIn render.1 render.2 .first .empty).1.map
            Output.content :=
  ⟨adds_units, by decide +kernel⟩

end Environment

end ApiStencil
