import ApiStencil.Proofs.Environment.Outcome

/-!
# A render reaches the scope it is bound to and no other

All scopes are within the reach of an action, and an entry could be bound to the wrong one.  Here is
what being bound to a scope means for the whole evaluation of a template, whichever way it takes and
wherever it fails.

* `Bound` — a run depends on what its scope holds and on no other scope, and changes no other one;
* `bound_apply` — the accumulator entries; an entry that works on the first scope whichever scope it is
  used for would not be bound (`not_bound_apply_first`);
* `sameIn_rendering` — the evaluation of templates, by following it with one engine bound to each of
  two scopes that hold the same;
* `bound_renderIn`, `bound_renderSource` — renders;
* `render_own` — so a render in a scope of its own gives what it gives where there is no other scope.
-/

namespace ApiStencil

open Json Template ApiStencil.Action

variable {β : Type}

/-! ### What a run reaches -/

/-- Two ledgers hold the same in two scopes and what two bases hold in all others, and have reported
the same. -/
def SameIn (i i' : Handle) (base base' : Scopes) (l l' : Ledger) : Prop :=
  ∃ scope, l.scopes = base.set i scope ∧ l'.scopes = base'.set i' scope ∧ l.journal = l'.journal

lemma sameIn_start {i i' : Handle} {scopes scopes' : Scopes} (same : scopes.get i = scopes'.get i') :
    SameIn i i' scopes scopes' ⟨scopes, []⟩ ⟨scopes', []⟩ :=
  ⟨scopes.get i, (Scopes.set_get _ _).symm, same ▸ (Scopes.set_get _ _).symm, rfl⟩

lemma scope_of_set {i : Handle} {base : Scopes} {l : Ledger} {scope : Scope}
    (held : l.scopes = base.set i scope) : l.scope i = scope := by
  rw [Ledger.scope, held, Scopes.get_set_self]

/-- **A run reaches the scope it is bound to and no other**: in two scopes that hold the same it gives
the same, reports the same and leaves them the same, whatever other scopes hold, and it leaves these as
they are. -/
def Bound (run : Handle → Scopes → β × Ledger) : Prop :=
  ∀ (i i' : Handle) (scopes scopes' : Scopes), scopes.get i = scopes'.get i' →
    (run i scopes).1 = (run i' scopes').1 ∧
      SameIn i i' scopes scopes' (run i scopes).2 (run i' scopes').2

/-- An action that cannot tell two scopes it is bound to apart is bound. -/
lemma bound_of_coupled {action : Handle → Action β}
    (coupled : ∀ i i' base base', Coupled (SameIn i i' base base') β (action i) (action i')) :
    Bound fun i scopes => (action i).perform ⟨scopes, []⟩ :=
  fun _ _ _ _ same => coupled _ _ _ _ _ _ (sameIn_start same)

/-- A bound run makes of its scope what it makes of it where there is no other one, and leaves all
others as they are. -/
lemma Bound.scopes_single {run : Handle → Scopes → β × Ledger} (bound : Bound run) (i : Handle)
    (scopes : Scopes) :
    (run i scopes).2.scopes =
      scopes.set i ((run .first (.single (scopes.get i))).2.scope .first) := by
  obtain ⟨-, scope, held, held', -⟩ := bound i _ _ _ (Scopes.get_single (scopes.get i)).symm
  rw [held, scope_of_set held']

/-! ### Entries -/

/-- **An entry** cannot tell the scopes it is bound to apart by anything but what they hold. -/
theorem sameIn_apply (entry : Entry) (input : Value) (i i' : Handle) (base base' : Scopes) :
    Coupled (SameIn i i' base base') _ ((entry.on i).apply input) ((entry.on i').apply input) := by
  rintro l l' ⟨scope, held, held', journal⟩
  rw [BoundEntry.perform_apply, BoundEntry.perform_apply, scope_of_set held, scope_of_set held']
  cases entry.keysOf input with
  | error e => exact ⟨rfl, scope, held, held', journal⟩
  | ok keys =>
    dsimp only
    split
    · exact ⟨rfl, scope, held, held', journal⟩
    · let after := scope.set entry.kind ⟨(entry.work keys (scope.get entry.kind).flags).2, false⟩
      have set : l.scopes.set i after = base.set i after := by rw [held, Scopes.set_set]
      have set' : l'.scopes.set i' after = base'.set i' after := by rw [held', Scopes.set_set]
      exact ⟨rfl, after, set, set', congrArg (· ++ _) journal⟩

theorem bound_apply (entry : Entry) (input : Value) :
    Bound fun i scopes => ((entry.on i).apply input).perform ⟨scopes, []⟩ :=
  bound_of_coupled (sameIn_apply entry input)

/-- An entry that is bound to the first scope, whichever scope it is used for, reaches that of others. -/
theorem not_bound_apply_first (kind : FlagKind) :
    ¬ Bound fun _ scopes =>
      (((Entry.mk kind .get).on .first).apply .null).perform ⟨scopes, []⟩ := by
  intro bound
  -- the second scope is empty in both stores, and the first one in one of them only
  let flags : Accumulator := ⟨FlagSet.empty.insert "IPet", false⟩
  have same := (bound ⟨1⟩ ⟨1⟩ .empty (.single ⟨flags, flags⟩) rfl).1
  have shown := congrArg (fun result => result.toOption.map Value.shown) same
  cases kind <;> exact absurd shown (by decide +kernel)

lemma sameIn_report (events : List Event) (i i' : Handle) (base base' : Scopes) :
    Coupled (SameIn i i' base base') _ (report events) (report events) := by
  rintro l l' ⟨scope, held, held', journal⟩
  exact ⟨rfl, scope, held, held', congrArg (· ++ events) journal⟩

namespace Environment

/-! ### Renders -/

/-- The output is collected from the two scopes, which hold the same. -/
lemma sameIn_finish {i i' : Handle} {base base' : Scopes} (template content : String) {l l' : Ledger}
    (same : SameIn i i' base base' l l') :
    (finish template content i l).1 = (finish template content i' l').1 ∧
      SameIn i i' base base' (finish template content i l).2 (finish template content i' l').2 := by
  obtain ⟨scope, held, held', journal⟩ := same
  unfold finish
  rw [scope_of_set held, scope_of_set held']
  cases Output.collect content scope with
  | error p => exact ⟨rfl, scope, held, held', journal⟩
  | ok output => exact ⟨rfl, scope, held, held', congrArg (· ++ _) journal⟩

variable {environment : Environment} (plain : environment.Plain)
include plain

/-- **The evaluation of a template** cannot tell the scopes it is bound to apart by anything but what
they hold: the entries it uses are all bound to its scope, and nothing else it can use reaches one. -/
theorem sameIn_rendering (template : String) (context : Value) (i i' : Handle)
    (base base' : Scopes) :
    Coupled (SameIn i i' base base') _ (environment.rendering i template context)
      (environment.rendering i' template context) := by
  obtain ⟨engine, config, hplain, rfl⟩ := plain
  have respected := coupled_respected (SameIn i i' base base')
  refine rendering_related respected rfl rfl i i' (fun use _ => ?_) template context
  refine tools_related hplain respected use.caught (fun entry _ input => ?_) fun _ => ?_
  · exact sameIn_apply entry input i i' base base'
  · exact responseType_related respected use.caught _ fun events =>
      sameIn_report events i i' base base'

/-- **A render in a scope** is bound to it. -/
theorem bound_renderIn (template : String) (context : Value) :
    Bound (environment.renderIn template context) := by
  intro i i' scopes scopes' same
  exact renderIn_coupled (S := fun p p' => p.1 = p'.1 ∧ SameIn i i' scopes scopes' p.2 p'.2)
    (sameIn_rendering plain template context i i' scopes scopes') (fun _ _ _ after => ⟨rfl, after⟩)
    (fun content _ _ => sameIn_finish template content) (sameIn_start same)

/-- **A source that is rendered in a scope** is bound to it. -/
theorem bound_renderSource (source : String) (context : Value) :
    Bound (environment.renderSource source context) := by
  intro i i' scopes scopes' same
  cases read : Template.ofSource? source with
  | none =>
    unfold renderSource
    rw [read]
    cases contextOf context with
    | error e => exact ⟨rfl, sameIn_start same⟩
    | ok vars => exact ⟨rfl, sameIn_start same⟩
  | some t =>
    rw [renderSource_eq read, renderSource_eq read]
    obtain ⟨result, shared⟩ := sameIn_rendering (plain.withTemplate Engine.oneOffName t)
      Engine.oneOffName context i i' scopes scopes' _ _ (sameIn_start same)
    exact ⟨congrArg (Except.mapError _) result, shared⟩

/-- **A render in a scope of its own** gives and reports what it gives where there is no other scope,
and leaves all scopes that were made before as they are. -/
theorem render_own (template : String) (context : Value) (scopes : Scopes) :
    (environment.render template context scopes).1 =
        (environment.renderIn template context .first .empty).1 ∧
      (environment.render template context scopes).2.journal =
        (environment.renderIn template context .first .empty).2.journal ∧
      (environment.render template context scopes).2.scopes.made = scopes.made + 1 ∧
      ∀ i, i.number < scopes.made →
        (environment.render template context scopes).2.scope i = scopes.get i := by
  have fresh : scopes.make.2.get scopes.make.1 = Scopes.empty.get .first := scopes.get_make_self
  obtain ⟨result, scope, held, -, journal⟩ := bound_renderIn plain template context _ _ _ _ fresh
  refine ⟨result, journal, congrArg Scopes.made held, fun i older => ?_⟩
  have ne : i ≠ scopes.make.1 := fun eq => absurd older (eq ▸ Nat.lt_irrefl _)
  calc (environment.render template context scopes).2.scope i
      = (scopes.make.2.set scopes.make.1 scope).get i := congrArg (Scopes.get · i) held
    _ = scopes.make.2.get i := Scopes.get_set_of_ne _ _ ne
    _ = scopes.get i := scopes.get_make_of_made older

end Environment

end ApiStencil
