import ApiStencil.Proofs.Environment.Binding
import ApiStencil.Session
import Mathlib.Logic.Function.Basic

/-!
# What a session does to its scopes

A session lets names stand for the handles of its scopes; clones make several names stand for one
handle.  Here the handles are abstracted from: a scope is known by its *origin*, the name under which
it was made, and what a step does to the scopes is said in terms of origins.

That a step changes one scope only is not a matter of how sessions are made, for a render is given all
scopes that there are.  It comes from what being bound to a scope means for the evaluation of templates
(`Environment.bound_renderIn` and its like).

* `State.Placed` — the scopes of a session hold given contents, by origin;
* `stepOn_eq_set` — a step changes the scope of its handle, and this depends on that scope only;
* `placed_step` — a step changes the contents of the one origin that it names, as `effect` says;
* `placed_run` — a session changes the contents step by step, as `contentsAfter` says.
-/

namespace ApiStencil.Session

open Json ApiStencil.Action

/-- For every name, the name under which the scope that it stands for was made. -/
abbrev Origins := String → String

/-- What scopes hold, by their origins. -/
abbrev Contents := String → Scope

/-! ### Names and handles -/

namespace State

/-- **The scopes hold these contents**: names of one origin stand for one handle, names of different
origins for different ones, all of scopes that have been made, and what has no handle yet is empty and
has no other name. -/
structure Placed (s : State) (origin : Origins) (contents : Contents)
    (place : String → Option Handle) : Prop where
  lookup : ∀ name, s.handles.lookup name = place (origin name)
  injective : ∀ {o o' i}, place o = some i → place o' = some i → o = o'
  made : ∀ {o i}, place o = some i → i.number < s.scopes.made
  held : ∀ {o i}, place o = some i → s.scopes.get i = contents o
  unheld : ∀ {o}, place o = none → contents o = .empty
  unshared : ∀ name, place (origin name) = none → origin name = name

theorem placed_empty : Placed .empty id (fun _ => .empty) (fun _ => none) where
  lookup _ := rfl
  injective h := by cases h
  made h := by cases h
  held h := by cases h
  unheld _ := rfl
  unshared _ _ := rfl

namespace Placed

variable {s : State} {origin : Origins} {contents : Contents} {place : String → Option Handle}
  (h : s.Placed origin contents place)
include h

theorem get_eq (name : String) : s.get name = contents (origin name) := by
  unfold State.get
  rw [h.lookup]
  cases hp : place (origin name) with
  | none => exact (h.unheld hp).symm
  | some i => exact h.held hp

/-- A name that has no handle gets that of a scope that is made for it. -/
theorem make {name : String} (hp : place (origin name) = none) :
    Placed ⟨(name, s.scopes.make.1) :: s.handles, s.scopes.make.2⟩ origin contents
      (Function.update place name (some s.scopes.make.1)) := by
  have own : origin name = name := h.unshared name hp
  have alone : ∀ {other}, origin other = name → other = name := fun {other} eq =>
    (h.unshared other (by rw [eq, ← own]; exact hp)).symm.trans eq
  have new : ∀ {o i}, place o = some i → i ≠ s.scopes.make.1 := fun ho eq =>
    absurd (h.made ho) (eq ▸ Nat.lt_irrefl _)
  refine ⟨fun other => ?_, fun {o o' i} ho ho' => ?_, fun {o i} ho => ?_, fun {o i} ho => ?_,
    fun {o} ho => ?_, fun other ho => ?_⟩
  · by_cases e : other = name
    · rw [e, own]
      simp
    · have apart : (other == name) = false := beq_false_of_ne e
      rw [List.lookup_cons, apart, Function.update_of_ne (fun eq => e (alone eq))]
      exact h.lookup other
  · by_cases e : o = name <;> by_cases e' : o' = name
    · exact e.trans e'.symm
    · rw [e, Function.update_self] at ho
      rw [Function.update_of_ne e'] at ho'
      exact absurd (Option.some.inj ho).symm (new ho')
    · rw [Function.update_of_ne e] at ho
      rw [e', Function.update_self] at ho'
      exact absurd (Option.some.inj ho').symm (new ho)
    · rw [Function.update_of_ne e] at ho
      rw [Function.update_of_ne e'] at ho'
      exact h.injective ho ho'
  · by_cases e : o = name
    · rw [e, Function.update_self] at ho
      rw [← Option.some.inj ho]
      exact Nat.lt_succ_self _
    · rw [Function.update_of_ne e] at ho
      exact Nat.lt_succ_of_lt (h.made ho)
  · by_cases e : o = name
    · rw [e, Function.update_self] at ho
      rw [← Option.some.inj ho, e, h.unheld (own ▸ hp)]
      exact s.scopes.get_make_self
    · rw [Function.update_of_ne e] at ho
      rw [← h.held ho]
      exact s.scopes.get_make_of_made (h.made ho)
  · by_cases e : o = name
    · simp [e] at ho
    · exact h.unheld (by rwa [Function.update_of_ne e] at ho)
  · by_cases e : origin other = name
    · simp [e] at ho
    · exact h.unshared other (by rwa [Function.update_of_ne e] at ho)

/-- Naming a scope gives it a handle, if it has none, and changes no contents. -/
theorem handle (name : String) :
    ∃ place', (s.handle name).2.Placed origin contents place' ∧
      place' (origin name) = some (s.handle name).1 := by
  unfold State.handle
  rw [h.lookup]
  cases hp : place (origin name) with
  | some i => exact ⟨place, h, hp⟩
  | none => exact ⟨_, h.make hp, by simp [h.unshared name hp]⟩

/-- Changing the scope of a handle changes the contents of its origin. -/
theorem set {o : String} {i : Handle} (own : place o = some i) (scope : Scope) :
    (s.set i scope).Placed origin (Function.update contents o scope) place := by
  refine ⟨h.lookup, h.injective, h.made, fun {o' i'} ho => ?_, fun {o'} ho => ?_, h.unshared⟩
  · rcases eq_or_ne o' o with rfl | e
    · obtain rfl := Option.some.inj (ho.symm.trans own)
      rw [Function.update_self]
      exact Scopes.get_set_self _ _ _
    · have ne : i' ≠ i := fun eq => e (h.injective ho (eq ▸ own))
      rw [Function.update_of_ne e, ← h.held ho]
      exact Scopes.get_set_of_ne _ _ ne
  · have e : o' ≠ o := by
      rintro rfl
      rw [own] at ho
      cases ho
    rw [Function.update_of_ne e]
    exact h.unheld ho

/-- A further name of a scope changes no contents. -/
theorem name {name : String} {i : Handle} (own : place (origin name) = some i) (other : String) :
    (s.name other i).Placed (Function.update origin other (origin name)) contents place := by
  refine ⟨fun n => ?_, h.injective, h.made, h.held, h.unheld, fun n hn => ?_⟩
  · rcases eq_or_ne n other with rfl | e
    · simp [State.name, own]
    · have apart : (n == other) = false := beq_false_of_ne e
      rw [Function.update_of_ne e, ← h.lookup n]
      simp [State.name, List.lookup_cons, apart]
  · rcases eq_or_ne n other with rfl | e
    · simp [own] at hn
    · rw [Function.update_of_ne e] at hn ⊢
      exact h.unshared n hn

/-- Making more scopes changes no contents. -/
theorem more {scopes : Scopes} (made : s.scopes.made ≤ scopes.made)
    (kept : ∀ i, i.number < s.scopes.made → scopes.get i = s.scopes.get i) :
    Placed { s with scopes := scopes } origin contents place :=
  ⟨h.lookup, h.injective, fun ho => Nat.lt_of_lt_of_le (h.made ho) made,
    fun ho => (kept _ (h.made ho)).trans (h.held ho), h.unheld, h.unshared⟩

end Placed

end State

/-! ### Steps on contents -/

/-- The origins after a step: only a clone lets a name stand for another scope. -/
def Step.origins (s : Step) (origin : Origins) : Origins :=
  match s.work with
  | .clone other => Function.update origin other (origin s.scope)
  | _ => origin

/-- What the scope of a step holds after the work of the step, done where there is no other scope. -/
def effect (environment : Environment) (scope : Scope) : Work → Scope
  | .flags kind calls => (scope.withFlags kind fun flags => flags.run calls).2
  | .reset => scope.reset.2
  | .poison kind => scope.poison kind
  | .filter entry value args =>
    (((entry.on .first).asFilter.run value args).perform ⟨.single scope, []⟩).2.scope .first
  | .function entry args =>
    (((entry.on .first).asFunction.run args).perform ⟨.single scope, []⟩).2.scope .first
  | .renderScoped template context =>
    (environment.renderIn template context .first (.single scope)).2.scope .first
  | .renderSource source context =>
    (environment.renderSource source context .first (.single scope)).2.scope .first
  | .clone _ | .snapshot | .names | .render _ _ => scope

/-- The contents after a step: those of the origin that it names are worked on. -/
def Step.contents (s : Step) (environment : Environment) (origin : Origins)
    (contents : Contents) : Contents :=
  Function.update contents (origin s.scope)
    (effect environment (contents (origin s.scope)) s.work)

/-- The origins after steps. -/
def originsAfter (origin : Origins) : List Step → Origins
  | [] => origin
  | s :: rest => originsAfter (s.origins origin) rest

/-- The contents after steps. -/
def contentsAfter (environment : Environment) (origin : Origins) (contents : Contents) :
    List Step → Contents
  | [] => contents
  | s :: rest =>
    contentsAfter environment (s.origins origin) (s.contents environment origin contents) rest

section Placed

variable {environment : Environment} (plain : environment.Plain)
include plain

/-- **What a step does to the scopes**, clones and renders in scopes of their own apart: it changes the
scope of its handle, and how it does so depends on nothing but what that scope holds. -/
theorem stepOn_eq_set (state : State) (i : Handle) {work : Work}
    (named : ∀ other, work ≠ .clone other)
    (shared : ∀ template context, work ≠ .render template context) :
    (stepOn environment state i work).2.1 =
      state.set i (effect environment (state.scopes.get i) work) := by
  have idle : state = state.set i (state.scopes.get i) :=
    congrArg (State.mk state.handles) (Scopes.set_get _ _).symm
  cases work with
  | clone other => exact absurd rfl (named other)
  | render template context => exact absurd rfl (shared template context)
  | snapshot | names => exact idle
  | poison kind => rfl
  | flags kind calls =>
    unfold stepOn effect
    dsimp only
    split <;> rename_i eq <;> rw [eq]
  | reset =>
    unfold stepOn effect
    dsimp only
    split <;> rename_i eq <;> rw [eq]
  | filter entry value args =>
    exact congrArg (State.mk state.handles) ((bound_apply entry value).scopes_single i _)
  | function entry args =>
    exact congrArg (State.mk state.handles) ((bound_apply entry _).scopes_single i _)
  | renderScoped template context =>
    exact congrArg (State.mk state.handles)
      ((Environment.bound_renderIn plain template context).scopes_single i _)
  | renderSource source context =>
    exact congrArg (State.mk state.handles)
      ((Environment.bound_renderSource plain source context).scopes_single i _)

variable {state : State} {origin : Origins} {contents : Contents} {place : String → Option Handle}
  (h : state.Placed origin contents place)
include h

/-- **What a step does to the contents** is its work on those of the origin that it names. -/
theorem placed_step (s : Step) :
    ∃ place', (step environment state s).2.1.Placed (s.origins origin)
      (s.contents environment origin contents) place' := by
  have same : Function.update contents (origin s.scope) (contents (origin s.scope)) = contents :=
    Function.update_eq_self _ _
  obtain ⟨name, work⟩ := s
  obtain ⟨place', h', own⟩ := h.handle name
  refine ⟨place', ?_⟩
  unfold step Step.origins Step.contents
  generalize state.handle name = resolved at h' own ⊢
  obtain ⟨i, state'⟩ := resolved
  cases work with
  | clone other =>
    simp only [effect, same]
    exact h'.name own other
  | render template context =>
    obtain ⟨-, -, made, kept⟩ := Environment.render_own plain template context state'.scopes
    simp only [effect, same]
    exact h'.more ((Nat.le_succ _).trans made.ge) kept
  | _ =>
    rw [stepOn_eq_set plain _ _ (fun _ => Work.noConfusion) fun _ _ => Work.noConfusion, h'.held own]
    exact h'.set own _

/-- **What a session does to the scopes**, step by step. -/
theorem placed_run (steps : List Step) :
    ∃ place', (run environment state steps).2.1.Placed (originsAfter origin steps)
      (contentsAfter environment origin contents steps) place' := by
  induction steps generalizing state origin contents place with
  | nil => exact ⟨place, h⟩
  | cons s rest ih =>
    obtain ⟨place', h'⟩ := placed_step plain h s
    exact ih h'

end Placed

/-- What a name stands for after a session that starts without scopes. -/
theorem get_run_empty {environment : Environment} (plain : environment.Plain) (steps : List Step)
    (name : String) :
    (run environment .empty steps).2.1.get name =
      contentsAfter environment id (fun _ => .empty) steps (originsAfter id steps name) := by
  obtain ⟨_, h⟩ := placed_run plain State.placed_empty steps
  exact h.get_eq name

end ApiStencil.Session
