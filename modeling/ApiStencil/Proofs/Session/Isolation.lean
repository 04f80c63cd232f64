import ApiStencil.Proofs.Environment.SharedScope
import ApiStencil.Proofs.Session.Storage

/-!
# Isolation of renders and scopes

Whatever a session does, with any of its steps failing and any names sharing their scopes:

* a render in a scope of its own gives what it gives as the first step of all (`result_render`);
* a scope holds in the end what the steps that name it make it hold, as if the session had no
  other steps (`contentsAfter_stepsOn`).

A render is given all scopes; what stands behind both is that it reaches the one that it is bound to and
no other (`Environment.sameIn_rendering`).
-/

namespace ApiStencil.Session

open Json

/-! ### Steps that name one scope -/

/-- The steps of a session that name the scope of an origin, under whatever name. -/
def stepsOn (made : String) (origin : Origins) : List Step → List Step
  | [] => []
  | s :: rest =>
    let others := stepsOn made (s.origins origin) rest
    if origin s.scope = made then s :: others else others

/-- The steps of a session that name the scope that a name stands for in the end. -/
def stepsNaming (name : String) (steps : List Step) : List Step :=
  stepsOn (originsAfter id steps name) id steps

/-- Without clones a name stands for its own scope throughout. -/
lemma origins_eq_of_not_clone {s : Step} (h : ∀ other, s.work ≠ .clone other) (origin : Origins) :
    s.origins origin = origin := by
  unfold Step.origins
  split
  · rename_i other eq
    exact absurd eq (h other)
  · rfl

lemma originsAfter_id {steps : List Step} (h : ∀ s ∈ steps, ∀ other, s.work ≠ .clone other) :
    originsAfter id steps = id := by
  induction steps with
  | nil => rfl
  | cons s rest ih =>
    obtain ⟨hs, hrest⟩ := List.forall_mem_cons.mp h
    rw [originsAfter, origins_eq_of_not_clone hs, ih hrest]

lemma stepsOn_id {steps : List Step} (h : ∀ s ∈ steps, ∀ other, s.work ≠ .clone other)
    (made : String) : stepsOn made id steps = steps.filter fun s => s.scope = made := by
  induction steps with
  | nil => rfl
  | cons s rest ih =>
    obtain ⟨hs, hrest⟩ := List.forall_mem_cons.mp h
    simp only [stepsOn, origins_eq_of_not_clone hs, ih hrest, id, List.filter_cons,
      decide_eq_true_eq]

/-- Without clones the steps that name a scope are those that have its name. -/
theorem stepsNaming_eq_filter {steps : List Step}
    (h : ∀ s ∈ steps, ∀ other, s.work ≠ .clone other) (name : String) :
    stepsNaming name steps = steps.filter fun s => s.scope = name := by
  unfold stepsNaming
  rw [originsAfter_id h]
  exact stepsOn_id h name

/-! ### Scopes -/

section Scopes

variable {environment : Environment} {made : String} {origin origin' : Origins}
  {contents contents' : Contents}

/-- A step that names another scope leaves the contents of an origin as they are. -/
lemma contents_of_ne {s : Step} (h : origin s.scope ≠ made) :
    s.contents environment origin contents made = contents made :=
  Function.update_of_ne (Ne.symm h) _ _

lemma contents_of_eq {s : Step} (h : origin s.scope = made) :
    s.contents environment origin contents made = effect environment (contents made) s.work := by
  subst h
  exact Function.update_self _ _ _

/-- A step on the scope of an origin keeps what a shorter session knows about its names. -/
lemma origins_of_eq {s : Step} (hs : origin s.scope = made)
    (ho : ∀ name, origin name = made → origin' name = made) (name : String)
    (h : s.origins origin name = made) : s.origins origin' name = made := by
  obtain ⟨scope, work⟩ := s
  cases work with
  | clone other =>
    simp only [Step.origins] at h ⊢
    by_cases e : name = other
    · simp [e, ho _ hs]
    · rw [Function.update_of_ne e] at h ⊢
      exact ho name h
  | _ => exact ho name h

/-- A step on another scope only takes names away from the scope of an origin. -/
lemma origins_of_ne {s : Step} (hs : origin s.scope ≠ made) {name : String}
    (h : s.origins origin name = made) : origin name = made := by
  obtain ⟨scope, work⟩ := s
  cases work with
  | clone other =>
    simp only [Step.origins] at h
    by_cases e : name = other
    · rw [e, Function.update_self] at h
      exact absurd h hs
    · rwa [Function.update_of_ne e] at h
  | _ => exact h

/-- **The other steps do not matter.**  Of two sessions, one with all steps and one with those on
the scope of an origin, both make that scope hold the same, and every name that stands for it after
the longer session stands for it after the shorter one. -/
theorem contentsAfter_stepsOn (steps : List Step)
    (ho : ∀ name, origin name = made → origin' name = made) (hc : contents made = contents' made) :
    contentsAfter environment origin contents steps made =
        contentsAfter environment origin' contents' (stepsOn made origin steps) made ∧
      ∀ name, originsAfter origin steps name = made →
        originsAfter origin' (stepsOn made origin steps) name = made := by
  induction steps generalizing origin origin' contents contents' with
  | nil => exact ⟨hc, ho⟩
  | cons s rest ih =>
    by_cases hs : origin s.scope = made
    · simp only [stepsOn, if_pos hs, contentsAfter, originsAfter]
      refine ih (origins_of_eq hs ho) ?_
      rw [contents_of_eq hs, contents_of_eq (ho _ hs), hc]
    · simp only [stepsOn, if_neg hs, contentsAfter, originsAfter]
      refine ih (fun name h => ho name (origins_of_ne hs h)) ?_
      rw [contents_of_ne hs, hc]

end Scopes

/-! ### Renders -/

/-- The result of a step in the middle of a session is that on the scopes it finds. -/
lemma result_append {environment : Environment} {state : State} (before after : List Step)
    (s : Step) :
    (run environment state (before ++ s :: after)).1[before.length]? =
      some (step environment (run environment state before).2.1 s).1 := by
  induction before generalizing state with
  | nil => rfl
  | cons first rest ih => exact ih

section Plain

variable {environment : Environment} (plain : environment.Plain)
include plain

/-- A render in a scope of its own gives what it gives where there is no other scope, whatever the
scopes hold that a session has made before. -/
lemma result_step_render (state : State) (name template : String) (context : Value) :
    (step environment state ⟨name, .render template context⟩).1 =
      .output (environment.renderIn template context .first .empty).1 :=
  congrArg Result.output (Environment.render_own plain template context _).1

/-- **A render in a scope of its own** gives what it gives as the first step of a session. -/
theorem result_render (state : State) (before after : List Step) (name template : String)
    (context : Value) :
    (run environment state
        (before ++ ⟨name, .render template context⟩ :: after)).1[before.length]? =
      (run environment .empty [⟨name, .render template context⟩]).1.head? := by
  have first : (run environment .empty [⟨name, .render template context⟩]).1.head? =
      some (step environment .empty ⟨name, .render template context⟩).1 := rfl
  rw [result_append, first, result_step_render plain, result_step_render plain]

/-- The scope that a name stands for in the end holds what the steps that name it make it hold. -/
theorem get_run_stepsNaming (steps : List Step) (name : String) :
    (run environment .empty steps).2.1.get name =
      (run environment .empty (stepsNaming name steps)).2.1.get name := by
  let made := originsAfter id steps name
  have key : contentsAfter environment id (fun _ => .empty) steps made =
        contentsAfter environment id (fun _ => .empty) (stepsOn made id steps) made ∧
      ∀ other, originsAfter id steps other = made →
        originsAfter id (stepsOn made id steps) other = made :=
    contentsAfter_stepsOn steps (fun _ h => h) rfl
  rw [get_run_empty plain, get_run_empty plain, stepsNaming, key.2 name rfl]
  exact key.1

/-- **Isolation.**  In every session on an environment a render in a scope of its own gives what it
gives as the only step of a session, and the scope that a name stands for in the end holds what it
holds after the steps that name that scope only; without clones, after the steps with that name.

All this is about the accumulator entries: the filters and functions that the engine itself comes with
are taken to be plain (`Environment.Plain`), that is to make values of values and touch no scope. -/
theorem run_isolated (steps : List Step) :
    (∀ before after name template context,
      steps = before ++ ⟨name, .render template context⟩ :: after →
        (run environment .empty steps).1[before.length]? =
          (run environment .empty [⟨name, .render template context⟩]).1.head?) ∧
      (∀ name, (run environment .empty steps).2.1.get name =
        (run environment .empty (stepsNaming name steps)).2.1.get name) ∧
      ((∀ s ∈ steps, ∀ other, s.work ≠ .clone other) →
        ∀ name, (run environment .empty steps).2.1.get name =
          (run environment .empty (steps.filter fun s => s.scope = name)).2.1.get name) := by
  refine ⟨?_, get_run_stepsNaming plain steps, fun h name => ?_⟩
  · rintro before after name template context rfl
    exact result_render plain .empty before after name template context
  · rw [get_run_stepsNaming plain, stepsNaming_eq_filter h]

end Plain

/-! ### A session on two scopes -/

/-- An environment with templates of two units, of which that for orders fails after its import. -/
def twoUnits : Environment := (Environment.ofEngine Environment.units .default).1

/-- Steps on the scope that is made as a and gets the further name b. -/
def onePlace : List Step :=
  [⟨"a", .renderScoped "pets" (.obj [])⟩, ⟨"a", .clone "b"⟩,
    ⟨"b", .function ⟨.imports, .add⟩ [("key", .str "IToy")]⟩]

/-- The same steps, with others in between that fail in another scope and render in one of their own. -/
def twoPlaces : List Step :=
  [⟨"a", .renderScoped "pets" (.obj [])⟩, ⟨"c", .renderScoped "orders" (.obj [])⟩,
    ⟨"a", .clone "b"⟩, ⟨"c", .render "pets" (.obj [])⟩,
    ⟨"b", .function ⟨.imports, .add⟩ [("key", .str "IToy")]⟩]

theorem run_isolated_twoPlaces :
    (run twoUnits .empty twoPlaces).1[3]? =
        (run twoUnits .empty [⟨"c", .render "pets" (.obj [])⟩]).1.head? ∧
      (run twoUnits .empty twoPlaces).2.1.get "b" = (run twoUnits .empty onePlace).2.1.get "b" ∧
      ((run twoUnits .empty twoPlaces).2.1.get "b").imports.flags.keys = ["IPet", "IToy"] ∧
      ((run twoUnits .empty twoPlaces).2.1.get "c").imports.flags.keys = ["IOrder"] := by
  have plain : twoUnits.Plain := ⟨Environment.units, .default, Engine.plain_ofNodes _, rfl⟩
  have named : stepsNaming "b" twoPlaces = onePlace := by
    simp [stepsNaming, twoPlaces, onePlace, stepsOn, originsAfter, Step.origins, Function.update]
  obtain ⟨renders, scopes, -⟩ := run_isolated plain twoPlaces
  refine ⟨renders (twoPlaces.take 3) (twoPlaces.drop 4) "c" "pets" (.obj []) rfl, ?_, ?_, ?_⟩
  · rw [← named]
    exact scopes "b"
  · decide +kernel
  · decide +kernel

end ApiStencil.Session
