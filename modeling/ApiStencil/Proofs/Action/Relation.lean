import ApiStencil.Template.Action

/-!
# Relations between actions

What the combinators of actions do to a ledger, and relations between two actions that every
combinator keeps.  A claim about two runs of a template is such a relation: it is proved for the
combinators and for the filters, and then holds of whatever is put together from them.

A failure inside a condition can be caught, and what holds of actions whose failures get out need
not hold of those.  So a relation comes in two forms, one for either place (`Respected`).

* `Coupled` — the same result from coupled ledgers, and coupled ledgers again;
* `coupled_respected` — coupling is respected by all combinators, whatever the ledgers share;
* `Leads` — an action leads from a ledger to a later one, in an order of ledgers;
* `Alike` — the same value, or failures that are related wherever they are thrown.
-/

namespace ApiStencil

namespace Action

variable {α β : Type}

/-! ### What the combinators do -/

@[simp] theorem perform_pure (x : α) (l : Ledger) : (pure x : Action α).perform l = (.ok x, l) :=
  rfl

@[simp] theorem perform_throw (e : Failure) (l : Ledger) :
    (throw e : Action α).perform l = (.error e, l) := rfl

@[simp] theorem perform_liftM (r : Except Failure α) (l : Ledger) :
    (liftM r : Action α).perform l = (r, l) := rfl

@[simp] theorem perform_report (events : List Event) (l : Ledger) :
    (report events).perform l = (.ok (), { l with journal := l.journal ++ events }) := rfl

@[simp] theorem perform_get (l : Ledger) : (get : Action Ledger).perform l = (.ok l, l) := rfl

@[simp] theorem perform_set (l l' : Ledger) : (set l' : Action PUnit).perform l = (.ok ⟨⟩, l') :=
  rfl

theorem perform_bind (a : Action α) (f : α → Action β) (l : Ledger) :
    (a >>= f).perform l =
      match a.perform l with
      | (.ok x, after) => (f x).perform after
      | (.error e, after) => (.error e, after) := by
  show ExceptT.bindCont f (a.perform l).1 (a.perform l).2 = _
  rcases a.perform l with ⟨x | e, after⟩ <;> rfl

theorem perform_mapFailure (wrap : Failure → Failure) (a : Action α) (l : Ledger) :
    (a.mapFailure wrap).perform l = ((a.perform l).1.mapError wrap, (a.perform l).2) := by
  simp only [mapFailure, perform, tryCatch, tryCatchThe, MonadExceptOf.tryCatch, ExceptT.tryCatch,
    ExceptT.run, ExceptT.mk, StateT.run_bind]
  rcases StateT.run a l with ⟨x | e, after⟩ <;> rfl

theorem perform_orElse (fallback : α) (a : Action α) (l : Ledger) :
    (a.orElse fallback).perform l =
      (.ok ((a.perform l).1.toOption.getD fallback), (a.perform l).2) := by
  simp only [orElse, perform, tryCatch, tryCatchThe, MonadExceptOf.tryCatch, ExceptT.tryCatch,
    ExceptT.run, ExceptT.mk, StateT.run_bind]
  rcases StateT.run a l with ⟨x | e, after⟩ <;> rfl

/-! ### Relations -/

/-- A relation between actions, for every type of results. -/
abbrev Relation := ∀ α : Type, Action α → Action α → Prop

/-- **All combinators respect a relation.**  It has a form for actions whose failures get out and
one, `related true`, for actions whose failures are caught. -/
structure Respected (related : Bool → Relation) : Prop where
  pure : ∀ {α : Type} (caught : Bool) (x : α), related caught α (pure x) (pure x)
  throw : ∀ {α : Type} (caught : Bool) (e : Failure), related caught α (throw e) (throw e)
  bind : ∀ {α β : Type} {caught : Bool} {a a' : Action α} {f f' : α → Action β},
    related caught α a a' → (∀ x, related caught β (f x) (f' x)) →
      related caught β (a >>= f) (a' >>= f')
  mapFailure : ∀ {α : Type} {caught : Bool} {a a' : Action α} (wrap : Failure → Failure),
    related caught α a a' → related caught α (a.mapFailure wrap) (a'.mapFailure wrap)
  orElse : ∀ {α : Type} (caught : Bool) {a a' : Action α} (fallback : α),
    related true α a a' → related caught α (a.orElse fallback) (a'.orElse fallback)

namespace Respected

variable {related : Bool → Relation} {caught : Bool}

theorem liftM (h : Respected related) (r : Except Failure α) :
    related caught α (liftM r) (liftM r) := by
  cases r with
  | ok x => exact h.pure caught x
  | error e => exact h.throw caught e

/-- What comes after one and the same value is related. -/
theorem map (h : Respected related) {a a' : Action α} (ha : related caught α a a') (f : α → β) :
    related caught β (a >>= fun x => Pure.pure (f x)) (a' >>= fun x => Pure.pure (f x)) :=
  h.bind ha fun x => h.pure caught (f x)

end Respected

/-- Two outcomes are alike under a relation: the same value, or failures that are related wherever
they are thrown. -/
inductive Alike (related : Bool → Relation) : Except Failure α → Except Failure α → Prop
  | ok (x : α) : Alike related (.ok x) (.ok x)
  | error {e e' : Failure}
    (h : ∀ (caught : Bool) (β : Type), related caught β (throw e) (throw e')) :
    Alike related (.error e) (.error e')

theorem alike_self {related : Bool → Relation} (h : Respected related) (r : Except Failure α) :
    Alike related r r := by
  cases r with
  | ok x => exact .ok x
  | error e => exact .error fun caught _ => h.throw caught e

theorem Alike.lift {related : Bool → Relation} (h : Respected related) {r r' : Except Failure α}
    (alike : Alike related r r') (caught : Bool) : related caught α (liftM r) (liftM r') := by
  cases alike with
  | ok x => exact h.pure caught x
  | error thrown => exact thrown caught α

/-! ### Coupled ledgers -/

/-- Two actions are coupled by a relation between ledgers if from related ledgers they give the
same result and end with related ledgers. -/
def Coupled (share : Ledger → Ledger → Prop) (α : Type) (a a' : Action α) : Prop :=
  ∀ l l', share l l' →
    (a.perform l).1 = (a'.perform l').1 ∧ share (a.perform l).2 (a'.perform l').2

/-- **Coupling is respected** by all combinators, caught failures included. -/
theorem coupled_respected (share : Ledger → Ledger → Prop) :
    Respected fun _ => Coupled share where
  pure _ x _ _ h := ⟨rfl, h⟩
  throw _ e _ _ h := ⟨rfl, h⟩
  bind {α β _ a a' f f'} ha hf l l' h := by
    obtain ⟨same, shared⟩ := ha l l' h
    rw [perform_bind, perform_bind]
    generalize a.perform l = p at same shared
    generalize a'.perform l' = p' at same shared
    obtain ⟨r, after⟩ := p
    obtain ⟨r', after'⟩ := p'
    obtain rfl : r = r' := same
    cases r with
    | ok x => exact hf x after after' shared
    | error e => exact ⟨rfl, shared⟩
  mapFailure {α _ a a'} wrap ha l l' h := by
    obtain ⟨same, shared⟩ := ha l l' h
    rw [perform_mapFailure, perform_mapFailure, same]
    exact ⟨rfl, shared⟩
  orElse {α} _ {a a'} fallback ha l l' h := by
    obtain ⟨same, shared⟩ := ha l l' h
    rw [perform_orElse, perform_orElse, same]
    exact ⟨rfl, shared⟩

/-! ### Later ledgers -/

/-- An action leads from every ledger to a later one, whether it fails or not. -/
def Leads (order : Ledger → Ledger → Prop) (α : Type) (a _ : Action α) : Prop :=
  ∀ l, order l (a.perform l).2

/-- **Leading is respected** by all combinators if the order is one. -/
theorem leads_respected {order : Ledger → Ledger → Prop} (refl : ∀ l, order l l)
    (trans : ∀ {l l' l''}, order l l' → order l' l'' → order l l'') :
    Respected fun _ => Leads order where
  pure _ _ l := refl l
  throw _ _ l := refl l
  bind {α β _ a a' f f'} ha hf l := by
    have first := ha l
    rw [perform_bind]
    generalize a.perform l = p at first
    obtain ⟨e | x, after⟩ := p
    · exact first
    · exact trans first (hf x after)
  mapFailure wrap ha l := by
    rw [perform_mapFailure]
    exact ha l
  orElse {α} _ {a a'} fallback ha l := by
    rw [perform_orElse]
    exact ha l

end Action

end ApiStencil
