import ApiStencil.Event
import ApiStencil.Template.Failure

/-!
Actions of filters and templates: they may fail, and whether they fail or not they may change the
accumulators of any scope that they can reach and report events.
-/

namespace ApiStencil

/-- What an action can change: the scopes, and the events reported so far in order. -/
structure Ledger where
  scopes : Scopes
  journal : List Event

namespace Ledger

/-- The scope of a handle, of the first one where there is only one. -/
def scope (l : Ledger) (i : Handle := .first) : Scope := l.scopes.get i

@[simp] theorem scope_mk (scopes : Scopes) (journal : List Event) (i : Handle) :
    scope ⟨scopes, journal⟩ i = scopes.get i := rfl

@[simp] theorem set_scope (l : Ledger) (i : Handle) : l.scopes.set i (l.scope i) = l.scopes :=
  Scopes.set_get _ _

end Ledger

/-- An action: changes the ledger and gives a result or fails. -/
abbrev Action (α : Type) := ExceptT Failure (StateM Ledger) α

namespace Action

/-- The result of an action and the ledger after it. -/
def perform {α : Type} (action : Action α) (ledger : Ledger) : Except Failure α × Ledger :=
  StateT.run (ExceptT.run action) ledger

/-- Reports events. -/
def report (events : List Event) : Action Unit :=
  modify fun ledger => { ledger with journal := ledger.journal ++ events }

/-- The action, failing with another failure where it fails. -/
def mapFailure {α : Type} (wrap : Failure → Failure) (action : Action α) : Action α :=
  tryCatch action fun e => throw (wrap e)

/-- The result of an action, or another result where it fails; what it changed stays changed. -/
def orElse {α : Type} (action : Action α) (fallback : α) : Action α :=
  tryCatch action fun _ => pure fallback

end Action

end ApiStencil
