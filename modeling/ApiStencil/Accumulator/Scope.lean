import ApiStencil.Accumulator.FlagSet

/-!
The scope of a generation unit: one set of flags for imports and one for type aliases.  Each set
has a lock; once a failure in the middle of a change has spoilt the lock, the set cannot be used
any more.

Scopes are shared: whoever has the handle of a scope can look at it and change it.
-/

namespace ApiStencil

/-- What a scope accumulates. -/
inductive FlagKind where
  | imports
  | typeAliases
deriving DecidableEq, Repr

namespace FlagKind

/-- All kinds in order. -/
def all : List FlagKind := [.imports, .typeAliases]

/-- The name of a kind in messages. -/
def text : FlagKind → String
  | .imports => "imports"
  | .typeAliases => "type aliases"

end FlagKind

/-- A set of flags behind a lock. -/
structure Accumulator where
  flags : FlagSet
  poisoned : Bool
deriving DecidableEq

/-- The accumulators of a generation unit. -/
structure Scope where
  imports : Accumulator
  typeAliases : Accumulator
deriving DecidableEq

namespace Scope

/-- The scope that nothing has been added to. -/
def empty : Scope := ⟨⟨.empty, false⟩, ⟨.empty, false⟩⟩

instance : Inhabited Scope := ⟨empty⟩

/-- The accumulator of a kind. -/
def get (s : Scope) : FlagKind → Accumulator
  | .imports => s.imports
  | .typeAliases => s.typeAliases

/-- Puts an accumulator in the place of that of a kind. -/
def set (s : Scope) (kind : FlagKind) (a : Accumulator) : Scope :=
  match kind with
  | .imports => { s with imports := a }
  | .typeAliases => { s with typeAliases := a }

@[simp] theorem get_set_self (s : Scope) (kind : FlagKind) (a : Accumulator) :
    (s.set kind a).get kind = a := by cases kind <;> rfl

@[simp] theorem get_set_of_ne {s : Scope} {kind other : FlagKind} {a : Accumulator}
    (h : other ≠ kind) : (s.set kind a).get other = s.get other := by
  cases kind <;> cases other <;> first | rfl | exact absurd rfl h

/-- The failure to lock the accumulator of a kind. -/
structure Poisoned where
  kind : FlagKind
deriving DecidableEq, Repr

/-- Works on the flags of a kind; fails, without a change, when their lock is spoilt. -/
def withFlags {α : Type} (s : Scope) (kind : FlagKind) (work : FlagSet → α × FlagSet) :
    Except Poisoned α × Scope :=
  let a := s.get kind
  if a.poisoned then (.error ⟨kind⟩, s)
  else
    let (result, flags) := work a.flags
    (.ok result, s.set kind { a with flags })

/-- The flags of a kind, unless their lock is spoilt. -/
def flags? (s : Scope) (kind : FlagKind) : Except Poisoned FlagSet :=
  let a := s.get kind
  if a.poisoned then .error ⟨kind⟩ else .ok a.flags

/-- Empties the accumulators, imports first; stops at the first one whose lock is spoilt. -/
def reset (s : Scope) : Except Poisoned Unit × Scope :=
  match s.withFlags .imports fun _ => ((), .empty) with
  | (.error e, s) => (.error e, s)
  | (.ok _, s) => s.withFlags .typeAliases fun _ => ((), .empty)

/-- Spoils the lock of a kind. -/
def poison (s : Scope) (kind : FlagKind) : Scope :=
  s.set kind { s.get kind with poisoned := true }

end Scope

/-! ### Handles -/

/-- What a scope is reached by. -/
structure Handle where
  number : Nat
deriving DecidableEq, Repr

namespace Handle

/-- The handle of the scope that is made first. -/
def first : Handle := ⟨0⟩

end Handle

/-- The scopes by their handles, and how many have been made. -/
structure Scopes where
  made : Nat
  held : Handle → Scope

namespace Scopes

/-- No scope. -/
def empty : Scopes := ⟨0, fun _ => .empty⟩

/-- The scope of a handle. -/
def get (s : Scopes) (i : Handle) : Scope := s.held i

/-- Puts a scope in the place of that of a handle. -/
def set (s : Scopes) (i : Handle) (scope : Scope) : Scopes :=
  { s with held := fun other => if other = i then scope else s.held other }

/-- Makes a scope, which is empty: its handle, and the scopes with it. -/
def make (s : Scopes) : Handle × Scopes :=
  let i : Handle := ⟨s.made⟩
  (i, { s.set i .empty with made := s.made + 1 })

/-- One scope only, which has the first handle. -/
def single (scope : Scope) : Scopes := empty.make.2.set .first scope

section Laws

variable (s : Scopes) (i : Handle) (scope : Scope)

@[simp] theorem get_set_self : (s.set i scope).get i = scope := if_pos rfl

variable {i} in
@[simp] theorem get_set_of_ne {other : Handle} (ne : other ≠ i) :
    (s.set i scope).get other = s.get other := if_neg ne

@[simp] theorem get_make_self : s.make.2.get s.make.1 = .empty := if_pos rfl

variable {i} in
/-- Making a scope leaves those that have been made before as they are. -/
theorem get_make_of_made (made : i.number < s.made) : s.make.2.get i = s.get i :=
  if_neg fun eq => absurd (congrArg Handle.number eq) (Nat.ne_of_lt made)

@[simp] theorem set_get : s.set i (s.get i) = s := by
  have same : (fun other => if other = i then s.held i else s.held other) = s.held := by
    funext other
    split
    · rename_i eq
      rw [eq]
    · rfl
  exact congrArg (Scopes.mk s.made) same

@[simp] theorem set_set (later : Scope) : (s.set i scope).set i later = s.set i later := by
  have same : (fun other => if other = i then later else (s.set i scope).held other) =
      fun other => if other = i then later else s.held other := by
    funext other
    split
    · rfl
    · rename_i ne
      exact if_neg ne
  exact congrArg (Scopes.mk s.made) same

end Laws

@[simp] theorem get_single (scope : Scope) : (single scope).get .first = scope :=
  get_set_self _ _ _

end Scopes

end ApiStencil
