import ApiStencil.Filters.Entry
import ApiStencil.Proofs.Action.Relation
import Mathlib.Data.List.Sort

/-!
# What the accumulator entries do

Sets of flags by their members, scopes by what they hold, and the one equation from which all else
about the entries follows (`BoundEntry.perform_apply`): the keys are read from the input, then the lock
is looked at, and only then the flags of one kind change.
-/

namespace ApiStencil

open Json ApiStencil.Action

/-! ### Sets of flags -/

namespace FlagSet

/-- Members decide a set of flags, since its order is fixed. -/
theorem eq_of_mem_iff {s t : FlagSet} (h : ∀ key, key ∈ s ↔ key ∈ t) : s = t := by
  obtain ⟨keys, ascending⟩ := s
  obtain ⟨keys', ascending'⟩ := t
  obtain rfl : keys = keys' := ascending.eq_of_mem_iff ascending' h
  rfl

theorem mem_insertAll {s : FlagSet} {keys : List String} {x : String} :
    x ∈ (s.insertAll keys).2 ↔ x ∈ keys ∨ x ∈ s := by
  induction keys generalizing s with
  | nil => simp [insertAll]
  | cons key rest ih =>
    simp only [insertAll, ih, mem_insert, List.mem_cons]
    exact or_left_comm.trans or_assoc.symm

end FlagSet

/-! ### Scopes -/

namespace Scope

/-- Whether a scope holds a key of a kind. -/
def Holds (s : Scope) (kind : FlagKind) (key : String) : Prop := key ∈ (s.get kind).flags

/-- Two scopes are equal if their locks are alike and they hold the same. -/
theorem eq_of_holds_iff {s t : Scope}
    (locks : ∀ kind, (s.get kind).poisoned = (t.get kind).poisoned)
    (held : ∀ kind key, s.Holds kind key ↔ t.Holds kind key) : s = t := by
  have same : ∀ kind, s.get kind = t.get kind := fun kind => by
    have flags := FlagSet.eq_of_mem_iff (held kind)
    have lock := locks kind
    generalize s.get kind = a at flags lock
    generalize t.get kind = b at flags lock
    cases a
    cases b
    simp_all
  obtain ⟨imports, typeAliases⟩ := s
  obtain ⟨imports', typeAliases'⟩ := t
  have i : imports = imports' := same .imports
  have a : typeAliases = typeAliases' := same .typeAliases
  rw [i, a]

@[simp] theorem set_get (s : Scope) (kind : FlagKind) : s.set kind (s.get kind) = s := by
  cases kind <;> rfl

@[simp] theorem set_set (s : Scope) (kind : FlagKind) (a b : Accumulator) :
    (s.set kind a).set kind b = s.set kind b := by
  cases kind <;> rfl

end Scope

/-! ### Entries -/

theorem Entry.mem_all (entry : Entry) : entry ∈ all := by
  obtain ⟨kind, action⟩ := entry
  cases kind <;> cases action <;> decide

namespace BoundEntry

variable {entry : Entry} {i : Handle} {input : Value} {l : Ledger}

/-- **What an entry does.**  It fails without a change if its input has no keys to give or if the
lock of its kind is spoilt; else it changes the flags of its kind in its scope and reports the new
ones. -/
theorem perform_apply (entry : Entry) (i : Handle) (input : Value) (l : Ledger) :
    ((entry.on i).apply input).perform l =
      match entry.keysOf input with
      | .error e => (.error e, l)
      | .ok keys =>
        if ((l.scope i).get entry.kind).poisoned then
          (.error (.accumulatorPoisoned entry.name entry.kind), l)
        else
          let ((text, added), flags) := entry.work keys ((l.scope i).get entry.kind).flags
          (.ok (.str text), ⟨l.scopes.set i ((l.scope i).set entry.kind ⟨flags, false⟩),
            l.journal ++ added.map (Event.flagAdded entry.kind)⟩) := by
  unfold apply Entry.on
  dsimp only
  rw [perform_bind, perform_liftM]
  cases entry.keysOf input with
  | error e => rfl
  | ok keys =>
    simp only [perform_bind, perform_get, Scope.withFlags]
    cases ((l.scope i).get entry.kind).poisoned <;> rfl

/-- **What an entry can do**: fail and change nothing, or work on the flags of its kind, if their lock
is not spoilt. -/
theorem perform_apply_cases (entry : Entry) (i : Handle) (input : Value) (l : Ledger) :
    (∃ e, ((entry.on i).apply input).perform l = (.error e, l)) ∨
      ∃ keys, ((l.scope i).get entry.kind).poisoned = false ∧
        ((entry.on i).apply input).perform l =
          let ((text, added), flags) := entry.work keys ((l.scope i).get entry.kind).flags
          (.ok (.str text), ⟨l.scopes.set i ((l.scope i).set entry.kind ⟨flags, false⟩),
            l.journal ++ added.map (Event.flagAdded entry.kind)⟩) := by
  rw [perform_apply]
  cases entry.keysOf input with
  | error e => exact .inl ⟨e, rfl⟩
  | ok keys =>
    cases poisoned : ((l.scope i).get entry.kind).poisoned with
    | true => exact .inl ⟨_, rfl⟩
    | false => exact .inr ⟨keys, rfl, rfl⟩

/-- An entry fails on a spoilt lock, whatever its keys are. -/
lemma perform_apply_poisoned {keys : List String} (taken : entry.keysOf input = .ok keys)
    (poisoned : ((l.scope i).get entry.kind).poisoned = true) :
    ((entry.on i).apply input).perform l =
      (.error (.accumulatorPoisoned entry.name entry.kind), l) := by
  rw [perform_apply, taken]
  exact if_pos poisoned

end BoundEntry

end ApiStencil
