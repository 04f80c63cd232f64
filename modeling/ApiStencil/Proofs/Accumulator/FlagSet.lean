import ApiStencil.Proofs.Accumulator.Entry
import Mathlib.Data.Finset.Sort
import Mathlib.Data.String.Basic

/-!
# Sets of flags are sets

A set of flags stands for the mathematical set of its keys (`members`), and its order makes it the
only one that does (`members_injective`).  One call answers what the mathematical set answers and
changes it as a set is changed (`call_members`), so a run answers from the keys that are added since
the last reset, and from nothing else (`run_answers`).
-/

namespace ApiStencil.FlagSet

/-! ### The set behind the keys -/

section Members

variable {s : FlagSet} {key : String}

/-- The mathematical set of the keys. -/
def members (s : FlagSet) : Finset String := s.keys.toFinset

@[simp] theorem mem_members : key ∈ s.members ↔ key ∈ s := List.mem_toFinset

@[simp] theorem members_empty : empty.members = ∅ := rfl

@[simp] theorem members_insert : (s.insert key).members = Insert.insert key s.members := by
  ext x
  rw [mem_members, mem_insert, Finset.mem_insert, mem_members]

theorem nodup_keys (s : FlagSet) : s.keys.Nodup := s.ascending.imp ne_of_lt

/-- The set decides the keys and their order. -/
theorem members_injective : Function.Injective members := fun s t same =>
  eq_of_mem_iff fun key => by rw [← mem_members, same, mem_members]

/-- The keys are the set in ascending order. -/
theorem sort_members (s : FlagSet) : s.members.sort = s.keys :=
  (List.toFinset_sort _ s.nodup_keys).mpr (s.ascending.imp le_of_lt)

theorem card_members (s : FlagSet) : s.members.card = s.size :=
  List.toFinset_card_of_nodup s.nodup_keys

lemma contains_eq_decide : s.contains key = decide (key ∈ s.members) := by
  rw [Bool.eq_iff_iff, contains_iff, decide_eq_true_iff, mem_members]

lemma isEmpty_eq_decide : s.isEmpty = decide (s.members = ∅) := by
  rw [Bool.eq_iff_iff, decide_eq_true_iff, isEmpty, List.isEmpty_iff, members,
    List.toFinset_eq_empty_iff]

end Members

/-! ### One call -/

namespace Call

/-- What a mathematical set answers: whether a key is new to it or in it, how large it is, and its
keys in ascending order, as they are or one a line. -/
def answer (held : Finset String) : Call → Answer
  | .add key => .bool (decide (key ∉ held))
  | .contains key => .bool (decide (key ∈ held))
  | .reset => .nothing
  | .get => .text ("\n".intercalate held.sort)
  | .size => .count held.card
  | .isEmpty => .bool (decide (held = ∅))
  | .keys => .keys held.sort

/-- What a call leaves of a mathematical set. -/
def after (held : Finset String) : Call → Finset String
  | .add key => Insert.insert key held
  | .reset => ∅
  | _ => held

/-- The key that a call adds. -/
def added? : Call → Option String
  | .add key => some key
  | _ => none

end Call

/-- **One call** answers what the set of the keys answers, and leaves of it what is left of a set. -/
theorem call_members (s : FlagSet) (c : Call) :
    (s.call c).1 = c.answer s.members ∧ (s.call c).2.members = c.after s.members := by
  cases c with
  | add key =>
    rw [Call.answer, decide_not, ← contains_eq_decide]
    exact ⟨rfl, members_insert⟩
  | contains key =>
    rw [Call.answer, ← contains_eq_decide]
    exact ⟨rfl, rfl⟩
  | reset => exact ⟨rfl, rfl⟩
  | get =>
    rw [Call.answer, sort_members]
    exact ⟨rfl, rfl⟩
  | size =>
    rw [Call.answer, card_members]
    exact ⟨rfl, rfl⟩
  | isEmpty =>
    rw [Call.answer, ← isEmpty_eq_decide]
    exact ⟨rfl, rfl⟩
  | keys =>
    rw [Call.answer, sort_members]
    exact ⟨rfl, rfl⟩

/-! ### Runs -/

/-- The keys that calls add after the last reset among them. -/
def addedSinceReset (calls : List Call) : Finset String :=
  ((calls.reverse.takeWhile (· ≠ .reset)).filterMap Call.added?).toFinset

lemma addedSinceReset_concat (calls : List Call) (c : Call) :
    addedSinceReset (calls ++ [c]) = c.after (addedSinceReset calls) := by
  unfold addedSinceReset
  rw [List.reverse_append, List.reverse_singleton, List.singleton_append, List.takeWhile_cons]
  cases c with
  | add key => exact List.toFinset_cons (a := key)
  | _ => rfl

lemma run_cons (s : FlagSet) (c : Call) (rest : List Call) :
    s.run (c :: rest) = ((s.call c).1 :: ((s.call c).2.run rest).1, ((s.call c).2.run rest).2) := rfl

lemma run_append (s : FlagSet) (calls later : List Call) :
    s.run (calls ++ later) =
      ((s.run calls).1 ++ ((s.run calls).2.run later).1, ((s.run calls).2.run later).2) := by
  induction calls generalizing s with
  | nil => rfl
  | cons c rest ih =>
    rw [List.cons_append, run_cons, ih, run_cons]
    rfl

lemma length_run (s : FlagSet) (calls : List Call) : (s.run calls).1.length = calls.length := by
  induction calls generalizing s with
  | nil => rfl
  | cons c rest ih => exact congrArg (· + 1) (ih _)

/-- A run leaves the keys that are added since the last reset. -/
theorem members_run (calls : List Call) : (empty.run calls).2.members = addedSinceReset calls := by
  induction calls using List.reverseRecOn with
  | nil => rfl
  | append_singleton calls c ih =>
    rw [run_append, addedSinceReset_concat, ← ih]
    exact (call_members _ c).2

/-- **A set of flags is a set.**  However it is called from empty on, there is an answer to every call,
and it is that of the mathematical set of the keys added since the last reset; and after any two runs
that leave the same such set, all later calls are answered alike. -/
theorem run_answers :
    (∀ calls, (empty.run calls).1.length = calls.length) ∧
    (∀ (before : List Call) (call : Call) (later : List Call),
      (empty.run (before ++ call :: later)).1[before.length]? =
        some (call.answer (addedSinceReset before))) ∧
    ∀ calls calls', addedSinceReset calls = addedSinceReset calls' → ∀ later,
      ((empty.run calls).2.run later).1 = ((empty.run calls').2.run later).1 := by
  refine ⟨length_run empty, fun before call later => ?_, fun calls calls' same later => ?_⟩
  · have first : ((empty.run before).2.run (call :: later)).1[0]? =
        some ((empty.run before).2.call call).1 := rfl
    have length := length_run empty before
    rw [run_append, List.getElem?_append_right length.le, length, Nat.sub_self, first,
      (call_members _ call).1, members_run]
  · have left : (empty.run calls).2 = (empty.run calls').2 := by
      apply members_injective
      rw [members_run, members_run, same]
    rw [left]

theorem run_answers_reordered :
    addedSinceReset [.add "x", .reset, .add "b", .add "a", .get] =
        addedSinceReset [.add "a", .add "b", .add "a"] ∧
      ((empty.run [.add "x", .reset, .add "b", .add "a", .get]).2.run [.get, .add "b"]).1 =
        ((empty.run [.add "a", .add "b", .add "a"]).2.run [.get, .add "b"]).1 := by
  have same : addedSinceReset [.add "x", .reset, .add "b", .add "a", .get] =
      addedSinceReset [.add "a", .add "b", .add "a"] := by decide
  exact ⟨same, run_answers.2.2 _ _ same _⟩

/-- Keys are listed once and in order, whatever came before the reset. -/
example : (empty.run [.add "é", .reset, .add "b", .add "", .add "b", .keys, .size]).1 =
    [.bool true, .nothing, .bool true, .bool true, .bool false, .keys ["", "b"], .count 2] := by
  decide

end ApiStencil.FlagSet
