import ApiStencil.Proofs.Action.Relation
import ApiStencil.Template.Evaluation
import Mathlib.Tactic.Lemma

/-!
# What an expression inserts

Where a template prints an expression, the result of the expression is found first and escaped then.
An *insertion* is one time that this goes well: the expression, the variables that it sees, and the
run that finds its result; so it has a text.

* `valueOf_eq` — the value of an expression is its result, escaped as the result is marked;
* `Insertion.text_unescaped` — without escaping the result is inserted as it is;
* `perform_resultOf_concat` — the last filter of an expression makes its result;
* `Insertion.endsWith`, `Insertion.calls` — so the result of a filter or function whose text is
  never escaped is inserted as it is, with escaping or without.
-/

namespace ApiStencil

open Json

/-! ### Runs -/

namespace Action

variable {α β : Type}

lemma perform_bind_eq_ok_iff {a : Action α} {f : α → Action β} {l l' : Ledger} {y : β} :
    (a >>= f).perform l = (.ok y, l') ↔
      ∃ x between, a.perform l = (.ok x, between) ∧ (f x).perform between = (.ok y, l') := by
  rw [perform_bind]
  rcases a.perform l with ⟨e | x, between⟩ <;> simp [and_assoc]

lemma perform_mapFailure_eq_ok_iff {wrap : Failure → Failure} {a : Action α} {l l' : Ledger}
    {x : α} : (a.mapFailure wrap).perform l = (.ok x, l') ↔ a.perform l = (.ok x, l') := by
  rw [perform_mapFailure]
  rcases a.perform l with ⟨e | y, after⟩
  · constructor <;> intro h <;> cases h
  · exact Iff.rfl

/-- A run of an action that has gone well. -/
structure Run (a : Action α) where
  before : Ledger
  result : α
  after : Ledger
  performed : a.perform before = (.ok result, after)

/-- The action, giving its run in the place of its result. -/
def recorded (a : Action α) : Action (Run a) := fun before =>
  match performed : a.perform before with
  | (.ok result, after) => (.ok ⟨before, result, after, performed⟩, after)
  | (.error e, after) => (.error e, after)

lemma perform_recorded_ok {a : Action α} {l l' : Ledger} {x : α}
    (h : a.perform l = (.ok x, l')) : a.recorded.perform l = (.ok ⟨l, x, l', h⟩, l') := by
  show a.recorded l = _
  unfold recorded
  split <;> rename_i performed <;> cases h.symm.trans performed
  rfl

lemma perform_recorded_error {a : Action α} {l l' : Ledger} {e : Failure}
    (h : a.perform l = (.error e, l')) : a.recorded.perform l = (.error e, l') := by
  show a.recorded l = _
  unfold recorded
  split <;> rename_i performed <;> cases h.symm.trans performed
  rfl

/-- Recording an action changes nothing. -/
theorem recorded_bind (a : Action α) (f : α → Action β) :
    (a.recorded >>= fun run => f run.result) = a >>= f := by
  funext l
  show (a.recorded >>= fun run => f run.result).perform l = (a >>= f).perform l
  rw [perform_bind, perform_bind]
  rcases performed : a.perform l with ⟨e | x, after⟩
  · rw [perform_recorded_error performed]
  · rw [perform_recorded_ok performed]

end Action

/-! ### Texts that are never escaped -/

/-- An action gives texts. -/
def Action.GivesText (a : Action Value) : Prop :=
  ∀ {l v l'}, a.perform l = (.ok v, l') → ∃ s, v = .str s

/-- A filter gives texts that are never escaped. -/
structure Filter.Verbatim (f : Filter) : Prop where
  safe : f.safe = true
  text : ∀ v args, (f.run v args).GivesText

/-- A function gives texts that are never escaped. -/
structure Function.Verbatim (f : Function) : Prop where
  safe : f.safe = true
  text : ∀ args, (f.run args).GivesText

namespace Template

open ApiStencil.Action

variable {tools : Tools} {vars : Variables} {escaping : Bool}

/-- What a call gives is a text without a mark, where its texts are never escaped. -/
lemma unmarked_of_perform {run : Arguments → Action Value} {safe : Bool} (never : safe = true)
    (texts : ∀ args, (run args).GivesText) {wrap : Failure → Failure} {args : Action Arguments}
    {l l' : Ledger} {m : Marked}
    (performed : (mapFailure wrap (do
      let result ← run (← args)
      pure ⟨result, !safe⟩)).perform l = (.ok m, l')) :
    ∃ s arguments between, args.perform l = (.ok arguments, between) ∧
      (run arguments).perform between = (.ok (.str s), l') ∧ m = ⟨.str s, false⟩ := by
  obtain ⟨arguments, between, given, called⟩ :=
    perform_bind_eq_ok_iff.mp (perform_mapFailure_eq_ok_iff.mp performed)
  obtain ⟨v, after, gave, marked⟩ := perform_bind_eq_ok_iff.mp called
  obtain ⟨s, rfl⟩ := texts arguments gave
  rw [never] at marked
  cases marked
  exact ⟨s, arguments, between, given, gave, rfl⟩

/-! ### Results -/

/-- A value as it is printed: a string is escaped where it is marked for that. -/
def Marked.printed (escaping : Bool) (m : Marked) : Value :=
  match m.value with
  | .str s => .str (if escaping && m.escaped then escape s else s)
  | v => v

lemma Marked.printed_unescaped {m : Marked} (h : (escaping && m.escaped) = false) :
    m.printed escaping = m.value := by
  obtain ⟨v, escaped⟩ := m
  cases v with
  | str s =>
    show Value.str (if escaping && escaped then escape s else s) = .str s
    rw [if_neg (Bool.not_eq_true _ ▸ h)]
  | _ => rfl

variable (tools vars escaping) in
/-- The result of an expression before it is escaped. -/
def resultOf : Expr → Action Marked
  | .mk negated base pipes => do
    match ← startOf tools vars escaping negated (standInOf tools vars pipes) base with
    | none => pure ⟨.bool true, false⟩
    | some first =>
      let last ← throughPipes tools vars pipes first
      pure (if negated then ⟨.bool (!last.value.isTrue), false⟩
        else ⟨last.value, last.escaped && !endsSafe pipes⟩)

/-- **The value of an expression** is its result, escaped as it is marked. -/
theorem valueOf_eq (e : Expr) :
    valueOf tools vars escaping e = do
      let m ← resultOf tools vars escaping e
      return m.printed escaping := by
  obtain ⟨negated, base, pipes⟩ := e
  rw [valueOf, completed, resultOf, bind_assoc]
  refine bind_congr fun start => ?_
  cases start with
  | none => rfl
  | some first =>
    rw [bind_assoc]
    refine bind_congr fun last => ?_
    rw [pure_bind]
    cases negated with
    | true => rfl
    | false =>
      obtain ⟨v, escaped⟩ := last
      cases v with
      | str s =>
        show pure (Value.str _) = (pure (Value.str _) : Action Value)
        rw [Bool.and_assoc]
        rfl
      | _ => rfl

/-! ### The last filter -/

/-- An action that gives something where it goes well. -/
def Starts (a : Action (Option Marked)) : Prop := ∀ l l', a.perform l ≠ (.ok none, l')

lemma starts_pure (m : Marked) : Starts (pure (some m)) := fun _ _ h => by cases h

lemma starts_throw (e : Failure) : Starts (throw e) := fun _ _ h => by cases h

lemma starts_bind {α : Type} {a : Action α} {f : α → Action (Option Marked)}
    (h : ∀ x, Starts (f x)) : Starts (a >>= f) := by
  intro l l' performed
  obtain ⟨x, between, -, after⟩ := perform_bind_eq_ok_iff.mp performed
  exact h x between l' after

/-- An expression that is not negated starts from something. -/
lemma starts_startOf (standIn : Option (Action Value)) (base : Base) :
    Starts (startOf tools vars escaping false standIn base) := by
  cases base with
  | text | number | bool | isDefined => exact starts_pure _
  | «variable» path =>
    rw [startOf]
    unfold Variables.start
    split
    · exact starts_bind fun _ => starts_pure _
    · exact starts_bind fun _ => starts_pure _
    · exact starts_pure _
    · exact starts_throw _
  | function call =>
    obtain ⟨name, args⟩ := call
    exact starts_bind fun _ => starts_pure _
  | joined operands => exact starts_bind fun _ => starts_pure _
  | array items => exact starts_bind fun _ => starts_pure _
  | equal wanted left right => exact starts_bind fun _ => starts_bind fun _ => starts_pure _
  | both left right =>
    refine starts_bind fun first => ?_
    cases first <;> exact starts_bind fun _ => starts_pure _
  | either left right =>
    refine starts_bind fun first => ?_
    cases first <;> exact starts_bind fun _ => starts_pure _

lemma standInOf_concat (pipes : List Call) {name : String} (h : isMark name = false)
    (args : List (String × Expr)) :
    standInOf tools vars (pipes ++ [.mk name args]) = standInOf tools vars pipes := by
  cases pipes with
  | nil =>
    have ne : name ≠ defaultName := fun eq => by simp [isMark, eq] at h
    show standInOf tools vars [.mk name args] = none
    rw [standInOf, if_neg ne]
  | cons c rest =>
    obtain ⟨first, others⟩ := c
    rfl

lemma endsSafe_concat (pipes : List Call) {name : String} (h : isMark name = false)
    (args : List (String × Expr)) : endsSafe (pipes ++ [.mk name args]) = false := by
  have ne : name ≠ safeName := fun eq => by simp [isMark, eq] at h
  simp [endsSafe, Call.name, ne]

lemma throughPipes_concat (pipes : List Call) (c : Call) (m : Marked) :
    throughPipes tools vars (pipes ++ [c]) m =
      throughPipes tools vars pipes m >>= throughPipes tools vars [c] := by
  induction pipes generalizing m with
  | nil => rfl
  | cons first rest ih =>
    obtain ⟨name, args⟩ := first
    rw [List.cons_append, throughPipes, throughPipes]
    dsimp only
    split <;> simp only [bind_assoc, ih]

lemma perform_resultOf_eq_ok_iff {base : Base} {pipes : List Call} {l l' : Ledger} {m : Marked} :
    (resultOf tools vars escaping (.mk false base pipes)).perform l = (.ok m, l') ↔
      ∃ first between,
        (startOf tools vars escaping false (standInOf tools vars pipes) base).perform l =
          (.ok (some first), between) ∧
        ∃ last, (throughPipes tools vars pipes first).perform between = (.ok last, l') ∧
          m = ⟨last.value, last.escaped && !endsSafe pipes⟩ := by
  rw [resultOf, perform_bind_eq_ok_iff]
  constructor
  · rintro ⟨start, between, started, performed⟩
    cases start with
    | none =>
      -- only a negated expression can start from nothing
      exact absurd started (starts_startOf _ _ _ _)
    | some first =>
      obtain ⟨last, after, through, made⟩ := perform_bind_eq_ok_iff.mp performed
      cases made
      exact ⟨first, between, started, last, through, rfl⟩
  · rintro ⟨first, between, started, last, through, rfl⟩
    exact ⟨some first, between, started, perform_bind_eq_ok_iff.mpr ⟨last, l', through, rfl⟩⟩

/-- **The last filter of an expression makes its result** of that of the expression without it. -/
theorem perform_resultOf_concat {base : Base} {pipes : List Call} {name : String}
    {args : List (String × Expr)} (notMark : isMark name = false) {l l' : Ledger} {m : Marked} :
    (resultOf tools vars escaping (.mk false base (pipes ++ [.mk name args]))).perform l =
        (.ok m, l') ↔
      ∃ input between,
        (resultOf tools vars escaping (.mk false base pipes)).perform l = (.ok input, between) ∧
        (tools.applyFilter name input.value (argumentsOf tools vars args)).perform between =
          (.ok m, l') := by
  -- what the last filter gives keeps its mark, since that filter is no mark itself
  simp only [perform_resultOf_eq_ok_iff, standInOf_concat pipes notMark, throughPipes_concat,
    perform_bind_eq_ok_iff, endsSafe_concat pipes notMark, Bool.not_false, Bool.and_true]
  have last (m : Marked) : throughPipes tools vars [.mk name args] m =
      tools.applyFilter name m.value (argumentsOf tools vars args) := by
    rw [throughPipes, notMark]
    exact bind_pure _
  simp only [last]
  constructor
  · rintro ⟨first, before, started, m, ⟨input, between, through, applied⟩, rfl⟩
    exact ⟨_, between, ⟨first, before, started, input, through, rfl⟩, applied⟩
  · rintro ⟨_, between, ⟨first, before, started, input, through, rfl⟩, applied⟩
    exact ⟨first, before, started, m, ⟨input, between, through, applied⟩, rfl⟩

/-! ### Insertions -/

/-- An insertion of an expression: the variables that the expression sees, and the run that finds
its result. -/
structure Insertion (tools : Tools) (escaping : Bool) where
  expression : Expr
  vars : Variables
  run : Run (resultOf tools vars escaping expression)

variable (tools vars escaping) in
/-- Evaluates an expression to insert it. -/
def insertionOf (e : Expr) : Action (Insertion tools escaping) := do
  let run ← (resultOf tools vars escaping e).recorded
  return ⟨e, vars, run⟩

namespace Insertion

/-- The value that is inserted. -/
def value (i : Insertion tools escaping) : Value := i.run.result.value

/-- The text that is inserted. -/
def text (i : Insertion tools escaping) : String := (i.run.result.printed escaping).shown

/-- Expressions are printed by inserting them. -/
theorem valueOf_bind {β : Type} (e : Expr) (f : String → Action β) :
    (valueOf tools vars escaping e >>= fun v => f v.shown) =
      insertionOf tools vars escaping e >>= fun i => f i.text := by
  simp only [valueOf_eq, insertionOf, bind_assoc, pure_bind]
  exact (recorded_bind _ fun m : Marked => f (m.printed escaping).shown).symm

/-- **Without escaping** every value is inserted as it is. -/
theorem text_unescaped (i : Insertion tools escaping) (h : escaping = false) :
    i.text = i.value.shown := by
  rw [text, Marked.printed_unescaped (Bool.and_eq_false_iff.mpr (.inl h)), value]

lemma text_eq {i : Insertion tools escaping} {s : String} (h : i.run.result = ⟨.str s, false⟩) :
    i.text = s := by
  rw [text, Marked.printed_unescaped (Bool.and_eq_false_iff.mpr (.inr (by rw [h]))), h]
  rfl

/-- An insertion ends with a filter: the filter was run on the result of the expression before it,
with its arguments, and the text that it gave is inserted. -/
def EndsWith (i : Insertion tools escaping) (before : Expr) (args : List (String × Expr))
    (filter : Filter) : Prop :=
  ∃ input l arguments l',
    (resultOf tools i.vars escaping before).perform i.run.before = (.ok input, l) ∧
    (argumentsOf tools i.vars args).perform l = (.ok arguments, l') ∧
    (filter.run input.value arguments).perform l' = (.ok (.str i.text), i.run.after)

/-- An insertion calls a function: the function was run with its arguments, and the text that it
gave is inserted. -/
def Calls (i : Insertion tools escaping) (args : List (String × Expr)) (function : Function) :
    Prop :=
  ∃ arguments l,
    (argumentsOf tools i.vars args).perform i.run.before = (.ok arguments, l) ∧
    (function.run arguments).perform l = (.ok (.str i.text), i.run.after)

/-- **The text of a filter that is never escaped** is inserted as it is. -/
theorem endsWith {i : Insertion tools escaping} {base : Base} {pipes : List Call} {name : String}
    {args : List (String × Expr)}
    (ends : i.expression = .mk false base (pipes ++ [.mk name args]))
    (notMark : isMark name = false) {filter : Filter}
    (found : tools.filters.find? name = some filter) (verbatim : filter.Verbatim) :
    i.EndsWith (.mk false base pipes) args filter := by
  obtain ⟨e, vars, run⟩ := i
  subst ends
  obtain ⟨input, l, evaluated, applied⟩ := (perform_resultOf_concat notMark).mp run.performed
  rw [Tools.applyFilter, found] at applied
  obtain ⟨s, arguments, l', given, gave, unmarked⟩ :=
    unmarked_of_perform verbatim.safe (verbatim.text _) applied
  have text : text ⟨_, vars, run⟩ = s := text_eq unmarked
  exact ⟨input, l, arguments, l', evaluated, given, text ▸ gave⟩

/-- **The text of a function that is never escaped** is inserted as it is. -/
theorem calls {i : Insertion tools escaping} {name : String} {args : List (String × Expr)}
    (called : i.expression = .mk false (.function (.mk name args)) []) {function : Function}
    (found : tools.functions.find? name = some function) (verbatim : function.Verbatim) :
    i.Calls args function := by
  obtain ⟨e, vars, run⟩ := i
  subst called
  obtain ⟨first, l, started, last, through, result⟩ := perform_resultOf_eq_ok_iff.mp run.performed
  rw [throughPipes, perform_pure] at through
  cases through
  obtain ⟨m, between, called, made⟩ := perform_bind_eq_ok_iff.mp started
  cases made
  rw [Tools.callFunction, found] at called
  obtain ⟨s, arguments, l', given, gave, rfl⟩ :=
    unmarked_of_perform verbatim.safe verbatim.text called
  have text : text ⟨_, vars, run⟩ = s := text_eq result
  exact ⟨arguments, l', given, text ▸ gave⟩

end Insertion

end Template

end ApiStencil
