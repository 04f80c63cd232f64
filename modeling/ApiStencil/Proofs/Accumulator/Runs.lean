import ApiStencil.Proofs.Accumulator.Entry

/-!
# Runs of the accumulator entries

Any number of calls of the six entries on one scope that is empty at first, in any order and each in
either form.

* `Keyed` — the inputs from which an entry that adds takes keys, and these keys;
* `holds_perform_iff` — what a scope holds after one call;
* `holds_run_iff` — what it holds after a run: what has been supplied since the last reset;
* `run_texts` — an array of strings adds what its strings add one after the other.
-/

namespace ApiStencil

open Json ApiStencil.Action

/-! ### Calls -/

/-- A call of an entry, as a filter on a value or as a function of its arguments. -/
inductive EntryCall where
  | filter (entry : Entry) (value : Value) (args : Arguments)
  | function (entry : Entry) (args : Arguments)

namespace EntryCall

/-- The entry that is called. -/
def entry : EntryCall → Entry
  | .filter entry _ _ | .function entry _ => entry

/-- The input of a call, null for a function without its argument. -/
def input : EntryCall → Value
  | .filter _ value _ => value
  | .function _ args => (args.lookup "key").getD .null

/-- What a call does when its entry is bound to a scope. -/
def action (call : EntryCall) (i : Handle) : Action Value :=
  match call with
  | .filter entry value args => (entry.on i).asFilter.run value args
  | .function entry args => (entry.on i).asFunction.run args

theorem action_eq (call : EntryCall) (i : Handle) :
    call.action i = (call.entry.on i).apply call.input := by
  cases call <;> rfl

end EntryCall

/-! ### Keys of an input -/

/-- An input from which keys are taken, and the keys: null, a string, or an array of strings. -/
inductive Keyed : Value → List String → Prop
  | null : Keyed .null []
  | text (key : String) : Keyed (.str key) [key]
  | texts (keys : List String) : Keyed (.arr (keys.map .str)) keys

lemma mapM_asText?_map (keys : List String) :
    (keys.map Value.str).mapM Value.asText? = some keys := by
  induction keys with
  | nil => rfl
  | cons key rest ih => simp [List.mapM_cons, ih, Value.asText?]

lemma eq_map_of_mapM_asText? {items : List Value} {keys : List String}
    (h : items.mapM Value.asText? = some keys) : items = keys.map .str := by
  induction items generalizing keys with
  | nil =>
    obtain rfl : [] = keys := by simpa using h
    rfl
  | cons item rest ih =>
    simp only [List.mapM_cons, Option.bind_eq_bind, Option.bind_eq_some_iff] at h
    obtain ⟨key, hkey, others, hothers, eq⟩ := h
    cases item with
    | str s =>
      cases hkey
      cases eq
      rw [ih hothers]
      rfl
    | _ => cases hkey

/-- An entry that adds takes keys from these inputs only. -/
theorem Entry.keysOf_add_iff {entry : Entry} (h : entry.action = .add) {v : Value}
    {keys : List String} : entry.keysOf v = .ok keys ↔ Keyed v keys := by
  obtain ⟨kind, action⟩ := entry
  obtain rfl : action = .add := h
  constructor
  · intro taken
    cases v with
    | null =>
      cases taken
      exact .null
    | str key =>
      cases taken
      exact .text key
    | arr items =>
      cases texts : items.mapM Value.asText? with
      | none => simp [keysOf, texts] at taken
      | some found =>
        obtain rfl : found = keys := by simpa [keysOf, texts] using taken
        rw [eq_map_of_mapM_asText? texts]
        exact .texts found
    | _ => cases taken
  · intro keyed
    cases keyed with
    | null => rfl
    | text key => rfl
    | texts => simp only [keysOf, mapM_asText?_map]

theorem Keyed.unique {v : Value} {keys keys' : List String} (h : Keyed v keys)
    (h' : Keyed v keys') : keys = keys' := by
  have taken : Entry.keysOf ⟨.imports, .add⟩ v = .ok keys := (Entry.keysOf_add_iff rfl).mpr h
  have taken' : Entry.keysOf ⟨.imports, .add⟩ v = .ok keys' := (Entry.keysOf_add_iff rfl).mpr h'
  rw [taken] at taken'
  exact Except.ok.inj taken'

/-! ### One call -/

/-- No lock of a scope is spoilt. -/
def Ledger.Intact (l : Ledger) (i : Handle) : Prop :=
  ∀ kind, ((l.scope i).get kind).poisoned = false

/-- The ledger with keys added to a kind of a scope, those that are new reported. -/
def Ledger.added (l : Ledger) (i : Handle) (kind : FlagKind) (keys : List String) : Ledger :=
  let (fresh, flags) := ((l.scope i).get kind).flags.insertAll keys
  ⟨l.scopes.set i ((l.scope i).set kind ⟨flags, false⟩),
    l.journal ++ fresh.map (Event.flagAdded kind)⟩

/-- The ledger with the flags of a kind of a scope emptied. -/
def Ledger.emptied (l : Ledger) (i : Handle) (kind : FlagKind) : Ledger :=
  { l with scopes := l.scopes.set i ((l.scope i).set kind ⟨.empty, false⟩) }

variable {i : Handle}

namespace EntryCall

/-- **What a call can do**: list the flags of its kind, empty them, add to them, or refuse its
input. -/
inductive Does (call : EntryCall) (i : Handle) (l : Ledger) :
    Except Failure Value × Ledger → Prop
  | lists (h : call.entry.action = .get) :
    Does call i l (.ok (.str ("\n".intercalate ((l.scope i).get call.entry.kind).flags.keys)), l)
  | empties (h : call.entry.action = .reset) :
    Does call i l (.ok (.str ""), l.emptied i call.entry.kind)
  | adds (h : call.entry.action = .add) {keys : List String} (keyed : Keyed call.input keys) :
    Does call i l (.ok (.str ""), l.added i call.entry.kind keys)
  | refuses (h : call.entry.action = .add) (unkeyed : ∀ keys, ¬ Keyed call.input keys)
    (e : Failure) : Does call i l (.error e, l)

theorem perform_add_refused (call : EntryCall) {l : Ledger} (h : call.entry.action = .add)
    (unkeyed : ∀ keys, ¬ Keyed call.input keys) :
    ∃ e, (call.action i).perform l = (.error e, l) := by
  rw [action_eq, BoundEntry.perform_apply]
  cases taken : call.entry.keysOf call.input with
  | error e => exact ⟨e, rfl⟩
  | ok keys => exact absurd ((Entry.keysOf_add_iff h).mp taken) (unkeyed keys)

/-- A call looks at the lock of its own kind only. -/
theorem does_of_unlocked (call : EntryCall) {l : Ledger}
    (unlocked : ((l.scope i).get call.entry.kind).poisoned = false) :
    call.Does i l ((call.action i).perform l) := by
  cases h : call.entry.action with
  | get =>
    have keys : call.entry.keysOf call.input = .ok [] := by simp [Entry.keysOf, h]
    have same : (⟨((l.scope i).get call.entry.kind).flags, false⟩ : Accumulator) =
        (l.scope i).get call.entry.kind := by rw [← unlocked]
    have lists : (call.action i).perform l =
        (.ok (.str ("\n".intercalate ((l.scope i).get call.entry.kind).flags.keys)), l) := by
      rw [action_eq, BoundEntry.perform_apply, keys]
      simp [unlocked, Entry.work, h, same, FlagSet.listing]
    exact lists ▸ .lists h
  | reset =>
    have keys : call.entry.keysOf call.input = .ok [] := by simp [Entry.keysOf, h]
    have empties : (call.action i).perform l = (.ok (.str ""), l.emptied i call.entry.kind) := by
      rw [action_eq, BoundEntry.perform_apply, keys]
      simp [unlocked, Entry.work, h, Ledger.emptied]
    exact empties ▸ .empties h
  | add =>
    by_cases keyed : ∃ keys, Keyed call.input keys
    · obtain ⟨keys, keyed⟩ := keyed
      have adds : (call.action i).perform l = (.ok (.str ""), l.added i call.entry.kind keys) := by
        rw [action_eq, BoundEntry.perform_apply, (Entry.keysOf_add_iff h).mpr keyed]
        simp [unlocked, Entry.work, h, Ledger.added]
      exact adds ▸ .adds h keyed
    · have unkeyed : ∀ keys, ¬ Keyed call.input keys := not_exists.mp keyed
      obtain ⟨e, refused⟩ := call.perform_add_refused h unkeyed
      exact refused ▸ .refuses h unkeyed e

theorem perform_add_of_unlocked (call : EntryCall) {l : Ledger}
    (unlocked : ((l.scope i).get call.entry.kind).poisoned = false) (h : call.entry.action = .add)
    {keys : List String} (keyed : Keyed call.input keys) :
    (call.action i).perform l = (.ok (.str ""), l.added i call.entry.kind keys) := by
  have does := call.does_of_unlocked unlocked
  generalize (call.action i).perform l = p at does ⊢
  cases does with
  | adds _ keyed' => rw [keyed.unique keyed']
  | refuses _ unkeyed => exact absurd keyed (unkeyed keys)
  | lists h' | empties h' => cases h.symm.trans h'

section Intact

variable (call : EntryCall) {l : Ledger} (intact : l.Intact i)
include intact

theorem does_perform : call.Does i l ((call.action i).perform l) := call.does_of_unlocked (intact _)

theorem perform_get (h : call.entry.action = .get) :
    (call.action i).perform l =
      (.ok (.str ("\n".intercalate ((l.scope i).get call.entry.kind).flags.keys)), l) := by
  have does := call.does_perform intact
  generalize (call.action i).perform l = p at does ⊢
  cases does with
  | lists => rfl
  | empties h' | adds h' | refuses h' => cases h.symm.trans h'

theorem perform_reset (h : call.entry.action = .reset) :
    (call.action i).perform l = (.ok (.str ""), l.emptied i call.entry.kind) := by
  have does := call.does_perform intact
  generalize (call.action i).perform l = p at does ⊢
  cases does with
  | empties => rfl
  | lists h' | adds h' | refuses h' => cases h.symm.trans h'

theorem perform_add (h : call.entry.action = .add) {keys : List String}
    (keyed : Keyed call.input keys) :
    (call.action i).perform l = (.ok (.str ""), l.added i call.entry.kind keys) :=
  call.perform_add_of_unlocked (intact _) h keyed

end Intact

lemma entry_eq_iff (call : EntryCall) {kind : FlagKind} {action : EntryAction} :
    call.entry = ⟨kind, action⟩ ↔ call.entry.kind = kind ∧ call.entry.action = action := by
  generalize call.entry = entry
  cases entry
  exact Entry.mk.injEq .. ▸ Iff.rfl

/-- Whether a call empties a kind. -/
def Resets (call : EntryCall) (kind : FlagKind) : Prop := call.entry = ⟨kind, .reset⟩

/-- Whether a call supplies a key to a kind, and succeeds in it. -/
def Supplies (call : EntryCall) (kind : FlagKind) (key : String) : Prop :=
  call.entry = ⟨kind, .add⟩ ∧ ∃ keys, Keyed call.input keys ∧ key ∈ keys

end EntryCall

lemma Ledger.holds_added {l : Ledger} {kind other : FlagKind} {keys : List String} {key : String} :
    ((l.added i kind keys).scope i).Holds other key ↔
      other = kind ∧ key ∈ keys ∨ (l.scope i).Holds other key := by
  unfold Scope.Holds added
  by_cases e : other = kind
  · subst e
    simp [FlagSet.mem_insertAll]
  · simp [e]

lemma Ledger.holds_emptied {l : Ledger} {kind other : FlagKind} {key : String} :
    ((l.emptied i kind).scope i).Holds other key ↔ other ≠ kind ∧ (l.scope i).Holds other key := by
  unfold Scope.Holds emptied
  by_cases e : other = kind
  · subst e
    simp
  · simp [e]

lemma Ledger.Intact.set {l : Ledger} (intact : l.Intact i) {kind : FlagKind} {flags : FlagSet}
    {journal : List Event} :
    Ledger.Intact ⟨l.scopes.set i ((l.scope i).set kind ⟨flags, false⟩), journal⟩ i := by
  intro other
  rw [Ledger.scope_mk, Scopes.get_set_self]
  by_cases e : other = kind
  · rw [e, Scope.get_set_self]
  · rw [Scope.get_set_of_ne e]
    exact intact other

namespace EntryCall

theorem intact_perform (call : EntryCall) {l : Ledger} (intact : l.Intact i) :
    ((call.action i).perform l).2.Intact i := by
  have does := call.does_perform intact
  generalize (call.action i).perform l = p at does ⊢
  cases does with
  | lists | refuses => exact intact
  | empties | adds => exact intact.set

/-- **What a scope holds after one call**: what the call supplies, and what it held before unless
the call resets that kind. -/
theorem holds_perform_iff (call : EntryCall) {l : Ledger} (intact : l.Intact i) {kind : FlagKind}
    {key : String} :
    (((call.action i).perform l).2.scope i).Holds kind key ↔
      call.Supplies kind key ∨ ¬ call.Resets kind ∧ (l.scope i).Holds kind key := by
  have does := call.does_perform intact
  generalize (call.action i).perform l = p at does ⊢
  unfold Supplies Resets
  rw [entry_eq_iff, entry_eq_iff]
  cases does with
  | lists h => simp [h]
  | empties h => simp [h, Ledger.holds_emptied, eq_comm]
  | @adds h keys keyed =>
    have taken : (∃ others, Keyed call.input others ∧ key ∈ others) ↔ key ∈ keys :=
      ⟨fun ⟨others, h, hk⟩ => keyed.unique h ▸ hk, fun hk => ⟨keys, keyed, hk⟩⟩
    simp [h, Ledger.holds_added, taken, eq_comm]
  | refuses h unkeyed =>
    have none : ¬ ∃ keys, Keyed call.input keys ∧ key ∈ keys := fun ⟨keys, h, _⟩ => unkeyed keys h
    simp [h, none]

end EntryCall

/-! ### Runs -/

namespace EntryCall

/-- The results of calls made one after the other, and the ledger after them. -/
def run (i : Handle) (l : Ledger) : List EntryCall → List (Except Failure Value) × Ledger
  | [] => ([], l)
  | call :: rest =>
    let (result, l) := (call.action i).perform l
    let (results, after) := run i l rest
    (result :: results, after)

lemma run_cons (i : Handle) (l : Ledger) (call : EntryCall) (rest : List EntryCall) :
    run i l (call :: rest) =
      (((call.action i).perform l).1 :: (run i ((call.action i).perform l).2 rest).1,
        (run i ((call.action i).perform l).2 rest).2) := rfl

/-- Whether some call supplies a key to a kind and no later call resets that kind. -/
def Supplied (kind : FlagKind) (key : String) (calls : List EntryCall) : Prop :=
  ∃ before call later, calls = before ++ call :: later ∧ call.Supplies kind key ∧
    ∀ other ∈ later, ¬ other.Resets kind

lemma supplied_cons_iff {kind : FlagKind} {key : String} {call : EntryCall}
    {rest : List EntryCall} :
    Supplied kind key (call :: rest) ↔
      call.Supplies kind key ∧ (∀ other ∈ rest, ¬ other.Resets kind) ∨ Supplied kind key rest := by
  constructor
  · rintro ⟨before, c, later, eq, supplies, kept⟩
    cases before with
    | nil =>
      obtain ⟨rfl, rfl⟩ := List.cons.inj eq
      exact .inl ⟨supplies, kept⟩
    | cons first before =>
      obtain ⟨-, rfl⟩ := List.cons.inj eq
      exact .inr ⟨before, c, later, rfl, supplies, kept⟩
  · rintro (⟨supplies, kept⟩ | ⟨before, c, later, rfl, supplies, kept⟩)
    · exact ⟨[], call, rest, rfl, supplies, kept⟩
    · exact ⟨call :: before, c, later, rfl, supplies, kept⟩

lemma intact_run {l : Ledger} (intact : l.Intact i) (calls : List EntryCall) :
    (run i l calls).2.Intact i := by
  induction calls generalizing l with
  | nil => exact intact
  | cons call rest ih => exact ih (call.intact_perform intact)

/-- **What a scope holds after a run**: what has been supplied since the last reset, and what it
held before if there was none. -/
theorem holds_run_iff {l : Ledger} (intact : l.Intact i) (calls : List EntryCall) {kind : FlagKind}
    {key : String} :
    ((run i l calls).2.scope i).Holds kind key ↔
      Supplied kind key calls ∨ (∀ call ∈ calls, ¬ call.Resets kind) ∧ (l.scope i).Holds kind key := by
  induction calls generalizing l with
  | nil => simp [run, Supplied]
  | cons call rest ih =>
    refine (ih (call.intact_perform intact)).trans ?_
    rw [holds_perform_iff call intact, supplied_cons_iff, List.forall_mem_cons]
    tauto

lemma run_append (i : Handle) (l : Ledger) (calls later : List EntryCall) :
    run i l (calls ++ later) = ((run i l calls).1 ++ (run i (run i l calls).2 later).1,
      (run i (run i l calls).2 later).2) := by
  induction calls generalizing l with
  | nil => rfl
  | cons call rest ih =>
    rw [List.cons_append, run_cons, ih, run_cons]
    rfl

/-! ### Calls in place of others -/

/-- Only the entries and inputs of calls matter, not their form. -/
lemma run_eq_of_map_eq (i : Handle) (l : Ledger) {calls calls' : List EntryCall}
    (h : calls.map (fun call => (call.entry, call.input)) =
      calls'.map fun call => (call.entry, call.input)) : run i l calls = run i l calls' := by
  induction calls generalizing l calls' with
  | nil =>
    obtain rfl : calls' = [] := by simpa using h.symm
    rfl
  | cons call rest ih =>
    cases calls' with
    | nil => cases h
    | cons call' rest' =>
      obtain ⟨same, others⟩ := List.cons.inj h
      obtain ⟨entry, input⟩ := Prod.mk.inj same
      have action : call.action i = call'.action i := by rw [action_eq, action_eq, entry, input]
      rw [run_cons, run_cons, action, ih _ others]

end EntryCall

namespace Ledger

lemma added_nil {l : Ledger} {kind : FlagKind} (unlocked : ((l.scope i).get kind).poisoned = false) :
    l.added i kind [] = l := by
  have same : (⟨((l.scope i).get kind).flags, false⟩ : Accumulator) = (l.scope i).get kind := by
    rw [← unlocked]
  simp [added, FlagSet.insertAll, same]

lemma added_cons (l : Ledger) (i : Handle) (kind : FlagKind) (key : String) (rest : List String) :
    l.added i kind (key :: rest) = (l.added i kind [key]).added i kind rest := by
  simp only [added, FlagSet.insertAll, scope_mk, Scopes.get_set_self, Scopes.set_set,
    Scope.get_set_self, Scope.set_set]
  cases ((l.scope i).get kind).flags.contains key <;> simp

end Ledger

namespace EntryCall

/-- Keys that are added one after the other, where the lock of their kind is not spoilt. -/
lemma run_adds {l : Ledger} {entry : Entry} (unlocked : ((l.scope i).get entry.kind).poisoned = false)
    (h : entry.action = .add) (keys : List String) :
    run i l (keys.map fun key => .filter entry (.str key) []) =
      (keys.map fun _ => .ok (.str ""), l.added i entry.kind keys) := by
  induction keys generalizing l with
  | nil =>
    rw [Ledger.added_nil unlocked]
    rfl
  | cons key rest ih =>
    have first : ((EntryCall.filter entry (.str key) []).action i).perform l =
        (.ok (.str ""), l.added i entry.kind [key]) :=
      perform_add_of_unlocked (.filter entry (.str key) []) unlocked h (.text key)
    have unlocked' : (((l.added i entry.kind [key]).scope i).get entry.kind).poisoned = false := by
      simp [Ledger.added]
    rw [List.map_cons, run_cons, first, ih unlocked', Ledger.added_cons l i entry.kind key rest]
    rfl

/-- The strings of an array one after the other add what the array adds at once. -/
lemma run_texts {l : Ledger} (intact : l.Intact i) {entry : Entry} (h : entry.action = .add)
    (keys : List String) :
    run i l (keys.map fun key => .filter entry (.str key) []) =
      (keys.map fun _ => .ok (.str ""), l.added i entry.kind keys) :=
  run_adds (intact entry.kind) h keys

/-- The ledger in which every scope is empty. -/
def start : Ledger := ⟨.empty, []⟩

lemma intact_start : start.Intact i := fun kind => by cases kind <;> rfl

/-- **Runs of the accumulator entries** on a scope that is empty at first.  After any calls, so at
any point of a longer run,

* each kind lists in strictly ascending order what has been supplied since its last reset;
* an entry that gets gives that listing and changes nothing;
* entries that reset or add give the empty text, and one that adds fails, without a change, on an
  input that is neither null nor a string nor an array of strings;
* a filter can be called as a function instead, and the strings of an array added one after the
  other instead of at once: no other result changes, and not what the scope holds later. -/
theorem run_spec (i : Handle) (calls : List EntryCall) :
    (∀ kind, (((run i start calls).2.scope i).get kind).flags.keys.Pairwise (· < ·) ∧
      ∀ key, key ∈ (((run i start calls).2.scope i).get kind).flags.keys ↔ Supplied kind key calls) ∧
    (∀ call : EntryCall, call.entry.action = .get →
      (call.action i).perform (run i start calls).2 =
        (.ok (.str ("\n".intercalate
          (((run i start calls).2.scope i).get call.entry.kind).flags.keys)), (run i start calls).2)) ∧
    (∀ call : EntryCall, call.entry.action = .reset →
      ((call.action i).perform (run i start calls).2).1 = .ok (.str "")) ∧
    (∀ (call : EntryCall) keys, call.entry.action = .add → Keyed call.input keys →
      ((call.action i).perform (run i start calls).2).1 = .ok (.str "")) ∧
    (∀ call : EntryCall, call.entry.action = .add → (∀ keys, ¬ Keyed call.input keys) →
      ∃ e, (call.action i).perform (run i start calls).2 = (.error e, (run i start calls).2)) ∧
    (∀ entry value args later, run i start (calls ++ .filter entry value args :: later) =
      run i start (calls ++ .function entry [("key", value)] :: later)) ∧
    (∀ (call : EntryCall) (keys : List String) (singles later : List EntryCall),
      call.entry.action = .add → call.input = .arr (keys.map .str) →
      singles.map (fun single => (single.entry, single.input)) =
        keys.map (fun key => (call.entry, .str key)) →
      ∃ results after,
        run i start (calls ++ call :: later) =
          ((run i start calls).1 ++ .ok (.str "") :: results, after) ∧
        run i start (calls ++ (singles ++ later)) =
          ((run i start calls).1 ++ (keys.map (fun _ => .ok (.str "")) ++ results), after)) := by
  have intact : (run i start calls).2.Intact i := intact_run intact_start calls
  refine ⟨fun kind => ⟨FlagSet.ascending _, fun key => ?_⟩, fun call => call.perform_get intact,
    fun call h => ?_, fun call keys h keyed => ?_, fun call => call.perform_add_refused,
    fun entry value args later => ?_, fun call keys singles later h input same => ?_⟩
  · refine (holds_run_iff intact_start calls).trans ?_
    have none : ¬ (start.scope i).Holds kind key := by cases kind <;> exact FlagSet.not_mem_empty
    simp [none]
  · rw [call.perform_reset intact h]
  · rw [call.perform_add intact h keyed]
  · exact run_eq_of_map_eq i start (by simp [EntryCall.entry, EntryCall.input])
  · have keyed : Keyed call.input keys := by
      rw [input]
      exact .texts keys
    have atOnce := call.perform_add intact h keyed
    have oneByOne := run_texts intact h keys
    have plain : singles.map (fun single => (single.entry, single.input)) =
        (keys.map fun key => EntryCall.filter call.entry (.str key) []).map
          fun single => (single.entry, single.input) := by
      rw [same, List.map_map]
      rfl
    rw [← run_eq_of_map_eq i _ plain] at oneByOne
    refine ⟨(run i ((run i start calls).2.added i call.entry.kind keys) later).1,
      (run i ((run i start calls).2.added i call.entry.kind keys) later).2, ?_, ?_⟩
    · rw [run_append, run_cons, atOnce]
    · rw [run_append, run_append i _ singles, oneByOne]

end EntryCall

end ApiStencil
