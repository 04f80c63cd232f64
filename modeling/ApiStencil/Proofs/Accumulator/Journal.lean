import ApiStencil.Proofs.Accumulator.Runs

/-!
# The journal of the accumulator entries

Every key that is new in an accumulator is reported once, in its turn, and nothing else is.  So the
journal of a run tells all that the run does to its scope, from whatever ledger it starts.

* `insertAll_fst` — the keys that are reported are those that are new in their turn;
* `exists_reports` — what one call reports, whatever the locks are;
* `nodup_traced` — no key is reported twice while its kind is not reset;
* `run_replay` — the reported keys, added one by one with the resets in their places, give the same
  ledger;
* `run_journal` — all of this at any point of a run.
-/

namespace ApiStencil

open Json

/-- The kind and the key of a report that a key is new. -/
def Event.flag? : Event → Option (FlagKind × String)
  | .flagAdded kind key => some (kind, key)
  | _ => none

/-! ### Keys that are new -/

namespace FlagSet

section New

variable {s : FlagSet} {key : String} {keys : List String}

/-- The keys that are new when their turn comes: neither held nor among the keys before them. -/
def newInTurn (s : FlagSet) (keys : List String) : List String :=
  (keys.zipIdx.filter fun turn => turn.1 ∉ s.keys ∧ turn.1 ∉ keys.take turn.2).map Prod.fst

lemma insert_of_mem (h : key ∈ s) : s.insert key = s :=
  eq_of_mem_iff fun x => by rw [mem_insert, or_iff_right_of_imp fun eq => eq ▸ h]

/-- The first key is new if it is not held, and counts as held for the keys after it. -/
lemma newInTurn_cons (s : FlagSet) (key : String) (rest : List String) :
    s.newInTurn (key :: rest) =
      (if s.contains key then [] else [key]) ++ (s.insert key).newInTurn rest := by
  have shifted : (fun x : String × ℕ => decide (x.1 ∉ s.keys ∧ x.1 ∉ (key :: rest).take x.2)) ∘
      (fun x : String × ℕ => (x.1, x.2 + 1)) =
      fun x => decide (x.1 ∉ (s.insert key).keys ∧ x.1 ∉ rest.take x.2) := by
    funext x
    have held : x.1 ∈ (s.insert key).keys ↔ x.1 = key ∨ x.1 ∈ s.keys := mem_insert
    simp only [Function.comp, List.take_succ_cons, List.mem_cons, held, decide_eq_decide]
    tauto
  have first : decide (key ∉ s.keys ∧ key ∉ (key :: rest).take 0) = !s.contains key := by
    simp [contains]
  unfold newInTurn
  rw [List.zipIdx_cons, List.zipIdx_succ, List.filter_cons, List.filter_map, shifted, first]
  cases s.contains key <;> simp [List.map_map, Function.comp_def]

/-- **What is reported of keys that are added**: those that are new in their turn. -/
theorem insertAll_fst (s : FlagSet) (keys : List String) :
    (s.insertAll keys).1 = s.newInTurn keys := by
  induction keys generalizing s with
  | nil => rfl
  | cons key rest ih =>
    rw [newInTurn_cons, ← ih, insertAll]
    cases s.contains key <;> rfl

lemma insertAll_cons (s : FlagSet) (key : String) (rest : List String) :
    s.insertAll (key :: rest) = (if s.contains key then ((s.insert key).insertAll rest).1
      else key :: ((s.insert key).insertAll rest).1, ((s.insert key).insertAll rest).2) := rfl

lemma insertAll_cons_of_mem (h : key ∈ s) (rest : List String) :
    s.insertAll (key :: rest) = s.insertAll rest := by
  rw [insertAll_cons, if_pos (contains_iff.mpr h), insert_of_mem h]

lemma insertAll_cons_of_notMem (h : key ∉ s) (rest : List String) :
    s.insertAll (key :: rest) =
      (key :: ((s.insert key).insertAll rest).1, ((s.insert key).insertAll rest).2) := by
  rw [insertAll_cons, if_neg fun has => h (contains_iff.mp has)]

/-- The reported keys are those that were not held. -/
lemma mem_insertAll_fst : key ∈ (s.insertAll keys).1 ↔ key ∈ keys ∧ key ∉ s := by
  induction keys generalizing s with
  | nil => simp [insertAll]
  | cons first rest ih =>
    by_cases held : first ∈ s
    · rw [insertAll_cons_of_mem held, ih, List.mem_cons]
      refine and_congr_left fun new => (or_iff_right ?_).symm
      rintro rfl
      exact new held
    · rw [insertAll_cons_of_notMem held, List.mem_cons, ih, mem_insert, List.mem_cons]
      by_cases eq : key = first
      · simp [eq, held]
      · simp [eq]

lemma nodup_insertAll_fst (s : FlagSet) (keys : List String) : (s.insertAll keys).1.Nodup := by
  induction keys generalizing s with
  | nil => exact .nil
  | cons first rest ih =>
    by_cases held : first ∈ s
    · rw [insertAll_cons_of_mem held]
      exact ih s
    · rw [insertAll_cons_of_notMem held]
      refine List.nodup_cons.mpr ⟨fun again => ?_, ih _⟩
      exact (mem_insertAll_fst.mp again).2 (mem_insert.mpr (.inl rfl))

/-- To add the reported keys only is to add all of them. -/
lemma insertAll_insertAll_fst (s : FlagSet) (keys : List String) :
    s.insertAll (s.insertAll keys).1 = s.insertAll keys := by
  induction keys generalizing s with
  | nil => rfl
  | cons first rest ih =>
    by_cases held : first ∈ s
    · rw [insertAll_cons_of_mem held, ih]
    · rw [insertAll_cons_of_notMem held, insertAll_cons_of_notMem held, ih]

end New

end FlagSet

variable {i : Handle}

namespace Ledger

/-- What is reported of keys that are added. -/
lemma journal_added (l : Ledger) (i : Handle) (kind : FlagKind) (keys : List String) :
    (l.added i kind keys).journal =
      l.journal ++ (((l.scope i).get kind).flags.newInTurn keys).map (.flagAdded kind) := by
  rw [← FlagSet.insertAll_fst]
  rfl

/-- Adding the keys that are new adds all of them, and reports the same. -/
lemma added_insertAll_fst (l : Ledger) (i : Handle) (kind : FlagKind) (keys : List String) :
    l.added i kind (((l.scope i).get kind).flags.insertAll keys).1 = l.added i kind keys := by
  unfold added
  rw [FlagSet.insertAll_insertAll_fst]

end Ledger

namespace EntryCall

/-! ### One call -/

/-- A call does what it can do, or fails without a change because the lock of its kind is spoilt. -/
theorem does_or_fails (call : EntryCall) (i : Handle) (l : Ledger) :
    ((l.scope i).get call.entry.kind).poisoned = false ∧ call.Does i l ((call.action i).perform l) ∨
      ∃ e, (call.action i).perform l = (.error e, l) := by
  cases lock : ((l.scope i).get call.entry.kind).poisoned with
  | false => exact .inl ⟨rfl, call.does_of_unlocked lock⟩
  | true =>
    refine .inr ?_
    rw [action_eq]
    cases taken : call.entry.keysOf call.input with
    | error e => exact ⟨e, by rw [BoundEntry.perform_apply, taken]⟩
    | ok keys => exact ⟨_, BoundEntry.perform_apply_poisoned taken lock⟩

/-- A call with which a flag is added alone. -/
def single (flag : FlagKind × String) : EntryCall := .filter ⟨flag.1, .add⟩ (.str flag.2) []

/-- A call that leaves a ledger reports these keys: they are new, each of them stands once, and unless
the call empties its kind, adding them does what the call does. -/
structure Reports (call : EntryCall) (i : Handle) (l after : Ledger) (keys : List String) : Prop where
  journal : after.journal = l.journal ++ keys.map (.flagAdded call.entry.kind)
  nodup : keys.Nodup
  new : ∀ key ∈ keys, ¬ (l.scope i).Holds call.entry.kind key
  held : ∀ key ∈ keys, (after.scope i).Holds call.entry.kind key
  replayed : call.entry.action ≠ .reset →
    (run i l (keys.map fun key => single (call.entry.kind, key))).2 = after

lemma reports_same (call : EntryCall) (i : Handle) (l : Ledger) : call.Reports i l l [] :=
  ⟨(List.append_nil _).symm, .nil, nofun, nofun, fun _ => rfl⟩

lemma reports_emptied (call : EntryCall) (i : Handle) (l : Ledger) (h : call.entry.action = .reset) :
    call.Reports i l (l.emptied i call.entry.kind) [] :=
  ⟨(List.append_nil _).symm, .nil, nofun, nofun, fun kept => absurd h kept⟩

lemma reports_added (call : EntryCall) {l : Ledger}
    (unlocked : ((l.scope i).get call.entry.kind).poisoned = false) (keys : List String) :
    call.Reports i l (l.added i call.entry.kind keys)
      (((l.scope i).get call.entry.kind).flags.insertAll keys).1 where
  journal := rfl
  nodup := FlagSet.nodup_insertAll_fst _ keys
  new _ mem := (FlagSet.mem_insertAll_fst.mp mem).2
  held _ mem := Ledger.holds_added.mpr (.inl ⟨rfl, (FlagSet.mem_insertAll_fst.mp mem).1⟩)
  replayed _ := by
    have unlocked' : ((l.scope i).get (Entry.mk call.entry.kind .add).kind).poisoned = false := unlocked
    refine (congrArg Prod.snd (run_adds unlocked' rfl _)).trans ?_
    exact Ledger.added_insertAll_fst l i call.entry.kind keys

/-- **What one call reports**, whatever the locks are. -/
theorem exists_reports (call : EntryCall) (i : Handle) (l : Ledger) :
    ∃ keys, call.Reports i l ((call.action i).perform l).2 keys := by
  rcases call.does_or_fails i l with ⟨unlocked, does⟩ | ⟨e, fails⟩
  · generalize (call.action i).perform l = p at does ⊢
    cases does with
    | lists | refuses => exact ⟨[], call.reports_same i l⟩
    | empties h => exact ⟨[], call.reports_emptied i l h⟩
    | adds h keyed => exact ⟨_, call.reports_added unlocked _⟩
  · exact ⟨[], fails ▸ call.reports_same i l⟩

/-- A call that adds reports the keys of its input that are new in their turn. -/
lemma journal_of_adds {call : EntryCall} {l : Ledger} {v : Value} (h : call.entry.action = .add)
    (succeeds : ((call.action i).perform l).1 = .ok v) :
    ∃ keys, Keyed call.input keys ∧ ((call.action i).perform l).2.journal = l.journal ++
      (((l.scope i).get call.entry.kind).flags.newInTurn keys).map (.flagAdded call.entry.kind) := by
  rcases call.does_or_fails i l with ⟨-, does⟩ | ⟨e, fails⟩
  · generalize (call.action i).perform l = p at does succeeds ⊢
    cases does with
    | adds _ keyed => exact ⟨_, keyed, l.journal_added _ _ _⟩
    | lists h' | empties h' => cases h.symm.trans h'
    | refuses => cases succeeds
  · rw [fails] at succeeds
    cases succeeds

/-- All other calls report nothing. -/
lemma journal_of_quiet {call : EntryCall} {l : Ledger} (h : call.entry.action ≠ .add ∨
      (∃ e, ((call.action i).perform l).1 = .error e) ∨ call.input = .null) :
    ((call.action i).perform l).2.journal = l.journal := by
  rcases call.does_or_fails i l with ⟨-, does⟩ | ⟨e, fails⟩
  · generalize (call.action i).perform l = p at does h ⊢
    cases does with
    | lists | empties | refuses => rfl
    | adds add keyed =>
      rcases h with other | ⟨e, fails⟩ | null
      · exact absurd add other
      · cases fails
      · rw [null] at keyed
        cases keyed
        exact List.append_nil _
  · rw [fails]

/-- What a call does not reset stays held. -/
lemma holds_perform_of_holds {call : EntryCall} {l : Ledger} {kind : FlagKind} {key : String}
    (kept : ¬ call.Resets kind) (held : (l.scope i).Holds kind key) :
    (((call.action i).perform l).2.scope i).Holds kind key := by
  rcases call.does_or_fails i l with ⟨-, does⟩ | ⟨e, fails⟩
  · generalize (call.action i).perform l = p at does ⊢
    cases does with
    | lists | refuses => exact held
    | empties h =>
      refine Ledger.holds_emptied.mpr ⟨fun eq => kept ?_, held⟩
      exact (call.entry_eq_iff).mpr ⟨eq.symm, h⟩
    | adds h keyed => exact Ledger.holds_added.mpr (.inr held)
  · rw [fails]
    exact held

/-! ### Runs -/

/-- What calls report. -/
def reported (i : Handle) (l : Ledger) (calls : List EntryCall) : List Event :=
  (run i l calls).2.journal.drop l.journal.length

/-- The flags that calls report as new. -/
def traced (i : Handle) (l : Ledger) (calls : List EntryCall) : List (FlagKind × String) :=
  (reported i l calls).filterMap Event.flag?

/-- The journal before a run stays as it is. -/
lemma journal_run (i : Handle) (l : Ledger) (calls : List EntryCall) :
    (run i l calls).2.journal = l.journal ++ reported i l calls := by
  have grows : l.journal <+: (run i l calls).2.journal := by
    induction calls generalizing l with
    | nil => exact List.prefix_rfl
    | cons call rest ih =>
      obtain ⟨keys, reports⟩ := call.exists_reports i l
      exact .trans ⟨_, reports.journal.symm⟩ (ih _)
  exact (List.prefix_iff_eq_append.mp grows).symm

lemma traced_nil (i : Handle) (l : Ledger) : traced i l [] = [] := by
  rw [traced, reported, run, List.drop_length, List.filterMap_nil]

lemma traced_single {call : EntryCall} {l : Ledger} {keys : List String}
    (h : call.Reports i l ((call.action i).perform l).2 keys) :
    traced i l [call] = keys.map fun key => (call.entry.kind, key) := by
  have events : reported i l [call] = keys.map (.flagAdded call.entry.kind) :=
    List.append_cancel_left ((journal_run i l [call]).symm.trans h.journal)
  rw [traced, events, List.filterMap_map]
  exact congrFun (List.filterMap_eq_map (f := fun key => (call.entry.kind, key))) keys

lemma traced_cons (i : Handle) (l : Ledger) (call : EntryCall) (rest : List EntryCall) :
    traced i l (call :: rest) = traced i l [call] ++ traced i ((call.action i).perform l).2 rest := by
  have events : reported i l (call :: rest) =
      reported i l [call] ++ reported i ((call.action i).perform l).2 rest := by
    have both : l.journal ++ reported i l (call :: rest) =
        l.journal ++ (reported i l [call] ++ reported i ((call.action i).perform l).2 rest) := by
      rw [← journal_run, ← List.append_assoc, ← journal_run]
      exact journal_run i ((call.action i).perform l).2 rest
    exact List.append_cancel_left both
  rw [traced, events, List.filterMap_append]
  rfl

/-- **No key is traced twice** while its kind is not reset, and none that is held before. -/
theorem nodup_traced {kind : FlagKind} {calls : List EntryCall}
    (kept : ∀ call ∈ calls, ¬ call.Resets kind) (i : Handle) (l : Ledger) :
    ((traced i l calls).filter (·.1 = kind)).Nodup ∧
      ∀ key, (kind, key) ∈ traced i l calls → ¬ (l.scope i).Holds kind key := by
  induction calls generalizing l with
  | nil =>
    rw [traced_nil]
    exact ⟨.nil, nofun⟩
  | cons call rest ih =>
    obtain ⟨keptNow, keptLater⟩ := List.forall_mem_cons.mp kept
    obtain ⟨nodup, new⟩ := ih keptLater ((call.action i).perform l).2
    obtain ⟨keys, reports⟩ := call.exists_reports i l
    have mem_first {key : String} : (kind, key) ∈ traced i l [call] ↔
        call.entry.kind = kind ∧ key ∈ keys := by
      rw [traced_single reports]
      simp [and_comm]
    rw [traced_cons, List.filter_append]
    refine ⟨List.nodup_append.mpr ⟨?_, nodup, ?_⟩, fun key mem => ?_⟩
    · rw [traced_single reports]
      exact (reports.nodup.map (Prod.mk_right_injective _)).filter _
    · rintro ⟨kind', key⟩ first _ later rfl
      obtain ⟨traced, of_kind⟩ := List.mem_filter.mp first
      obtain rfl : kind' = kind := of_decide_eq_true of_kind
      obtain ⟨rfl, reported⟩ := mem_first.mp traced
      exact new key (List.mem_of_mem_filter later) (reports.held key reported)
    · rcases List.mem_append.mp mem with first | later
      · obtain ⟨rfl, reported⟩ := mem_first.mp first
        exact reports.new key reported
      · exact fun held => new key later (holds_perform_of_holds keptNow held)

/-- The calls that a journal tells: the keys that are traced are added one by one, and the calls that
reset stand in their places. -/
def replay (i : Handle) : Ledger → List EntryCall → List EntryCall
  | _, [] => []
  | l, call :: rest =>
    (if call.entry.action = .reset then [call] else (traced i l [call]).map single) ++
      replay i ((call.action i).perform l).2 rest

/-- **A replay** leaves the same ledger. -/
theorem run_replay (i : Handle) (l : Ledger) (calls : List EntryCall) :
    (run i l (replay i l calls)).2 = (run i l calls).2 := by
  induction calls generalizing l with
  | nil => rfl
  | cons call rest ih =>
    have first : (run i l (if call.entry.action = .reset then [call]
        else (traced i l [call]).map single)).2 = ((call.action i).perform l).2 := by
      split
      · rfl
      · rename_i kept
        obtain ⟨keys, reports⟩ := call.exists_reports i l
        rw [traced_single reports, List.map_map]
        exact reports.replayed kept
    rw [replay, run_append, first, ih]
    rfl

lemma replay_append (i : Handle) (l : Ledger) (calls later : List EntryCall) :
    replay i l (calls ++ later) = replay i l calls ++ replay i (run i l calls).2 later := by
  induction calls generalizing l with
  | nil => rfl
  | cons call rest ih =>
    rw [List.cons_append, replay, ih, replay, List.append_assoc]
    rfl

/-- **The journal of the accumulator entries.**  At any point of a run, from whatever ledger it started,

* an entry that adds, if it succeeds, reports exactly the keys of its input that are new in their
  turn, in their order, with their kind;
* a call of another entry, a call that fails and a call with null report nothing;
* no key of a kind is reported twice before the kind is reset;
* adding the reported keys one by one, with the calls that reset in their places, leads to the same
  ledger. -/
theorem run_journal (i : Handle) (l : Ledger) (calls : List EntryCall) :
    let now := (run i l calls).2
    (∀ (call : EntryCall) v, call.entry.action = .add → ((call.action i).perform now).1 = .ok v →
      ∃ keys, Keyed call.input keys ∧ ((call.action i).perform now).2.journal = now.journal ++
        (((now.scope i).get call.entry.kind).flags.newInTurn keys).map (.flagAdded call.entry.kind)) ∧
    (∀ call : EntryCall, call.entry.action ≠ .add ∨
        (∃ e, ((call.action i).perform now).1 = .error e) ∨ call.input = .null →
      ((call.action i).perform now).2.journal = now.journal) ∧
    (∀ kind later, (∀ call ∈ later, ¬ call.Resets kind) →
      ((traced i now later).filter (·.1 = kind)).Nodup) ∧
    (∀ later, replay i l (calls ++ later) = replay i l calls ++ replay i now later) ∧
    (run i l (replay i l calls)).2 = now :=
  ⟨fun _ _ => journal_of_adds, fun _ => journal_of_quiet,
    fun _ _ kept => (nodup_traced kept i _).1, replay_append i l calls, run_replay i l calls⟩

/-- An array that holds a key twice. -/
def addTwice : EntryCall := .filter ⟨.imports, .add⟩ (.arr [.str "b", .str "a", .str "b"]) []

theorem run_journal_addTwice :
    ((addTwice.action .first).perform (run .first start []).2).1 = .ok (.str "") ∧
    ∃ keys, Keyed addTwice.input keys ∧
      ((addTwice.action .first).perform (run .first start []).2).2.journal =
        (run .first start []).2.journal ++
          ((((run .first start []).2.scope .first).get addTwice.entry.kind).flags.newInTurn
            keys).map (.flagAdded addTwice.entry.kind) := by
  have succeeds : ((addTwice.action .first).perform (run .first start []).2).1 = .ok (.str "") := rfl
  exact ⟨succeeds, (run_journal .first start []).1 addTwice (.str "") rfl succeeds⟩

/-- After a reset a key is reported again. -/
example : traced .first start [addTwice, addTwice, .function ⟨.imports, .reset⟩ [], addTwice] =
    [(.imports, "b"), (.imports, "a"), (.imports, "b"), (.imports, "a")] := by
  decide

end EntryCall

end ApiStencil
