import ApiStencil.Files
import Mathlib.Data.List.Basic

/-!
# Writing a file and reading it back

A write changes the one file at the end of a path.  All directories stay directories, so a path
leads after the write to where it led before, and there the new content is read.

* `FileTree.write_cons` — what a write below a directory does, one name at a time;
* `FileTree.get?_write`, `FileTree.directory_write` — the file has the new content, and directories
  stay directories;
* `FileSystem.read_write` — reading gives what was written;
* `FileSystem.write_any` — whether a path can be written to does not depend on the content.
-/

namespace ApiStencil

/-! ### Trees -/

namespace FileTree

lemma lookup_cons_eq (name other : String) (tree : FileTree) (rest : List (String × FileTree)) :
    ((name, tree) :: rest).lookup other
      = if other = name then some tree else rest.lookup other := by
  by_cases h : other = name
  · simp [h]
  · have hne : (other == name) = false := beq_eq_false_iff_ne.mpr h
    simp [List.lookup_cons, hne, h]

theorem lookup_putEntry (name other : String) (tree : FileTree)
    (entries : List (String × FileTree)) :
    (putEntry name tree entries).lookup other
      = if other = name then some tree else entries.lookup other := by
  induction entries with
  | nil => exact lookup_cons_eq name other tree []
  | cons entry rest ih =>
    obtain ⟨n, t⟩ := entry
    rw [putEntry]
    by_cases hn : n = name
    · subst hn
      simp only [if_true, lookup_cons_eq]
      split <;> rfl
    · rw [if_neg hn, lookup_cons_eq, lookup_cons_eq, ih]
      by_cases h : other = n
      · simp [h, hn]
      · simp [h]

section Write

variable {content : ByteArray} {path : List String} {tree tree' : FileTree}

theorem write_nil_ok_iff :
    write content [] tree = .ok tree' ↔ ∃ old, tree = .file old ∧ tree' = .file content := by
  cases tree with
  | file old => simp [write, modify, eq_comm]
  | directory entries => simp [write, modify]

/-- **What a write below a directory does**: the entry of this name is written to and put back in
its place.  Only the last name of a path can be new. -/
theorem write_cons (content : ByteArray) (name : String) (rest : List String)
    (entries : List (String × FileTree)) :
    write content (name :: rest) (.directory entries) =
      (match entries.lookup name with
        | some there => write content rest there
        | none => if rest = [] then .ok (.file content) else .error .notFound).map
        fun below => .directory (putEntry name below entries) := by
  cases rest with
  | nil =>
    simp only [write, modify]
    rcases entries.lookup name with - | (old | below) <;> rfl
  | cons next rest =>
    simp only [write, modify]
    cases entries.lookup name with
    | none => rfl
    | some there =>
      simp only
      rfl

/-- The parts of a write below a directory that succeeds. -/
lemma of_write_cons {name : String} {rest : List String}
    (h : write content (name :: rest) tree = .ok tree') :
    ∃ entries below, tree = .directory entries ∧ tree' = .directory (putEntry name below entries) ∧
      ((∃ there, entries.lookup name = some there ∧ write content rest there = .ok below) ∨
        (entries.lookup name = none ∧ rest = [] ∧ below = .file content)) := by
  cases tree with
  | file old => cases h
  | directory entries =>
    rw [write_cons] at h
    cases hl : entries.lookup name with
    | none =>
      rw [hl] at h
      by_cases hr : rest = []
      · simp only [hr, if_true] at h
        cases h
        exact ⟨entries, _, rfl, rfl, .inr ⟨hl, hr, rfl⟩⟩
      · simp only [hr, if_false] at h
        cases h
    | some there =>
      simp only [hl] at h
      cases hw : write content rest there with
      | error e => rw [hw] at h; cases h
      | ok below =>
        rw [hw] at h
        cases h
        exact ⟨entries, below, rfl, rfl, .inl ⟨there, hl, hw⟩⟩

/-- **The file has the new content.** -/
theorem get?_write (h : write content path tree = .ok tree') :
    tree'.get? path = .ok (.file content) := by
  induction path generalizing tree tree' with
  | nil =>
    obtain ⟨_, -, rfl⟩ := write_nil_ok_iff.mp h
    rfl
  | cons name rest ih =>
    obtain ⟨entries, below, rfl, rfl, hbelow⟩ := of_write_cons h
    rw [get?, lookup_putEntry, if_pos rfl]
    rcases hbelow with ⟨there, -, hw⟩ | ⟨-, rfl, rfl⟩
    · exact ih hw
    · rfl

/-- **Directories stay directories**, whatever changes in them. -/
theorem directory_write (h : write content path tree = .ok tree') {other : List String}
    (hd : ∃ entries, tree.get? other = .ok (.directory entries)) :
    ∃ entries, tree'.get? other = .ok (.directory entries) := by
  induction path generalizing tree tree' other with
  | nil =>
    obtain ⟨old, rfl, -⟩ := write_nil_ok_iff.mp h
    obtain ⟨_, hd⟩ := hd
    cases other <;> cases hd
  | cons name rest ih =>
    obtain ⟨entries, below, rfl, rfl, hbelow⟩ := of_write_cons h
    cases other with
    | nil => exact ⟨_, rfl⟩
    | cons first others =>
      simp only [get?, lookup_putEntry] at hd ⊢
      by_cases hf : first = name
      · subst hf
        rcases hbelow with ⟨there, hl, hw⟩ | ⟨hl, -, -⟩
        · rw [hl] at hd
          rw [if_pos rfl]
          exact ih hw hd
        · rw [hl] at hd
          obtain ⟨_, hd⟩ := hd
          cases hd
      · rw [if_neg hf]
        exact hd

/-- A path that one content can be written to takes every content. -/
theorem write_any (h : write content path tree = .ok tree') (other : ByteArray) :
    ∃ tree'', write other path tree = .ok tree'' := by
  induction path generalizing tree tree' with
  | nil =>
    obtain ⟨old, rfl, -⟩ := write_nil_ok_iff.mp h
    exact ⟨_, rfl⟩
  | cons name rest ih =>
    obtain ⟨entries, below, rfl, -, hbelow⟩ := of_write_cons h
    rw [write_cons]
    rcases hbelow with ⟨there, hl, hw⟩ | ⟨hl, rfl, -⟩
    · obtain ⟨below', hw'⟩ := ih hw
      exact ⟨_, by simp only [hl, hw']; rfl⟩
    · exact ⟨_, by simp only [hl, if_true]; rfl⟩

end Write

end FileTree

/-! ### File systems -/

namespace FileSystem

/-- Whether a file can be written at a path. -/
def Writable (fs : FileSystem) (path : String) : Prop :=
  ∃ content fs', fs.write path content = .ok fs'

variable {fs fs' : FileSystem} {path : String} {content : ByteArray}

/-- The parts of a write that succeeds. -/
lemma write_ok_iff :
    fs.write path content = .ok fs' ↔ ∃ parts root, fs.resolve path = .ok parts ∧
      FilePath.isForDirectory path = false ∧ fs.root.write content parts = .ok root ∧
      fs' = { fs with root } := by
  simp only [write, bind, Except.bind]
  cases fs.resolve path with
  | error e => simp
  | ok parts =>
    cases FilePath.isForDirectory path with
    | true => simp
    | false => cases hw : fs.root.write content parts <;> simp [hw, eq_comm]

/-- A path leads after a write to where it led before. -/
theorem follow_write {root root' : FileTree} {file here parts target : List String}
    (hw : root.write content file = .ok root') (h : follow root here parts = .ok target) :
    follow root' here parts = .ok target := by
  induction parts generalizing here with
  | nil => exact h
  | cons name rest ih =>
    by_cases hn : name = ".."
    · subst hn
      unfold follow at h ⊢
      cases hg : root.get? here with
      | error e => rw [hg] at h; cases h
      | ok below =>
        cases below with
        | file old => rw [hg] at h; cases h
        | directory entries =>
          rw [hg] at h
          obtain ⟨entries', hg'⟩ := FileTree.directory_write hw ⟨entries, hg⟩
          rw [hg']
          exact ih h
    · rw [follow] at h ⊢
      · exact ih h
      · exact hn
      · exact hn

/-- **Reading gives what was written.** -/
theorem read_write (h : fs.write path content = .ok fs') : fs'.read path = .ok content := by
  obtain ⟨parts, root, hr, hd, hw, rfl⟩ := write_ok_iff.mp h
  have hr' : resolve { fs with root } path = .ok parts := by
    unfold resolve at hr ⊢
    split at hr
    · cases hr
    · rename_i hp
      rw [if_neg hp]
      exact follow_write hw hr
  simp [read, get?, hr', FileTree.get?_write hw, hd, bind, Except.bind]

/-- **Whether a path can be written to does not depend on the content.** -/
theorem write_any (h : fs.Writable path) (content : ByteArray) :
    ∃ fs', fs.write path content = .ok fs' := by
  obtain ⟨other, fs', h⟩ := h
  obtain ⟨parts, root, hr, hd, hw, -⟩ := write_ok_iff.mp h
  obtain ⟨root', hw'⟩ := FileTree.write_any hw content
  exact ⟨_, write_ok_iff.mpr ⟨parts, root', hr, hd, hw', rfl⟩⟩

end FileSystem

end ApiStencil
