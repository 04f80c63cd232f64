import ApiStencil.Proofs.Files.Writing
import ApiStencil.Proofs.Result
import ApiStencil.Proofs.Text.Split

/-!
# What changes where a file is put

A file is put at a path after the directories of the path are made.  What is at a place of a tree is
told by its kind: a file with its content, or a directory, whatever is in it.

* `FileTree.kind?_write` — a write changes the kind of one place;
* `FileTree.made_makeDirectories`, `FileSystem.made_makeAlong` — making directories changes places
  where nothing was into directories;
* `FilePath.components_parent` — the directory of a path has its components but the last;
* `FileSystem.placed_of_store` — both together: the file, its missing directories, and nothing else.
-/

namespace ApiStencil

/-! ### Kinds -/

namespace FileTree

/-- What is at a place: a file with its content or a directory. -/
inductive Kind where
  | file (content : ByteArray)
  | directory

/-- The kind of what is at a path of components, if there is anything. -/
def kind? (tree : FileTree) (path : List String) : Option Kind :=
  match tree.get? path with
  | .ok (.file content) => some (.file content)
  | .ok (.directory _) => some .directory
  | .error _ => none

@[simp] lemma kind?_nil_file (content : ByteArray) :
    kind? (.file content) [] = some (.file content) := rfl

@[simp] lemma kind?_nil_directory (entries : List (String × FileTree)) :
    kind? (.directory entries) [] = some .directory := rfl

@[simp] lemma kind?_cons_file (content : ByteArray) (name : String) (rest : List String) :
    kind? (.file content) (name :: rest) = none := rfl

@[simp] lemma kind?_cons_directory (entries : List (String × FileTree)) (name : String)
    (rest : List String) :
    kind? (.directory entries) (name :: rest) = (entries.lookup name).bind (kind? · rest) := by
  rw [kind?, get?]
  cases entries.lookup name <;> rfl

lemma kind?_putEntry (entries : List (String × FileTree)) (name : String) (tree : FileTree)
    (first : String) (others : List String) :
    kind? (.directory (putEntry name tree entries)) (first :: others) =
      if first = name then tree.kind? others else kind? (.directory entries) (first :: others) := by
  rw [kind?_cons_directory, kind?_cons_directory, lookup_putEntry]
  split <;> rfl

/-- Below an entry an empty directory is like no entry. -/
lemma kind?_getD_empty (entries : List (String × FileTree)) (name : String) {place : List String}
    (ne : place ≠ []) :
    ((entries.lookup name).getD empty).kind? place =
      kind? (.directory entries) (name :: place) := by
  rw [kind?_cons_directory]
  cases entries.lookup name with
  | some tree => rfl
  | none =>
    obtain ⟨first, others, rfl⟩ := List.exists_cons_of_ne_nil ne
    rfl

/-! ### Writing -/

/-- **A write changes the kind of one place**, that of the file. -/
theorem kind?_write {content : ByteArray} {path : List String} {tree tree' : FileTree}
    (h : write content path tree = .ok tree') (place : List String) :
    tree'.kind? place = if place = path then some (.file content) else tree.kind? place := by
  induction path generalizing tree tree' place with
  | nil =>
    obtain ⟨old, rfl, rfl⟩ := write_nil_ok_iff.mp h
    cases place <;> simp
  | cons name rest ih =>
    obtain ⟨entries, below, rfl, rfl, hbelow⟩ := of_write_cons h
    cases place with
    | nil => simp
    | cons first others =>
      rw [kind?_putEntry]
      by_cases same : first = name
      · subst same
        rw [if_pos rfl, kind?_cons_directory]
        rcases hbelow with ⟨there, found, hw⟩ | ⟨none, rfl, rfl⟩
        · rw [ih hw others, found]
          simp
        · rw [none]
          cases others <;> simp
      · simp [same]

/-- No file is written where a directory is. -/
lemma kind?_ne_directory_of_write {content : ByteArray} {path : List String}
    {tree tree' : FileTree} (h : write content path tree = .ok tree') :
    tree.kind? path ≠ some .directory := by
  induction path generalizing tree tree' with
  | nil =>
    obtain ⟨old, rfl, -⟩ := write_nil_ok_iff.mp h
    simp
  | cons name rest ih =>
    obtain ⟨entries, below, rfl, -, ⟨there, found, hw⟩ | ⟨none, -, -⟩⟩ := of_write_cons h
    · rw [kind?_cons_directory, found]
      exact ih hw
    · simp [none]

/-! ### Making directories -/

/-- Between two trees places were made directories: where nothing was or a directory, there is a
directory now, and all other places are as they were. -/
structure Made (places : List String → Prop) (tree tree' : FileTree) : Prop where
  before : ∀ {place}, places place → tree.kind? place = none ∨ tree.kind? place = some .directory
  after : ∀ {place}, places place → tree'.kind? place = some .directory
  others : ∀ {place}, ¬ places place → tree'.kind? place = tree.kind? place

lemma Made.refl (tree : FileTree) : Made (fun _ => False) tree tree where
  before h := h.elim
  after h := h.elim
  others _ := rfl

lemma Made.trans {places places' : List String → Prop} {tree tree' tree'' : FileTree}
    (h : Made places tree tree') (h' : Made places' tree' tree'') :
    Made (fun place => places place ∨ places' place) tree tree'' where
  before {place} made := by
    by_cases first : places place
    · exact h.before first
    · rw [← h.others first]
      exact h'.before (made.resolve_left first)
  after {place} made := by
    by_cases second : places' place
    · exact h'.after second
    · rw [h'.others second]
      exact h.after (made.resolve_right second)
  others {place} made := by
    obtain ⟨first, second⟩ := not_or.mp made
    rw [h'.others second, h.others first]

lemma of_makeDirectories_cons {name : String} {rest : List String} {tree tree' : FileTree}
    (h : makeDirectories (name :: rest) tree = .ok tree') :
    ∃ entries below, tree = .directory entries ∧
      tree' = .directory (putEntry name below entries) ∧
      makeDirectories rest ((entries.lookup name).getD empty) = .ok below := by
  cases tree with
  | file content => cases h
  | directory entries =>
    rw [makeDirectories] at h
    obtain ⟨below, made, h⟩ := bind_eq_ok_iff.mp h
    cases h
    exact ⟨entries, below, rfl, rfl, made⟩

/-- **Making the directories of a path** makes directories of all places on it. -/
theorem made_makeDirectories {path : List String} {tree tree' : FileTree}
    (h : makeDirectories path tree = .ok tree') : Made (· <+: path) tree tree' := by
  induction path generalizing tree tree' with
  | nil =>
    cases tree with
    | file content => cases h
    | directory entries =>
      cases h
      refine ⟨fun on => ?_, fun on => ?_, fun _ => rfl⟩
      · rw [List.prefix_nil.mp on]
        exact .inr rfl
      · rw [List.prefix_nil.mp on]
        rfl
  | cons name rest ih =>
    obtain ⟨entries, below, rfl, rfl, made⟩ := of_makeDirectories_cons h
    have inner := ih made
    refine ⟨fun {place} on => ?_, fun {place} on => ?_, fun {place} off => ?_⟩
    · cases place with
      | nil => exact .inr rfl
      | cons first others =>
        obtain ⟨rfl, inside⟩ := List.cons_prefix_cons.mp on
        cases others with
        | nil =>
          rw [kind?_cons_directory]
          cases found : entries.lookup first with
          | none => exact .inl rfl
          | some tree => simpa [found] using inner.before List.nil_prefix
        | cons second others =>
          rw [← kind?_getD_empty entries first (List.cons_ne_nil _ _)]
          exact inner.before inside
    · cases place with
      | nil => rfl
      | cons first others =>
        obtain ⟨rfl, inside⟩ := List.cons_prefix_cons.mp on
        rw [kind?_putEntry, if_pos rfl]
        exact inner.after inside
    · cases place with
      | nil => exact absurd List.nil_prefix off
      | cons first others =>
        rw [kind?_putEntry]
        by_cases same : first = name
        · subst same
          have off : ¬ others <+: rest := fun inside =>
            off (List.cons_prefix_cons.mpr ⟨rfl, inside⟩)
          have ne : others ≠ [] := fun nil => off (nil ▸ List.nil_prefix)
          rw [if_pos rfl, inner.others off, kind?_getD_empty entries first ne]
        · rw [if_neg same]

end FileTree

/-! ### Paths -/

namespace FilePath

/-- A component of a path: a name without slashes that is neither empty nor a single dot. -/
def IsComponent (name : String) : Prop := name ≠ "" ∧ name ≠ "." ∧ '/' ∉ name.toList

lemma isComponent_of_mem {path name : String} (h : name ∈ components path) : IsComponent name := by
  obtain ⟨mapped, proper⟩ := List.mem_filter.mp h
  obtain ⟨part, mem, rfl⟩ := List.mem_map.mp mapped
  obtain ⟨nonempty, noDot⟩ := of_decide_eq_true proper
  refine ⟨nonempty, noDot, ?_⟩
  rw [String.toList_ofList]
  exact Text.not_mem_of_mem_splitOn mem

/-- Components with slashes between them are the components of the path that they make. -/
lemma components_of_toList {path : String} {names : List String} (ne : names ≠ [])
    (h : ∀ name ∈ names, IsComponent name) (front : Bool)
    (text : path.toList =
      (if front then ['/'] else []) ++ ['/'].intercalate (names.map String.toList)) :
    components path = names := by
  have slashless : ∀ part ∈ names.map String.toList, '/' ∉ part := by
    intro part mapped
    obtain ⟨name, mem, rfl⟩ := List.mem_map.mp mapped
    exact (h name mem).2.2
  have split : parts path = (if front then [[]] else []) ++ names.map String.toList := by
    rw [parts, text]
    have inner := List.splitOn_intercalate '/' slashless (by simpa using ne)
    cases front with
    | false => simpa using inner
    | true =>
      rw [if_pos rfl, if_pos rfl, List.singleton_append, List.splitOn_cons_eq_if_modifyHead,
        if_pos (by decide), inner]
      rfl
  have kept : names.filter (fun part => part ≠ "" ∧ part ≠ ".") = names :=
    List.filter_eq_self.mpr fun name mem => decide_eq_true ⟨(h name mem).1, (h name mem).2.1⟩
  rw [components, split, List.map_append, List.filter_append, Text.map_ofList_map_toList, kept]
  cases front <;> rfl

/-- **The directory of a path** has its components but the last, and starts where the path does. -/
theorem components_parent {path dir : String} (h : parent? path = some dir) :
    components dir = (components path).dropLast ∧ isAbsolute dir = isAbsolute path := by
  unfold parent? at h
  dsimp only at h
  split at h
  · cases h
  · rename_i nonempty
    have ne : (components path).dropLast ≠ [] := fun nil => nonempty (by rw [nil]; rfl)
    have proper : ∀ name ∈ (components path).dropLast, IsComponent name :=
      fun name mem => isComponent_of_mem (List.dropLast_subset _ mem)
    have text : dir.toList = (if isAbsolute path then ['/'] else []) ++
        ['/'].intercalate ((components path).dropLast.map String.toList) := by
      rw [← Option.some.inj h, String.toList_append, String.toList_intercalate]
      cases isAbsolute path <;> rfl
    refine ⟨components_of_toList ne proper (isAbsolute path) text, ?_⟩
    obtain ⟨first, others, eq⟩ := List.exists_cons_of_ne_nil ne
    obtain ⟨nonempty, -, slashless⟩ := proper first (by rw [eq]; exact List.mem_cons_self)
    rw [isAbsolute, text, eq]
    cases isAbsolute path with
    | true => rfl
    | false =>
      -- the first component starts with no slash
      cases chars : first.toList with
      | nil => exact absurd (String.toList_eq_nil_iff.mp chars) nonempty
      | cons c cs =>
        have ne : c ≠ '/' := by
          rintro rfl
          exact slashless (by rw [chars]; exact List.mem_cons_self)
        cases others <;> simp [chars, ne]

lemma dropLast_of_parent_eq_none {path : String} (h : parent? path = none) :
    (components path).dropLast = [] := by
  unfold parent? at h
  dsimp only at h
  split at h
  · exact List.isEmpty_iff.mp ‹_›
  · cases h

end FilePath

namespace FileSystem

/-! ### Places -/

/-- Where components lead from a place, if all on the way are directories. -/
def lead (here : List String) : List String → List String
  | [] => here
  | ".." :: rest => lead here.dropLast rest
  | name :: rest => lead (here ++ [name]) rest

/-- The places that components name on the way from a place. -/
def trail (here : List String) : List String → List (List String)
  | [] => []
  | ".." :: rest => trail here.dropLast rest
  | name :: rest => (here ++ [name]) :: trail (here ++ [name]) rest

lemma eq_lead_of_follow {tree : FileTree} {here names place : List String}
    (h : follow tree here names = .ok place) : place = lead here names := by
  induction names generalizing here with
  | nil =>
    cases h
    rfl
  | cons name rest ih =>
    by_cases up : name = ".."
    · subst up
      unfold follow at h
      rcases found : tree.get? here with fault | content | entries
      · rw [found] at h
        cases h
      · rw [found] at h
        cases h
      · rw [found] at h
        exact ih h
    · rw [follow] at h
      · rw [lead]
        · exact ih h
        · exact up
      · exact up

lemma of_makeAlong_cons {tree tree' : FileTree} {made : Bool} {here rest : List String}
    {name : String} (up : name ≠ "..")
    (h : makeAlong tree made here (name :: rest) = .ok tree') :
    ∃ made' below, tree.makeDirectories (here ++ [name]) = .ok below ∧
      makeAlong below made' (here ++ [name]) rest = .ok tree' := by
  rw [makeAlong] at h
  · split at h
    · cases h
    · obtain ⟨below, first, others⟩ := bind_eq_ok_iff.mp h
      exact ⟨_, below, first, others⟩
  · exact up

/-- **Making directories along components** makes directories of the places that they name, and of
the places above those. -/
theorem made_makeAlong {tree tree' : FileTree} {made : Bool} {here names : List String}
    (h : makeAlong tree made here names = .ok tree') :
    FileTree.Made (fun place => ∃ named ∈ trail here names, place <+: named) tree tree' := by
  induction names generalizing tree made here with
  | nil =>
    cases h
    simpa [trail] using FileTree.Made.refl _
  | cons name rest ih =>
    by_cases up : name = ".."
    · subst up
      exact ih h
    · obtain ⟨made', below, first, others⟩ := of_makeAlong_cons up h
      have both := (FileTree.made_makeDirectories first).trans (ih others)
      have places : (fun place => ∃ named ∈ trail here (name :: rest), place <+: named) =
          fun place => place <+: here ++ [name] ∨
            ∃ named ∈ trail (here ++ [name]) rest, place <+: named := by
        funext place
        rw [trail]
        · simp
        · exact up
      rw [places]
      exact both

/-! ### Putting a file at a path -/

/-- Makes the directories of a path. -/
def makeParents (fs : FileSystem) (path : String) : Except FileFault FileSystem :=
  match FilePath.parent? path with
  | some dir => fs.makeDirectories dir
  | none => .ok fs

/-- Puts a file at a path after its directories are made. -/
def store (fs : FileSystem) (path : String) (content : ByteArray) :
    Except FileFault FileSystem := do
  let made ← fs.makeParents path
  made.write path content

/-- The place that a path leads to. -/
def place (fs : FileSystem) (path : String) : List String :=
  lead (fs.start path) (FilePath.components path)

/-- A directory of a path: a place that its components but the last name on the way, or one above
such a place. -/
def IsDirectoryOf (fs : FileSystem) (path : String) (place : List String) : Prop :=
  ∃ named ∈ trail (fs.start path) (FilePath.components path).dropLast, place <+: named

/-- **A file was put at a path**: it has the content, and is read with it; the directories of the
path are there, though nothing or a directory was in their places; and all else is as it was. -/
structure Placed (fs fs' : FileSystem) (path : String) (content : ByteArray) : Prop where
  file : fs'.root.kind? (fs.place path) = some (.file content)
  read : fs'.read path = .ok content
  free : ∀ {place}, fs.IsDirectoryOf path place →
    fs.root.kind? place = none ∨ fs.root.kind? place = some .directory
  directory : ∀ {place}, fs.IsDirectoryOf path place → fs'.root.kind? place = some .directory
  others : ∀ {place}, place ≠ fs.place path → ¬ fs.IsDirectoryOf path place →
    fs'.root.kind? place = fs.root.kind? place
  workingDirectory : fs'.workingDirectory = fs.workingDirectory

/-- The directories of a path are made before the file is written. -/
lemma made_makeParents {fs made : FileSystem} {path : String}
    (h : fs.makeParents path = .ok made) :
    FileTree.Made (fs.IsDirectoryOf path) fs.root made.root ∧
      made.workingDirectory = fs.workingDirectory := by
  unfold makeParents at h
  cases parent : FilePath.parent? path with
  | none =>
    rw [parent] at h
    cases h
    have none : fs.IsDirectoryOf path = fun _ => False := by
      funext place
      simp [IsDirectoryOf, FilePath.dropLast_of_parent_eq_none parent, trail]
    rw [none]
    exact ⟨FileTree.Made.refl _, rfl⟩
  | some dir =>
    obtain ⟨names, absolute⟩ := FilePath.components_parent parent
    have start : fs.start dir = fs.start path := by
      rw [FileSystem.start, absolute, FileSystem.start]
    rw [parent] at h
    dsimp only [makeDirectories] at h
    obtain ⟨root, along, h⟩ := bind_eq_ok_iff.mp h
    cases h
    rw [start, names] at along
    exact ⟨made_makeAlong along, rfl⟩

lemma store_eq_ok_iff {fs fs' : FileSystem} {path : String} {content : ByteArray} :
    fs.store path content = .ok fs' ↔
      ∃ made, fs.makeParents path = .ok made ∧ made.write path content = .ok fs' :=
  bind_eq_ok_iff

/-- **Putting a file at a path** changes nothing but that file and its missing directories. -/
theorem placed_of_store {fs fs' : FileSystem} {path : String} {content : ByteArray}
    (h : fs.store path content = .ok fs') : fs.Placed fs' path content := by
  obtain ⟨made, parents, h⟩ := store_eq_ok_iff.mp h
  obtain ⟨directories, same⟩ := made_makeParents parents
  obtain ⟨place, root, leads, -, written, rfl⟩ := write_ok_iff.mp h
  -- a path leads to one place, whatever was made on the way
  have there : place = fs.place path := by
    unfold resolve at leads
    split at leads
    · cases leads
    · rw [eq_lead_of_follow leads, FileSystem.place, FileSystem.start, FileSystem.start, same]
  subst there
  have kinds := FileTree.kind?_write written
  refine ⟨?_, read_write h, directories.before, fun {p} on => ?_, fun {p} ne off => ?_, same⟩
  · rw [kinds, if_pos rfl]
  · -- the file is not in the place of a directory, since nothing is written there
    have ne : p ≠ fs.place path := by
      rintro rfl
      exact FileTree.kind?_ne_directory_of_write written (directories.after on)
    rw [kinds, if_neg ne, directories.after on]
  · rw [kinds, if_neg ne, directories.others off]

end FileSystem

end ApiStencil
