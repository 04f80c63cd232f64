import ApiStencil.Error
import ApiStencil.Text.Utf8

/-!
Files and directories as a tree, and what can be done with them by path: reading and writing a
file, making directories, and listing what is below a directory.  A path is relative to the working
directory unless it starts with a slash.
-/

namespace ApiStencil

/-! ### Paths -/

namespace FilePath

/-- The parts of a path between its slashes. -/
def parts (path : String) : List (List Char) := path.toList.splitOn '/'

/-- The components of a path; empty parts and single dots do not count. -/
def components (path : String) : List String :=
  ((parts path).map String.ofList).filter fun part => part ≠ "" ∧ part ≠ "."

/-- Whether a path starts from the root. -/
def isAbsolute (path : String) : Bool := path.toList.head? = some '/'

/-- Whether a path can only be that of a directory: its last part is empty or a single dot. -/
def isForDirectory (path : String) : Bool :=
  match (parts path).getLast? with
  | some part => part = [] || part = ['.']
  | none => false

/-- The name of the file of a path. -/
def fileName? (path : String) : Option String :=
  match (components path).getLast? with
  | some name => if name = ".." then none else some name
  | none => none

/-- The extension of a file name: what comes after its last dot, unless that dot comes first. -/
def extension? (path : String) : Option String := do
  let name ← fileName? path
  let back := name.toList.reverse
  let last := back.takeWhile (· ≠ '.')
  match back.dropWhile (· ≠ '.') with
  | _ :: _ :: _ => some (String.ofList last.reverse)
  | _ => none

/-- The path of the directory of a path; nothing for a path of one component. -/
def parent? (path : String) : Option String :=
  let parts := (components path).dropLast
  if parts.isEmpty then none
  else some ((if isAbsolute path then "/" else "") ++ "/".intercalate parts)

end FilePath

/-! ### Trees -/

/-- A file with its content, or a directory with its entries by name. -/
inductive FileTree where
  | file (content : ByteArray)
  | directory (entries : List (String × FileTree))

namespace FileTree

/-- The directory without entries. -/
def empty : FileTree := .directory []

instance : Inhabited FileTree := ⟨empty⟩

/-- What is at a path of components. -/
def get? : List String → FileTree → Except FileFault FileTree
  | [], tree => .ok tree
  | name :: rest, .directory entries =>
    match entries.lookup name with
    | some tree => get? rest tree
    | none => .error .notFound
  | _ :: _, .file _ => .error .notDirectory

/-- The entries with one put in its place, or after the others. -/
def putEntry (name : String) (tree : FileTree) :
    List (String × FileTree) → List (String × FileTree)
  | [] => [(name, tree)]
  | (n, t) :: rest => if n = name then (name, tree) :: rest else (n, t) :: putEntry name tree rest

/-- Changes what is at a path of components; every directory on the way has to be there.  The
change gets nothing where nothing is at the end of the path. -/
def modify (change : Option FileTree → Except FileFault FileTree) :
    List String → FileTree → Except FileFault FileTree
  | [], tree => change (some tree)
  | _ :: _, .file _ => .error .notDirectory
  | [name], .directory entries => do
    let tree ← change (entries.lookup name)
    .ok (.directory (putEntry name tree entries))
  | name :: next :: rest, .directory entries =>
    match entries.lookup name with
    | none => .error .notFound
    | some tree => do
      let tree ← modify change (next :: rest) tree
      .ok (.directory (putEntry name tree entries))

/-- The tree with a file written at a path. -/
def write (content : ByteArray) (path : List String) (tree : FileTree) :
    Except FileFault FileTree :=
  tree.modify (fun there => match there with
    | some (.directory _) => .error .isDirectory
    | _ => .ok (.file content)) path

/-- The tree with all directories of a path in it. -/
def makeDirectories : List String → FileTree → Except FileFault FileTree
  | [], .directory entries => .ok (.directory entries)
  | [], .file _ => .error .alreadyThere
  | _ :: _, .file _ => .error .notDirectory
  | name :: rest, .directory entries => do
    let tree ← makeDirectories rest ((entries.lookup name).getD empty)
    .ok (.directory (putEntry name tree entries))

mutual

/-- The files of a tree, each with its path from the root of the tree. -/
def files (path : String) : FileTree → List (String × ByteArray)
  | .file content => [(path, content)]
  | .directory entries => filesOf (if path = "" then "" else path ++ "/") entries

/-- The files of the entries of a directory. -/
def filesOf (start : String) : List (String × FileTree) → List (String × ByteArray)
  | [] => []
  | (name, tree) :: rest => files (start ++ name) tree ++ filesOf start rest

end

end FileTree

/-! ### File systems -/

/-- A tree of files with a working directory. -/
structure FileSystem where
  root : FileTree
  workingDirectory : List String

namespace FileSystem

/-- Follows components from a directory; a double dot leads to the directory above.  All but the
last component have to be there. -/
def follow (root : FileTree) (here : List String) : List String → Except FileFault (List String)
  | [] => .ok here
  | ".." :: rest =>
    match root.get? here with
    | .ok (.directory _) => follow root here.dropLast rest
    | .ok (.file _) => .error .notDirectory
    | .error e => .error e
  | name :: rest => follow root (here ++ [name]) rest

/-- Where a path starts: at the root or in the working directory. -/
def start (fs : FileSystem) (path : String) : List String :=
  if FilePath.isAbsolute path then [] else fs.workingDirectory

/-- The components from the root to what a path leads to. -/
def resolve (fs : FileSystem) (path : String) : Except FileFault (List String) :=
  if path = "" then .error .notFound
  else follow fs.root (fs.start path) (FilePath.components path)

/-- What is at a path. -/
def get? (fs : FileSystem) (path : String) : Except FileFault FileTree := do
  let parts ← fs.resolve path
  match ← fs.root.get? parts with
  | .file content =>
    if FilePath.isForDirectory path then .error .notDirectory else .ok (.file content)
  | tree => .ok tree

/-- The content of the file at a path. -/
def read (fs : FileSystem) (path : String) : Except FileFault ByteArray := do
  match ← fs.get? path with
  | .file content => .ok content
  | .directory _ => .error .isDirectory

/-- Why nothing is written at a path for a directory that leads to a place. -/
def refusal (fs : FileSystem) (path : String) (place : List String) : FileFault :=
  if path.toList.getLast? = some '/' then .isDirectory
  else match fs.root.get? place with
    | .ok (.file _) => .notDirectory
    | .ok (.directory _) => .isDirectory
    | .error fault => fault

/-- Writes a file at a path; its directory has to be there. -/
def write (fs : FileSystem) (path : String) (content : ByteArray) :
    Except FileFault FileSystem := do
  let place ← fs.resolve path
  if FilePath.isForDirectory path then .error (fs.refusal path place)
  else
    let root ← fs.root.write content place
    .ok { fs with root }

/-- Makes the directories that components lead through, one after the other.  A file in the way is
a fault; which one depends on whether a directory had to be made before. -/
def makeAlong (root : FileTree) (made : Bool) (here : List String) :
    List String → Except FileFault FileTree
  | [] => .ok root
  | ".." :: rest => makeAlong root made here.dropLast rest
  | name :: rest =>
    match root.get? (here ++ [name]) with
    | .ok (.file _) => .error (if made || rest.isEmpty then .alreadyThere else .notDirectory)
    | there => do
      let root ← root.makeDirectories (here ++ [name])
      makeAlong root (made || !there.isOk) (here ++ [name]) rest

/-- Makes the directories of a path that are not there. -/
def makeDirectories (fs : FileSystem) (path : String) : Except FileFault FileSystem := do
  let root ← makeAlong fs.root false (fs.start path) (FilePath.components path)
  .ok { fs with root }

/-- The files below a directory, each with its path from there; none if there is no such
directory. -/
def filesBelow (fs : FileSystem) (path : String) : List (String × ByteArray) :=
  match fs.get? path with
  | .ok (.directory entries) => FileTree.filesOf "" entries
  | _ => []

end FileSystem

end ApiStencil
