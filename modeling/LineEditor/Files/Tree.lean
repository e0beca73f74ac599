import LineEditor.Files.Lines
import LineEditor.Files.Name

/-! A tree of files and directories, and what reading and writing by name do in it. Writing replaces
a file as a whole or changes nothing. -/
namespace LineEditor

inductive FileError where
  | notFound
  /-- Any failure but that of a missing file or directory. -/
  | refused
  deriving DecidableEq, Repr

inductive FileEntry where
  | file (bytes : Text.Bytes)
  | directory
  deriving DecidableEq, Repr

abbrev FilePath := List Text

structure FileTree where
  home : FilePath
  entries : List (FilePath × FileEntry)
  deriving DecidableEq, Repr

namespace FileTree

def empty (home : FilePath) : FileTree := ⟨home, []⟩

def lookup (tree : FileTree) (path : FilePath) : Option FileEntry :=
  if path.isPrefixOf tree.home then some .directory else tree.entries.lookup path

def put (tree : FileTree) (path : FilePath) (entry : FileEntry) : FileTree :=
  { tree with entries := (path, entry) :: tree.entries.filter (·.1 ≠ path) }

def makeDirectories (tree : FileTree) : FilePath → List Text → FileTree
  | _, [] => tree
  | path, component :: more =>
      let path := path ++ [component]
      let tree := if (tree.lookup path).isSome then tree else tree.put path .directory
      tree.makeDirectories path more

def enter (tree : FileTree) (directory : FilePath) (component : Text) : Except FileError FilePath :=
  if FileName.isIdle component then .ok directory
  else if component = ['.', '.'] then .ok directory.dropLast
  else if FileName.isLongComponent component then .error .refused
  else
    let path := directory ++ [component]
    if (tree.lookup path).isSome then .ok path else .error .notFound

def walk (tree : FileTree) : FilePath → List Text → Except FileError FilePath
  | path, [] => .ok path
  | path, component :: more => do
      match tree.lookup path with
      | some .directory => tree.walk (← tree.enter path component) more
      | some (.file _) => .error .refused
      | none => .error .notFound

def origin (tree : FileTree) (name : Text) : FilePath :=
  if FileName.isAbsolute name then [] else tree.home

/-- Like `walk`, to a directory only. The empty component behind the others asks for one. -/
def walkToDirectory (tree : FileTree) (path : FilePath) (components : List Text) :
    Except FileError FilePath :=
  tree.walk path (components ++ [[]])

def read (tree : FileTree) (name : Text) : Except FileError Text.Bytes :=
  if FileName.isUnusable name then .error .refused
  else if name.isEmpty then .error .notFound
  else do
    let path ← tree.walk (tree.origin name) (FileName.components name)
    match tree.lookup path with
    | some (.file bytes) => .ok bytes
    | some .directory => .error .refused
    | none => .error .notFound

/-- The path at which a file can be put under a name, whether or not there is a file already. The
directory for a temporary file must be there before the name itself is looked at. -/
def target (tree : FileTree) (name : Text) : Except FileError FilePath := do
  if FileName.isUnusable ((FileName.parentComponents name).flatten) then .error .refused
  else
    let _ ← tree.walkToDirectory (tree.origin name) (FileName.parentComponents name)
    if FileName.isUnusable name then .error .refused
    else if name.isEmpty then .error .notFound
    else
      let components := FileName.withoutFinalSlashes name
      let directory ← tree.walkToDirectory (tree.origin name) components.dropLast
      match components.getLast? with
      | none => .error .refused
      | some last =>
          let path := directory ++ [last]
          if FileName.isIdle last || last = ['.', '.'] || FileName.isLongComponent last ||
              FileName.endsInSlash name || tree.lookup path = some .directory then .error .refused
          else .ok path

def write (tree : FileTree) (name : Text) (bytes : Text.Bytes) : Except FileError FileTree := do
  return tree.put (← tree.target name) (.file bytes)

end FileTree

structure Loaded where
  lines : List Text
  byteLength : Nat
  deriving DecidableEq, Repr

def Loaded.ofBytes (bytes : Text.Bytes) : Loaded := ⟨linesOfFile bytes, bytes.length⟩

/-- The bytes of lines with a newline behind each, and their number added to `size`. -/
def writeLines (size : Nat) : List Text → Text.Bytes × Nat
  | [] => ([], size)
  | line :: lines =>
      let (bytes, size) := writeLines (size + line.byteLength + 1) lines
      (Text.encode line ++ newlineByte :: bytes, size)

namespace FileTree

def load (tree : FileTree) (name : Text) : Except FileError Loaded := do
  return .ofBytes (← tree.read name)

def save (tree : FileTree) (name : Text) (lines : List Text) :
    Except FileError (FileTree × Nat) := do
  let (bytes, size) := writeLines 0 lines
  return (← tree.write name bytes, size)

theorem lookup_put (tree : FileTree) (path other : FilePath) (entry : FileEntry)
    (h : path.isPrefixOf tree.home = false) :
    (tree.put path entry).lookup other =
      if other = path then some entry else tree.lookup other := by
  have keep (entries : List (FilePath × FileEntry)) (h : other ≠ path) :
      (entries.filter (·.1 ≠ path)).lookup other = entries.lookup other := by
    induction entries with
    | nil => rfl
    | cons e entries ih =>
        obtain ⟨p, x⟩ := e
        by_cases hp : p = path
        · have hne : (other == p) = false := by simp [hp, h]
          simpa [hp, List.lookup_cons, hp ▸ hne] using ih
        · by_cases ho : other = p
          · simp [hp, ho]
          · have hne : (other == p) = false := by simp [ho]
            simpa [hp, List.lookup_cons, hne] using ih
  by_cases ho : other = path
  · subst ho
    simp [lookup, put, h]
  · have hne : (other == path) = false := by simp [ho]
    have step : (tree.put path entry).entries.lookup other = tree.entries.lookup other := by
      simpa [put, List.lookup_cons, hne] using keep tree.entries ho
    simp only [lookup, ho, if_false, step]
    rfl

end FileTree

end LineEditor
