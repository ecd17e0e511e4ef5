import PlugAndCharge.Security.Error

/-!
# Directories

A directory tree as a value: files with their content, and folders.  Reading tells a missing file
from one that cannot be read; writing creates the folders above a file.
-/

namespace PlugAndCharge

/-- A path below the root of a directory, part by part. -/
abbrev Path := List String

/-- A directory tree. -/
structure Directory where
  /-- Where the tree is. -/
  root : String
  files : List (Path × Octets)
  folders : List Path
  deriving DecidableEq, Repr

namespace Directory

/-- An empty tree. -/
def empty (root : String) : Directory := { root, files := [], folders := [] }

/-- A path in full. -/
def fullPath (directory : Directory) (path : Path) : String :=
  "/".intercalate (directory.root :: path)

/-- The content of a file. -/
def get? (directory : Directory) (path : Path) : Option Octets :=
  directory.files.lookup path

/-- The folders above a path, outermost first. -/
def ancestors : Path → List Path
  | [] => []
  | [_] => []
  | part :: next :: rest => [part] :: (ancestors (next :: rest)).map (part :: ·)

/-- Whether something on the way to a path is a file. -/
def isBlocked (directory : Directory) (path : Path) : Bool :=
  (ancestors path).any fun folder => (directory.get? folder).isSome

/-- Reads a file. -/
def read (directory : Directory) (path : Path) : Except FileError Octets :=
  match directory.get? path with
  | some content => .ok content
  | none =>
    if directory.folders.contains path ∨ directory.isBlocked path then
      .error (.io (directory.fullPath path))
    else .error (.notFound (directory.fullPath path))

/-- Adds folders that are not there yet. -/
def addFolders (folders : List Path) (directory : Directory) : Directory :=
  { directory with
    folders := directory.folders ++ folders.filter fun path => !directory.folders.contains path }

/-- Puts a content at a path, in place of any that is there. -/
def put (path : Path) (content : Octets) : List (Path × Octets) → List (Path × Octets)
  | [] => [(path, content)]
  | (other, old) :: files =>
    if other = path then (path, content) :: files else (other, old) :: put path content files

/-- Writes a file and creates the folders above it. -/
def write (directory : Directory) (path : Path) (content : Octets) : Except FileError Directory :=
  if directory.folders.contains path ∨ directory.isBlocked path then
    .error (.io (directory.fullPath path))
  else
    .ok { (directory.addFolders (ancestors path)) with files := put path content directory.files }

/-- Creates a folder with the folders above it. -/
def makeFolder (directory : Directory) (path : Path) : Except FileError Directory :=
  if (directory.get? path).isSome ∨ directory.isBlocked path then
    .error (.io (directory.fullPath path))
  else .ok (directory.addFolders (ancestors path ++ [path]))

/-! ## Reading back -/

/-- A content that has been put is found, and no other path is touched. -/
theorem lookup_put (path other : Path) (content : Octets) (files : List (Path × Octets)) :
    (put path content files).lookup other =
      if other = path then some content else files.lookup other := by
  induction files with
  | nil =>
    by_cases same : other = path
    · simp [put, same]
    · simp [put, List.lookup_cons, beq_false_of_ne same, same]
  | cons file files ih =>
    obtain ⟨name, old⟩ := file
    by_cases here : name = path
    · subst here
      by_cases same : other = name
      · simp [put, same]
      · simp [put, List.lookup_cons, beq_false_of_ne same, same]
    · by_cases found : other = name
      · subst found
        simp [put, here]
      · simp [put, here, List.lookup_cons, ih, beq_false_of_ne found]

/-- After a successful write the file has the content, and no other file is touched. -/
theorem get?_write {directory written : Directory} {path : Path} {content : Octets}
    (success : directory.write path content = .ok written) (other : Path) :
    written.get? other = if other = path then some content else directory.get? other := by
  unfold write at success
  split at success
  · cases success
  · cases success
    exact lookup_put path other content directory.files

end Directory

end PlugAndCharge
