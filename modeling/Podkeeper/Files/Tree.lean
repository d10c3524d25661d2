/-
Trees of files.

A tree says which directories and files there are, and what a file holds. Operations look a path
up part by part, as a file system does, and fail with its errors; a failed operation changes
nothing, except that directories made on the way stay. A tree may bind its user to the modes of
its files, or let a privileged user read and write them all.
-/

import Podkeeper.Files.Path
import Podkeeper.KeyMap
import Podkeeper.Text.Utf8

namespace Podkeeper

/-! ### Errors -/

/-- Why a file operation fails. -/
inductive FileError where
  | notFound
  | exists
  | notDirectory
  | isDirectory
  | nameTooLong
  /-- The mode of a file does not admit the operation. -/
  | denied
  /-- The path has a NUL. -/
  | nul
  /-- The bytes of a file are no text. -/
  | notText
deriving DecidableEq, Repr

/-- The wording of a file error. -/
def FileError.message : FileError → String
  | .notFound => "No such file or directory (os error 2)"
  | .exists => "File exists (os error 17)"
  | .notDirectory => "Not a directory (os error 20)"
  | .isDirectory => "Is a directory (os error 21)"
  | .nameTooLong => "File name too long (os error 36)"
  | .denied => "Permission denied (os error 13)"
  | .nul => "file name contained an unexpected NUL byte"
  | .notText => "stream did not contain valid UTF-8"

/-! ### Trees -/

inductive FileNode where
  | directory
  | file (mode : UInt32) (bytes : Bytes)
deriving DecidableEq, Repr

/-- The mode of a new file. -/
def FileNode.newMode : UInt32 := 0o644

/-- The owner may read a file of this mode. -/
def isReadable (mode : UInt32) : Bool := mode &&& 0o400 != 0

/-- The owner may write a file of this mode. -/
def isWritable (mode : UInt32) : Bool := mode &&& 0o200 != 0

/-- A tree of files: the entry at each path from the top, without a leading slash. The top itself
is a directory and has no entry. -/
structure Tree where
  entries : KeyMap FileNode
  /-- The modes of files bind the one who reads and writes them. -/
  modesBind : Bool
deriving DecidableEq, Repr

namespace Tree

/-- The tree with nothing in it, whose modes bind. -/
def empty : Tree := ⟨∅, true⟩

instance : EmptyCollection Tree := ⟨empty⟩

/-- The key of a path, given by its parts from the last to the first. -/
def key (stack : List String) : String := "/".intercalate stack.reverse

def node? (t : Tree) (stack : List String) : Option FileNode :=
  if stack.isEmpty then some .directory else t.entries.get? (key stack)

/-- Puts an entry at a path. -/
def put (t : Tree) (stack : List String) (n : FileNode) : Tree :=
  { t with entries := t.entries.insert (key stack) n }

/-! ### Looking paths up -/

/-- How many bytes a name may have. -/
def maxName : Nat := 255

/-- How many bytes a path may have. -/
def maxPath : Nat := 4095

/-- One part further from a directory. -/
def down (stack : List String) (part : String) : Except FileError (List String) :=
  if part = "." then .ok stack
  else if part = ".." then .ok stack.tail
  else if maxName < part.utf8ByteSize then .error .nameTooLong
  else .ok (part :: stack)

/-- There is a directory at a path. -/
def requireDirectory (t : Tree) (stack : List String) : Except FileError Unit :=
  match t.node? stack with
  | some .directory => .ok ()
  | some (.file _ _) => .error .notDirectory
  | none => .error .notFound

/-- Goes through parts, all but the last of which must lead to directories. -/
def walk (t : Tree) (stack : List String) : List String → Except FileError (List String)
  | [] => .ok stack
  | part :: parts => do
    t.requireDirectory stack
    walk t (← down stack part) parts

/-- A path that can be looked up at all. -/
def checkPath (path : String) : Except FileError Unit :=
  if path.toList.contains '\x00' then .error .nul
  else if maxPath < path.utf8ByteSize then .error .nameTooLong
  else .ok ()

/-- There is a directory where the parts lead. -/
def isDirectory (t : Tree) (parts : List String) : Bool :=
  match t.walk [] parts with
  | .ok stack => t.node? stack == some .directory
  | .error _ => false

/-! ### Operations -/

/-- The last part stands for a directory that is there already. -/
def isDots (parts : List String) : Bool :=
  parts.getLast? == some "." || parts.getLast? == some ".."

def makeDirectory (t : Tree) (parts : List String) : Except FileError Tree := do
  let stack ← t.walk [] parts
  if isDots parts || (t.node? stack).isSome then .error .exists else .ok (t.put stack .directory)

/-- Makes a directory and those above it that are missing, at most so many. -/
def makeDirectoriesWithin : Nat → Tree → List String → Tree × Except FileError Unit
  | 0, t, _ => (t, .ok ())
  | fuel + 1, t, parts =>
    if parts.isEmpty then (t, .ok ())
    else
      let settle (t : Tree) : Tree × Except FileError Unit :=
        match t.makeDirectory parts with
        | .ok t => (t, .ok ())
        | .error e => (t, if t.isDirectory parts then .ok () else .error e)
      match t.makeDirectory parts with
      | .error .notFound =>
        match makeDirectoriesWithin fuel t (Path.above parts) with
        | (t, .ok ()) => settle t
        | (t, .error e) => (t, .error e)
      | _ => settle t

/-- Makes a directory and those above it that are missing. -/
def makeDirectories (t : Tree) (path : String) : Tree × Except FileError Unit :=
  match checkPath path with
  | .error e => (t, .error e)
  | .ok () =>
    let parts := Path.parts path
    makeDirectoriesWithin (parts.length + 1) t parts

/-- A file's mode admits an operation, or does not bind. -/
def admits (t : Tree) (needed : UInt32 → Bool) (mode : UInt32) : Except FileError Unit :=
  if t.modesBind && !needed mode then .error .denied else .ok ()

/-- Writes a file; one that is there keeps its mode, which must admit it. -/
def write (t : Tree) (path : String) (bytes : Bytes) : Except FileError Tree := do
  checkPath path
  let stack ← t.walk [] (Path.parts path)
  match t.node? stack with
  | some .directory => .error .isDirectory
  | some (.file mode _) => do
    t.admits isWritable mode
    .ok (t.put stack (.file mode bytes))
  | none => .ok (t.put stack (.file FileNode.newMode bytes))

/-- Sets the mode of a file; directories have none here. -/
def setMode (t : Tree) (path : String) (mode : UInt32) : Except FileError Tree := do
  checkPath path
  let stack ← t.walk [] (Path.parts path)
  match t.node? stack with
  | some .directory => .ok t
  | some (.file _ bytes) => .ok (t.put stack (.file mode bytes))
  | none => .error .notFound

/-- The bytes of a file. A slash at the end asks for a directory. -/
def read (t : Tree) (path : String) : Except FileError Bytes := do
  checkPath path
  let stack ← t.walk [] (Path.parts path)
  match t.node? stack with
  | some .directory => .error .isDirectory
  | some (.file mode bytes) => do
    if path.endsWith "/" then .error .notDirectory
    t.admits isReadable mode
    .ok bytes
  | none => .error .notFound

/-- The entries below a directory, with their paths from there, in the order of the paths. -/
def below (t : Tree) (path : String) : List (String × FileNode) :=
  let start := key (Path.parts path).reverse ++ "/"
  t.entries.entries.filterMap fun e =>
    (e.1.dropPrefix? start).map fun rest => (rest.toString, e.2)

end Tree

end Podkeeper
