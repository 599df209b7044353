import DeviceSupport.Fault
import DeviceSupport.Files.Path
import DeviceSupport.Table

/-! Files and directories in memory.

A `FileTree` holds every entry under its place, which is the list of names that lead to it from the
root. A path is followed part by part, from the root or from the working directory; each part but
the last must lead to a directory. -/
namespace DeviceSupport
set_option autoImplicit false

inductive FileNode where
  | file (bytes : List UInt8)
  | directory
  deriving DecidableEq, Repr, Inhabited

structure FileTree where
  nodes : Table (List String) FileNode := []
  /-- The place of the working directory. -/
  working : List String := []
  deriving DecidableEq, Repr, Inhabited

namespace FileTree

/-- The entry at a place; the root is a directory. -/
def node? (t : FileTree) (place : List String) : Option FileNode :=
  if place.isEmpty then some .directory else Table.get? place t.nodes

/-! ## Following paths -/

/-- The most bytes in a name. -/
def nameLimit : Nat := 255

/-- The most bytes in a path. -/
def pathLimit : Nat := 4095

def hasNul (path : String) : Bool := path.toList.contains (Char.ofNat 0)

/-- What is wrong with a path whatever the tree holds. -/
def checkPath (path : String) : Except FileFault Unit :=
  if hasNul path then .error .nulInPath
  else if path.isEmpty then .error .notFound
  else if pathLimit < path.utf8ByteSize then .error .nameTooLong
  else .ok ()

/-- One part further. -/
def enter (t : FileTree) (place : List String) (part : String) : Except FileFault (List String) :=
  match t.node? place with
  | some .directory =>
    if Path.isIdle part then .ok place
    else if part = ".." then .ok place.dropLast
    else if nameLimit < part.utf8ByteSize then .error .nameTooLong
    else if (t.node? (place ++ [part])).isSome then .ok (place ++ [part])
    else .error .notFound
  | some (.file _) => .error .notDirectory
  | none => .error .notFound

/-- The place that a path starts from. -/
def origin (t : FileTree) (path : String) : List String :=
  if path.startsWith "/" then [] else t.working

/-- The place that a path leads to. -/
def locate (t : FileTree) (path : String) : Except FileFault (List String) := do
  checkPath path
  (Path.parts path).foldlM t.enter (t.origin path)

/-- The place of an entry that may have to be made: its directory must be there. -/
def destination (t : FileTree) (path : String) : Except FileFault (List String) := do
  checkPath path
  let parts := Path.parts path
  let parent ← parts.dropLast.foldlM t.enter (t.origin path)
  let name := parts.getLastD ""
  match t.node? parent with
  | some .directory =>
    if Path.isIdle name || name = ".." then throw .isDirectory
    else if nameLimit < name.utf8ByteSize then throw .nameTooLong
    else return parent ++ [name]
  | _ => throw .notDirectory

/-! ## Reading -/

def find (t : FileTree) (path : String) : Except FileFault FileNode := do
  let place ← t.locate path
  match t.node? place with
  | some node => return node
  | none => throw .notFound

def isPresent (t : FileTree) (path : String) : Bool := (t.find path).isOk

def isDirectory (t : FileTree) (path : String) : Bool :=
  match t.find path with
  | .ok .directory => true
  | _ => false

/-- Whether a path leads to a regular file. -/
def isFile (t : FileTree) (path : String) : Bool :=
  match t.find path with
  | .ok (.file _) => true
  | _ => false

def read (t : FileTree) (path : String) : Except FileFault (List UInt8) := do
  match ← t.find path with
  | .file bytes => return bytes
  | .directory => throw .isDirectory

/-- The names of the regular files in a directory, in no special order. -/
def fileNames (t : FileTree) (place : List String) : List String :=
  t.nodes.filterMap fun
    | (own, .file _) => if own.dropLast = place then own.getLast? else none
    | (_, .directory) => none

/-! ## Writing -/

/-- Makes a file, or gives one new bytes. -/
def write (t : FileTree) (path : String) (bytes : List UInt8) : Except FileFault FileTree := do
  let place ← t.destination path
  if t.node? place = some .directory then throw .isDirectory
  return { t with nodes := Table.insert place (.file bytes) t.nodes }

/-- One part further, where a directory that is missing is made. -/
def enterMaking (reached : List String × FileTree) (part : String) :
    Except FileFault (List String × FileTree) :=
  let (place, t) := reached
  match t.enter place part with
  | .ok next => .ok (next, t)
  | .error .notFound =>
    if t.node? place = some .directory then
      let next := place ++ [part]
      .ok (next, { t with nodes := Table.insert next .directory t.nodes })
    else .error .notFound
  | .error fault => .error fault

/-- Makes the directory at a path and those on the way to it. -/
def makeDirectories (t : FileTree) (path : String) : Except FileFault FileTree := do
  if path.isEmpty then return t
  checkPath path
  let (place, t) ← (Path.parts path).foldlM enterMaking (t.origin path, t)
  if t.node? place = some .directory then return t else throw .notDirectory

/-- Puts a file in the place of another path. -/
def move (t : FileTree) (source target : String) : Except FileFault FileTree := do
  let bytes ← t.read source
  let place ← t.locate source
  write { t with nodes := Table.erase place t.nodes } target bytes

end FileTree

end DeviceSupport
