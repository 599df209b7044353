/-! Paths as text.

The parts of a path stand between slashes; empty parts and single dots do not count. The last part
is the name, and what follows the last dot of a name is its extension, unless nothing stands before
that dot. -/
namespace DeviceSupport.Path
set_option autoImplicit false

def parts (path : String) : List String := (path.toList.splitOn '/').map String.ofList

/-- A part that stays where it is. -/
def isIdle (part : String) : Bool := part = "" || part = "."

/-- A path cut behind its name, as the parts before the name and the name. -/
def split? (path : String) : Option (List String × String) :=
  match (parts path).reverse.dropWhile isIdle with
  | [] => none
  | name :: before => if name = ".." then none else some (before.reverse, name)

/-- A name as the text before its extension, and the extension. -/
def splitName (name : String) : String × Option String :=
  let reversed := name.toList.reverse
  let stem := ((reversed.dropWhile (· ≠ '.')).drop 1).reverse
  if stem.isEmpty then (name, none)
  else (String.ofList stem, some (String.ofList (reversed.takeWhile (· ≠ '.')).reverse))

def extension? (path : String) : Option String := do
  let (_, name) ← split? path
  (splitName name).2

/-- The path with another extension. The old one is first taken off the end of the text; what is
left without a name then gets no new one. -/
def withExtension (path extension : String) : String :=
  let old := (extension? path).getD ""
  let bare := String.ofList (path.toList.take (path.length - old.length))
  match split? bare with
  | none => bare
  | some (before, name) => "/".intercalate (before ++ [(splitName name).1 ++ "." ++ extension])

/-- A path taken from a directory; an absolute one stands for itself. -/
def join (directory path : String) : String :=
  if path.startsWith "/" || directory = "" then path
  else if directory.endsWith "/" then directory ++ path
  else directory ++ "/" ++ path

end DeviceSupport.Path
