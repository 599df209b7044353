import DeviceSupport.Files.Tree
import DeviceSupport.Package.Container
import DeviceSupport.Registry
import DeviceSupport.Settings

/-! Loading packages from files.

A directory is loaded in the order of its file names. Files that are no packages by their extension
are passed over; a package that cannot be loaded is reported and keeps nothing else from loading. -/
namespace DeviceSupport
set_option autoImplicit false

structure Loader where
  extensions : List String := ["fpc", "edp"]
  maxBytes : UInt64 := Limits.packageSize
  deriving DecidableEq, Repr, Inhabited

/-- What became of the packages of a directory, in order. -/
structure LoadReport where
  loaded : List (String × ProfileId) := []
  failed : List (String × Fault) := []
  deriving DecidableEq, Repr, Inhabited

def LoadReport.append (a b : LoadReport) : LoadReport :=
  ⟨a.loaded ++ b.loaded, a.failed ++ b.failed⟩

namespace Loader

def ofSettings (s : PackageSettings) : Loader := ⟨s.extensions, s.maxBytes⟩

/-! ## By extension -/

/-- Equal but for the case of ASCII letters. -/
def sameExtension (a b : String) : Bool := a.toLower = b.toLower

def isContainer (path : String) : Bool := (Path.extension? path).any (sameExtension "edp")

def isPackage (l : Loader) (path : String) : Bool :=
  (Path.extension? path).any fun extension => l.extensions.any (sameExtension extension)

/-! ## Loading -/

def decode (path : String) (bytes : List UInt8) : Except Fault Profile :=
  if isContainer path then Container.decode bytes else Package.decode bytes

def loadFile (l : Loader) (files : FileTree) (path : String) : Except Fault Profile :=
  match files.read path with
  | .error cause => .error (.fileUnreadable path cause)
  | .ok bytes =>
    if l.maxBytes.toNat < bytes.length then
      .error (.fileTooLarge path (UInt64.ofNat bytes.length) l.maxBytes)
    else decode path bytes

def loadInto (l : Loader) (files : FileTree) (state : LoadReport × Registry) (path : String) :
    LoadReport × Registry :=
  let (report, registry) := state
  match l.loadFile files path with
  | .ok profile =>
    let (id, registry) := registry.register profile
    ({ report with loaded := report.loaded ++ [(path, id)] }, registry)
  | .error fault => ({ report with failed := report.failed ++ [(path, fault)] }, registry)

/-- The package files of a directory in the order of their names; a file whose path leads nowhere,
as one that is too long does, is passed over. -/
def packagePaths (l : Loader) (files : FileTree) (directory : String) : List String :=
  match files.locate directory with
  | .error _ => []
  | .ok place =>
    let names := (files.fileNames place).mergeSort fun a b => decide (a ≤ b)
    (names.map (Path.join directory)).filter fun path => files.isFile path && l.isPackage path

def loadDirectory (l : Loader) (files : FileTree) (directory : String) (registry : Registry) :
    LoadReport × Registry :=
  (l.packagePaths files directory).foldl (l.loadInto files) ({}, registry)

def loadDirectories (l : Loader) (files : FileTree) (directories : List String)
    (registry : Registry) : LoadReport × Registry :=
  directories.foldl
    (fun (report, registry) directory =>
      let (more, registry) := l.loadDirectory files directory registry
      (report.append more, registry))
    ({}, registry)

end Loader

end DeviceSupport
