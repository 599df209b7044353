import DeviceSupport.Files.Tree
import DeviceSupport.Settings
import DeviceSupport.Text.Utf8

/-! Settings on disk, and the copy that is kept in memory.

A file is replaced as a whole: the new text goes to a temporary file, which then takes the place of
the old one. A missing file stands for the default settings. -/
namespace DeviceSupport
set_option autoImplicit false

/-! ## Files -/

namespace Settings

def loadFrom (files : FileTree) (path : String) : Except Fault Settings :=
  if !files.isPresent path then .ok {}
  else
    match (files.read path).toOption.bind Utf8.decode? with
    | none => .error (.configuration "Failed to read settings file")
    | some source => read source

/-- Writes settings to a path; the temporary file stays when it cannot take the path's place. -/
def saveTo (files : FileTree) (path : String) (s : Settings) : Except Fault Unit × FileTree :=
  let temporary := Path.withExtension path "json.tmp"
  match files.write temporary (Utf8.encode s.write) with
  | .error _ => (.error (.configuration "Failed to create temp file"), files)
  | .ok files =>
    match files.move temporary path with
    | .error _ => (.error (.configuration "Failed to rename temp file"), files)
    | .ok files => (.ok (), files)

/-- The name of the settings file in a user's configuration directory. -/
def fileName : String := "settings.json"

/-- The directory of the settings file among those of other programs. -/
def directoryName : String := "ufdsp"

end Settings

/-! ## The store -/

structure SettingsStore where
  files : FileTree
  /-- Where the user's configuration is kept. -/
  home : String
  cache : Option Settings := none
  deriving DecidableEq, Repr, Inhabited

namespace SettingsStore

def directory (s : SettingsStore) : String := Path.join s.home Settings.directoryName

/-- The path of the settings file, whose directory is made when it is missing. -/
def path (s : SettingsStore) : Except Fault String × SettingsStore :=
  let path := Path.join s.directory Settings.fileName
  if s.files.isPresent s.directory then (.ok path, s)
  else
    match s.files.makeDirectories s.directory with
    | .ok files => (.ok path, { s with files })
    | .error _ => (.error (.configuration "Failed to create config directory"), s)

def load (s : SettingsStore) : Except Fault Settings × SettingsStore :=
  match s.path with
  | (.ok path, s) => (Settings.loadFrom s.files path, s)
  | (.error fault, s) => (.error fault, s)

/-- Writes settings, and keeps them when that succeeds. -/
def save (s : SettingsStore) (settings : Settings) : Except Fault Unit × SettingsStore :=
  match s.path with
  | (.error fault, s) => (.error fault, s)
  | (.ok path, s) =>
    match Settings.saveTo s.files path settings with
    | (.ok (), files) => (.ok (), { s with files, cache := some settings })
    | (.error fault, files) => (.error fault, { s with files })

/-- Loads, changes and saves in one step. -/
def update (s : SettingsStore) (change : Settings → Settings) :
    Except Fault Settings × SettingsStore :=
  match s.load with
  | (.error fault, s) => (.error fault, s)
  | (.ok settings, s) =>
    match s.save (change settings) with
    | (.ok (), s) => (.ok (change settings), s)
    | (.error fault, s) => (.error fault, s)

/-- The settings in memory; they are loaded when there are none, or defaults stand in for them. -/
def cached (s : SettingsStore) : Settings × SettingsStore :=
  match s.cache with
  | some settings => (settings, s)
  | none =>
    let (loaded, s) := s.load
    let settings := loaded.toOption.getD {}
    (settings, { s with cache := some settings })

def invalidate (s : SettingsStore) : SettingsStore := { s with cache := none }

end SettingsStore

end DeviceSupport
