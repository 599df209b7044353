import DeviceSupport.CommandLine.Run

/-! The program.

What a command may read is taken from the disk into a file tree first, and the command then runs
over that tree. -/
namespace DeviceSupport.Disk
set_option autoImplicit false

def parent (path : String) : String := "/".intercalate (Path.parts path).dropLast

def makeDirectories (files : FileTree) (path : String) : FileTree :=
  (files.makeDirectories path).toOption.getD files

def addFile (files : FileTree) (path : String) : IO FileTree := do
  let bytes ← IO.FS.readBinFile path
  let files := makeDirectories files (parent path)
  return (files.write path bytes.toList).toOption.getD files

def addDirectory (files : FileTree) (path : String) (entries : Array IO.FS.DirEntry) :
    IO FileTree := do
  let mut files := makeDirectories files path
  for entry in entries do
    if !(← entry.path.isDir) then
      files ← addFile files (Path.join path entry.fileName)
  return files

/-- Adds a file, or a directory with the files in it. What cannot be read is left out. -/
def add (files : FileTree) (path : String) : IO FileTree := do
  try
    let place ← IO.FS.realPath path
    if ← place.isDir then addDirectory files path (← place.readDir) else addFile files path
  catch _ => return files

/-- Where users keep the configuration of their programs. -/
def configurationHome : IO String := do
  match ← IO.getEnv "XDG_CONFIG_HOME" with
  | some home => if home.startsWith "/" then return home
  | none => pure ()
  return Path.join ((← IO.getEnv "HOME").getD "/") ".config"

/-- The settings on disk, in a tree whose paths start where the program does. -/
def settingsStore : IO SettingsStore := do
  let working := toString (← IO.currentDir)
  let files := makeDirectories {} working
  let home ← configurationHome
  let store : SettingsStore :=
    { files := { files with working := (files.locate working).toOption.getD [] }, home }
  return { store with files := ← add store.files store.directory }

end DeviceSupport.Disk

open DeviceSupport in
def main (words : List String) : IO UInt32 := do
  match CommandLine.Job.ofWords words with
  | .error fault =>
    if fault.exitCode = 0 then IO.println (CommandLine.answer fault)
    else IO.eprintln (CommandLine.answer fault)
    return UInt32.ofNat fault.exitCode
  | .ok job =>
    let store ← Disk.settingsStore
    let settings := store.load.1.toOption.getD {}
    if job.command = .settingsPath then IO.FS.createDirAll store.directory
    let files ← (job.command.sources settings).foldlM Disk.add store.files
    let outcome := job.command.run settings { store with files }
    IO.print outcome.output
    IO.eprint outcome.diagnostics
    return UInt32.ofNat outcome.exitCode
