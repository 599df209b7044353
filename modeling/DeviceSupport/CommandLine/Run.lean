import DeviceSupport.CommandLine.Command
import DeviceSupport.Demo
import DeviceSupport.Loader
import DeviceSupport.Profile.Json
import DeviceSupport.Profile.Summary
import DeviceSupport.Settings.Store

/-! Running the commands of the tool over a file tree.

A command answers with the lines that it prints, the lines that it reports beside them, and the
fault that ends it, if any. -/
namespace DeviceSupport.CommandLine
set_option autoImplicit false

/-! ## Outcomes -/

inductive CommandFault where
  | loadFailed (path : String) (cause : Fault)
  | nothingLoaded (directories : List String)
  | nothingMatches (criteria : Criteria)
  | failed (cause : Fault)
  deriving DecidableEq, Repr, Inhabited

/-- The fault and what lies under it, on one line. -/
def CommandFault.message : CommandFault → String
  | .loadFailed path cause => ": ".intercalate (s!"Failed to load {path}" :: cause.chain)
  | .nothingLoaded directories =>
    "No DSP packages found in [" ++ ", ".intercalate (directories.map Quoted.quote) ++ "]"
  | .nothingMatches criteria => s!"No DSP matches {criteria.describe}"
  | .failed cause => ": ".intercalate cause.chain

structure Outcome where
  printed : List String := []
  reported : List String := []
  fault : Option CommandFault := none
  deriving DecidableEq, Repr, Inhabited

namespace Outcome

def text (lines : List String) : String := String.join (lines.map (· ++ "\n"))

def output (o : Outcome) : String := text o.printed

def diagnostics (o : Outcome) : String :=
  text (o.reported ++ (o.fault.map fun fault => s!"Error: {fault.message}").toList)

def exitCode (o : Outcome) : Nat := if o.fault.isSome then 1 else 0

/-- What is printed for a value, or the fault that there is instead. -/
def ofExcept {α : Type} (result : Except CommandFault α) (print : α → List String) : Outcome :=
  match result with
  | .ok value => { printed := print value }
  | .error fault => { fault := some fault }

end Outcome

/-! ## Commands -/

def inspect (files : FileTree) (settings : Settings) (file : String) (asJson : Bool) : Outcome :=
  let loaded := (Loader.ofSettings settings.packages).loadFile files file
  Outcome.ofExcept (loaded.mapError (.loadFailed file)) fun profile =>
    if asJson then [(toJson profile).pretty] else profile.summary

/-- A loaded profile and how it scores. -/
def scoreLine (criteria : Criteria) (id : ProfileId) (profile : Profile) : String :=
  let verdict :=
    match criteria.score profile.descriptor with
    | some score => s!"score={score}"
    | none => "eliminated"
  s!"  {Column.left 8 (toString id)} {Column.left 16 profile.code} {verdict}"

def selectedLine (registry : Registry) (id : ProfileId) (score : Nat) : String :=
  let code := ((registry.get? id).map (·.code)).getD ""
  s!"Selected: {code} ({id}) score={score}"

/-- Loads every directory; packages that cannot be loaded are reported. -/
def select (files : FileTree) (settings : Settings) (directories : List String)
    (criteria : Criteria) : Outcome :=
  let (report, registry) :=
    (Loader.ofSettings settings.packages).loadDirectories files directories {}
  let reported := report.failed.map fun (path, fault) => s!"Skipped {path}: {fault.message}"
  if registry.entries.isEmpty then { reported, fault := some (.nothingLoaded directories) }
  else
    let scores := registry.entries.map fun (id, profile) => scoreLine criteria id profile
    match registry.selectScored criteria with
    | some (id, score) => { printed := scores ++ [selectedLine registry id score], reported }
    | none => { printed := scores, reported, fault := some (.nothingMatches criteria) }

def demoLines (r : Demo.Report) : List String :=
  [s!"DSP:                {r.profileCode}", s!"Participant:        {r.participant}",
    s!"Raw reading:        {r.reading} dK", s!"GET_TEMPERATURE:    {r.temperature} C",
    s!"Passive trip (set): {r.tripPoint} C"]

def demo (asJson : Bool) : Outcome :=
  Outcome.ofExcept (Demo.run.mapError .failed) fun report =>
    if asJson then [(toJson report).pretty] else demoLines report

/-- The files and directories that a command reads. -/
def Command.sources (settings : Settings) : Command → List String
  | .inspect file _ => [file]
  | .select directories _ =>
    if directories.isEmpty then settings.packages.searchPaths else directories
  | .demo _ | .showSettings | .settingsPath => []

/-- Runs a command with the settings in force; the store is where settings are kept. -/
def Command.run (settings : Settings) (store : SettingsStore) (command : Command) : Outcome :=
  match command with
  | .inspect file asJson => CommandLine.inspect store.files settings file asJson
  | .select _ criteria =>
    CommandLine.select store.files settings (command.sources settings) criteria
  | .demo asJson => CommandLine.demo asJson
  | .showSettings => { printed := [settings.write] }
  | .settingsPath => Outcome.ofExcept (store.path.1.mapError .failed) ([·])

end DeviceSupport.CommandLine
