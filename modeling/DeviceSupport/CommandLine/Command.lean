import DeviceSupport.CommandLine.Scan
import DeviceSupport.Selection

/-! The commands of the tool, and the grammar of its command line. -/
namespace DeviceSupport.CommandLine
set_option autoImplicit false

inductive Command where
  /-- Shows what a package holds. -/
  | inspect (file : String) (asJson : Bool)
  /-- Loads packages and chooses the best for a device; without directories, from the settings'. -/
  | select (directories : List String) (criteria : Criteria)
  | demo (asJson : Bool)
  | showSettings
  | settingsPath
  deriving DecidableEq, Repr, Inhabited

/-- A command, and how much is to be logged while it runs. -/
structure Job where
  logFilter : Option String
  command : Command
  deriving DecidableEq, Repr, Inhabited

/-! ## Grammar -/

/-- Every command takes this one. -/
def logLevel : OptionSpec := .value { name := "log-level" }

def grammar : CommandSpec where
  name := "ufdsp"
  options := [logLevel]
  commands :=
    [{ name := "inspect", options := [logLevel, .flag "json"]
       operands := [{ name := "file", kind := .path }] },
      { name := "select"
        options :=
          [logLevel, .value { name := "dir", kind := .path, isRepeatable := true },
            .value { name := "kind", kind := .oneOf ["acpi", "pci", "platform"] }] ++
          ["device", "type", "uid", "scope", "vendor", "name"].map fun name => .value { name } },
      { name := "demo", options := [logLevel, .flag "json"] },
      { name := "settings", options := [logLevel]
        commands :=
          [{ name := "show", options := [logLevel] }, { name := "path", options := [logLevel] }] }]

/-- What the tool says to a command line that names no command to run. -/
def answer : UsageFault → String
  | .help => grammar.usage
  | .version => s!"{grammar.name} 0.1.0"
  | fault => s!"error: {fault.label}\n{grammar.usage}"

/-! ## Meaning -/

namespace Reading

def value? (r : Reading) (name : String) : Option String := r.given.reverse.lookup name

def value (r : Reading) (name : String) : String := (r.value? name).getD ""

def values (r : Reading) (name : String) : List String :=
  (r.given.filter (·.1 = name)).map (·.2)

def isGiven (r : Reading) (name : String) : Bool := (r.value? name).isSome

/-- The identity of a device, on the bus that is asked for. -/
def criteria (r : Reading) : Criteria :=
  match r.value "kind" with
  | "pci" => .pci (r.value "vendor") (r.value "device") "" ""
  | "platform" => .platform (r.value "type") (r.value "name")
  | _ => .acpi (r.value "device") (r.value "type") (r.value "uid") (r.value "scope")

def command? (r : Reading) : Option Command :=
  match r.path with
  | ["inspect"] => some (.inspect (r.value "file") (r.isGiven "json"))
  | ["select"] => some (.select (r.values "dir") r.criteria)
  | ["demo"] => some (.demo (r.isGiven "json"))
  | ["settings", "show"] => some .showSettings
  | ["settings", "path"] => some .settingsPath
  | _ => none

end Reading

/-- The command that the words after the program's name stand for. -/
def Job.ofWords (words : List String) : Except UsageFault Job := do
  let reading ← read grammar words
  match reading.command? with
  | some command => return ⟨reading.value? logLevel.name, command⟩
  | none => throw .missingCommand

end DeviceSupport.CommandLine
