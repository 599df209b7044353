import DeviceSupport.CommandLine.Grammar
import DeviceSupport.CommandLine.Word

/-! Reading a command line by its grammar, word by word.

The last option or operand stays pending until the next one comes: only then is its value looked
at. So of two faults the one that is found first wins, and it need not be the one that stands first.
A pending option without a value takes the next plain word, even the name of a command. -/
namespace DeviceSupport.CommandLine
set_option autoImplicit false

/-- Why a command line names no command to run. -/
inductive UsageFault where
  | help
  | version
  /-- Nothing is given where a command must be named. -/
  | nothingGiven
  | missingCommand
  | unknownCommand
  | unknownArgument
  | missingArgument
  /-- A value is missing or not accepted. -/
  | invalidValue
  /-- A value is attached to a flag. -/
  | needlessValue
  /-- An argument is repeated that may not be. -/
  | conflict
  deriving DecidableEq, Repr, Inhabited

namespace UsageFault

def label : UsageFault → String
  | .help => "DisplayHelp"
  | .version => "DisplayVersion"
  | .nothingGiven => "DisplayHelpOnMissingArgumentOrSubcommand"
  | .missingCommand => "MissingSubcommand"
  | .unknownCommand => "InvalidSubcommand"
  | .unknownArgument => "UnknownArgument"
  | .missingArgument => "MissingRequiredArgument"
  | .invalidValue => "InvalidValue"
  | .needlessValue => "TooManyValues"
  | .conflict => "ArgumentConflict"

/-- Asking for help or the version is no failure. -/
def exitCode : UsageFault → Nat
  | .help | .version => 0
  | _ => 2

end UsageFault

/-- The commands that are named, outermost first, and the values given, in order. -/
structure Reading where
  path : List String
  given : List (String × String)
  deriving DecidableEq, Repr, Inhabited

/-- How far the words of one command have been read. -/
structure Scan where
  given : List (String × String) := []
  pending : Option (ValueSpec × Option String) := none
  /-- The operands still to come. -/
  operands : List ValueSpec
  /-- Whether only plain words follow. -/
  isClosed : Bool := false
  deriving DecidableEq, Repr, Inhabited

namespace Scan

/-! ## Values -/

/-- The pending option takes the next plain word. -/
def isWaiting (s : Scan) : Bool :=
  match s.pending with
  | some (_, none) => !s.isClosed
  | _ => false

def isGiven (s : Scan) (name : String) : Bool := s.given.any (·.1 = name)

def take (s : Scan) (spec : ValueSpec) (value : String) : Except UsageFault Scan :=
  if !spec.isRepeatable && s.isGiven spec.name then .error .conflict
  else if !spec.kind.accepts value then .error .invalidValue
  else .ok { s with given := s.given ++ [(spec.name, value)] }

/-- Takes the value of what is pending. -/
def settle (s : Scan) : Except UsageFault Scan :=
  match s.pending with
  | none => .ok s
  | some (_, none) => .error .invalidValue
  | some (spec, some value) => take { s with pending := none } spec value

theorem pending_take {s t : Scan} {spec : ValueSpec} {value : String}
    (h : s.take spec value = .ok t) : t.pending = s.pending := by
  unfold take at h
  split at h
  · cases h
  · split at h
    · cases h
    · cases h
      rfl

theorem pending_settle {s t : Scan} (h : s.settle = .ok t) : t.pending = none := by
  unfold settle at h
  split at h
  · cases h
    assumption
  · cases h
  · exact pending_take h

/-! ## Words -/

def option (s : Scan) (spec : OptionSpec) (attached : Option String) : Except UsageFault Scan :=
  match spec, attached with
  | .value spec, some value => do (← s.settle).take spec value
  | .value spec, none => return { ← s.settle with pending := some (spec, none) }
  | _, some _ => .error .needlessValue
  | .flag name, none => do (← s.settle).take { name } ""
  | .help, none => do let _ ← s.settle; throw .help
  | .version, none => do let _ ← s.settle; throw .version

def plain (s : Scan) (c : CommandSpec) (word : String) : Except UsageFault Scan :=
  match s.isWaiting, s.pending, s.operands with
  | true, some (spec, _), _ => .ok { s with pending := some (spec, some word) }
  | _, _, spec :: operands =>
    return { ← s.settle with pending := some (spec, some word), operands }
  | _, _, [] =>
    if c.commands.isEmpty || (c.command? word).isSome then .error .unknownArgument
    else .error .unknownCommand

def step (s : Scan) (c : CommandSpec) (word : String) : Except UsageFault Scan :=
  let option (spec : Option OptionSpec) (attached : Option String) : Except UsageFault Scan :=
    match spec with
    | some spec => s.option spec attached
    | none => .error .unknownArgument
  match s.isClosed, Word.ofString word with
  | true, _ | false, .plain => s.plain c word
  | false, .separator => .ok { s with isClosed := true }
  | false, .long name attached => option (c.option? name) attached
  | false, .short letter => option (OptionSpec.ofLetter? letter) none

/-- At the end of the words. -/
def finish (s : Scan) (c : CommandSpec) : Except UsageFault Reading := do
  let s ← s.settle
  if !c.commands.isEmpty then
    throw (if s.given.isEmpty then .nothingGiven else .missingCommand)
  if !s.operands.isEmpty then throw .missingArgument
  return ⟨[], s.given⟩

end Scan

/-! ## Whole lines -/

/-- A plain word names a command unless a value is waited for; what a command's own words give is
settled before what is pending above it. -/
def scan : List String → CommandSpec → Scan → Except UsageFault Reading
  | [], c, s => s.finish c
  | word :: words, c, s =>
    match if s.isClosed || s.isWaiting then none else c.command? word with
    | none => do scan words c (← s.step c word)
    | some inner =>
      if inner.name = CommandSpec.helpCommand.name then
        .error (if (c.follow? words).isSome then .help else .unknownCommand)
      else do
        let reading ← scan words inner { operands := inner.operands }
        let s ← s.settle
        return ⟨inner.name :: reading.path, s.given ++ reading.given⟩

def read (c : CommandSpec) (words : List String) : Except UsageFault Reading :=
  scan words c { operands := c.operands }

end DeviceSupport.CommandLine
