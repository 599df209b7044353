/-! What may stand on a command line.

A command has options, which may come in any order, and operands, which are told apart by their
position; or it has commands below it, one of which must be named. Every command knows the options
for help and for the version, and a command with others below it knows `help` as one of them. -/
namespace DeviceSupport.CommandLine
set_option autoImplicit false

/-! ## Values -/

inductive ValueKind where
  | text
  /-- Anything but the empty text. -/
  | path
  | oneOf (words : List String)
  deriving DecidableEq, Repr, Inhabited

def ValueKind.accepts : ValueKind → String → Bool
  | .text, _ => true
  | .path, value => value ≠ ""
  | .oneOf words, value => words.contains value

/-- Something that takes a value: an option, or an operand. -/
structure ValueSpec where
  name : String
  kind : ValueKind := .text
  isRepeatable : Bool := false
  deriving DecidableEq, Repr, Inhabited

/-! ## Options -/

inductive OptionSpec where
  | help
  | version
  | flag (name : String)
  | value (spec : ValueSpec)
  deriving DecidableEq, Repr, Inhabited

namespace OptionSpec

def name : OptionSpec → String
  | .help => "help"
  | .version => "version"
  | .flag name => name
  | .value spec => spec.name

def ofLetter? (letter : Char) : Option OptionSpec :=
  if letter = 'h' then some .help else if letter = 'V' then some .version else none

end OptionSpec

/-! ## Commands -/

structure CommandSpec where
  name : String
  options : List OptionSpec := []
  operands : List ValueSpec := []
  commands : List CommandSpec := []
  deriving Repr, Inhabited

namespace CommandSpec

def option? (c : CommandSpec) (name : String) : Option OptionSpec :=
  (OptionSpec.help :: .version :: c.options).find? (·.name = name)

def helpCommand : CommandSpec := { name := "help" }

/-- The command of a name below this one. -/
def command? (c : CommandSpec) (name : String) : Option CommandSpec :=
  if c.commands.isEmpty then none else (c.commands ++ [helpCommand]).find? (·.name = name)

/-- The command that a path of names leads to. -/
def follow? (c : CommandSpec) : List String → Option CommandSpec
  | [] => some c
  | name :: names => (c.command? name).bind (follow? · names)

/-- The shape of a command line, on one line. -/
def usage (c : CommandSpec) : String :=
  let operands := c.operands.map fun operand => s!" {operand.name.toUpper}"
  s!"usage: {c.name} [options]" ++ String.join operands ++
    if c.commands.isEmpty then "" else " " ++ "|".intercalate (c.commands.map (·.name))

end CommandSpec

end DeviceSupport.CommandLine
