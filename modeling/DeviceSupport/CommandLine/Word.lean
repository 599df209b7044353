/-! Words of a command line.

Two dashes before a name make an option, and what follows the first equals sign is a value attached
to it; two dashes alone end the options. One dash before a letter makes a short option. All other
words are plain, a single dash among them. -/
namespace DeviceSupport.CommandLine
set_option autoImplicit false

inductive Word where
  /-- Only plain words follow. -/
  | separator
  | long (name : String) (attached : Option String)
  | short (letter : Char)
  | plain
  deriving DecidableEq, Repr, Inhabited

namespace Word

/-- An option's name and the value attached to it. -/
def splitAttached (option : List Char) : String × Option String :=
  let name := String.ofList (option.takeWhile (· ≠ '='))
  match option.dropWhile (· ≠ '=') with
  | [] => (name, none)
  | _ :: value => (name, some (String.ofList value))

def ofChars : List Char → Word
  | ['-', '-'] => .separator
  | '-' :: '-' :: option =>
    let (name, attached) := splitAttached option
    .long name attached
  | '-' :: letter :: _ => .short letter
  | _ => .plain

def ofString (word : String) : Word := ofChars word.toList

end Word

end DeviceSupport.CommandLine
