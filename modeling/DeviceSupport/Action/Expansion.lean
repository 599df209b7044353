import DeviceSupport.Fault
import DeviceSupport.Limits
import DeviceSupport.Profile.Records

/-! Names in parameters.

The token `%nm%` in a text parameter stands for the participant and domain that the action runs
for. A text that grows beyond its limit is refused; numbers and vacant slots stay as they are. -/
namespace DeviceSupport
set_option autoImplicit false

namespace NameToken

def token : String := "%nm%"

/-- Replaces every token by `name`, from left to right; `done` is what stands before, newest
first. -/
def replaceFrom (name done : List Char) : List Char → List Char
  | '%' :: 'n' :: 'm' :: '%' :: rest => replaceFrom name (name.reverse ++ done) rest
  | c :: rest => replaceFrom name (c :: done) rest
  | [] => done.reverse

def replace (name text : String) : String := String.ofList (replaceFrom name.toList [] text.toList)

end NameToken

/-! ## Parameters -/

namespace Params

/-- The parameter of a slot, with slots counted from one. -/
def expandSlot (name : String) (slot : Nat) : Option Param → Except Fault (Option Param)
  | some (.text value) =>
    let expanded := NameToken.replace name value
    if Limits.parameterLength < expanded.utf8ByteSize then
      .error (.parameterOutOfBounds
        s!"parameter {slot} expands to {expanded.utf8ByteSize} bytes")
    else .ok (some (.text expanded))
  | param => .ok param

def expandFrom (name : String) (slot : Nat) :
    List (Option Param) → Except Fault (List (Option Param))
  | [] => .ok []
  | param :: params => do
    let param ← expandSlot name slot param
    let params ← expandFrom name (slot + 1) params
    return param :: params

def expand (params : Params) (participant domain : String) : Except Fault Params :=
  expandFrom (participant ++ "." ++ domain) 1 params

end Params

end DeviceSupport
