import DeviceSupport.Json

/-! Records in JSON.

A record is an object of its fields, or an array of them in order. Unknown fields of an object are
passed over; a repeated field, or an array with too many items, makes the record unreadable. -/
namespace DeviceSupport.Json
set_option autoImplicit false

/-- The value of field `name` among the fields of an object: the outer option is none when the
field is repeated, the inner one when it is absent. -/
def field? (fields : List (String × Json)) (name : String) : Option (Option Json) :=
  match fields.filter (·.1 = name) with
  | [] => some none
  | [(_, value)] => some (some value)
  | _ => none

/-- The values of the named fields of a record, in the order of the names. -/
def record? (names : List String) : Json → Option (List (Option Json))
  | .object fields => names.mapM (field? fields)
  | .array items =>
    if items.length ≤ names.length then
      some (items.map some ++ List.replicate (names.length - items.length) none)
    else none
  | _ => none

/-! ## Fields by kind -/

/-- A natural number below `bound`. -/
def naturalBelow? (bound : Nat) (value : Json) : Option Nat := do
  let n ← value.natural?
  if n < bound then some n else none

def uint8? (value : Json) : Option UInt8 := (value.naturalBelow? UInt8.size).map UInt8.ofNat

def uint16? (value : Json) : Option UInt16 := (value.naturalBelow? UInt16.size).map UInt16.ofNat

def uint32? (value : Json) : Option UInt32 := (value.naturalBelow? UInt32.size).map UInt32.ofNat

def uint64? (value : Json) : Option UInt64 := (value.naturalBelow? UInt64.size).map UInt64.ofNat

def text? : Json → Option String
  | .text value => some value
  | _ => none

def list? {α : Type} (item? : Json → Option α) : Json → Option (List α)
  | .array items => items.mapM item?
  | _ => none

/-- A choice without content: its name, or an object that maps its name to null. -/
def choice? {α : Type} (named? : String → Option α) : Json → Option α
  | .text name => named? name
  | .object [(name, .null)] => named? name
  | _ => none

/-- A field that must be there. -/
def required? {α : Type} (read? : Json → Option α) (value : Option Json) : Option α :=
  value.bind read?

/-- A field that stands for `default` when it is absent. -/
def optional? {α : Type} (default : α) (read? : Json → Option α) : Option Json → Option α
  | none => some default
  | some value => read? value

end DeviceSupport.Json
