/-! JSON values and their two written forms.

`compact` writes a value on one line without blanks, `pretty` with two blanks per level. Both keep
the order of an object's fields. A number is kept as its digits, so any number that can be written
can be held; `natural?` gives the value of one that is a natural number. -/
namespace DeviceSupport
set_option autoImplicit false

inductive Json where
  | null
  | bool (value : Bool)
  | number (digits : String)
  | text (value : String)
  /-- A value with an escape that names half of a surrogate pair: valid JSON, but no text. -/
  | unpaired
  | array (items : List Json)
  | object (fields : List (String × Json))
  deriving Repr, Inhabited

namespace Json

def natural (n : Nat) : Json := .number (toString n)

def isDigit (c : Char) : Bool := 48 ≤ c.toNat && c.toNat ≤ 57

/-- The value of a number written with digits only. -/
def natural? : Json → Option Nat
  | .number digits =>
    let cs := digits.toList
    if !cs.isEmpty && cs.all isDigit then
      some (cs.foldl (fun value c => value * 10 + (c.toNat - 48)) 0)
    else none
  | _ => none

/-- The value of a whole number, which may have a minus sign. -/
def integer? : Json → Option Int
  | .number digits => digits.toInt?
  | _ => none

/-! ## Parts -/

/-- The field of an object that comes first under a name. -/
def get? (name : String) : Json → Option Json
  | .object fields => fields.lookup name
  | _ => none

def items : Json → List Json
  | .array items => items
  | _ => []

/-! ## Text -/

/-- How one character is written inside a text. -/
def escape (c : Char) : String :=
  if c = '"' then "\\\""
  else if c = '\\' then "\\\\"
  else if c = Char.ofNat 0x08 then "\\b"
  else if c = Char.ofNat 0x09 then "\\t"
  else if c = Char.ofNat 0x0A then "\\n"
  else if c = Char.ofNat 0x0C then "\\f"
  else if c = Char.ofNat 0x0D then "\\r"
  else if c.toNat < 0x20 then
    "\\u00" ++ String.ofList [Nat.digitChar (c.toNat / 16), Nat.digitChar (c.toNat % 16)]
  else String.singleton c

def quote (value : String) : String :=
  value.toList.foldl (fun written c => written ++ escape c) "\"" ++ "\""

/-! ## One line -/

mutual

def compact : Json → String
  | .null => "null"
  | .bool value => if value then "true" else "false"
  | .number digits => digits
  | .text value => quote value
  | .unpaired => "\"\\ud800\""
  | .array items => "[" ++ ",".intercalate (compactItems items) ++ "]"
  | .object fields => "\x7b" ++ ",".intercalate (compactFields fields) ++ "\x7d"

def compactItems : List Json → List String
  | [] => []
  | item :: items => compact item :: compactItems items

def compactFields : List (String × Json) → List String
  | [] => []
  | (key, value) :: fields => (quote key ++ ":" ++ compact value) :: compactFields fields

end

/-! ## One item a line -/

def indent (depth : Nat) : String := String.ofList (List.replicate (2 * depth) ' ')

/-- Items between brackets, each on a line of its own; nothing between them when there is none. -/
def block (depth : Nat) (opening closing : String) (lines : List String) : String :=
  match lines with
  | [] => opening ++ closing
  | lines =>
    opening ++ "\n" ++ ",\n".intercalate (lines.map (indent (depth + 1) ++ ·)) ++ "\n" ++
      indent depth ++ closing

mutual

def prettyAt (depth : Nat) : Json → String
  | .array items => block depth "[" "]" (prettyItems (depth + 1) items)
  | .object fields => block depth "\x7b" "\x7d" (prettyFields (depth + 1) fields)
  | .null => compact .null
  | .bool value => compact (.bool value)
  | .number digits => compact (.number digits)
  | .text value => compact (.text value)
  | .unpaired => compact .unpaired

def prettyItems (depth : Nat) : List Json → List String
  | [] => []
  | item :: items => prettyAt depth item :: prettyItems depth items

def prettyFields (depth : Nat) : List (String × Json) → List String
  | [] => []
  | (key, value) :: fields =>
    (quote key ++ ": " ++ prettyAt depth value) :: prettyFields depth fields

end

def pretty (value : Json) : String := prettyAt 0 value

theorem prettyAt_null (depth : Nat) : prettyAt depth .null = "null" := rfl

theorem prettyAt_bool (depth : Nat) (value : Bool) :
    prettyAt depth (.bool value) = if value then "true" else "false" := rfl

theorem prettyAt_natural (depth n : Nat) : prettyAt depth (natural n) = toString n := rfl

theorem prettyAt_text (depth : Nat) (value : String) : prettyAt depth (.text value) = quote value :=
  rfl

theorem prettyAt_array (depth : Nat) (items : List Json) :
    prettyAt depth (.array items) = block depth "[" "]" (prettyItems (depth + 1) items) := rfl

theorem prettyAt_object (depth : Nat) (fields : List (String × Json)) :
    prettyAt depth (.object fields) =
      block depth "\x7b" "\x7d" (prettyFields (depth + 1) fields) := rfl

theorem prettyItems_cons (depth : Nat) (item : Json) (items : List Json) :
    prettyItems depth (item :: items) = prettyAt depth item :: prettyItems depth items := rfl

theorem prettyFields_cons (depth : Nat) (field : String × Json) (fields : List (String × Json)) :
    prettyFields depth (field :: fields) =
      (quote field.1 ++ ": " ++ prettyAt depth field.2) :: prettyFields depth fields := rfl

end Json

/-! ## Values as JSON -/

/-- The JSON form of the values of a type. -/
class ToJson (α : Type) where
  toJson : α → Json

export ToJson (toJson)

instance : ToJson Json := ⟨id⟩
instance : ToJson Nat := ⟨Json.natural⟩
instance : ToJson UInt8 := ⟨fun n => .natural n.toNat⟩
instance : ToJson UInt16 := ⟨fun n => .natural n.toNat⟩
instance : ToJson UInt32 := ⟨fun n => .natural n.toNat⟩
instance : ToJson UInt64 := ⟨fun n => .natural n.toNat⟩
instance : ToJson Bool := ⟨.bool⟩
instance : ToJson String := ⟨.text⟩
instance {α : Type} [ToJson α] : ToJson (List α) := ⟨fun items => .array (items.map toJson)⟩

/-- A value that is absent is null. -/
instance {α : Type} [ToJson α] : ToJson (Option α) := ⟨fun value => (value.map toJson).getD .null⟩

end DeviceSupport
