import DeviceSupport.Bytes.Hexadecimal
import DeviceSupport.Json

/-! Reading JSON.

`Json.read?` accepts exactly one value with blanks around it. Objects keep every field, repeated
ones too: what a repeated or unknown field means is for the reader of the record to say. -/
namespace DeviceSupport.Json
set_option autoImplicit false

def isBlank (c : Char) : Bool := c = ' ' || c = '\n' || c = '\t' || c = '\r'

def skipBlanks (cs : List Char) : List Char := cs.dropWhile isBlank

theorem skipBlanks_skipBlanks (cs : List Char) : skipBlanks (skipBlanks cs) = skipBlanks cs := by
  induction cs with
  | nil => rfl
  | cons c cs ih =>
    by_cases h : isBlank c = true
    · simpa [skipBlanks, h] using ih
    · simp [skipBlanks, h]

/-! ## Text -/

def hexValues? (digits : List Char) : Option Nat :=
  digits.foldl (fun value c => do return (← value) * 16 + (← Hexadecimal.digitValue? c)) (some 0)

def shortEscape? (c : Char) : Option Nat :=
  match c with
  | '"' => some 0x22
  | '\\' => some 0x5C
  | '/' => some 0x2F
  | 'b' => some 0x08
  | 'f' => some 0x0C
  | 'n' => some 0x0A
  | 'r' => some 0x0D
  | 't' => some 0x09
  | _ => none

/-- The code points up to the closing quote, newest first in `done`. -/
def codePoints? (done : List Nat) : List Char → Option (List Nat × List Char)
  | [] => none
  | '"' :: rest => some (done.reverse, rest)
  | '\\' :: 'u' :: a :: b :: c :: d :: rest =>
    match hexValues? [a, b, c, d] with
    | some value => codePoints? (value :: done) rest
    | none => none
  | '\\' :: c :: rest =>
    match shortEscape? c with
    | some value => codePoints? (value :: done) rest
    | none => none
  | c :: rest => if c.toNat < 0x20 then none else codePoints? (c.toNat :: done) rest

def isHighHalf (n : Nat) : Bool := 0xD800 ≤ n && n ≤ 0xDBFF

def isLowHalf (n : Nat) : Bool := 0xDC00 ≤ n && n ≤ 0xDFFF

/-- Joins surrogate halves; none when one stands alone. `high` is a half that waits for its
second, and the characters so far are newest first. -/
def joinHalves? (done : List Char) (high : Option Nat) : List Nat → Option String
  | [] => if high.isSome then none else some (String.ofList done.reverse)
  | n :: rest =>
    match high with
    | some h =>
      if isLowHalf n then
        joinHalves? (Char.ofNat (0x10000 + (h - 0xD800) * 0x400 + (n - 0xDC00)) :: done) none rest
      else none
    | none =>
      if isHighHalf n then joinHalves? done (some n) rest
      else if isLowHalf n then none
      else joinHalves? (Char.ofNat n :: done) none rest

/-- A text after its opening quote; the inner option is none when it has half a pair. -/
def quoted? (cs : List Char) : Option (Option String × List Char) :=
  (codePoints? [] cs).map fun (points, rest) => (joinHalves? [] none points, rest)

/-! ## Numbers -/

/-- One digit or more. -/
def digits? (cs : List Char) : Option (List Char × List Char) :=
  let digits := cs.takeWhile isDigit
  if digits.isEmpty then none else some (digits, cs.dropWhile isDigit)

def whole? : List Char → Option (List Char × List Char)
  | '0' :: rest => some (['0'], rest)
  | cs => digits? cs

def fraction? : List Char → Option (List Char × List Char)
  | '.' :: rest => (digits? rest).map fun (digits, rest) => ('.' :: digits, rest)
  | cs => some ([], cs)

def sign (cs : List Char) : List Char × List Char :=
  match cs with
  | '+' :: rest => (['+'], rest)
  | '-' :: rest => (['-'], rest)
  | cs => ([], cs)

def exponent? : List Char → Option (List Char × List Char)
  | [] => some ([], [])
  | c :: rest =>
    if c = 'e' || c = 'E' then
      let (sign, rest) := sign rest
      (digits? rest).map fun (digits, rest) => (c :: sign ++ digits, rest)
    else some ([], c :: rest)

def number? (cs : List Char) : Option (Json × List Char) := do
  let (minus, cs) := match cs with
    | '-' :: rest => (['-'], rest)
    | cs => ([], cs)
  let (whole, cs) ← whole? cs
  let (fraction, cs) ← fraction? cs
  let (exponent, cs) ← exponent? cs
  return (.number (String.ofList (minus ++ whole ++ fraction ++ exponent)), cs)

/-! ## Values -/

def word? (word : List Char) (value : Json) (cs : List Char) : Option (Json × List Char) :=
  if cs.take word.length = word then some (value, cs.drop word.length) else none

/-- An object of the fields read, or `unpaired` when a key is no text. -/
def ofFields (fields : List (Option String × Json)) : Json :=
  match fields.mapM (fun (key, value) => key.map (·, value)) with
  | some fields => .object fields
  | none => .unpaired

mutual

/-- A value and what follows it. Every step spends one unit of fuel and at least one character. -/
def value? : Nat → List Char → Option (Json × List Char)
  | 0, _ => none
  | fuel + 1, cs =>
    match skipBlanks cs with
    | '[' :: rest =>
      match skipBlanks rest with
      | ']' :: rest => some (.array [], rest)
      | rest => items? fuel [] rest
    | '\x7b' :: rest =>
      match skipBlanks rest with
      | '\x7d' :: rest => some (.object [], rest)
      | rest => fields? fuel [] rest
    | '"' :: rest =>
      (quoted? rest).map fun (value, rest) =>
        match value with
        | some value => (.text value, rest)
        | none => (.unpaired, rest)
    | 'n' :: rest => word? "ull".toList .null rest
    | 't' :: rest => word? "rue".toList (.bool true) rest
    | 'f' :: rest => word? "alse".toList (.bool false) rest
    | cs => number? cs

/-- Items up to the closing bracket; those read so far are newest first. -/
def items? : Nat → List Json → List Char → Option (Json × List Char)
  | 0, _, _ => none
  | fuel + 1, done, cs =>
    match value? fuel cs with
    | none => none
    | some (item, rest) =>
      match skipBlanks rest with
      | ',' :: rest => items? fuel (item :: done) rest
      | ']' :: rest => some (.array (item :: done).reverse, rest)
      | _ => none

/-- Fields up to the closing brace; those read so far are newest first. -/
def fields? : Nat → List (Option String × Json) → List Char → Option (Json × List Char)
  | 0, _, _ => none
  | fuel + 1, done, cs =>
    match skipBlanks cs with
    | '"' :: rest =>
      match quoted? rest with
      | none => none
      | some (key, rest) =>
        match skipBlanks rest with
        | ':' :: rest =>
          match value? fuel rest with
          | none => none
          | some (value, rest) =>
            match skipBlanks rest with
            | ',' :: rest => fields? fuel ((key, value) :: done) rest
            | '\x7d' :: rest => some (ofFields ((key, value) :: done).reverse, rest)
            | _ => none
        | _ => none
    | _ => none

end

/-! What is read behind the first character of a block or a text. -/

theorem value?_array (fuel : Nat) (rest : List Char) :
    value? (fuel + 1) ('[' :: rest) =
      match skipBlanks rest with
      | ']' :: rest => some (.array [], rest)
      | rest => items? fuel [] rest := rfl

theorem value?_object (fuel : Nat) (rest : List Char) :
    value? (fuel + 1) ('\x7b' :: rest) =
      match skipBlanks rest with
      | '\x7d' :: rest => some (.object [], rest)
      | rest => fields? fuel [] rest := rfl

theorem value?_text (fuel : Nat) (rest : List Char) :
    value? (fuel + 1) ('"' :: rest) =
      (quoted? rest).map fun (value, rest) =>
        match value with
        | some value => (.text value, rest)
        | none => (.unpaired, rest) := rfl

/-! Blanks in front change nothing. -/

theorem value?_skipBlanks (fuel : Nat) (cs : List Char) :
    value? fuel (skipBlanks cs) = value? fuel cs := by
  cases fuel with
  | zero => rfl
  | succ fuel => rw [value?, value?, skipBlanks_skipBlanks]

theorem items?_skipBlanks (fuel : Nat) (done : List Json) (cs : List Char) :
    items? fuel done (skipBlanks cs) = items? fuel done cs := by
  cases fuel with
  | zero => rfl
  | succ fuel => rw [items?, items?, value?_skipBlanks]

theorem fields?_skipBlanks (fuel : Nat) (done : List (Option String × Json)) (cs : List Char) :
    fields? fuel done (skipBlanks cs) = fields? fuel done cs := by
  cases fuel with
  | zero => rfl
  | succ fuel => rw [fields?, fields?, skipBlanks_skipBlanks]

def read? (source : String) : Option Json :=
  let cs := source.toList
  match value? (cs.length + 1) cs with
  | some (value, rest) => if (skipBlanks rest).isEmpty then some value else none
  | none => none

end DeviceSupport.Json
