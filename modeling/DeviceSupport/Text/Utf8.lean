/-! Text as UTF-8 bytes.

* `encode` writes a text; every scalar takes one to four bytes.
* `decode` reads any bytes at all: a well-formed sequence is its scalar, and each maximal
  ill-formed part becomes one replacement character.
* `decode?` reads well-formed bytes only.

Reading is one pass: `Progress` says what the next byte may be. -/
namespace DeviceSupport.Utf8
set_option autoImplicit false

def encode (text : String) : List UInt8 := text.toList.flatMap String.utf8EncodeChar

/-- Stands for bytes that are no scalar. -/
def replacement : Char := Char.ofNat 0xFFFD

/-- Where reading stands between two bytes: between scalars, or inside one whose next byte must
lie in `low..high`, with `owed` more bytes after that one. -/
inductive Progress where
  | between
  | within (owed : Nat) (low high : UInt8) (value : Nat)
  deriving DecidableEq, Repr

/-- Reads the first byte of a scalar. The texts read so far are kept newest first. -/
def lead (done : List Char) (b : UInt8) : List Char × Progress :=
  let n := b.toNat
  if n < 0x80 then (Char.ofNat n :: done, .between)
  else if 0xC2 ≤ n ∧ n ≤ 0xDF then (done, .within 0 0x80 0xBF (n - 0xC0))
  else if n = 0xE0 then (done, .within 1 0xA0 0xBF 0)
  else if n = 0xED then (done, .within 1 0x80 0x9F 0xD)
  else if 0xE1 ≤ n ∧ n ≤ 0xEF then (done, .within 1 0x80 0xBF (n - 0xE0))
  else if n = 0xF0 then (done, .within 2 0x90 0xBF 0)
  else if 0xF1 ≤ n ∧ n ≤ 0xF3 then (done, .within 2 0x80 0xBF (n - 0xF0))
  else if n = 0xF4 then (done, .within 2 0x80 0x8F 4)
  else (replacement :: done, .between)

/-- One byte further. A byte that cannot continue a scalar ends the ill-formed part before it and
is read again as a first byte. -/
def step : List Char × Progress → UInt8 → List Char × Progress
  | (done, .between), b => lead done b
  | (done, .within owed low high value), b =>
    if low ≤ b ∧ b ≤ high then
      let value := value * 64 + (b.toNat - 0x80)
      match owed with
      | 0 => (Char.ofNat value :: done, .between)
      | owed + 1 => (done, .within owed 0x80 0xBF value)
    else lead (replacement :: done) b

def finish : List Char × Progress → List Char
  | (done, .between) => done.reverse
  | (done, .within ..) => (replacement :: done).reverse

def decode (bytes : List UInt8) : String :=
  String.ofList (finish (bytes.foldl step ([], .between)))

/-- The text of well-formed bytes: what is read back is what was there. -/
def decode? (bytes : List UInt8) : Option String :=
  let text := decode bytes
  if encode text = bytes then some text else none

/-- The bytes before the first NUL, or all of them. -/
def beforeNul (bytes : List UInt8) : List UInt8 := bytes.takeWhile (· ≠ 0)

/-- A text field: its bytes up to the first NUL. -/
def decodeField (bytes : List UInt8) : String := decode (beforeNul bytes)

end DeviceSupport.Utf8
