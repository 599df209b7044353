import DeviceSupport.Bytes.LittleEndian
import DeviceSupport.Fault
import DeviceSupport.Text.Utf8

/-! A bounds-checked walk over an image.

* A `Cursor` stands at a position of an image and holds the bytes from there on. `fixed` takes a
  record of a given length, `chained` one that gives its own size in its first four bytes; a
  call that fails takes nothing.
* A `Record` is a stretch of bytes with a name for faults. Its fields are read by their offset in
  the record, and `Record.body` walks the bytes after a header. -/
namespace DeviceSupport
set_option autoImplicit false

structure Record where
  name : String
  /-- Where the record starts in the bytes it was taken from. -/
  offset : Nat
  bytes : List UInt8
  deriving DecidableEq, Repr, Inhabited

structure Cursor where
  position : Nat
  rest : List UInt8
  deriving DecidableEq, Repr, Inhabited

/-! ## Walking -/

namespace Cursor

def ofBytes (image : List UInt8) : Cursor := ⟨0, image⟩

/-- A cursor at `position`, which may be the end. -/
def startAt (image : List UInt8) (position : Nat) : Except Fault Cursor :=
  if position ≤ image.length then .ok ⟨position, image.drop position⟩
  else .error (.packageShort "offset" position 0 0)

def remaining (c : Cursor) : Nat := c.rest.length

/-- The next `length` bytes as a record; the cursor stays. -/
def view (c : Cursor) (name : String) (length : Nat) : Except Fault Record :=
  let bytes := c.rest.take length
  if bytes.length = length then .ok ⟨name, c.position, bytes⟩
  else .error (.packageShort name c.position length c.remaining)

def advance (c : Cursor) (length : Nat) : Cursor := ⟨c.position + length, c.rest.drop length⟩

def fixed (c : Cursor) (name : String) (length : Nat) : Except Fault (Record × Cursor) := do
  let record ← c.view name length
  return (record, c.advance length)

/-- Takes a record that declares its size; a size that does not cover its header is refused. -/
def chained (c : Cursor) (name : String) (header : Nat) : Except Fault (Record × Cursor) := do
  let head ← c.view name 4
  let size := LittleEndian.toUInt32 head.bytes
  if size.toNat < header then throw (.recordSizeInvalid name c.position size)
  let record ← c.view name size.toNat
  return (record, c.advance size.toNat)

/-- Reads `count` items one after the other. -/
def many {α : Type} (read : Cursor → Except Fault (α × Cursor)) :
    Nat → Cursor → Except Fault (List α × Cursor)
  | 0, c => .ok ([], c)
  | count + 1, c => do
    let (item, c) ← read c
    let (items, c) ← many read count c
    return (item :: items, c)

end Cursor

/-! ## Fields -/

namespace Record

def length (r : Record) : Nat := r.bytes.length

/-- The `length` bytes at an offset in the record. A fault gives the place as a word of 64 bits. -/
def field (r : Record) (offset length : Nat) : Except Fault (List UInt8) :=
  if offset + length ≤ r.length then .ok ((r.bytes.drop offset).take length)
  else
    let place := (r.offset + offset) % UInt64.size
    .error (.packageShort r.name place length (r.length - offset))

def uint8 (r : Record) (offset : Nat) : Except Fault UInt8 := do
  let bytes ← r.field offset 1
  return UInt8.ofNat (LittleEndian.decode bytes)

def uint16 (r : Record) (offset : Nat) : Except Fault UInt16 := do
  let bytes ← r.field offset 2
  return LittleEndian.toUInt16 bytes

def uint32 (r : Record) (offset : Nat) : Except Fault UInt32 := do
  let bytes ← r.field offset 4
  return LittleEndian.toUInt32 bytes

/-- A text field of fixed width, cut at the first NUL. -/
def text (r : Record) (offset length : Nat) : Except Fault String := do
  let bytes ← r.field offset length
  return Utf8.decodeField bytes

/-- A cursor over the record's own bytes, behind its header. -/
def body (r : Record) (header : Nat) : Except Fault Cursor := Cursor.startAt r.bytes header

end Record

end DeviceSupport
