import DeviceSupport.Bytes.LittleEndian
import DeviceSupport.DataType
import DeviceSupport.Fault
import DeviceSupport.Text.Utf8

/-! The request or the response of a primitive.

A `DataBuffer` has a type, its bytes, and the number of bytes last produced, which after a write
that did not fit is the number it would have taken. The bytes' own length is the capacity; it
changes only by `reallocate`. -/
namespace DeviceSupport
set_option autoImplicit false

structure DataBuffer where
  dataType : DataType
  bytes : List UInt8
  dataLength : UInt32
  /-- Whether the caller left the size open. -/
  sizeOpen : Bool
  deriving DecidableEq, Repr, Inhabited

namespace DataBuffer

/-! ## Making buffers -/

/-- Zeros, with nothing produced. -/
def zeroed (dataType : DataType) (capacity : Nat) : DataBuffer :=
  ⟨dataType, List.replicate capacity 0, 0, false⟩

/-- A response whose size is left open. -/
def allocate (dataType : DataType) : DataBuffer := ⟨dataType, [], 0, true⟩

def void : DataBuffer := zeroed .void 0

def ofBytes (dataType : DataType) (bytes : List UInt8) : DataBuffer :=
  ⟨dataType, bytes, UInt32.ofNat bytes.length, false⟩

def ofUInt32 (dataType : DataType) (value : UInt32) : DataBuffer :=
  ofBytes dataType (LittleEndian.ofUInt32 value)

/-- The bytes of a text with a NUL behind them. -/
def terminated (text : String) : List UInt8 := Utf8.encode text ++ [0]

def ofText (text : String) : DataBuffer := ofBytes .string (terminated text)

/-! ## Reading -/

def capacity (b : DataBuffer) : Nat := b.bytes.length

def needsAllocation (b : DataBuffer) : Bool := b.sizeOpen && b.bytes.isEmpty

/-- The bytes produced. -/
def data (b : DataBuffer) : List UInt8 := b.bytes.take b.dataLength.toNat

def uint32? (b : DataBuffer) : Option UInt32 :=
  if 4 ≤ b.capacity then some (LittleEndian.toUInt32 (b.bytes.take 4)) else none

def uint64? (b : DataBuffer) : Option UInt64 :=
  if 8 ≤ b.capacity then some (LittleEndian.toUInt64 (b.bytes.take 8)) else none

/-- The bytes up to the first NUL as text. -/
def text (b : DataBuffer) : String := Utf8.decodeField b.bytes

/-! ## Writing -/

def reallocate (b : DataBuffer) (capacity : Nat) : DataBuffer :=
  ⟨b.dataType, List.replicate capacity 0, 0, false⟩

/-- Zeros of the same number. -/
def clear (b : DataBuffer) : DataBuffer :=
  { b with bytes := List.replicate b.capacity 0, dataLength := 0 }

/-- Puts bytes at the front. When they do not fit, no byte changes but the length is set all the
same, so that it tells how much is needed. -/
def write (b : DataBuffer) (bytes : List UInt8) : Except Fault Unit × DataBuffer :=
  let length := UInt32.ofNat bytes.length
  if b.capacity < bytes.length then
    (.error (.needLargerBuffer length), { b with dataLength := length })
  else (.ok (), { b with bytes := bytes ++ b.bytes.drop bytes.length, dataLength := length })

def writeUInt32 (b : DataBuffer) (value : UInt32) : Except Fault Unit × DataBuffer :=
  b.write (LittleEndian.ofUInt32 value)

def writeText (b : DataBuffer) (text : String) : Except Fault Unit × DataBuffer :=
  b.write (terminated text)

/-- Sets one byte; none when it lies outside. -/
def poke? (b : DataBuffer) (offset : Nat) (value : UInt8) : Option DataBuffer :=
  if offset < b.capacity then some { b with bytes := b.bytes.set offset value } else none

end DataBuffer

end DeviceSupport
