import DeviceSupport.Bytes.Hexadecimal
import DeviceSupport.Package.Decode
import DeviceSupport.Package.Encode

/-! Containers: an image behind a directory of 16 bytes.

The directory has a signature, a version, and the offsets of two parts. The image is the second
part and reaches to the end; `Container.image` finds it and `Container.wrap` puts one behind a
directory. -/
namespace DeviceSupport.Container
set_option autoImplicit false

def directorySize : Nat := 16

def signature : List UInt8 := [0x40, 0x45, 0x44, 0x50]

def wrap (image : List UInt8) : List UInt8 :=
  signature ++ Package.number32 1 ++ Package.number32 directorySize ++
    Package.number32 directorySize ++ image

def image (container : List UInt8) : Except Fault (List UInt8) := do
  let (directory, _) ← (Cursor.ofBytes container).fixed "edp directory" directorySize
  let found ← directory.field 0 4
  if found ≠ signature then
    let shown := ", ".intercalate (found.map fun b => Hexadecimal.encode [b])
    throw (.malformedPackage s!"bad EDP signature [{shown}]")
  let offset ← directory.uint32 12
  if offset.toNat < directorySize ∨ container.length ≤ offset.toNat then
    throw (.malformedPackage
      s!"EDP fpc_offset {offset} outside container of {container.length} bytes")
  return container.drop offset.toNat

def decode (container : List UInt8) : Except Fault Profile := do
  Package.decode (← image container)

def encode (p : PackageSpec) : List UInt8 := wrap (Package.encode p)

end DeviceSupport.Container
