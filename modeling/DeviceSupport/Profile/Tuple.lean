import DeviceSupport.Text.Column
import DeviceSupport.Text.Utf8

/-! What identifies a primitive: its id, the code of its domain, and an instance number.

A domain is named by a qualifier of two characters. Its code holds the qualifier's first two bytes,
the first in the low half. -/
namespace DeviceSupport
set_option autoImplicit false

namespace Qualifier

def code (qualifier : String) : UInt16 :=
  match Utf8.encode qualifier with
  | [] => 0
  | [low] => UInt16.ofNat low.toNat
  | low :: high :: _ => UInt16.ofNat (low.toNat + 256 * high.toNat)

/-- The bytes of a code as characters, up to the first NUL. -/
def text (code : UInt16) : String :=
  let bytes := [code.toNat % 256, code.toNat / 256]
  String.ofList ((bytes.takeWhile (· ≠ 0)).map Char.ofNat)

end Qualifier

structure Tuple where
  id : UInt16
  domain : UInt16
  instanceId : UInt8
  deriving DecidableEq, Repr, Inhabited

namespace Tuple

def ofQualifier (id : UInt16) (qualifier : String) (instanceId : UInt8) : Tuple :=
  ⟨id, Qualifier.code qualifier, instanceId⟩

def qualifier (t : Tuple) : String := Qualifier.text t.domain

instance : ToString Tuple :=
  ⟨fun t =>
    s!"<{Column.digits 3 t.id.toNat} {t.qualifier} {Column.digits 3 t.instanceId.toNat}>"⟩

end Tuple

end DeviceSupport
