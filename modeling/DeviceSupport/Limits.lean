/-! Ceilings. A count above its ceiling is taken for damage, never for a legitimate size. -/
namespace DeviceSupport.Limits
set_option autoImplicit false

/-- The largest package file that is read, in bytes. -/
def packageSize : UInt64 := 4194304

def domains : UInt32 := 64

def primitivesPerDomain : UInt32 := 4096

def actionsPerPrimitive : UInt32 := 16

def algorithms : UInt32 := 256

def events : UInt32 := 512

/-- The longest text parameter after expansion, in bytes. -/
def parameterLength : Nat := 65536

end DeviceSupport.Limits
