/-! Action types: the numbers that say which backend runs an action. -/
namespace DeviceSupport
set_option autoImplicit false

structure ActionType where
  code : UInt32
  deriving DecidableEq, Repr, Inhabited

namespace ActionType

def acpi : ActionType := ⟨1⟩
def acpiLpat : ActionType := ⟨2⟩
def native : ActionType := ⟨3⟩
def config : ActionType := ⟨4⟩
def const : ActionType := ⟨5⟩
def delegate : ActionType := ⟨6⟩
def kernelCode : ActionType := ⟨7⟩
/-- Lowest acceptable level; its hysteresis readings are in thousandths of a degree. -/
def lal : ActionType := ⟨8⟩
def mmio : ActionType := ⟨9⟩
def msr : ActionType := ⟨10⟩
def sysfs : ActionType := ⟨11⟩
def systemPort : ActionType := ⟨12⟩
def storedVariable : ActionType := ⟨13⟩

def names : List (ActionType × String) :=
  [(acpi, "ACPI"), (acpiLpat, "ACPILPAT"), (native, "CODE"), (config, "CONFIG"), (const, "CONST"),
    (delegate, "DELEGATE"), (kernelCode, "KODE"), (lal, "LAL"), (mmio, "MMIO"), (msr, "MSR"),
    (sysfs, "SYSFS"), (systemPort, "SYSTEMIO"), (storedVariable, "VAR")]

def name (t : ActionType) : String := (names.lookup t).getD "UNKNOWN"

instance : ToString ActionType := ⟨fun t => s!"{t.name}({t.code})"⟩

end ActionType

end DeviceSupport
