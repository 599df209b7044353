import DeviceSupport.Text.Blank

/-! Which log filter applies. -/
namespace DeviceSupport
set_option autoImplicit false

/-- The flag, else the environment; but the configured filter when that one is missing or blank.
A blank flag hides the environment. -/
def chooseLogFilter (flag environment : Option String) (configured : String) : String :=
  match flag.or environment with
  | some filter => if isBlankText filter then configured else filter
  | none => configured

end DeviceSupport
