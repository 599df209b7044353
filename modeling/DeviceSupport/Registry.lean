import DeviceSupport.Profile

/-! The loaded profiles.

Each profile gets a handle when it is registered; handles count up and are not used again. Profiles
keep the order in which they were loaded. -/
namespace DeviceSupport
set_option autoImplicit false

structure ProfileId where
  number : UInt32
  deriving DecidableEq, Repr, Inhabited

instance : ToString ProfileId := ⟨fun id => s!"dsp#{id.number}"⟩

structure Registry where
  nextId : UInt32 := 0
  /-- In load order. -/
  entries : List (ProfileId × Profile) := []
  deriving DecidableEq, Repr, Inhabited

namespace Registry

def register (r : Registry) (profile : Profile) : ProfileId × Registry :=
  let id : ProfileId := ⟨r.nextId⟩
  (id, { nextId := r.nextId + 1, entries := r.entries ++ [(id, profile)] })

def get? (r : Registry) (id : ProfileId) : Option Profile := Table.get? id r.entries

/-- The first-loaded profile with a code. -/
def findByCode? (r : Registry) (code : String) : Option (ProfileId × Profile) :=
  r.entries.find? (·.2.code = code)

/-- Takes a profile out; without it nothing changes. -/
def unload (r : Registry) (id : ProfileId) : Option Profile × Registry :=
  (r.get? id, { r with entries := Table.erase id r.entries })

end Registry

end DeviceSupport
