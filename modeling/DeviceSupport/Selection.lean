import DeviceSupport.Registry
import DeviceSupport.Text.Quoted

/-! Choosing the profile for a device.

What a bus reports about a device (`Criteria`) is compared field by field with a descriptor. A field
that is blank or a wildcard on either side says nothing; a field that differs rules the descriptor
out; an equal field adds its weight. The weights are powers of two, so that a field outweighs all
the lesser ones together. The highest score wins, and the first-loaded of equals. -/
namespace DeviceSupport
set_option autoImplicit false

inductive Criteria where
  | acpi (device type uid scope : String)
  | pci (vendor device bus function : String)
  | platform (kind name : String)
  deriving DecidableEq, Repr, Inhabited

/-- One field of a descriptor beside the field of the criteria. -/
structure Comparison where
  offered : String
  wanted : String
  weight : Nat
  deriving DecidableEq, Repr, Inhabited

namespace Comparison

def wildcard : String := "*"

/-- Says nothing about a device. -/
def isVague (field : String) : Bool := field = "" || field = wildcard

/-- Both sides say something. -/
def counts (c : Comparison) : Bool := !isVague c.offered && !isVague c.wanted

def isMatch (c : Comparison) : Bool := c.counts && c.offered = c.wanted

def isMismatch (c : Comparison) : Bool := c.counts && c.offered ≠ c.wanted

/-- The weights of the fields that are equal. -/
def total : List Comparison → Nat
  | [] => 0
  | c :: rest => (if c.isMatch then c.weight else 0) + total rest

end Comparison

namespace Criteria

def bus : Criteria → Bus
  | .acpi .. => .acpi
  | .pci .. => .pci
  | .platform .. => .platform

def compare (c : Criteria) (d : Descriptor) : List Comparison :=
  match c with
  | .acpi device type uid scope =>
    [⟨d.acpiDevice, device, 8⟩, ⟨d.acpiType, type, 4⟩, ⟨d.acpiUid, uid, 2⟩, ⟨d.acpiScope, scope, 1⟩]
  | .pci vendor device bus function =>
    [⟨d.pciDeviceId, device, 8⟩, ⟨d.pciVendorId, vendor, 4⟩, ⟨d.pciBus, bus, 2⟩,
      ⟨d.pciFunction, function, 1⟩]
  | .platform kind name => [⟨d.kind, kind, 2⟩, ⟨d.name, name, 1⟩]

/-- The score of a descriptor, if it is a candidate. -/
def score (c : Criteria) (d : Descriptor) : Option Nat :=
  if d.bus ≠ c.bus then none
  else
    let fields := c.compare d
    if fields.any (·.isMismatch) then none
    else some (Comparison.total fields)

/-- Criteria as they are shown in messages. -/
def describe : Criteria → String
  | .acpi device type uid scope =>
    "Acpi \x7b device: " ++ Quoted.quote device ++ ", acpi_type: " ++ Quoted.quote type ++
      ", uid: " ++ Quoted.quote uid ++ ", scope: " ++ Quoted.quote scope ++ " \x7d"
  | .pci vendor device bus function =>
    "Pci \x7b vendor: " ++ Quoted.quote vendor ++ ", device: " ++ Quoted.quote device ++
      ", bus: " ++ Quoted.quote bus ++ ", function: " ++ Quoted.quote function ++ " \x7d"
  | .platform kind name =>
    "Platform \x7b dsp_type: " ++ Quoted.quote kind ++ ", name: " ++ Quoted.quote name ++ " \x7d"

end Criteria

/-! ## Over a registry -/

namespace Registry

/-- Keeps the better of two, the first of equals. -/
def better (c : Criteria) (best : Option (ProfileId × Nat)) (entry : ProfileId × Profile) :
    Option (ProfileId × Nat) :=
  match c.score entry.2.descriptor, best with
  | none, best => best
  | some score, none => some (entry.1, score)
  | some score, some (id, top) => if top < score then some (entry.1, score) else some (id, top)

/-- The best profile and its score. -/
def selectScored (r : Registry) (c : Criteria) : Option (ProfileId × Nat) :=
  r.entries.foldl (better c) none

def select (r : Registry) (c : Criteria) : Option ProfileId := (r.selectScored c).map (·.1)

end Registry

/-! ## By name -/

namespace Participant

def fallbackCode : String := "dpf_fgen"

/-- Conventional profile codes of participant names. -/
def codesByName : List (String × String) :=
  [("TFN1", "dpf_fan"), ("TFN2", "dpf_fan"), ("TMEM", "dpf_cmem"), ("TAMB", "dpf_fgen"),
    ("TEFN", "dpf_fgen"), ("TSKN", "dpf_fgen"), ("T_VR", "dpf_fgen"), ("FGEN", "dpf_fgen"),
    ("TINL", "dpf_fgen"), ("GEN1", "dpf_fgen"), ("TCHG", "dpf_fgen"), ("GEN2", "dpf_fgen"),
    ("DPLY", "dpf_disp"), ("TPWR", "dpf_pwr"), ("WIFI", "dpf_wifi"), ("WGIG", "dpf_wgig"),
    ("WWAN", "dpf_wwan"), ("TCPU", "shb_proc"), ("B0DB", "dpf_proc"), ("B0D4", "dpf_proc"),
    ("TPCH", "shb_pch"), ("IETM", "dpf_dptf"), ("DPTFZ", "dpf_dptf"), ("WPKG", "dpf_wpkg"),
    ("VTS1", "dpf_virt"), ("VTS2", "dpf_virt")]

/-- The profile code that a participant's name suggests. -/
def conventionalCode (name : String) : String := (codesByName.lookup name).getD fallbackCode

end Participant

/-- The first-loaded profile with the code that a participant's name suggests. -/
def Registry.selectByName (r : Registry) (name : String) : Option ProfileId :=
  (r.findByCode? (Participant.conventionalCode name)).map (·.1)

end DeviceSupport
