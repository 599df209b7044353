import DeviceSupport.Profile
import DeviceSupport.Text.Column

/-! A profile as lines of text: its descriptor, then a section for each kind of record, and one for
duplicates where there are any. -/
namespace DeviceSupport
set_option autoImplicit false

/-! ## Records -/

def Descriptor.summary (d : Descriptor) : List String :=
  [s!"DSP {d.code} v{d.majorVersion}.{d.minorVersion}", "==============="] ++
  (if d.description = "" then [] else [s!"Description: {d.description}"]) ++
  [s!"Bus:         {d.bus}",
    s!"ACPI:        device={d.acpiDevice} type={d.acpiType} uid={d.acpiUid} scope={d.acpiScope}",
    s!"PCI:         vendor={d.pciVendorId} device={d.pciDeviceId} bus={d.pciBus} " ++
      s!"function={d.pciFunction}"]

def Domain.summary (d : Domain) : String :=
  s!"{Column.left 4 d.qualifierText} {Column.left 16 d.name} type={d.domainType} " ++
    s!"priority={d.priority} primitives={d.primitiveCount}"

def Action.summary (a : Action) : String :=
  (if a.isKernel then "k:" else "u:") ++ toString a.actionType.code

def Primitive.summary (p : Primitive) : String :=
  s!"{p.tuple} {p.opcode.label} [" ++ ", ".intercalate (p.actions.map (·.summary)) ++ "]"

def Algorithm.summary (a : Algorithm) : String :=
  s!"action_type={a.actionType.code} temp={a.temperature} power={a.power} time={a.time} " ++
    s!"tc1={a.constant1} tc2={a.constant2}"

def Event.summary (e : Event) : String :=
  s!"{Column.left 32 e.name} type={e.eventType.code} group={e.group}"

def Duplicate.summary (d : Duplicate) : String := s!"{d.tuple} (record {d.position} shadowed)"

/-! ## Sections -/

/-- Items under a title with their number, behind a blank line. -/
def titled (title : String) (items : List String) : List String :=
  ["", s!"{title} ({items.length}):"] ++ items.map ("  " ++ ·)

def Profile.summary (p : Profile) : List String :=
  p.descriptor.summary ++
  titled "Domains" (p.domains.map (·.summary)) ++
  titled "Primitives" (p.primitives.toList.map (·.summary)) ++
  titled "Algorithms" (p.algorithms.map (·.summary)) ++
  titled "Events" (p.events.map (·.summary)) ++
  (if p.duplicates.isEmpty then []
  else titled "Duplicate tuples" (p.duplicates.map (·.summary)))

end DeviceSupport
