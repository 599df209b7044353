import DeviceSupport.Json
import DeviceSupport.Participant
import DeviceSupport.Profile

/-! Profiles and participants as JSON. The fields of every object stand in alphabetical order. -/
namespace DeviceSupport
set_option autoImplicit false

/-! ## Leaves -/

/-- A choice that has a number instead of a name. -/
def Json.ofOther (number : UInt32) : Json := .object [("Other", toJson number)]

instance : ToJson Tuple where
  toJson t :=
    .object [("domain", toJson t.domain), ("id", toJson t.id), ("instance", toJson t.instanceId)]

instance : ToJson Bus where
  toJson
    | .other code => Json.ofOther code
    | bus => .text (toString bus)

instance : ToJson EventGroup where
  toJson
    | .other number => Json.ofOther number
    | group => .text (toString group)

/-! ## Records -/

instance : ToJson Descriptor where
  toJson d :=
    .object
      [("acpi_device", toJson d.acpiDevice), ("acpi_scope", toJson d.acpiScope),
        ("acpi_type", toJson d.acpiType), ("acpi_uid", toJson d.acpiUid),
        ("bus_enum", toJson d.bus), ("code", toJson d.code),
        ("description", toJson d.description), ("dsp_type", toJson d.kind),
        ("name", toJson d.name), ("pci_bus", toJson d.pciBus), ("pci_class", toJson d.pciClass),
        ("pci_device", toJson d.pciDevice), ("pci_device_id", toJson d.pciDeviceId),
        ("pci_function", toJson d.pciFunction), ("pci_prog_if", toJson d.pciProgIf),
        ("pci_revision", toJson d.pciRevision), ("pci_sub_class", toJson d.pciSubClass),
        ("pci_vendor_id", toJson d.pciVendorId), ("ver_major", toJson d.majorVersion),
        ("ver_minor", toJson d.minorVersion)]

instance : ToJson Capability where
  toJson c :=
    .object [("count", toJson c.count), ("flags", toJson c.flags), ("mask", toJson c.mask)]

instance : ToJson Domain where
  toJson d :=
    .object
      [("capability", toJson d.capability), ("description", toJson d.description),
        ("domain_type", toJson d.domainType), ("guid", toJson d.guid), ("name", toJson d.name),
        ("number_of_primitives", toJson d.primitiveCount), ("priority", toJson d.priority),
        ("qualifier", toJson d.qualifier), ("size", toJson d.size)]

instance : ToJson Param where
  toJson
    | .text value => .object [("Str", toJson value)]
    | .number value => .object [("U32", toJson value)]

instance : ToJson Action where
  toJson a :=
    .object
      [("action_type", toJson a.actionType.code), ("is_kernel", toJson a.isKernel),
        ("params", toJson a.params), ("priority", toJson a.priority), ("size", toJson a.size)]

instance : ToJson Primitive where
  toJson p :=
    .object
      [("actions", toJson p.actions), ("operation", toJson p.operation),
        ("request_schema", toJson p.requestSchema), ("request_type", toJson p.requestType),
        ("result_schema", toJson p.resultSchema), ("result_type", toJson p.resultType),
        ("size", toJson p.size), ("tuple", toJson p.tuple)]

instance : ToJson Algorithm where
  toJson a :=
    .object
      [("action_type", toJson a.actionType.code), ("power_xform", toJson a.power),
        ("size", toJson a.size), ("temp_c1", toJson a.constant1),
        ("temp_c2", toJson a.constant2), ("temp_xform", toJson a.temperature),
        ("time_xform", toJson a.time)]

instance : ToJson Event where
  toJson e :=
    .object
      [("data_type", toJson e.dataType), ("event_guid", toJson e.guid),
        ("event_key", toJson e.key), ("event_type", toJson e.eventType.code),
        ("group", toJson e.group), ("name", toJson e.name)]

instance : ToJson Duplicate where
  toJson d :=
    .object [("position", toJson d.position), ("tuple", toJson d.tuple)]

/-! ## Wholes -/

instance : ToJson Profile where
  toJson p :=
    .object
      [("algorithms", toJson p.algorithms), ("declared_size", toJson p.declaredSize),
        ("descriptor", toJson p.descriptor), ("domains", toJson p.domains),
        ("duplicates", toJson p.duplicates), ("events", toJson p.events),
        ("primitives", toJson p.primitives.toList)]

instance : ToJson Criteria where
  toJson
    | .acpi device type uid scope =>
      .object
        [("Acpi", .object
          [("acpi_type", toJson type), ("device", toJson device), ("scope", toJson scope),
            ("uid", toJson uid)])]
    | .pci vendor device bus function =>
      .object
        [("Pci", .object
          [("bus", toJson bus), ("device", toJson device), ("function", toJson function),
            ("vendor", toJson vendor)])]
    | .platform kind name =>
      .object [("Platform", .object [("dsp_type", toJson kind), ("name", toJson name)])]

instance : ToJson ParticipantInfo where
  toJson i :=
    .object
      [("criteria", toJson i.criteria), ("device_path", toJson i.devicePath),
        ("name", toJson i.name)]

end DeviceSupport
