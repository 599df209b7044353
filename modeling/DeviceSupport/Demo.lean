import DeviceSupport.Context

/-! A walkthrough of a dispatch.

A processor profile is bound to a participant. A get of its temperature is answered by a stand-in
for the kernel in tenths of a Kelvin and comes back in degrees Celsius; a passive trip point is set
through the configuration handler and read back from its store. -/
namespace DeviceSupport.Demo
set_option autoImplicit false

/-! ## The package -/

def profileCode : String := "shb_proc"

def acpiDevice : String := "INT3401"

def getTemperature : PrimitiveSpec where
  opcode := .get
  tuple := Tuple.ofQualifier PrimitiveId.getTemperature "D0" 255
  requestType := DataType.void.code
  resultType := DataType.temperature.code
  actions := [{ actionType := .msr, isKernel := true }]

def setPassiveTripPoint : PrimitiveSpec where
  opcode := .set
  tuple := Tuple.ofQualifier PrimitiveId.setTripPointPassive "D0" 255
  requestType := DataType.temperature.code
  resultType := DataType.void.code
  actions :=
    [ActionSpec.withParam { actionType := .config, isKernel := false } 0
      (.text (NameToken.token ++ "/_PSV"))]

def package : PackageSpec :=
  let named := PackageSpec.named profileCode
  { named with
    descriptor :=
      Descriptor.onAcpi { named.descriptor with description := "Processor participant" }
        acpiDevice "" ""
    domains :=
      [{ name := "CPU", qualifier := "D0", primitives := [getTemperature, setPassiveTripPoint] }]
    algorithms :=
      [{ actionType := .msr, temperature := ConversionKind.temperatureDeciKelvin.code },
        { actionType := .config, temperature := ConversionKind.temperatureNone.code }] }

/-! ## The walkthrough -/

/-- The kernel's reading, in tenths of a Kelvin. -/
def reading : UInt32 := 2931

/-- The trip point that is set, in degrees Celsius. -/
def tripPoint : UInt32 := 95

def participantInfo : ParticipantInfo where
  name := "TCPU"
  devicePath := "\\_SB_.PCI0.TCPU"
  criteria := .acpi acpiDevice "" "" ""

structure Report where
  profileCode : String
  participant : UInt8
  reading : UInt32
  temperature : UInt32
  tripPoint : UInt32
  deriving DecidableEq, Repr, Inhabited

/-- A context whose kernel side has a temperature to report. -/
def context : Context Context.Stores :=
  let key : Message.Loopback.Key :=
    ⟨PrimitiveId.getTemperature.toUInt32, Qualifier.code "D0", 255, 0⟩
  let c := Context.standalone
  { c with
    world := { loopback := c.world.loopback.preload key (LittleEndian.ofUInt32 reading) } }

/-- Runs a primitive of the processor's domain; the answer is the response. -/
def execute (c : Context Context.Stores) (participant : UInt8) (id : UInt16)
    (request response : DataBuffer) : Except Fault (DataBuffer × Context Context.Stores) :=
  let (d, c) := c.execute ⟨participant, id, "D0", 255⟩ request response
  d.result.map fun _ => (d.response, c)

def run : Except Fault Report := do
  let profile ← Package.decode (Package.encode package)
  let (_, c) := context.register profile
  let (participant, c) ←
    match c.create participantInfo with
    | (.ok participant, c) => pure (participant, c)
    | (.error fault, _) => throw fault
  let (temperature, c) ←
    execute c participant.id PrimitiveId.getTemperature .void (.allocate .auto)
  let (_, c) ←
    execute c participant.id PrimitiveId.setTripPointPassive
      (.ofUInt32 .temperature tripPoint) .void
  let key := Params.ofList [some (.text "TCPU.D0/_PSV")]
  let (outcome, stored) := c.world.config.read key (.zeroed .temperature 4)
  outcome
  return {
    profileCode := (participant.bound.map (·.2.code)).getD ""
    participant := participant.id
    reading
    temperature := temperature.uint32?.getD 0
    tripPoint := stored.uint32?.getD 0 }

instance : ToJson Report where
  toJson r :=
    .object
      [("dsp_code", toJson r.profileCode), ("participant_id", toJson r.participant),
        ("raw_deci_kelvin", toJson r.reading), ("temperature_c", toJson r.temperature),
        ("passive_trip_c", toJson r.tripPoint)]

end DeviceSupport.Demo
