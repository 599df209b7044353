/-! Events, and the primitives whose configuration raises them.

`changeEvent?` is the table that says which event a successful configuration of a primitive
raises. -/
namespace DeviceSupport
set_option autoImplicit false

structure EventType where
  code : UInt32
  deriving DecidableEq, Repr, Inhabited

namespace EventType

def connectedStandbyEntry : EventType := ⟨0⟩
def connectedStandbyExit : EventType := ⟨1⟩
def activeRelationshipChanged : EventType := ⟨2⟩
def thermalRelationshipChanged : EventType := ⟨3⟩
def configTdpCapsChanged : EventType := ⟨4⟩
def coreControlChanged : EventType := ⟨5⟩
def displayControlChanged : EventType := ⟨6⟩
def perfCapabilityChanged : EventType := ⟨7⟩
def perfControlChanged : EventType := ⟨8⟩
def powerCapabilityChanged : EventType := ⟨9⟩
def priorityChanged : EventType := ⟨10⟩
def tempThresholdCrossed : EventType := ⟨11⟩
def participantSpecChanged : EventType := ⟨17⟩
def participantCreate : EventType := ⟨18⟩
def participantDestroy : EventType := ⟨19⟩

/-- The named events, by number. -/
def known : List EventType :=
  [connectedStandbyEntry, connectedStandbyExit, activeRelationshipChanged,
    thermalRelationshipChanged, configTdpCapsChanged, coreControlChanged, displayControlChanged,
    perfCapabilityChanged, perfControlChanged, powerCapabilityChanged, priorityChanged,
    tempThresholdCrossed, participantSpecChanged, participantCreate, participantDestroy]

/-- Events that are shown by a name; the others are shown by number. -/
def names : List (EventType × String) :=
  [(activeRelationshipChanged, "APP_ACTIVE_RELATIONSHIP_CHANGED"),
    (thermalRelationshipChanged, "APP_THERMAL_RELATIONSHIP_CHANGED"),
    (participantSpecChanged, "PARTICIPANT_SPEC_INFO_CHANGED"),
    (participantCreate, "PARTICIPANT_CREATE"),
    (participantDestroy, "PARTICIPANT_DESTROY")]

instance : ToString EventType := ⟨fun t => (names.lookup t).getD s!"EVENT({t.code})"⟩

end EventType

/-! ## Primitives with effects of their own -/

namespace PrimitiveId

def getTemperature : UInt16 := 14
def getThresholdHysteresis : UInt16 := 15
def setTripPointActive : UInt16 := 200
def setTripPointCritical : UInt16 := 201
def setTripPointHot : UInt16 := 202
def setTripPointPassive : UInt16 := 203
def setTripPointWarm : UInt16 := 204
def setThermalRelationshipTable : UInt16 := 205
def setActiveRelationshipTable : UInt16 := 206

def known : List UInt16 :=
  [getTemperature, getThresholdHysteresis, setTripPointActive, setTripPointCritical,
    setTripPointHot, setTripPointPassive, setTripPointWarm, setThermalRelationshipTable,
    setActiveRelationshipTable]

def tripPoints : List UInt16 :=
  [setTripPointActive, setTripPointCritical, setTripPointHot, setTripPointPassive, setTripPointWarm]

end PrimitiveId

/-- The event raised by a successful configuration of primitive `id`. -/
def changeEvent? (id : UInt16) : Option EventType :=
  if id ∈ PrimitiveId.tripPoints then some .participantSpecChanged
  else if id = PrimitiveId.setThermalRelationshipTable then some .thermalRelationshipChanged
  else if id = PrimitiveId.setActiveRelationshipTable then some .activeRelationshipChanged
  else none

/-! ## Listeners -/

/-- What listeners are told: what happened, and to which domain of which participant. -/
structure Notice where
  participant : UInt8
  domain : UInt16
  event : EventType
  deriving DecidableEq, Repr, Inhabited

end DeviceSupport
