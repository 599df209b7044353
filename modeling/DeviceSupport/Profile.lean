import DeviceSupport.Profile.Records
import DeviceSupport.Fault
import DeviceSupport.Profile.TupleTable

/-! A profile: everything that a package says about one kind of device.

Primitives keep the order of the package and are looked up by tuple. Where several have one tuple,
the first is the one found; each later one is listed in `duplicates` with its position. -/
namespace DeviceSupport
set_option autoImplicit false

/-- A primitive that an earlier one with the same tuple hides. -/
structure Duplicate where
  tuple : Tuple
  position : Nat
  deriving DecidableEq, Repr, Inhabited

structure Profile where
  descriptor : Descriptor
  /-- The size that the package gives itself. -/
  declaredSize : UInt32
  domains : List Domain := []
  primitives : Array Primitive := #[]
  positions : TupleTable := TupleTable.empty
  algorithms : List Algorithm := []
  events : List Event := []
  duplicates : List Duplicate := []
  deriving DecidableEq, Repr, Inhabited

namespace Profile

def code (p : Profile) : String := p.descriptor.code

/-! ## Adding records -/

/-- Adds a primitive; the answer says whether its tuple is new. -/
def insertPrimitive (p : Profile) (primitive : Primitive) : Bool × Profile :=
  let position := p.primitives.size
  let isNew := (p.positions.chain primitive.tuple).isEmpty
  (isNew,
    { p with
      primitives := p.primitives.push primitive
      positions := p.positions.push primitive.tuple position
      duplicates :=
        if isNew then p.duplicates else p.duplicates ++ [⟨primitive.tuple, position⟩] })

def insertPrimitives (p : Profile) (primitives : List Primitive) : Profile :=
  primitives.foldl (fun p primitive => (p.insertPrimitive primitive).2) p

def insertDomain (p : Profile) (domain : Domain) : Profile :=
  { p with domains := p.domains ++ [domain] }

def insertAlgorithm (p : Profile) (algorithm : Algorithm) : Profile :=
  { p with algorithms := p.algorithms ++ [algorithm] }

def insertEvent (p : Profile) (event : Event) : Profile :=
  { p with events := p.events ++ [event] }

/-! ## Looking up -/

/-- All primitives with a tuple, the one that look-ups find first. -/
def primitiveChain (p : Profile) (tuple : Tuple) : List Primitive :=
  (p.positions.chain tuple).filterMap (p.primitives[·]?)

/-- The first primitive with a tuple. -/
def primitive? (p : Profile) (tuple : Tuple) : Option Primitive :=
  (p.positions.chain tuple).head?.bind (p.primitives[·]?)

/-- The first algorithm for an action type. -/
def algorithm? (p : Profile) (actionType : ActionType) : Option Algorithm :=
  p.algorithms.find? (·.actionType = actionType)

/-- The `n`-th domain, counted from one. -/
def domain? (p : Profile) (n : Nat) : Option Domain := if n = 0 then none else p.domains[n - 1]?

def domainByQualifier? (p : Profile) (qualifier : UInt16) : Option Domain :=
  p.domains.find? (·.qualifier = qualifier)

def eventByType? (p : Profile) (eventType : EventType) : Option Event :=
  p.events.find? (·.eventType = eventType)

def eventByGuid? (p : Profile) (guid : List UInt8) : Option Event :=
  p.events.find? (·.guid = guid)

def eventByName? (p : Profile) (name : String) : Option Event := p.events.find? (·.name = name)

end Profile

end DeviceSupport
