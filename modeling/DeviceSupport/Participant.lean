import DeviceSupport.Selection

/-! Participants: enumerated devices, each bound to at most one profile.

A new participant takes the lowest free id. Id 0 is the framework itself, and 254 and 255 are
reserved. -/
namespace DeviceSupport
set_option autoImplicit false

/-- What an enumerator reports about a device. -/
structure ParticipantInfo where
  name : String
  devicePath : String
  criteria : Criteria
  deriving DecidableEq, Repr, Inhabited

structure Participant where
  id : UInt8
  info : ParticipantInfo
  /-- The profile as it was when it was bound. -/
  bound : Option (ProfileId × Profile) := none
  deriving DecidableEq, Repr, Inhabited

namespace Participant

def firstId : UInt8 := 1

def lastId : UInt8 := 253

/-- All ids that a participant can have, lowest first. -/
def ids : List UInt8 :=
  (List.range' firstId.toNat (lastId.toNat + 1 - firstId.toNat)).map UInt8.ofNat

end Participant

/-- The live participants, by ascending id. -/
structure ParticipantTable where
  entries : List Participant := []
  deriving DecidableEq, Repr, Inhabited

namespace ParticipantTable

def find? (t : ParticipantTable) (id : UInt8) : Option Participant :=
  t.entries.find? (·.id = id)

def findByName? (t : ParticipantTable) (name : String) : Option Participant :=
  t.entries.find? (·.info.name = name)

/-- The lowest id that no participant has. -/
def freeId? (t : ParticipantTable) : Option UInt8 :=
  Participant.ids.find? fun id => (t.find? id).isNone

/-- Puts a participant in its place among the ids. -/
def place (p : Participant) : List Participant → List Participant
  | [] => [p]
  | q :: entries => if p.id < q.id then p :: q :: entries else q :: place p entries

def insert (t : ParticipantTable) (info : ParticipantInfo) :
    Except Fault (Participant × ParticipantTable) :=
  match t.freeId? with
  | some id =>
    let participant : Participant := { id, info }
    .ok (participant, ⟨place participant t.entries⟩)
  | none =>
    .error (.resourceExhausted "participant" (UInt32.ofNat t.entries.length)
      (UInt32.ofNat Participant.ids.length))

/-- Takes a participant out; without it nothing changes. -/
def remove (t : ParticipantTable) (id : UInt8) : Option Participant × ParticipantTable :=
  (t.find? id, ⟨t.entries.filter (·.id ≠ id)⟩)

/-- Gives a participant another binding. -/
def bind (t : ParticipantTable) (id : UInt8) (bound : Option (ProfileId × Profile)) :
    ParticipantTable :=
  ⟨t.entries.map fun p => if p.id = id then { p with bound } else p⟩

end ParticipantTable

end DeviceSupport
