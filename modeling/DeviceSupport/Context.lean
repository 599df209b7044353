import DeviceSupport.Action.Builtin
import DeviceSupport.Dispatch
import DeviceSupport.Loader
import DeviceSupport.Message.Loopback

/-! A context: the loaded profiles, the live participants, what runs their actions, and what
listeners have been told.

A participant is bound when it is created and when it is bound anew, to the profile that suits it
best at that time; loading and unloading profiles does not change a binding. -/
namespace DeviceSupport
set_option autoImplicit false

structure Context (σ : Type) where
  registry : Registry := {}
  participants : ParticipantTable := {}
  handlers : HandlerTable σ
  transport : Transport σ
  loader : Loader := {}
  searchPaths : List String := []
  world : σ
  /-- What listeners have been told so far. -/
  notices : List Notice := []

namespace Context
variable {σ : Type}

/-! ## Making contexts -/

/-- The handlers that every context starts with. -/
def builtinHandlers (config : Part σ ConfigStore) : HandlerTable σ where
  entries :=
    [(.const, ⟨"CONST", .getOnly, Handler.constant⟩),
      (.config, ⟨"CONFIG", .both, Handler.config config⟩)]

def new (transport : Transport σ) (config : Part σ ConfigStore) (world : σ) : Context σ :=
  { handlers := builtinHandlers config, transport, world }

def withSettings (c : Context σ) (settings : Settings) : Context σ :=
  { c with
    loader := Loader.ofSettings settings.packages
    searchPaths := settings.packages.searchPaths }

/-- The stores of a context that stands alone. -/
structure Stores where
  config : ConfigStore := {}
  loopback : Message.Loopback := {}
  deriving DecidableEq, Repr, Inhabited

namespace Stores

def configPart : Part Stores ConfigStore := ⟨Stores.config, fun config s => { s with config }⟩

def loopbackPart : Part Stores Message.Loopback :=
  ⟨Stores.loopback, fun loopback s => { s with loopback }⟩

end Stores

/-- A context without a kernel side. -/
def standalone : Context Stores :=
  new (Message.Loopback.transport Stores.loopbackPart) Stores.configPart {}

/-! ## Profiles -/

def register (c : Context σ) (profile : Profile) : ProfileId × Context σ :=
  let (id, registry) := c.registry.register profile
  (id, { c with registry })

def unload (c : Context σ) (id : ProfileId) : Option Profile × Context σ :=
  let (profile, registry) := c.registry.unload id
  (profile, { c with registry })

/-- Loads the packages of the search paths. -/
def loadPackages (c : Context σ) (files : FileTree) : LoadReport × Context σ :=
  let (report, registry) := c.loader.loadDirectories files c.searchPaths c.registry
  (report, { c with registry })

/-! ## Participants -/

/-- The profile that suits a device best, or the one that its name suggests. -/
def choose (c : Context σ) (info : ParticipantInfo) : Option ProfileId :=
  (c.registry.select info.criteria).or (c.registry.selectByName info.name)

/-- Tells listeners of an event that concerns a whole participant. -/
def notify (c : Context σ) (id : UInt8) (event : EventType) : Context σ :=
  { c with notices := c.notices ++ [⟨id, 0, event⟩] }

/-- Binds a participant to what suits it; the answer is what it is bound to from now on. -/
def rebindAs (c : Context σ) (id : UInt8) (info : ParticipantInfo) :
    Except Fault (Option (ProfileId × Profile)) × Context σ :=
  match c.choose info with
  | none => (.ok none, { c with participants := c.participants.bind id none })
  | some profileId =>
    match c.registry.get? profileId with
    | none => (.error (.unresolvedRecord s!"{profileId} is not loaded"), c)
    | some profile =>
      let bound := some (profileId, profile)
      (.ok bound, { c with participants := c.participants.bind id bound })

def create (c : Context σ) (info : ParticipantInfo) : Except Fault Participant × Context σ :=
  match c.participants.insert info with
  | .error fault => (.error fault, c)
  | .ok (participant, participants) =>
    match rebindAs { c with participants } participant.id info with
    | (.error fault, c) => (.error fault, c)
    | (.ok bound, c) => (.ok { participant with bound }, c.notify participant.id .participantCreate)

def rebind (c : Context σ) (id : UInt8) : Except Fault (Option ProfileId) × Context σ :=
  match c.participants.find? id with
  | none => (.error (.participantNotFound id), c)
  | some participant =>
    let (bound, c) := c.rebindAs id participant.info
    (bound.map (·.map (·.1)), c)

/-- Takes a participant's binding away; the answer is what it was bound to. -/
def unbind (c : Context σ) (id : UInt8) : Except Fault (Option ProfileId) × Context σ :=
  match c.participants.find? id with
  | none => (.error (.participantNotFound id), c)
  | some participant =>
    (.ok (participant.bound.map (·.1)), { c with participants := c.participants.bind id none })

def remove (c : Context σ) (id : UInt8) : Except Fault Unit × Context σ :=
  match c.participants.remove id with
  | (none, _) => (.error (.participantNotFound id), c)
  | (some _, participants) => (.ok (), notify { c with participants } id .participantDestroy)

/-! ## Primitives -/

/-- Runs a primitive; the answer holds the buffers as the caller gets them back. -/
def execute (c : Context σ) (i : Invocation) (request response : DataBuffer) :
    Dispatched σ × Context σ :=
  let d := dispatch c.handlers c.transport c.participants i request response c.world
  (d, { c with world := d.world, notices := c.notices ++ d.notice.toList })

end Context

end DeviceSupport
