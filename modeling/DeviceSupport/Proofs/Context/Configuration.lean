import DeviceSupport.Proofs.Context.Operations
import DeviceSupport.Proofs.Dispatch.Configuration
import DeviceSupport.Proofs.Profile.Positions

/-! What a configuration was set to is what a later get gives back.

Between the two any calls may be made, by whatever handlers and over whatever transport, as long as
none of them sets the same key: a call changes the store by its uses of the backends only
(`world_call`), so that calls that spare a key keep its value (`value?_run`). The value comes back
whole, whatever its length is, when the response may grow; a response that may not grow and is too
short says how long it would have to be. -/
namespace DeviceSupport.Context
set_option autoImplicit false

variable {σ : Type}

/-! ## Calls in between -/

/-- What a call hands to the backends. -/
def uses (c : Context σ) (e : Execution) : List Sent :=
  (dispatch c.handlers.recorded (Transport.recorded c.transport) c.participants e.invocation
    e.request e.response (c.world, [])).world.2

theorem fst_call (c : Context σ) (e : Execution) :
    (c.call e).1 = dispatch c.handlers c.transport c.participants e.invocation e.request e.response
      c.world := rfl

theorem world_call (c : Context σ) (e : Execution) :
    (c.call e).2.world = (c.uses e).foldl (Sent.replay c.handlers c.transport) c.world := by
  have hworld : (c.call e).2.world = (dispatch c.handlers c.transport c.participants e.invocation
      e.request e.response c.world).world := rfl
  rw [hworld, uses]
  rcases reaches_or_idle c.participants e.invocation e.request e.response with
    ⟨participant, profile, primitive, value, hreaches⟩ | hidle
  · rw [dispatch_recorded hreaches, dispatch_world hreaches, List.nil_append]
    rfl
  · rw [hidle, hidle]
    rfl

/-- None of the calls, made one after the other, sets the configuration under a key. -/
def Spares (c : Context σ) (key : String) : List Execution → Prop
  | [] => True
  | e :: calls => (∀ use ∈ c.uses e, use.configKey? ≠ some key) ∧ (c.call e).2.Spares key calls

/-- Calls change the state of the backends and tell listeners, and nothing else. -/
theorem run_calls (c : Context σ) (calls : List Execution) :
    c.run (calls.map .execute) =
      { c with
        world := (c.run (calls.map .execute)).world
        notices := (c.run (calls.map .execute)).notices } := by
  induction calls generalizing c with
  | nil => rfl
  | cons e calls ih => exact (ih (c.call e).2).trans rfl

theorem value?_run {c : Context σ} {part : Part σ ConfigStore}
    (hguarded : Guarded c.handlers c.transport part) {key : String} {calls : List Execution}
    (hspares : c.Spares key calls) :
    (part.get (c.run (calls.map .execute)).world).value? key =
      (part.get c.world).value? key := by
  induction calls generalizing c with
  | nil => rfl
  | cons e calls ih =>
    obtain ⟨hcall, hrest⟩ := hspares
    have hlater : (part.get ((c.call e).2.run (calls.map .execute)).world).value? key =
        (part.get (c.call e).2.world).value? key := ih (c := (c.call e).2) hguarded hrest
    have hkept := hguarded.value?_replay_all hcall c.world
    rw [← world_call] at hkept
    exact hlater.trans hkept

/-! ## A set and a get -/

/-- Two primitives of a participant, one that sets a configuration and one that gets it. -/
structure ConfigPair (c : Context σ) where
  participant : Participant
  profile : Profile
  setting : Invocation
  getting : Invocation
  setter : Primitive
  getter : Primitive
  setAction : Action
  getAction : Action
  parameter : String
  setter_found : setting.find c.participants = .ok (participant, profile, setter)
  getter_found : getting.find c.participants = .ok (participant, profile, getter)
  sets : setter.opcode = .set
  gets : getter.opcode = .get
  same_domain : setter.tuple.domain = getter.tuple.domain
  setter_names : setter.Names setAction parameter
  getter_names : getter.Names getAction parameter

namespace ConfigPair
variable {c : Context σ}

/-- Every text of the two actions, not only the key, stays within its limit. -/
structure Fits (pair : ConfigPair c) : Prop where
  setter : Params.Fits (pair.setter.nameFor pair.participant) pair.setAction.params
  getter : Params.Fits (pair.getter.nameFor pair.participant) pair.getAction.params

/-- The key that the two have in common. -/
def key (pair : ConfigPair c) : String :=
  NameToken.replace (pair.setter.nameFor pair.participant) pair.parameter

theorem key_getter (pair : ConfigPair c) :
    NameToken.replace (pair.getter.nameFor pair.participant) pair.parameter = pair.key := by
  rw [key, Primitive.nameFor, Primitive.nameFor, Tuple.qualifier, Tuple.qualifier, pair.same_domain]

end ConfigPair

/-- A set succeeds, and what it set is what a later get gives back, whatever its length is. A
response of a fixed type that is too short, by its default size when it waits for its allocation,
tells the length instead. -/
theorem set_then_get {c : Context σ} {part : Part σ ConfigStore}
    (hguarded : Guarded c.handlers c.transport part) (pair : ConfigPair c) (hfits : pair.Fits)
    {b : List UInt8} {request response : DataBuffer} (hdata : request.data = b)
    (htype : request.dataType ≠ .auto) (hmeasure : Measure.ofType? request.dataType = none)
    {between : List Execution}
    (hspares : (c.call ⟨pair.setting, request, response⟩).2.Spares pair.key between) :
    let set := c.call ⟨pair.setting, request, response⟩
    let later := set.2.run (between.map .execute)
    let get (response : DataBuffer) := (later.call ⟨pair.getting, .void, response⟩).1
    set.1.result = .ok () ∧
      (Measure.ofType? (pair.getter.resultDataType?.getD .void).widened = none →
        (get (.allocate .auto)).result = .ok () ∧
          (get (.allocate .auto)).response.data = b) ∧
      ∀ response, response.dataType ≠ .auto →
        (pair.getter.resolveResponse response).capacity < b.length →
          ∃ needed, (get response).result = .error (.needLargerBuffer needed) ∧
            needed.toNat = b.length := by
  intro set later get
  have hsetter := reaches_plain pair.setter_found htype hmeasure
  obtain ⟨hset, hstored⟩ : set.1.result = .ok () ∧
      (part.get set.2.world).value? pair.key = some request.data :=
    dispatch_sets hguarded hsetter ⟨pair.setter_names, hfits.setter⟩ pair.sets
  have hkept : (part.get later.world).value?
      (NameToken.replace (pair.getter.nameFor pair.participant) pair.parameter) = some b := by
    rw [pair.key_getter, ← hdata, ← hstored]
    exact value?_run (c := set.2) hguarded hspares
  have hlength : b.length < 4294967296 := by
    rw [← hdata]
    exact request.length_data_lt
  -- The calls in between leave everything as it is that finding and running the getter asks for.
  have hlater : later = { set.2 with world := later.world, notices := later.notices } :=
    run_calls set.2 between
  have hfound : pair.getting.find later.participants =
      .ok (pair.participant, pair.profile, pair.getter) := by
    rw [hlater]
    exact pair.getter_found
  have hgetter : Reaches pair.getting later.participants .void pair.participant pair.profile
      pair.getter none := reaches_plain hfound (by decide) rfl
  have hguarded' : Guarded later.handlers later.transport part := by
    rw [hlater]
    exact hguarded
  have hconfigures : pair.getter.Configures pair.participant pair.getAction pair.parameter :=
    ⟨pair.getter_names, hfits.getter⟩
  refine ⟨hset, fun hplain => ?grows, fun response hfixed hshort => ?fixed⟩
  case grows =>
    have htyped : Measure.ofType? (pair.getter.resolveResponse (.allocate .auto)).dataType =
        none := by
      rw [Primitive.dataType_resolveResponse]
      exact hplain
    exact dispatch_gets hguarded' hgetter hconfigures pair.gets htyped hlength hkept (.inr rfl)
  case fixed =>
    exact ⟨_, dispatch_refuses hguarded' hgetter hconfigures pair.gets hfixed hkept hshort,
      UInt32.toNat_ofNat_of_lt' hlength⟩

end DeviceSupport.Context

namespace DeviceSupport.Sample
open Context (Execution ConfigPair Stores)

/-! ## A sample

A note that two primitives of a device set and get, and a draft beside it. All three actions may
have other parameters after the key. -/

def noteAction (key : String) (others : Params) : Action where
  size := 0
  actionType := .config
  priority := 0
  isKernel := false
  params := .ofList (some (.text key) :: others)

def notePrimitive (id : UInt16) (opcode : Opcode) (key : String) (others : Params) :
    Primitive where
  tuple := Tuple.ofQualifier id "D0" 255
  size := 0
  operation := opcode.code
  requestType := DataType.binary.code
  requestSchema := ""
  resultType := DataType.uint32.code
  resultSchema := ""
  actions := [noteAction key others]

def notePrimitives (others : Params) : List Primitive :=
  [notePrimitive 61 .set "%nm%.note" others, notePrimitive 60 .get "%nm%.note" others,
    notePrimitive 62 .set "%nm%.draft" others]

def noteProfile (others : Params) : Profile :=
  (Profile.withoutPrimitives { code := "demo" } 0 [] [] []).insertPrimitives
    (notePrimitives others)

def noteParticipant (name : String) (others : Params) : Participant where
  id := 1
  info := ⟨name, "", .platform "" ""⟩
  bound := some (default, noteProfile others)

def noteContext (name : String) (others : Params) : Context Stores :=
  { Context.standalone with participants := ⟨[noteParticipant name others]⟩ }

def setNote : Invocation := ⟨1, 61, "D0", 255⟩

def getNote : Invocation := ⟨1, 60, "D0", 255⟩

def setDraft : Invocation := ⟨1, 62, "D0", 255⟩

theorem find_note {i : Invocation} {primitive : Primitive} (name : String) (others : Params)
    (hparticipant : i.participant = 1)
    (hprimitive : (notePrimitives others).find? (fun p => decide (p.tuple = i.tuple)) =
      some primitive) :
    i.find (noteContext name others).participants =
      .ok (noteParticipant name others, noteProfile others, primitive) := by
  have hempty := Profile.indexed_withoutPrimitives { code := "demo" } 0 [] [] []
  have hindexed := hempty.insertPrimitives (notePrimitives others)
  have hfound : (noteProfile others).primitive? i.tuple = some primitive := by
    rw [noteProfile, hindexed.primitive?_eq, Profile.primitives_insertPrimitives]
    exact hprimitive
  have hlive : (noteContext name others).participants.find? i.participant =
      some (noteParticipant name others) := by
    rw [hparticipant]
    rfl
  rw [Invocation.find, hlive]
  dsimp only [noteParticipant]
  rw [hfound]

def notePair (name : String) (others : Params) : ConfigPair (noteContext name others) where
  participant := noteParticipant name others
  profile := noteProfile others
  setting := setNote
  getting := getNote
  setter := notePrimitive 61 .set "%nm%.note" others
  getter := notePrimitive 60 .get "%nm%.note" others
  setAction := noteAction "%nm%.note" others
  getAction := noteAction "%nm%.note" others
  parameter := "%nm%.note"
  setter_found := find_note name others rfl rfl
  getter_found := find_note name others rfl rfl
  sets := rfl
  gets := rfl
  same_domain := rfl
  setter_names := ⟨rfl, rfl, rfl, rfl⟩
  getter_names := ⟨rfl, rfl, rfl, rfl⟩

def note : List UInt8 := [1, 2, 3, 4, 5, 6]

/-- A get of the note, and a draft. -/
def meanwhile : List Execution :=
  [⟨getNote, .void, .allocate .auto⟩, ⟨setDraft, .ofBytes .binary [9], .void⟩]

theorem fits_note : (notePair "TCPU" [some (.text "%nm%"), some (.number 7)]).Fits := by
  have hparams : Params.Fits "TCPU.D0"
      (noteAction "%nm%.note" [some (.text "%nm%"), some (.number 7)]).params := by
    refine (Params.expandFrom_eq_ok_iff "TCPU.D0" 1 _ [some (.text "TCPU.D0.note"),
      some (.text "TCPU.D0"), some (.number 7), none, none]).mp ?_ |>.1
    exact eq_ok_of_toOption (by decide)
  exact ⟨hparams, hparams⟩

theorem spares_note :
    ((noteContext "TCPU" [some (.text "%nm%"), some (.number 7)]).call
      ⟨setNote, .ofBytes .binary note, .void⟩).2.Spares "TCPU.D0.note" meanwhile :=
  ⟨by decide, by decide, trivial⟩

/-- The note is longer than a response is at first, and comes back whole. -/
theorem note_kept :
    let c := noteContext "TCPU" [some (.text "%nm%"), some (.number 7)]
    let pair := notePair "TCPU" [some (.text "%nm%"), some (.number 7)]
    let set := c.call ⟨setNote, .ofBytes .binary note, .void⟩
    let later := set.2.run (meanwhile.map .execute)
    let get (response : DataBuffer) := (later.call ⟨getNote, .void, response⟩).1
    Guarded c.handlers c.transport Stores.configPart ∧ pair.Fits ∧ set.2.Spares pair.key meanwhile ∧
      set.1.result = .ok () ∧ (get (.allocate .auto)).result = .ok () ∧
      (get (.allocate .auto)).response.data = note ∧
      ∃ needed, (get (.zeroed .binary 5)).result = .error (.needLargerBuffer needed) ∧
        needed.toNat = 6 := by
  intro c pair set later get
  have hguarded : Guarded c.handlers c.transport Stores.configPart := standalone_new.guarded
  have hkey : pair.key = "TCPU.D0.note" := by decide
  have hspares : set.2.Spares pair.key meanwhile := hkey ▸ spares_note
  have hdata : (DataBuffer.ofBytes .binary note).data = note := by decide
  obtain ⟨hset, hgrows, hfixed⟩ := Context.set_then_get hguarded pair fits_note hdata
    (by decide) rfl hspares
  obtain ⟨hget, hback⟩ := hgrows rfl
  have hshort : (pair.getter.resolveResponse (.zeroed .binary 5)).capacity < note.length := by
    decide
  exact ⟨hguarded, fits_note, hspares, hset, hget, hback,
    hfixed (.zeroed .binary 5) (by decide) hshort⟩

/-! ## Beside the key -/

def longName : String := String.ofList (List.replicate 1024 'x')

theorem utf8ByteSize_replicate (c : Char) (n : Nat) :
    (String.ofList (List.replicate n c)).utf8ByteSize = n * c.utf8Size := by
  induction n with
  | zero => simp
  | succ n ih =>
    rw [List.replicate_succ, String.ofList_cons, String.utf8ByteSize_append,
      String.utf8ByteSize_singleton, ih, Nat.add_one_mul, Nat.add_comm]

theorem replace_note (name : String) : NameToken.replace name "%nm%.note" = name ++ ".note" := by
  have htext : "%nm%.note".toList = ['%', 'n', 'm', '%', '.', 'n', 'o', 't', 'e'] := by decide
  have hplaced : NameToken.replaceFrom name.toList []
      ['%', 'n', 'm', '%', '.', 'n', 'o', 't', 'e'] =
        (['e', 't', 'o', 'n', '.'] ++ (name.toList.reverse ++ [])).reverse := rfl
  have hchars : (['e', 't', 'o', 'n', '.'] ++ (name.toList.reverse ++ [])).reverse =
      name.toList ++ ['.', 'n', 'o', 't', 'e'] := by simp
  rw [NameToken.replace, htext, hplaced, hchars, String.ofList_append, String.ofList_toList]

def longPair : ConfigPair (noteContext longName [some (.text (NameToken.tokens 64))]) :=
  notePair longName [some (.text (NameToken.tokens 64))]

theorem utf8ByteSize_nameFor :
    (longPair.setter.nameFor longPair.participant).utf8ByteSize = 1027 := by
  have hname : longPair.participant.info.name.utf8ByteSize = 1024 :=
    utf8ByteSize_replicate 'x' 1024
  have hqualifier : longPair.setter.tuple.qualifier = "D0" := by decide
  have hrest : ".".utf8ByteSize = 1 ∧ "D0".utf8ByteSize = 2 := by decide
  rw [Primitive.nameFor, hqualifier, String.utf8ByteSize_append, String.utf8ByteSize_append, hname,
    hrest.1, hrest.2]

theorem utf8ByteSize_key : longPair.key.utf8ByteSize = 1032 := by
  have hkey : longPair.key = longPair.setter.nameFor longPair.participant ++ ".note" :=
    replace_note _
  have hrest : ".note".utf8ByteSize = 5 := by decide
  rw [hkey, String.utf8ByteSize_append, utf8ByteSize_nameFor, hrest]

theorem expand_long :
    longPair.setAction.params.expand longPair.participant.info.name
        longPair.setter.tuple.qualifier =
      .error (.parameterOutOfBounds "parameter 2 expands to 65728 bytes") := by
  have hkey : Params.Fits (longPair.setter.nameFor longPair.participant)
      [some (.text "%nm%.note")] := by
    intro value hvalue
    obtain rfl : value = "%nm%.note" := by simpa using hvalue
    have hkey : (NameToken.replace (longPair.setter.nameFor longPair.participant)
        "%nm%.note").utf8ByteSize = 1032 := utf8ByteSize_key
    rw [hkey]
    decide
  have hsize : (NameToken.replace (longPair.setter.nameFor longPair.participant)
      (NameToken.tokens 64)).utf8ByteSize = 65728 := by
    rw [NameToken.utf8ByteSize_replace_tokens, utf8ByteSize_nameFor]
  have hparams : longPair.setAction.params =
      [some (.text "%nm%.note")] ++ some (.text (NameToken.tokens 64)) :: [none, none, none] := rfl
  rw [hparams]
  exact Params.expandFrom_of_long hkey hsize (by decide) 1

/-- With a key that is short enough a set is refused for another text of its action, and a response
of a fixed type that waits for its allocation is not too short. -/
theorem refused_beside_key :
    (longPair.key.utf8ByteSize ≤ Limits.parameterLength ∧
      ((noteContext longName [some (.text (NameToken.tokens 64))]).call
        ⟨longPair.setting, .ofBytes .binary note, .void⟩).1.result =
          .error (.parameterOutOfBounds "parameter 2 expands to 65728 bytes")) ∧
      let pair := notePair "TCPU" []
      let set := (noteContext "TCPU" []).call ⟨pair.setting, .ofBytes .binary note, .void⟩
      let response := DataBuffer.allocate .binary
      set.1.result = .ok () ∧ response.capacity < note.length ∧
        (set.2.call ⟨pair.getting, .void, response⟩).1.result = .ok () := by
  refine ⟨⟨?key, ?refused⟩, ?set, by decide, ?waiting⟩
  case key =>
    rw [utf8ByteSize_key]
    decide
  case refused =>
    have hbinary : (DataBuffer.ofBytes .binary note).dataType = .binary := rfl
    have hreaches : Reaches longPair.setting
        (noteContext longName [some (.text (NameToken.tokens 64))]).participants
        (.ofBytes .binary note) longPair.participant longPair.profile longPair.setter none :=
      reaches_plain longPair.setter_found (by rw [hbinary]; decide) rfl
    have hserved : ((noteContext longName [some (.text (NameToken.tokens 64))]).handlers.handler?
        .config longPair.setter.opcode).isSome = true := rfl
    rw [Context.fst_call]
    exact dispatch_out_of_bounds hserved hreaches longPair.setter_names expand_long
  case set => exact done_of_isOk (by decide)
  case waiting => exact done_of_isOk (by decide +kernel)

end DeviceSupport.Sample
