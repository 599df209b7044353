import DeviceSupport.Message.Loopback
import DeviceSupport.Proofs.LastWrite
import DeviceSupport.Proofs.Message.Windows

/-! The stand-in for the kernel side over a history of calls.

A valid set writes, under its key, the slice of its payload that its request's window names; a
preload writes what it is given. Nothing else writes. So after any calls a valid get is answered by
the last write under its key (`gets_answer_last_write`). -/
namespace DeviceSupport.Message.Loopback
set_option autoImplicit false

/-! ## Histories -/

inductive Call where
  | preload (key : Key) (bytes : List UInt8)
  | execute (r : Request)
  deriving DecidableEq, Repr

def perform (l : Loopback) : Call → Loopback
  | .preload key bytes => l.preload key bytes
  | .execute r => (execute r l).2

def run (l : Loopback) (history : List Call) : Loopback := history.foldl perform l

/-- What a call writes under a key. -/
def Call.written? (key : Key) : Call → Option (List UInt8)
  | .preload own bytes => if own = key then some bytes else none
  | .execute r =>
    match r.validate, r.opcode with
    | .ok (), .set =>
      if r.target.key = key then
        some (Field.bytes r.payload r.request.offset.toNat r.request.length.toNat)
      else none
    | _, _ => none

/-! ## One call -/

theorem requestBytes_of_validate {r : Request} (h : r.validate = .ok ()) :
    r.requestBytes = Field.bytes r.payload r.request.offset.toNat r.request.length.toNat :=
  Request.requestBytes_of_le ((Request.validate_eq_ok_iff r).mp h).2.1

theorem execute_get {r : Request} (hvalid : r.validate = .ok ()) (hget : r.opcode = .get)
    (l : Loopback) :
    execute r l = (.ok (answer r.response.length (l.value? r.target.key)), l) := by
  simp [execute, hvalid, serve, hget]

theorem execute_set {r : Request} (hvalid : r.validate = .ok ()) (hset : r.opcode = .set)
    (l : Loopback) :
    execute r l = (.ok (.ok []), l.preload r.target.key r.requestBytes) := by
  simp [execute, hvalid, serve, hset]

theorem execute_invalid {r : Request} {fault : Fault} (h : r.validate = .error fault)
    (l : Loopback) : execute r l = (.error fault, l) := by
  simp [execute, h]

/-- A get and a refused request leave everything as it is. -/
theorem execute_idle {r : Request} (h : r.opcode = .get ∨ r.validate ≠ .ok ()) (l : Loopback) :
    (execute r l).2 = l := by
  cases hvalid : r.validate with
  | error fault => rw [execute_invalid hvalid]
  | ok done =>
    rcases h with hget | hrefused
    · rw [execute_get hvalid hget]
    · exact absurd hvalid hrefused

theorem value?_preload (l : Loopback) (own key : Key) (bytes : List UInt8) :
    (l.preload own bytes).value? key = if own = key then some bytes else l.value? key :=
  Table.get?_insert l.values own key bytes

/-- What one call does to the value under a key. -/
theorem value?_perform (key : Key) (l : Loopback) (call : Call) :
    (l.perform call).value? key = (call.written? key).or (l.value? key) := by
  cases call with
  | preload own bytes =>
    rw [perform, value?_preload, Call.written?]
    split <;> rfl
  | execute r =>
    simp only [perform, Call.written?]
    cases hvalid : r.validate with
    | error fault =>
      rw [execute_invalid hvalid]
      rfl
    | ok done =>
      cases hopcode : r.opcode with
      | get =>
        rw [execute_get hvalid hopcode]
        rfl
      | set =>
        rw [execute_set hvalid hopcode, value?_preload, requestBytes_of_validate hvalid]
        split <;> rfl

theorem value?_run (key : Key) (l : Loopback) (history : List Call) :
    (l.run history).value? key = (lastWritten? (Call.written? key) history).or (l.value? key) :=
  read_foldl (Call.written? key) perform (fun l => l.value? key) (value?_perform key) l history

/-- What a set writes is at most a payload long. -/
theorem length_of_written {history : List Call} {key : Key}
    (hpreloads : ∀ own bytes, Call.preload own bytes ∈ history → bytes.length < 4294967296)
    {call : Call} (hcall : call ∈ history) {value : List UInt8}
    (h : call.written? key = some value) : value.length < 4294967296 := by
  cases call with
  | preload own bytes =>
    rw [Call.written?] at h
    split at h
    · rw [← Option.some.inj h]
      exact hpreloads own bytes hcall
    · nomatch h
  | execute r =>
    simp only [Call.written?] at h
    split at h
    next hvalid _ =>
      split at h
      · have hpayload := ((Request.validate_eq_ok_iff r).mp hvalid).1
        rw [← Option.some.inj h, Field.bytes, List.length_take, List.length_drop]
        simp only [maxPayload] at hpayload
        omega
      · nomatch h
    next => nomatch h

/-! ## Gets -/

/-- After any calls a valid get is answered by the last write under its key: not found when there is
none, by its bytes when they fit the room, else by their number. No call that writes nothing under
the key changes that answer, and gets and refused requests change nothing at all. -/
theorem gets_answer_last_write {history : List Call}
    (hpreloads : ∀ own bytes, Call.preload own bytes ∈ history → bytes.length < 4294967296)
    {r : Request} (hvalid : r.validate = .ok ()) (hget : r.opcode = .get) :
    let l := ({} : Loopback).run history
    let key := r.target.key
    ((∀ call ∈ history, call.written? key = none) → execute r l = (.ok ⟨2404, 0, []⟩, l)) ∧
      (∀ before call after value, history = before ++ call :: after →
        call.written? key = some value → (∀ later ∈ after, later.written? key = none) →
          (UInt32.ofNat value.length).toNat = value.length ∧
          execute r l =
            (.ok (if value.length ≤ r.response.length.toNat then
              ⟨0, UInt32.ofNat value.length, value⟩
            else ⟨1300, UInt32.ofNat value.length, []⟩), l)) ∧
      (∀ call : Call, call.written? key = none →
        (execute r (l.perform call)).1 = (execute r l).1) ∧
      ∀ other : Request, other.opcode = .get ∨ other.validate ≠ .ok () → (execute other l).2 = l := by
  intro l key
  have hvalue : l.value? key = lastWritten? (Call.written? key) history :=
    (value?_run key {} history).trans Option.or_none
  refine ⟨fun hnone => ?unset, fun before call after value hsplit hcall hafter => ?kept,
    fun call hother => ?others, fun other hidle => execute_idle hidle l⟩
  case unset =>
    rw [execute_get hvalid hget, hvalue, lastWritten?_of_none _ hnone]
    rfl
  case kept =>
    have hmem : call ∈ history := by
      rw [hsplit]
      exact List.mem_append_right before List.mem_cons_self
    have hshort := length_of_written hpreloads hmem hcall
    refine ⟨UInt32.toNat_ofNat_of_lt' hshort, ?_⟩
    rw [execute_get hvalid hget, hvalue, hsplit, lastWritten?_of_split _ before hcall hafter]
    by_cases hfits : value.length ≤ r.response.length.toNat
    · rw [if_pos hfits, answer, if_neg (Nat.not_lt.mpr hfits)]
      rfl
    · rw [if_neg hfits, answer, if_pos (Nat.lt_of_not_le hfits)]
      rfl
  case others =>
    have hsame : (l.perform call).value? key = l.value? key := by
      rw [value?_perform, hother, Option.none_or]
    rw [execute_get hvalid hget, execute_get hvalid hget]
    exact congrArg (fun value => Except.ok (answer r.response.length value)) hsame

end DeviceSupport.Message.Loopback

namespace DeviceSupport.Sample
open Message Message.Loopback

def keptTarget : Target :=
  { id := 200, domain := 0x3044, instanceId := 255, destination := 1, kernelIndex := 0
    actionType := ⟨7⟩ }

/-- The same primitive, of another action. -/
def otherTarget : Target := { keptTarget with kernelIndex := 1 }

def getKept (room : Nat) : Request := .get keptTarget .void [] .binary room

def setKept (bytes : List UInt8) : Request := .set keptTarget .binary bytes .void 0

/-- Two writes under one key, then a set of another key, a get, and a set that is refused for its
source. -/
def exchanges : List Call :=
  [.preload keptTarget.key [1, 2, 3], .execute (setKept [4, 5]),
    .execute (.set otherTarget .binary [6] .void 0), .execute (getKept 2),
    .execute { setKept [7] with source := 0 }]

/-- The second write is read back when it fits and counted when it does not; the other key has its
own, and a third has none. -/
theorem exchanges_answered :
    let l := ({} : Loopback).run exchanges
    execute (getKept 2) l = (.ok ⟨0, 2, [4, 5]⟩, l) ∧
      execute (getKept 1) l = (.ok ⟨1300, 2, []⟩, l) ∧
      execute { getKept 2 with target := { keptTarget with id := 201 } } l =
        (.ok ⟨2404, 0, []⟩, l) ∧
      (execute (getKept 2) (l.perform (.execute (.set otherTarget .binary [8] .void 0)))).1 =
        .ok ⟨0, 2, [4, 5]⟩ := by
  intro l
  have hpreloads : ∀ own bytes, Call.preload own bytes ∈ exchanges → bytes.length < 4294967296 := by
    intro own bytes h
    simp only [exchanges, List.mem_cons, reduceCtorEq, List.not_mem_nil, or_false] at h
    rw [(Call.preload.inj h).2]
    decide
  have hafter : ∀ later ∈ exchanges.drop 2, later.written? keptTarget.key = none := by decide
  obtain ⟨-, hkept, hothers, -⟩ :=
    gets_answer_last_write hpreloads (r := getKept 2) rfl rfl
  obtain ⟨-, hcounted, -, -⟩ := gets_answer_last_write hpreloads (r := getKept 1) rfl rfl
  obtain ⟨hunset, -, -, -⟩ := gets_answer_last_write hpreloads
    (r := { getKept 2 with target := { keptTarget with id := 201 } }) rfl rfl
  have hwritten : (Call.execute (setKept [4, 5])).written? keptTarget.key = some [4, 5] := by decide
  have hanswer := (hkept [.preload keptTarget.key [1, 2, 3]] (.execute (setKept [4, 5]))
    (exchanges.drop 2) [4, 5] rfl hwritten hafter).2
  have hcount := (hcounted [.preload keptTarget.key [1, 2, 3]] (.execute (setKept [4, 5]))
    (exchanges.drop 2) [4, 5] rfl hwritten hafter).2
  refine ⟨hanswer, hcount, hunset (by decide), ?_⟩
  exact (hothers (.execute (.set otherTarget .binary [8] .void 0)) (by decide)).trans
    (congrArg Prod.fst hanswer)

end DeviceSupport.Sample
