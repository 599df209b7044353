import DeviceSupport.Action.Builtin
import DeviceSupport.Proofs.Buffer
import DeviceSupport.Proofs.LastWrite
import DeviceSupport.Table
import Mathlib.Logic.Basic

/-! The configuration store over a history of calls.

A value is kept under the first parameter of the set that wrote it, as a text: a number shares the
key of its decimal digits, and no other two parameters share one (`Param.sameKey_iff`). So after any
sets and gets a get gives what the last set under its key wrote (`config_keeps_latest`). -/
namespace DeviceSupport
set_option autoImplicit false

/-! ## Keys -/

namespace Param

/-- Equal parameters, or a number and the text of its digits. -/
def SameKey : Param → Param → Prop
  | .text a, .text b => a = b
  | .number m, .number n => m = n
  | .text a, .number n => a = toString n
  | .number m, .text b => b = toString m

instance (p q : Param) : Decidable (p.SameKey q) :=
  match p, q with
  | .text a, .text b => inferInstanceAs (Decidable (a = b))
  | .number m, .number n => inferInstanceAs (Decidable (m = n))
  | .text a, .number n => inferInstanceAs (Decidable (a = toString n))
  | .number m, .text b => inferInstanceAs (Decidable (b = toString m))

/-- Digits tell their number. -/
theorem toString_injective {m n : UInt32} (h : toString m = toString n) : m = n := by
  have hdigits : Nat.toDigits 10 m.toNat = Nat.toDigits 10 n.toNat := String.ofList_inj.mp h
  apply UInt32.toNat_inj.mp
  calc
    m.toNat = Nat.ofDigitChars 10 (Nat.toDigits 10 m.toNat) 0 :=
      Nat.ofDigitChars_ten_toDigits.symm
    _ = Nat.ofDigitChars 10 (Nat.toDigits 10 n.toNat) 0 := by rw [hdigits]
    _ = n.toNat := Nat.ofDigitChars_ten_toDigits

theorem sameKey_iff (p q : Param) :
    p.SameKey q ↔ ConfigStore.key p = ConfigStore.key q := by
  rcases p with a | m <;> rcases q with b | n
  · exact Iff.rfl
  · exact Iff.rfl
  · exact eq_comm
  · exact ⟨fun h => congrArg toString h, toString_injective⟩

end Param

/-! ## One call -/

namespace ConfigStore

/-- The handler whose whole state is one store. -/
def handler : Handler ConfigStore := Handler.config ⟨id, fun s _ => s⟩

theorem first_of_head {params : Params} {p : Param} (h : params.head? = some (some p)) :
    params.first = .ok p := by
  rw [Params.first, h]

theorem first_of_vacant {params : Params} (h : ∀ p, params.head? ≠ some (some p)) :
    params.first = .error (.parameterIsNull "action parameter 1") := by
  unfold Params.first
  split
  next p hp => exact absurd hp (h p)
  next => rfl

section
variable {call : ActionCall} {p : Param} (s : ConfigStore) (request response : DataBuffer)

theorem set_of_head (h : call.params.head? = some (some p)) :
    handler.set call request s = (.ok (), ⟨Table.insert (key p) request.data s.values⟩) := by
  dsimp only [handler, Handler.config, Part.run, store, id]
  rw [first_of_head h]

theorem get_of_value {data : List UInt8} (h : call.params.head? = some (some p))
    (hvalue : s.value? (key p) = some data) :
    handler.get call request response s = (response.write data, s) := by
  dsimp only [handler, Handler.config, Part.run, read, id]
  rw [first_of_head h]
  dsimp only
  rw [hvalue]

theorem get_of_none (h : call.params.head? = some (some p)) (hvalue : s.value? (key p) = none) :
    handler.get call request response s =
      ((.error (.notSupported s!"config key {key p} not set"), response), s) := by
  dsimp only [handler, Handler.config, Part.run, read, id]
  rw [first_of_head h]
  dsimp only
  rw [hvalue]

/-- What a get answers depends on the value under its key only. -/
theorem answer_congr {s t : ConfigStore} (h : call.params.head? = some (some p))
    (hvalue : s.value? (key p) = t.value? (key p)) :
    (handler.get call request response s).1 = (handler.get call request response t).1 := by
  cases hkept : t.value? (key p) with
  | none =>
    rw [get_of_none s request response h (hvalue.trans hkept), get_of_none t request response h hkept]
  | some data =>
    rw [get_of_value s request response h (hvalue.trans hkept),
      get_of_value t request response h hkept]

theorem get_of_vacant (h : ∀ p, call.params.head? ≠ some (some p)) :
    handler.get call request response s =
      ((.error (.parameterIsNull "action parameter 1"), response), s) := by
  dsimp only [handler, Handler.config, Part.run, read, id]
  rw [first_of_vacant h]

theorem set_of_vacant (h : ∀ p, call.params.head? ≠ some (some p)) :
    handler.set call request s = (.error (.parameterIsNull "action parameter 1"), s) := by
  dsimp only [handler, Handler.config, Part.run, store, id]
  rw [first_of_vacant h]

end

/-- A get leaves the store as it is. -/
theorem store_get (s : ConfigStore) (call : ActionCall) (request response : DataBuffer) :
    (handler.get call request response s).2 = s := rfl

theorem value?_set (s : ConfigStore) {call : ActionCall} {q : Param}
    (h : call.params.head? = some (some q)) (request : DataBuffer) (p : Param) :
    (handler.set call request s).2.value? (key p) =
      if q.SameKey p then some request.data else s.value? (key p) := by
  rw [set_of_head s request h]
  exact (Table.get?_insert _ _ _ _).trans (if_congr (q.sameKey_iff p).symm rfl rfl)

/-! ## Histories -/

inductive Operation where
  | get (call : ActionCall) (request response : DataBuffer)
  | set (call : ActionCall) (request : DataBuffer)
  deriving DecidableEq, Repr

def perform (s : ConfigStore) : Operation → ConfigStore
  | .get call request response => (handler.get call request response s).2
  | .set call request => (handler.set call request s).2

def run (s : ConfigStore) (history : List Operation) : ConfigStore := history.foldl perform s

/-- What an operation sets under the key of a parameter. -/
def Operation.written? (p : Param) : Operation → Option (List UInt8)
  | .get .. => none
  | .set call request =>
    match call.params.head? with
    | some (some q) => if q.SameKey p then some request.data else none
    | _ => none

/-- The last data that a history sets under the key of a parameter. -/
def latest? (p : Param) (history : List Operation) : Option (List UInt8) :=
  (history.filterMap (Operation.written? p)).getLast?

/-- What one step does to the value under a key. -/
theorem value?_perform (s : ConfigStore) (op : Operation) (p : Param) :
    (s.perform op).value? (key p) = (op.written? p).or (s.value? (key p)) := by
  cases op with
  | get call request response =>
    rw [perform, store_get]
    rfl
  | set call request =>
    unfold perform Operation.written?
    dsimp only
    split
    next q hq =>
      rw [value?_set s hq]
      split <;> rfl
    next hvacant =>
      rw [set_of_vacant s request fun q hq => hvacant q hq]
      rfl

/-- What a history leaves under a key. -/
theorem value?_run (s : ConfigStore) (history : List Operation) (p : Param) :
    (s.run history).value? (key p) = (latest? p history).or (s.value? (key p)) :=
  read_foldl (Operation.written? p) perform (fun s => s.value? (key p))
    (fun s op => value?_perform s op p) s history

/-- What is written are the data of a request. -/
theorem exists_request_of_written {p : Param} {op : Operation} {data : List UInt8}
    (h : op.written? p = some data) : ∃ request : DataBuffer, request.data = data := by
  cases op with
  | get call request response => nomatch h
  | set call request =>
    unfold Operation.written? at h
    dsimp only at h
    split at h
    · split at h
      · exact ⟨request, Option.some.inj h⟩
      · nomatch h
    · nomatch h

theorem length_of_latest {p : Param} {history : List Operation} {data : List UInt8}
    (h : latest? p history = some data) : data.length < 4294967296 := by
  obtain ⟨op, -, hwritten⟩ := exists_of_lastWritten? (Operation.written? p) h
  obtain ⟨request, rfl⟩ := exists_request_of_written hwritten
  exact request.length_data_lt

/-- After any sets and gets: a get gives the data of the last set under the key of its first
parameter, whenever they fit; without such a set it is refused, and the response stays as it is. A
set of another key changes no answer. A call without a first parameter is refused and changes
nothing. -/
theorem config_keeps_latest (history : List Operation) (p : Param) (call : ActionCall)
    (hfirst : call.params.head? = some (some p)) :
    let s := ({} : ConfigStore).run history
    (∀ data, latest? p history = some data → ∀ request response, data.length ≤ response.capacity →
        ∃ filled, handler.get call request response s = ((.ok (), filled), s) ∧
          filled.data = data) ∧
      (latest? p history = none → ∀ request response,
        handler.get call request response s =
          ((.error (.notSupported s!"config key {key p} not set"), response), s)) ∧
      (∀ q setter, setter.params.head? = some (some q) → ¬ q.SameKey p →
        ∀ written request response,
          (handler.get call request response (handler.set setter written s).2).1 =
            (handler.get call request response s).1) ∧
      ∀ vacant : ActionCall, (∀ q, vacant.params.head? ≠ some (some q)) →
        ∀ request response,
          handler.get vacant request response s =
              ((.error (.parameterIsNull "action parameter 1"), response), s) ∧
            handler.set vacant request s =
              (.error (.parameterIsNull "action parameter 1"), s) := by
  intro s
  have hvalue : s.value? (key p) = latest? p history :=
    (value?_run {} history p).trans (Option.or_none)
  refine ⟨fun data hdata request response hfits => ?kept, fun hnone request response => ?unset,
    fun q setter hq hother written request response => ?others, fun vacant h request response => ?_⟩
  case kept =>
    have hshort := length_of_latest hdata
    refine ⟨(response.write data).2, ?_, ?_⟩
    · rw [get_of_value s request response hfirst (hvalue.trans hdata)]
      exact Prod.ext (Prod.ext (DataBuffer.write_ok hfits) rfl) rfl
    · rw [DataBuffer.data_write hfits, DataBuffer.counted_of_lt hshort]
  case unset => exact get_of_none s request response hfirst (hvalue.trans hnone)
  case others =>
    have hsame : (handler.set setter written s).2.value? (key p) = s.value? (key p) := by
      rw [value?_set s hq, if_neg hother]
    exact answer_congr request response hfirst hsame
  exact ⟨get_of_vacant s request response h, set_of_vacant s request h⟩

end ConfigStore

namespace Sample
open ConfigStore (Operation)

/-- An action with one parameter. -/
def keyed (p : Param) : ActionCall := ⟨"", [some p]⟩

def bytesOf (data : List UInt8) : DataBuffer := .ofBytes .binary data

/-- Sets and gets under a text, a number and the digits of the number. -/
def mixed : List Operation :=
  [.set (keyed (.text "note")) (bytesOf [1]), .set (keyed (.number 7)) (bytesOf [2, 3]),
    .get (keyed (.text "7")) .void (.zeroed .binary 2), .set (keyed (.text "note")) (bytesOf [4]),
    .set ⟨"", [none, some (.text "note")]⟩ (bytesOf [5]), .set (keyed (.text "7")) (bytesOf [6])]

/-- The number finds what its digits set last, also after a set of another text. A text with a zero
in front finds nothing, and without a first parameter there is neither a get nor a set. -/
theorem mixed_latest :
    let s := ({} : ConfigStore).run mixed
    let room := DataBuffer.zeroed .binary 1
    (∃ filled, ConfigStore.handler.get (keyed (.number 7)) .void room s = ((.ok (), filled), s) ∧
        filled.data = [6]) ∧
      ConfigStore.handler.get (keyed (.text "07")) .void room s =
        ((.error (.notSupported "config key 07 not set"), room), s) ∧
      (ConfigStore.handler.get (keyed (.number 7)) .void room
          (ConfigStore.handler.set (keyed (.text "07")) (bytesOf [8]) s).2).1 =
        (ConfigStore.handler.get (keyed (.number 7)) .void room s).1 ∧
      ConfigStore.handler.set ⟨"", [none, some (.text "7")]⟩ (bytesOf [8]) s =
        (.error (.parameterIsNull "action parameter 1"), s) := by
  intro s room
  have hseven : ConfigStore.latest? (.number 7) mixed = some [6] := by decide
  have hnone : ConfigStore.latest? (.text "07") mixed = none := by decide
  have hvacant : ∀ q, [none, some (Param.text "7")].head? ≠ some (some q) := fun q h => nomatch h
  obtain ⟨hkept, -, hothers, hrefused⟩ :=
    ConfigStore.config_keeps_latest mixed (.number 7) (keyed (.number 7)) rfl
  obtain ⟨-, hunset, -, -⟩ :=
    ConfigStore.config_keeps_latest mixed (.text "07") (keyed (.text "07")) rfl
  refine ⟨hkept [6] hseven .void room (by decide), hunset hnone .void room, ?_, ?_⟩
  · exact hothers (.text "07") (keyed (.text "07")) rfl (by decide) (bytesOf [8]) .void room
  · exact (hrefused ⟨"", [none, some (.text "7")]⟩ hvacant (bytesOf [8]) room).2

def numbered : List Operation := [.set (keyed (.number 7)) (bytesOf [9])]

/-- A value that was set under a number answers for the text of its digits, under which nothing was
set. -/
theorem digits_share_key :
    (∀ call request, Operation.set call request ∈ numbered →
        call.params.head? ≠ some (some (.text "7"))) ∧
      (ConfigStore.handler.get (keyed (.text "7")) .void (.zeroed .binary 1) {}).1.1 =
        .error (.notSupported "config key 7 not set") ∧
      ∃ filled, (ConfigStore.handler.get (keyed (.text "7")) .void (.zeroed .binary 1)
          (({} : ConfigStore).run numbered)).1 = (.ok (), filled) ∧ filled.data = [9] := by
  refine ⟨fun call request hmem => ?_, rfl, _, rfl, by decide⟩
  have hset := List.mem_singleton.mp hmem
  cases hset
  decide

end Sample

end DeviceSupport
