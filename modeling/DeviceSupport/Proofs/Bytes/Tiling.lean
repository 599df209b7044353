import DeviceSupport.Proofs.Bytes.Walk

/-! How calls on a cursor divide an image.

A cursor that was placed in an image has all of the image from its position on ahead of it
(`Cursor.Within`), and every call keeps it so. At a place of the image a call either yields a record
(`Call.Yields`) or is refused (`Call.Refused`); the size that a record of a chain declares is a word
of the image and may be any. So the records that a sequence of calls takes lie one behind the other,
from where the cursor started to where it stands (`Tiles`), whatever was refused between them. -/
namespace DeviceSupport
set_option autoImplicit false

/-! ## Records one behind the other -/

/-- The record is a stretch of the image. -/
structure Record.LiesIn (r : Record) (image : List UInt8) : Prop where
  inside : r.offset + r.length ≤ image.length
  bytes : r.bytes = Field.bytes image r.offset r.length

theorem Record.liesIn_of_le {image : List UInt8} {name : String} {place length : Nat}
    (h : place + length ≤ image.length) :
    Record.LiesIn ⟨name, place, Field.bytes image place length⟩ image := by
  constructor
  · rw [Record.length, Field.length_bytes h]
    exact h
  · rw [Record.length, Field.length_bytes h]

/-- Records that divide a stretch of an image: each starts where the one before it stops. -/
inductive Tiles (image : List UInt8) : Nat → List Record → Nat → Prop where
  | nil (place : Nat) : Tiles image place [] place
  | cons {record : Record} {records : List Record} {stop : Nat} (lies : record.LiesIn image)
      (rest : Tiles image (record.offset + record.length) records stop) :
      Tiles image record.offset (record :: records) stop

namespace Tiles
variable {image : List UInt8} {start stop : Nat} {records : List Record}

theorem start_le (h : Tiles image start records stop) : start ≤ stop := by
  induction h with
  | nil place => exact Nat.le_refl place
  | cons lies rest ih => exact Nat.le_of_add_right_le ih

/-- The bytes of the records are those of the stretch, in order. -/
theorem flatMap_bytes (h : Tiles image start records stop) :
    records.flatMap (·.bytes) = Field.bytes image start (stop - start) := by
  induction h with
  | nil place =>
    rw [Nat.sub_self]
    rfl
  | @cons record records stop lies rest ih =>
    have hlength : record.length + (stop - (record.offset + record.length)) =
        stop - record.offset := by
      have := rest.start_le
      omega
    rw [List.flatMap_cons, ih, lies.bytes, Field.bytes_append, hlength]

theorem le_offset (h : Tiles image start records stop) : ∀ r ∈ records, start ≤ r.offset := by
  induction h with
  | nil place => exact fun r hr => absurd hr List.not_mem_nil
  | cons lies rest ih =>
    refine List.forall_mem_cons.mpr ⟨Nat.le_refl _, fun r hr => ?_⟩
    exact Nat.le_of_add_right_le (ih r hr)

/-- No record reaches into a later one. -/
theorem pairwise (h : Tiles image start records stop) :
    records.Pairwise fun r s => r.offset + r.length ≤ s.offset := by
  induction h with
  | nil place => exact .nil
  | cons lies rest ih => exact .cons rest.le_offset ih

end Tiles

namespace Cursor

/-! ## Calls -/

inductive Call where
  | fixed (name : String) (length : Nat)
  | chained (name : String) (header : Nat)
  deriving DecidableEq, Repr

def take (c : Cursor) : Call → Except Fault (Record × Cursor)
  | .fixed name length => c.fixed name length
  | .chained name header => c.chained name header

/-- The answer to a call, and the cursor for the next one: a fault comes without a new cursor, so
the call that met it leaves the cursor that it was made on. -/
def perform (c : Cursor) (call : Call) : Except Fault Record × Cursor :=
  match c.take call with
  | .ok (record, c') => (.ok record, c')
  | .error fault => (.error fault, c)

/-- The answers to one call after the other, and the cursor behind them. -/
def run (c : Cursor) : List Call → List (Except Fault Record) × Cursor
  | [] => ([], c)
  | call :: calls =>
    let (answer, c) := c.perform call
    let (answers, c) := c.run calls
    (answer :: answers, c)

/-- The size that a record declares at a place of an image. -/
def declared (image : List UInt8) (place : Nat) : Nat := (Field.uint32 image place).toNat

/-- What a call yields at a place of an image: the bytes suffice, and a size that is declared there
covers the header. -/
inductive Call.Yields (image : List UInt8) (place : Nat) : Call → Record → Prop where
  | fixed {name : String} {length : Nat} (fits : place + length ≤ image.length) :
      Yields image place (.fixed name length) ⟨name, place, Field.bytes image place length⟩
  | chained {name : String} {header : Nat} (sized : place + 4 ≤ image.length)
      (covers : header ≤ declared image place)
      (fits : place + declared image place ≤ image.length) :
      Yields image place (.chained name header)
        ⟨name, place, Field.bytes image place (declared image place)⟩

/-- What a call is refused for: the bytes do not suffice, be it for what was asked for, for a size
or for the size that is declared; or this size does not cover the header. -/
inductive Call.Refused (image : List UInt8) (place : Nat) : Call → Fault → Prop where
  | short {name : String} {length : Nat} (lacking : image.length < place + length) :
      Refused image place (.fixed name length)
        (.packageShort name place length (image.length - place))
  | unsized {name : String} {header : Nat} (lacking : image.length < place + 4) :
      Refused image place (.chained name header)
        (.packageShort name place 4 (image.length - place))
  | undersized {name : String} {header : Nat} (sized : place + 4 ≤ image.length)
      (uncovered : declared image place < header) :
      Refused image place (.chained name header)
        (.recordSizeInvalid name place (Field.uint32 image place))
  | overlong {name : String} {header : Nat} (sized : place + 4 ≤ image.length)
      (covers : header ≤ declared image place)
      (lacking : image.length < place + declared image place) :
      Refused image place (.chained name header)
        (.packageShort name place (declared image place) (image.length - place))

namespace Call
variable {image : List UInt8} {place : Nat} {call : Call}

theorem yields_or_refused (image : List UInt8) (place : Nat) (call : Call) :
    (∃ record, call.Yields image place record) ∨ ∃ fault, call.Refused image place fault := by
  cases call with
  | fixed name length =>
    rcases Nat.lt_or_ge image.length (place + length) with hshort | hfits
    · exact .inr ⟨_, .short hshort⟩
    · exact .inl ⟨_, .fixed hfits⟩
  | chained name header =>
    rcases Nat.lt_or_ge image.length (place + 4) with hunsized | hsized
    · exact .inr ⟨_, .unsized hunsized⟩
    rcases Nat.lt_or_ge (declared image place) header with huncovered | hcovers
    · exact .inr ⟨_, .undersized hsized huncovered⟩
    rcases Nat.lt_or_ge image.length (place + declared image place) with hlong | hfits
    · exact .inr ⟨_, .overlong hsized hcovers hlong⟩
    · exact .inl ⟨_, .chained hsized hcovers hfits⟩

theorem Yields.offset {record : Record} (h : call.Yields image place record) :
    record.offset = place := by
  cases h <;> rfl

theorem Yields.liesIn {record : Record} (h : call.Yields image place record) :
    record.LiesIn image := by
  cases h with
  | fixed fits => exact Record.liesIn_of_le fits
  | chained sized covers fits => exact Record.liesIn_of_le fits

theorem Yields.length_chained {name : String} {header : Nat} {record : Record}
    (h : (Call.chained name header).Yields image place record) :
    record.length = declared image place ∧ header ≤ record.length := by
  cases h with
  | chained sized covers fits =>
    rw [Record.length, Field.length_bytes fits]
    exact ⟨rfl, covers⟩

/-- A record that is long enough to hold its size begins with it. -/
theorem Yields.uint32_chained {name : String} {header : Nat} {record : Record}
    (h : (Call.chained name header).Yields image place record) (hsize : 4 ≤ declared image place) :
    record.uint32 0 = .ok (Field.uint32 image place) := by
  cases h with
  | chained sized covers fits =>
    rw [Record.uint32_of_le (by rw [Field.length_bytes fits]; omega)]
    exact congrArg Except.ok (declared_take hsize)

end Call

/-! ## A cursor in an image -/

/-- The cursor stands at a place of the image, with all that follows there ahead of it. -/
structure Within (c : Cursor) (image : List UInt8) : Prop where
  inside : c.position ≤ image.length
  rest : c.rest = image.drop c.position

theorem startAt_eq_ok_iff (image : List UInt8) (place : Nat) (c : Cursor) :
    startAt image place = .ok c ↔ c.Within image ∧ c.position = place := by
  unfold startAt
  by_cases hinside : place ≤ image.length
  · rw [if_pos hinside, Except.ok.injEq]
    constructor
    · rintro rfl
      exact ⟨⟨hinside, rfl⟩, rfl⟩
    · rintro ⟨⟨-, hrest⟩, rfl⟩
      rw [← hrest]
  · rw [if_neg hinside]
    refine ⟨fun h => (nomatch h), fun ⟨hwithin, hplace⟩ => ?_⟩
    exact absurd (hplace ▸ hwithin.inside) hinside

namespace Within
variable {c : Cursor} {image : List UInt8} {call : Call}

theorem remaining_eq (h : c.Within image) : c.remaining = image.length - c.position := by
  rw [remaining, h.rest, List.length_drop]

theorem advance (h : c.Within image) {length : Nat} (hfits : c.position + length ≤ image.length) :
    (c.advance length).Within image := by
  refine ⟨hfits, ?_⟩
  show c.rest.drop length = image.drop (c.position + length)
  rw [h.rest, List.drop_drop]

/-! ## One call -/

theorem view_of_le (h : c.Within image) {length : Nat}
    (hfits : c.position + length ≤ image.length) (name : String) :
    c.view name length = .ok ⟨name, c.position, Field.bytes image c.position length⟩ := by
  have hle : length ≤ c.rest.length := by
    rw [h.rest, List.length_drop]
    omega
  rw [(view_eq_ok_iff c name length _).mpr ⟨hle, rfl⟩, h.rest]
  rfl

theorem view_of_lt (h : c.Within image) {length : Nat}
    (hlacking : image.length < c.position + length) (name : String) :
    c.view name length =
      .error (.packageShort name c.position length (image.length - c.position)) := by
  have hlt : c.rest.length < length := by
    have hinside := h.inside
    rw [h.rest, List.length_drop]
    omega
  rw [view_of_length_lt hlt, h.remaining_eq]

/-- A call of a chain once the size is there. -/
theorem chained_of_sized (h : c.Within image) (hsized : c.position + 4 ≤ image.length)
    (name : String) (header : Nat) :
    c.chained name header =
      if declared image c.position < header then
        .error (.recordSizeInvalid name c.position (Field.uint32 image c.position))
      else do
        let record ← c.view name (declared image c.position)
        return (record, c.advance (declared image c.position)) := by
  rw [chained, h.view_of_le hsized, ok_bind]
  rfl

theorem take_of_yields (h : c.Within image) {record : Record}
    (hyields : call.Yields image c.position record) :
    c.take call = .ok (record, c.advance record.length) := by
  cases hyields with
  | fixed fits =>
    rw [take, fixed, h.view_of_le fits, Record.length, Field.length_bytes fits]
    rfl
  | chained sized covers fits =>
    rw [take, h.chained_of_sized sized, if_neg (Nat.not_lt.mpr covers), h.view_of_le fits,
      Record.length, Field.length_bytes fits]
    rfl

theorem take_of_refused (h : c.Within image) {fault : Fault}
    (hrefused : call.Refused image c.position fault) : c.take call = .error fault := by
  cases hrefused with
  | short lacking =>
    rw [take, fixed, h.view_of_lt lacking]
    rfl
  | unsized lacking =>
    rw [take, chained, h.view_of_lt lacking]
    rfl
  | undersized sized uncovered => rw [take, h.chained_of_sized sized, if_pos uncovered]
  | overlong sized covers lacking =>
    rw [take, h.chained_of_sized sized, if_neg (Nat.not_lt.mpr covers), h.view_of_lt lacking]
    rfl

theorem perform_of_yields (h : c.Within image) {record : Record}
    (hyields : call.Yields image c.position record) :
    c.perform call = (.ok record, c.advance record.length) := by
  rw [perform, h.take_of_yields hyields]

theorem perform_of_refused (h : c.Within image) {fault : Fault}
    (hrefused : call.Refused image c.position fault) : c.perform call = (.error fault, c) := by
  rw [perform, h.take_of_refused hrefused]

theorem perform_eq_ok (h : c.Within image) {record : Record} {c' : Cursor}
    (hperform : c.perform call = (.ok record, c')) :
    call.Yields image c.position record ∧ c' = c.advance record.length := by
  rcases call.yields_or_refused image c.position with ⟨taken, hyields⟩ | ⟨fault, hrefused⟩
  · rw [h.perform_of_yields hyields] at hperform
    cases hperform
    exact ⟨hyields, rfl⟩
  · rw [h.perform_of_refused hrefused] at hperform
    nomatch (Prod.mk.inj hperform).1

theorem perform_eq_error_iff (h : c.Within image) (fault : Fault) (c' : Cursor) :
    c.perform call = (.error fault, c') ↔ call.Refused image c.position fault ∧ c' = c := by
  constructor
  · intro hperform
    rcases call.yields_or_refused image c.position with ⟨taken, hyields⟩ | ⟨other, hrefused⟩
    · rw [h.perform_of_yields hyields] at hperform
      nomatch (Prod.mk.inj hperform).1
    · rw [h.perform_of_refused hrefused] at hperform
      cases hperform
      exact ⟨hrefused, rfl⟩
  · rintro ⟨hrefused, rfl⟩
    exact h.perform_of_refused hrefused

/-! ## Any number of calls -/

/-- The records of a run tile the image from the place where it starts to the one where it stops. -/
theorem run (h : c.Within image) (calls : List Call) :
    (c.run calls).2.Within image ∧
      Tiles image c.position ((c.run calls).1.filterMap Except.toOption)
        (c.run calls).2.position := by
  induction calls generalizing c with
  | nil => exact ⟨h, .nil c.position⟩
  | cons call calls ih =>
    rw [Cursor.run]
    rcases call.yields_or_refused image c.position with ⟨record, hyields⟩ | ⟨fault, hrefused⟩
    · have hlies := hyields.liesIn
      have hinside := hlies.inside
      rw [hyields.offset] at hinside
      obtain ⟨hwithin, htiles⟩ := ih (h.advance hinside)
      have hlater : Tiles image (c.position + record.length) _ _ := htiles
      rw [h.perform_of_yields hyields]
      refine ⟨hwithin, ?_⟩
      rw [← hyields.offset] at hlater ⊢
      exact .cons hlies hlater
    · -- The cursor has not moved, so the later calls go on where this one was made.
      rw [h.perform_of_refused hrefused]
      exact ih h

end Within

/-- After any calls, whatever was refused among them, the cursor stands inside its image and counts
what remains of it; the records that were taken lie one behind the other from the start to there,
and together they are the bytes between. One more call takes the record between the place where the
cursor stands and its new place. A record of a chain has the size that is declared there and covers
its header, so a header that is not empty moves the cursor on. A call fails exactly where the bytes
do not suffice or where the declared size does not cover the header, and then nothing moves. -/
theorem calls_tile_image {image : List UInt8} {start : Nat} {first : Cursor}
    (h : startAt image start = .ok first) (calls : List Call) :
    let c := (first.run calls).2
    let records := (first.run calls).1.filterMap Except.toOption
    (c.position ≤ image.length ∧ c.remaining = image.length - c.position) ∧
      (Tiles image start records c.position ∧
        (records.Pairwise fun r s => r.offset + r.length ≤ s.offset) ∧
        records.flatMap (·.bytes) = Field.bytes image start (c.position - start)) ∧
      (∀ call record c', c.perform call = (.ok record, c') →
        call.Yields image c.position record ∧ record.offset = c.position ∧
          c'.position = c.position + record.length ∧
          record.bytes = Field.bytes image c.position (c'.position - c.position)) ∧
      (∀ name header record c', c.perform (.chained name header) = (.ok record, c') →
        record.length = declared image c.position ∧ header ≤ record.length ∧
          (4 ≤ declared image c.position →
            ∃ size, record.uint32 0 = .ok size ∧ size.toNat = record.length) ∧
          (1 ≤ header → c.position < c'.position)) ∧
      ∀ call fault c', c.perform call = (.error fault, c') ↔
        call.Refused image c.position fault ∧ c' = c := by
  intro c records
  obtain ⟨hfirst, hstart⟩ := (startAt_eq_ok_iff image start first).mp h
  obtain ⟨hwithin, htiles⟩ := hfirst.run calls
  rw [hstart] at htiles
  refine ⟨⟨hwithin.inside, hwithin.remaining_eq⟩, ⟨htiles, htiles.pairwise, htiles.flatMap_bytes⟩,
    fun call record c' hperform => ?taken, fun name header record c' hperform => ?chained,
    fun call fault c' => hwithin.perform_eq_error_iff fault c'⟩
  case taken =>
    obtain ⟨hyields, rfl⟩ := hwithin.perform_eq_ok hperform
    refine ⟨hyields, hyields.offset, rfl, ?_⟩
    have hbytes := hyields.liesIn.bytes
    rw [hyields.offset] at hbytes
    have hlength : (c.advance record.length).position - c.position = record.length :=
      Nat.add_sub_cancel_left ..
    rw [hlength]
    exact hbytes
  case chained =>
    obtain ⟨hyields, rfl⟩ := hwithin.perform_eq_ok hperform
    obtain ⟨hlength, hcovers⟩ := hyields.length_chained
    refine ⟨hlength, hcovers, fun hsize => ?_, fun hheader => ?_⟩
    · exact ⟨_, hyields.uint32_chained hsize, hlength.symm⟩
    · show c.position < c.position + record.length
      omega

end Cursor

end DeviceSupport

namespace DeviceSupport.Sample
open Cursor (startAt)

/-! ## A sample

A record of three bytes, which are too few to hold its size, then a single byte, then a record of
six bytes. -/

def scraps : List UInt8 := [9, 3, 0, 0, 0, 6, 0, 0, 0, 0xAA, 0xBB, 1]

/-- The first call asks for too long a header, the third for too many bytes. -/
def scrapCalls : List Cursor.Call :=
  [.chained "record" 4, .chained "record" 1, .fixed "gap" 9, .fixed "gap" 1]

def scrapRecords : List Record := [⟨"record", 1, [3, 0, 0]⟩, ⟨"gap", 4, [0]⟩]

/-- What is refused leaves no gap between the records, and the next record of the chain can be taken
after one more refusal. -/
theorem scraps_tiled :
    ∃ first, startAt scraps 1 = .ok first ∧
      let c := (first.run scrapCalls).2
      (first.run scrapCalls).1.filterMap Except.toOption = scrapRecords ∧
        c.position = 5 ∧ c.remaining = 7 ∧ Tiles scraps 1 scrapRecords 5 ∧
        scrapRecords.flatMap (·.bytes) = Field.bytes scraps 1 4 ∧
        c.perform (.chained "record" 7) = (.error (.recordSizeInvalid "record" 5 6), c) ∧
        ∃ record c', c.perform (.chained "record" 4) = (.ok record, c') ∧ c'.position = 11 ∧
          record.bytes = Field.bytes scraps 5 6 ∧
          ∃ size, record.uint32 0 = .ok size ∧ size.toNat = 6 := by
  have hfirst : startAt scraps 1 = .ok ⟨1, scraps.drop 1⟩ := rfl
  obtain ⟨⟨-, hremaining⟩, ⟨htiles, -, hbytes⟩, htaken, hchained, hrefused⟩ :=
    Cursor.calls_tile_image hfirst scrapCalls
  refine ⟨_, hfirst, rfl, rfl, hremaining, htiles, hbytes, ?_, _, _, rfl, rfl, ?_, ?_⟩
  · exact (hrefused _ _ _).mpr ⟨.undersized (by decide) (by decide), rfl⟩
  · exact (htaken (.chained "record" 4) _ _ rfl).2.2.2
  · exact (hchained "record" 4 _ _ rfl).2.2.1 (by decide)

end DeviceSupport.Sample
