import DeviceSupport.Proofs.Package.RoundTrip

/-! Images that end too early.

A record is viewed as a whole before anything inside it is read. So wherever an image is cut off,
the outermost record that the cut falls into is found short, and what the cut leaves of the records
nested in it is never looked at. `decode_cut` says this of the images of the grammar;
`decode_take_append` adds that nothing behind the last event counts. -/
namespace DeviceSupport
set_option autoImplicit false

/-- The step found fewer bytes than it needs. -/
def IsShort {α : Type} (step : Except Fault α) : Prop :=
  ∃ record offset needed available,
    step = .error (.packageShort record offset needed available) ∧ available < needed

theorem IsShort.bind {α β : Type} {step : Except Fault α} (h : IsShort step)
    (next : α → Except Fault β) : IsShort (step >>= next) := by
  obtain ⟨record, offset, needed, available, rfl, hlt⟩ := h
  exact ⟨record, offset, needed, available, rfl, hlt⟩

namespace Cursor
variable {α ι : Type}

/-- What lies ahead are these bytes, cut off before their end. -/
structure Cut (c : Cursor) (bytes : List UInt8) : Prop where
  ahead : c.rest <+: bytes
  short : c.rest.length < bytes.length

theorem not_cut_nil (c : Cursor) : ¬ c.Cut [] :=
  fun h => Nat.not_lt_zero _ h.short

/-- A cut falls into the first part, or else the first part is whole. -/
theorem Cut.append_cases {c : Cursor} {bytes more : List UInt8} (h : c.Cut (bytes ++ more)) :
    c.Cut bytes ∨ ∃ c', c.Steps bytes c' ∧ c'.Cut more := by
  have hbytes : bytes <+: bytes ++ more := List.prefix_append bytes more
  rcases Nat.lt_or_ge c.rest.length bytes.length with hlt | hle
  · exact .inl ⟨List.prefix_of_prefix_length_le h.ahead hbytes (Nat.le_of_lt hlt), hlt⟩
  · have hwhole := List.prefix_of_prefix_length_le hbytes h.ahead hle
    obtain ⟨c', hsteps⟩ := (c.exists_steps_iff bytes).mpr hwhole
    obtain ⟨hahead, hshort⟩ := h
    rw [hsteps.1] at hahead hshort
    rw [List.length_append, List.length_append] at hshort
    exact .inr ⟨c', hsteps, (List.prefix_append_right_inj bytes).mp hahead, by omega⟩

/-! ## One record -/

theorem view_short {c : Cursor} {length : Nat} (name : String) (h : c.rest.length < length) :
    IsShort (c.view name length) :=
  ⟨name, c.position, length, c.remaining, view_of_length_lt h, h⟩

theorem fixed_cut {c : Cursor} {bytes : List UInt8} (name : String) (h : c.Cut bytes) :
    IsShort (c.fixed name bytes.length) :=
  (view_short name h.short).bind _

/-- A record that is cut off is short even when the cut leaves no whole size field. -/
theorem chained_cut {c : Cursor} {header : Nat} {bytes : List UInt8} (name : String)
    (hheader : 4 ≤ header) (hsized : IsSized header bytes) (h : c.Cut bytes) :
    IsShort (c.chained name header) := by
  unfold chained
  rcases Nat.lt_or_ge c.rest.length 4 with hlt | hle
  · exact (view_short name hlt).bind _
  · -- The size field is whole, and it still tells the length of the whole record.
    have hfour : 4 ≤ bytes.length := Nat.le_trans hheader hsized.covered
    have htake : c.rest.take 4 = bytes.take 4 := by
      obtain ⟨gone, hgone⟩ := h.ahead
      rw [← hgone, List.take_append_of_le_length hle]
    have hsize : (LittleEndian.toUInt32 (c.rest.take 4)).toNat = bytes.length := by
      rw [htake, ← hsized.declared]
      rfl
    rw [(view_eq_ok_iff c name 4 _).mpr ⟨hle, rfl⟩, ok_bind]
    dsimp only
    rw [hsize, if_neg (Nat.not_lt.mpr hsized.covered)]
    exact (view_short name h.short).bind _

/-! ## Items one after the other -/

/-- The reader finds every item short that is cut off. -/
def Notices (read : Cursor → Except Fault (α × Cursor)) (bytes : ι → List UInt8) : Prop :=
  ∀ (c : Cursor) (i : ι), c.Cut (bytes i) → IsShort (read c)

theorem Notices.many {read : Cursor → Except Fault (α × Cursor)} {bytes : ι → List UInt8}
    {value : ι → α} (h : Notices read bytes) (htakes : Takes read bytes value) (items : List ι)
    (c : Cursor) (hcut : c.Cut (items.flatMap bytes)) :
    IsShort (Cursor.many read items.length c) := by
  induction items generalizing c with
  | nil => exact absurd hcut c.not_cut_nil
  | cons i items ih =>
    rw [List.flatMap_cons] at hcut
    rw [List.length_cons, Cursor.many]
    rcases hcut.append_cases with hfirst | ⟨c', hsteps, hrest⟩
    · exact (h c i hfirst).bind _
    · rw [(htakes c c' (value i)).mpr ⟨i, hsteps, rfl⟩, ok_bind]
      exact (ih c' hrest).bind _

end Cursor

namespace Package

open Cursor (Notices)

theorem notices_domain : Notices nextDomain DomainImage.bytes := by
  intro c d hcut
  have hshort := Cursor.chained_cut "domain" (by decide) d.sized hcut
  exact hshort.bind _

theorem notices_algorithm : Notices nextAlgorithm (fun a : AlgorithmImage => a.1) := by
  intro c a hcut
  have hshort := Cursor.fixed_cut "algorithm" hcut
  rw [a.2] at hshort
  exact hshort.bind _

theorem notices_event : Notices nextEvent (fun e : EventImage => e.1) := by
  intro c e hcut
  have hshort := Cursor.fixed_cut "event" hcut
  rw [e.2] at hshort
  exact hshort.bind _

/-! ## Images -/

/-- An image that is cut off anywhere is found short. -/
theorem decode_cut (i : Image) {image : List UInt8} (h : (Cursor.ofBytes image).Cut i.bytes) :
    IsShort (decode image) := by
  rw [Image.bytes, List.append_assoc, List.append_assoc] at h
  rcases h.append_cases with hheader | ⟨c₀, hsteps₀, hbehind⟩
  · have hshort := Cursor.fixed_cut "header" hheader
    rw [i.header_length] at hshort
    exact hshort.bind _
  rw [decode_of_counted hsteps₀ i.header_length i.counted, i.domains_counted, i.algorithms_counted,
    i.events_counted]
  rcases hbehind.append_cases with hdomains | ⟨c₁, hsteps₁, hbehind⟩
  · exact (notices_domain.many takes_domain i.domains c₀ hdomains).bind _
  rw [(takes_domain.many _ c₀ c₁ _).mpr ⟨i.domains, rfl, hsteps₁, rfl⟩, ok_bind]
  dsimp only
  rcases hbehind.append_cases with halgorithms | ⟨c₂, hsteps₂, hevents⟩
  · exact (notices_algorithm.many takes_algorithm i.algorithms c₁ halgorithms).bind _
  rw [(takes_algorithm.many _ c₁ c₂ _).mpr ⟨i.algorithms, rfl, hsteps₂, rfl⟩, ok_bind]
  exact (notices_event.many takes_event i.events c₂ hevents).bind _

theorem length_flatMap_fixed {length : Nat}
    (items : List {bytes : List UInt8 // bytes.length = length}) :
    (items.flatMap (·.1)).length = length * items.length := by
  rw [List.length_flatMap, List.map_congr_left fun i _ => i.2, List.map_const',
    List.sum_replicate_nat, Nat.mul_comm]

end Package

/-- How many bytes of an image a profile is read from: its header, its domains by the sizes that
they declare, and the records of fixed length. -/
def Profile.imageLength (p : Profile) : Nat :=
  540 + p.domains.foldr (fun d rest => d.size.toNat + rest) 0 + 28 * p.algorithms.length +
    76 * p.events.length

namespace Package

theorem sizes_domains (domains : List DomainImage) :
    (domains.map (·.domain)).foldr (fun d rest => d.size.toNat + rest) 0 =
      (domains.flatMap (·.bytes)).length := by
  induction domains with
  | nil => rfl
  | cons d domains ih =>
    have hsize : d.domain.size.toNat = d.bytes.length := d.sized.declared
    rw [List.map_cons, List.foldr_cons, ih, List.flatMap_cons, List.length_append, hsize]

theorem Image.imageLength_profile (i : Image) : i.profile.imageLength = i.bytes.length := by
  have hframe := i.profile_frame
  simp only [Profile.frame, Prod.mk.injEq] at hframe
  obtain ⟨-, -, hdomains, halgorithms, hevents⟩ := hframe
  rw [Profile.imageLength, hdomains, halgorithms, hevents, List.length_map, List.length_map,
    sizes_domains, ← length_flatMap_fixed, ← length_flatMap_fixed, Image.bytes, List.length_append,
    List.length_append, List.length_append, i.header_length]

theorem imageLength_decoded {s : PackageSpec} (h : s.Storable) :
    s.decoded.imageLength = (encode s).length := by
  obtain ⟨i, hbytes, hprofile⟩ := exists_image_decoded h
  rw [← hprofile, i.imageLength_profile, hbytes]

theorem decode_append {b : List UInt8} {p : Profile} (h : decode b = .ok p) (x : List UInt8) :
    decode (b ++ x) = .ok p := by
  obtain ⟨i, hbytes, hprofile⟩ := (decode_eq_ok_iff b p).mp h
  exact (decode_eq_ok_iff _ _).mpr ⟨i, hbytes.trans (List.prefix_append b x), hprofile⟩

/-- Cutting an image off inside the bytes that its profile was read from is always found out, and
what follows these bytes never matters. -/
theorem decode_take_append {b : List UInt8} {p : Profile} (h : decode b = .ok p) :
    p.imageLength ≤ b.length ∧
    (∀ n < p.imageLength, ∃ record offset needed available,
      decode (b.take n) = .error (.packageShort record offset needed available) ∧
        available < needed ∧
        (Fault.packageShort record offset needed available).status = .packageShort) ∧
    (∀ n, p.imageLength ≤ n → decode (b.take n) = .ok p) ∧
    ∀ x, decode (b ++ x) = .ok p := by
  have hrest := decode_append h
  obtain ⟨i, hbytes, rfl⟩ := (decode_eq_ok_iff b p).mp h
  rw [i.imageLength_profile]
  refine ⟨hbytes.length_le, fun n hlt => ?_, fun n hle => ?_, hrest⟩
  · have hlength : (b.take n).length < i.bytes.length := by
      rw [List.length_take]
      omega
    have hahead : b.take n <+: i.bytes :=
      List.prefix_of_prefix_length_le (List.take_prefix n b) hbytes (Nat.le_of_lt hlength)
    obtain ⟨record, offset, needed, available, hdecode, hshort⟩ := decode_cut i ⟨hahead, hlength⟩
    exact ⟨record, offset, needed, available, hdecode, hshort, rfl⟩
  · have hwhole : i.bytes <+: b.take n := List.prefix_take_iff.mpr ⟨hbytes, hle⟩
    exact (decode_eq_ok_iff _ _).mpr ⟨i, hwhole, rfl⟩

/-- A package with records of every kind, with padding behind those that nest. -/
def tailed : PackageSpec where
  descriptor := { code := "demo" }
  domains :=
    [{ name := "CPU", qualifier := "D0", padding := 3
       primitives :=
        [{ opcode := .get, tuple := ⟨14, 1, 255⟩, requestType := 24, resultType := 6, padding := 2
           actions :=
            [{ actionType := .config, isKernel := false, padding := 1
               params := [some (.text "key")] }] }] }]
  algorithms := [{ actionType := .msr, temperature := 5 }]
  events := [{ name := "Trip", eventType := ⟨35⟩ }]

/-- Three bytes behind its last event do no harm, and every cut before its end is noticed. -/
theorem decode_tailed :
    ∃ p, decode (encode tailed ++ [1, 2, 3]) = .ok p ∧ p.imageLength = (encode tailed).length ∧
      (∀ n < p.imageLength, ∃ record offset needed available,
        decode ((encode tailed ++ [1, 2, 3]).take n) =
          .error (.packageShort record offset needed available) ∧ available < needed) ∧
      decode (encode tailed) = .ok p := by
  have hstorable : tailed.Storable := by decide
  have hlength := imageLength_decoded hstorable
  have h := decode_append (decode_encode_eq hstorable) [1, 2, 3]
  obtain ⟨-, hcut, hrest, -⟩ := decode_take_append h
  refine ⟨tailed.decoded, h, hlength, fun n hn => ?_, ?_⟩
  · obtain ⟨record, offset, needed, available, hdecode, hshort, -⟩ := hcut n hn
    exact ⟨record, offset, needed, available, hdecode, hshort⟩
  · have htake := hrest (encode tailed).length (Nat.le_of_eq hlength)
    rw [List.take_left] at htake
    exact htake

end Package

end DeviceSupport
