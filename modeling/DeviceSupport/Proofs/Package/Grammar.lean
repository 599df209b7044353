import DeviceSupport.Proofs.Package.Image
import DeviceSupport.Proofs.Profile.Positions

/-! Decoding accepts exactly the images of the grammar.

Level by level, a reader takes the records of one kind and gives their fields: `takes_action`,
`takes_primitive`, `takes_domain`, and the two kinds of fixed length. `decode_eq_ok_iff` puts them
together; `decode_accepts_images` says what the decoded profile holds. -/
namespace DeviceSupport.Package
set_option autoImplicit false

open Cursor (Takes)

theorem checkCeiling_eq_ok_iff (what : String) (count limit : UInt32) (u : Unit) :
    checkCeiling what count limit = .ok u ↔ count.toNat ≤ limit.toNat := by
  unfold checkCeiling
  by_cases h : limit < count
  · rw [if_pos h]
    exact ⟨fun e => (nomatch e), fun e => absurd h (UInt32.not_lt.mpr e)⟩
  · rw [if_neg h]
    exact ⟨fun _ => UInt32.not_lt.mp h, fun _ => rfl⟩

/-! ## Actions -/

theorem decodeParam_eq_ok_iff (r : Record) (offset : Nat) (p : Option Param) :
    decodeParam r offset = .ok p ↔ ItemFits r.bytes offset ∧ item? r.bytes offset = p := by
  unfold decodeParam item?
  rw [bind_eq_ok_iff]
  constructor
  · rintro ⟨kind, hkind, h⟩
    obtain ⟨_, rfl⟩ := (Record.uint8_eq_ok_iff r offset kind).mp hkind
    obtain ⟨length, hlength, h⟩ := bind_eq_ok_iff.mp h
    obtain ⟨hhead, rfl⟩ := (Record.uint16_eq_ok_iff r _ length).mp hlength
    by_cases hone : Field.uint8 r.bytes offset = 1
    · rw [if_pos hone] at h ⊢
      obtain ⟨text, htext, h⟩ := bind_eq_ok_iff.mp h
      obtain ⟨hfit, rfl⟩ := (Record.text_eq_ok_iff r _ _ text).mp htext
      cases h
      exact ⟨⟨hhead, fun _ => hfit, fun hfour => by rw [hone] at hfour; nomatch hfour⟩, rfl⟩
    rw [if_neg hone] at h ⊢
    by_cases hfour : Field.uint8 r.bytes offset = 4
    · rw [if_pos hfour] at h ⊢
      obtain ⟨number, hnumber, h⟩ := bind_eq_ok_iff.mp h
      obtain ⟨hfit, rfl⟩ := (Record.uint32_eq_ok_iff r _ number).mp hnumber
      cases h
      exact ⟨⟨hhead, fun e => absurd e hone, fun _ => hfit⟩, rfl⟩
    · rw [if_neg hfour] at h ⊢
      cases h
      exact ⟨⟨hhead, fun e => absurd e hone, fun e => absurd e hfour⟩, rfl⟩
  · rintro ⟨⟨hhead, htext, hnumber⟩, rfl⟩
    refine ⟨_, Record.uint8_of_le (by omega), bind_eq_ok_iff.mpr ⟨_, Record.uint16_of_le ?_, ?_⟩⟩
    · omega
    by_cases hone : Field.uint8 r.bytes offset = 1
    · rw [if_pos hone, if_pos hone, bind_eq_ok_iff]
      exact ⟨_, Record.text_of_le (htext hone), rfl⟩
    rw [if_neg hone, if_neg hone]
    by_cases hfour : Field.uint8 r.bytes offset = 4
    · rw [if_pos hfour, if_pos hfour, bind_eq_ok_iff]
      exact ⟨_, Record.uint32_of_le (hnumber hfour), rfl⟩
    · rw [if_neg hfour, if_neg hfour]
      rfl

theorem decodeSlot_eq_ok_iff {r : Record} (h : 44 ≤ r.bytes.length) {slot : Nat}
    (hslot : slot < Params.slots) (p : Option Param) :
    decodeSlot r slot = .ok p ↔ SlotFits r.bytes slot ∧ param? r.bytes slot = p := by
  have hvalid : 16 + slot + 1 ≤ r.bytes.length := by
    unfold Params.slots at hslot
    omega
  have hoffset : 24 + 4 * slot + 4 ≤ r.bytes.length := by
    unfold Params.slots at hslot
    omega
  rw [decodeSlot, Record.uint8_of_le hvalid, ok_bind]
  unfold SlotFits param?
  by_cases hzero : Field.uint8 r.bytes (16 + slot) = 0
  · rw [if_pos hzero, if_pos hzero, pure_eq_ok, Except.ok.injEq]
    exact (and_iff_right fun hne => absurd hzero hne).symm
  · rw [if_neg hzero, if_neg hzero, Record.uint32_of_le hoffset, ok_bind]
    rw [decodeParam_eq_ok_iff]
    exact and_congr_left fun _ => ⟨fun hfits _ => hfits, fun hfits => hfits hzero⟩

theorem decodeAction_eq_ok_iff (r : Record) (a : Action) (h : IsSized 44 r.bytes) :
    decodeAction r = .ok a ↔ ∃ x : ActionImage, x.bytes = r.bytes ∧ x.action = a := by
  have hlen := h.covered
  have hslots := mapM_eq_ok_iff fun slot hslot p =>
    decodeSlot_eq_ok_iff hlen (List.mem_range.mp hslot) p
  rw [decodeAction, bind_eq_ok_iff]
  simp (disch := omega) only [Record.uint32_of_le, ok_bind, pure_eq_ok, Except.ok.injEq]
  constructor
  · rintro ⟨params, hparams, rfl⟩
    obtain ⟨hfits, rfl⟩ := (hslots params).mp hparams
    exact ⟨⟨r.bytes, h, hfits⟩, rfl, rfl⟩
  · rintro ⟨⟨bytes, hsized, hfits⟩, rfl, rfl⟩
    exact ⟨_, (hslots _).mpr ⟨hfits, rfl⟩, rfl⟩

theorem takes_action : Takes nextAction ActionImage.bytes ActionImage.action :=
  Cursor.takes_chained (by decide) (fun _ => rfl) ActionImage.sized decodeAction_eq_ok_iff

/-! ## Primitives -/

theorem decodePrimitive_eq_ok_iff (r : Record) (p : Primitive) (h : IsSized 284 r.bytes) :
    decodePrimitive r = .ok p ↔ ∃ x : PrimitiveImage, x.bytes = r.bytes ∧ x.primitive = p := by
  have hlen := h.covered
  have hactions := takes_action.many_prefix (Field.uint32 r.bytes 280).toNat
    ⟨284, r.bytes.drop 284⟩
  unfold decodePrimitive
  rw [Record.uint32_of_le (by omega), ok_bind, bind_eq_ok_iff]
  simp (disch := omega) only [Record.uint16_of_le, Record.uint32_of_le, Record.text_of_le,
    Record.body_of_le, ok_bind, pure_eq_ok]
  constructor
  · rintro ⟨_, hceiling, h'⟩
    have hfew := (checkCeiling_eq_ok_iff _ _ _ _).mp hceiling
    obtain ⟨⟨as, c'⟩, hmany, h'⟩ := bind_eq_ok_iff.mp h'
    obtain ⟨items, hcount, hinside, rfl⟩ := (hactions as).mp ⟨c', hmany⟩
    cases h'
    exact ⟨⟨r.bytes, items, h, hcount.symm, hcount ▸ hfew, hinside⟩, rfl, rfl⟩
  · rintro ⟨⟨bytes, items, hsized, hcount, hfew, hinside⟩, rfl, rfl⟩
    obtain ⟨c', hmany⟩ := (hactions _).mpr ⟨items, hcount.symm, hinside, rfl⟩
    refine ⟨(), (checkCeiling_eq_ok_iff _ _ _ _).mpr (hcount ▸ hfew), ?_⟩
    exact bind_eq_ok_iff.mpr ⟨_, hmany, rfl⟩

theorem takes_primitive : Takes nextPrimitive PrimitiveImage.bytes PrimitiveImage.primitive :=
  Cursor.takes_chained (by decide) (fun _ => rfl) PrimitiveImage.sized decodePrimitive_eq_ok_iff

/-! ## Domains -/

/-- A domain record with its primitives. -/
def decodeWhole (r : Record) : Except Fault (Domain × List Primitive) := do
  let domain ← decodeDomain r
  let body ← r.body 236
  let (primitives, _) ← Cursor.many nextPrimitive domain.primitiveCount.toNat body
  return (domain, primitives)

theorem nextDomain_eq (c : Cursor) :
    nextDomain c = do
      let (record, c) ← c.chained "domain" 236
      let a ← decodeWhole record
      return (a, c) := by
  unfold nextDomain decodeWhole
  simp only [bind_assoc, pure_bind]

theorem decodeDomain_eq_ok_iff {r : Record} (h : 236 ≤ r.bytes.length) (d : Domain) :
    decodeDomain r = .ok d ↔
      (Field.uint32 r.bytes 192).toNat ≤ 4096 ∧ domainOf r.bytes = d := by
  unfold decodeDomain
  simp (disch := omega) only [Record.uint8_of_le, Record.uint16_of_le, Record.uint32_of_le,
    Record.text_of_le, Record.field_of_le, ok_bind, pure_eq_ok]
  rw [bind_eq_ok_iff]
  constructor
  · rintro ⟨_, hceiling, h'⟩
    cases h'
    exact ⟨(checkCeiling_eq_ok_iff _ _ _ _).mp hceiling, rfl⟩
  · rintro ⟨hfew, rfl⟩
    exact ⟨(), (checkCeiling_eq_ok_iff _ _ _ _).mpr hfew, rfl⟩

theorem decodeWhole_eq_ok_iff (r : Record) (a : Domain × List Primitive) (h : IsSized 236 r.bytes) :
    decodeWhole r = .ok a ↔ ∃ x : DomainImage, x.bytes = r.bytes ∧
      (x.domain, x.primitives.map (·.primitive)) = a := by
  have hprimitives := takes_primitive.many_prefix (Field.uint32 r.bytes 192).toNat
    ⟨236, r.bytes.drop 236⟩
  unfold decodeWhole
  simp only [Record.body_of_le h.covered, ok_bind]
  rw [bind_eq_ok_iff]
  constructor
  · rintro ⟨d, hd, h'⟩
    obtain ⟨hfew, rfl⟩ := (decodeDomain_eq_ok_iff h.covered d).mp hd
    obtain ⟨⟨ps, c'⟩, hmany, h'⟩ := bind_eq_ok_iff.mp h'
    obtain ⟨items, hcount, hinside, rfl⟩ := (hprimitives ps).mp ⟨c', hmany⟩
    cases h'
    exact ⟨⟨r.bytes, items, h, hcount.symm, hcount ▸ hfew, hinside⟩, rfl, rfl⟩
  · rintro ⟨⟨bytes, items, hsized, hcount, hfew, hinside⟩, rfl, rfl⟩
    obtain ⟨c', hmany⟩ := (hprimitives _).mpr ⟨items, hcount.symm, hinside, rfl⟩
    refine ⟨_, (decodeDomain_eq_ok_iff h.covered _).mpr ⟨hcount ▸ hfew, rfl⟩, ?_⟩
    exact bind_eq_ok_iff.mpr ⟨_, hmany, rfl⟩

theorem takes_domain : Takes nextDomain DomainImage.bytes
    fun d => (d.domain, d.primitives.map (·.primitive)) :=
  Cursor.takes_chained (by decide) nextDomain_eq DomainImage.sized decodeWhole_eq_ok_iff

/-! ## Algorithms and events -/

theorem takes_algorithm :
    Takes nextAlgorithm (fun a : AlgorithmImage => a.1) (fun a => algorithmOf a.1) := by
  refine Cursor.takes_fixed "algorithm" (fun hr hlen => ?_) (fun hr => ?_)
  · rw [nextAlgorithm, hr, ok_bind]
    simp (disch := omega) only [Record.uint32_of_le, ok_bind, pure_eq_ok]
    rfl
  · rw [nextAlgorithm, hr]
    rfl

theorem takes_event : Takes nextEvent (fun e : EventImage => e.1) (fun e => eventOf e.1) := by
  refine Cursor.takes_fixed "event" (fun hr hlen => ?_) (fun hr => ?_)
  · rw [nextEvent, hr, ok_bind]
    simp (disch := omega) only [Record.uint32_of_le, Record.text_of_le, Record.field_of_le, ok_bind,
      pure_eq_ok]
    rfl
  · rw [nextEvent, hr]
    rfl

/-! ## Images -/

theorem decodeDescriptor_eq_ok {r : Record} (h : r.bytes.length = 540) :
    decodeDescriptor r = .ok (descriptorOf r.bytes) := by
  unfold decodeDescriptor
  simp (disch := omega) only [Record.uint8_of_le, Record.uint32_of_le, Record.text_of_le, ok_bind,
    pure_eq_ok]
  rfl

/-- The counts of a header are inside their ceilings. -/
structure Counted (header : List UInt8) : Prop where
  some_domain : 1 ≤ (Field.uint32 header 528).toNat
  few_domains : (Field.uint32 header 528).toNat ≤ 64
  few_algorithms : (Field.uint32 header 532).toNat ≤ 256
  few_events : (Field.uint32 header 536).toNat ≤ 512

theorem Image.counted (i : Image) : Counted i.header :=
  ⟨i.domains_counted ▸ i.some_domain, i.domains_counted ▸ i.few_domains,
    i.algorithms_counted ▸ i.few_algorithms, i.events_counted ▸ i.few_events⟩

/-- The profile of a header and of the records behind it. -/
def profileOf (header : List UInt8) (domains : List (Domain × List Primitive))
    (algorithms : List Algorithm) (events : List Event) : Profile :=
  Profile.insertPrimitives
    { descriptor := descriptorOf header
      declaredSize := Field.uint32 header 0
      domains := domains.map (·.1)
      algorithms, events }
    (domains.flatMap (·.2))

theorem decode_of_header {image : List UInt8} {r : Record} {c : Cursor}
    (hr : (Cursor.ofBytes image).fixed "header" 540 = .ok (r, c)) (hlen : r.bytes.length = 540) :
    decode image =
      if Field.uint32 r.bytes 528 = 0 then .error .missingDomain
      else do
        checkCeiling "domain" (Field.uint32 r.bytes 528) Limits.domains
        checkCeiling "algorithm" (Field.uint32 r.bytes 532) Limits.algorithms
        checkCeiling "event" (Field.uint32 r.bytes 536) Limits.events
        let (domains, c) ← Cursor.many nextDomain (Field.uint32 r.bytes 528).toNat c
        let (algorithms, c) ← Cursor.many nextAlgorithm (Field.uint32 r.bytes 532).toNat c
        let (events, _) ← Cursor.many nextEvent (Field.uint32 r.bytes 536).toNat c
        return profileOf r.bytes domains algorithms events := by
  rw [decode, hr, ok_bind]
  simp (disch := omega) only [Record.uint32_of_le, decodeDescriptor_eq_ok, ok_bind]
  rfl

/-- Behind a header whose counts are inside their ceilings, decoding is three runs of items. -/
theorem decode_of_counted {image header : List UInt8} {c₀ : Cursor}
    (hsteps : (Cursor.ofBytes image).Steps header c₀) (hlen : header.length = 540)
    (hcounted : Counted header) :
    decode image = do
      let (domains, c) ← Cursor.many nextDomain (Field.uint32 header 528).toNat c₀
      let (algorithms, c) ← Cursor.many nextAlgorithm (Field.uint32 header 532).toNat c
      let (events, _) ← Cursor.many nextEvent (Field.uint32 header 536).toNat c
      return profileOf header domains algorithms events := by
  have hr := (Cursor.fixed_eq_ok_iff (Cursor.ofBytes image) c₀ "header" 540 _).mpr
    ⟨header, hsteps, hlen, rfl⟩
  have hnonzero : Field.uint32 header 528 ≠ 0 := by
    intro hzero
    have hsome := hcounted.some_domain
    rw [hzero] at hsome
    exact absurd hsome (by decide)
  have hd := (checkCeiling_eq_ok_iff "domain" _ Limits.domains ()).mpr hcounted.few_domains
  have ha := (checkCeiling_eq_ok_iff "algorithm" _ Limits.algorithms ()).mpr
    hcounted.few_algorithms
  have he := (checkCeiling_eq_ok_iff "event" _ Limits.events ()).mpr hcounted.few_events
  rw [decode_of_header hr hlen, if_neg hnonzero]
  simp only [hd, ha, he, ok_bind]

theorem decode_eq_ok_iff_runs (image : List UInt8) (p : Profile) :
    decode image = .ok p ↔ ∃ header c₀ domains c₁ algorithms c₂ events c₃,
      (Cursor.ofBytes image).Steps header c₀ ∧ header.length = 540 ∧ Counted header ∧
      Cursor.many nextDomain (Field.uint32 header 528).toNat c₀ = .ok (domains, c₁) ∧
      Cursor.many nextAlgorithm (Field.uint32 header 532).toNat c₁ = .ok (algorithms, c₂) ∧
      Cursor.many nextEvent (Field.uint32 header 536).toNat c₂ = .ok (events, c₃) ∧
      profileOf header domains algorithms events = p := by
  constructor
  · intro h
    cases hr : (Cursor.ofBytes image).fixed "header" 540 with
    | error fault =>
      rw [decode, hr] at h
      nomatch h
    | ok taken =>
      obtain ⟨r, c₀⟩ := taken
      obtain ⟨header, hsteps, hlen, rfl⟩ := (Cursor.fixed_eq_ok_iff _ c₀ _ 540 r).mp hr
      rw [decode_of_header hr hlen] at h
      dsimp only at h
      by_cases hzero : Field.uint32 header 528 = 0
      · rw [if_pos hzero] at h
        nomatch h
      rw [if_neg hzero] at h
      obtain ⟨_, hd, h⟩ := bind_eq_ok_iff.mp h
      obtain ⟨_, ha, h⟩ := bind_eq_ok_iff.mp h
      obtain ⟨_, he, h⟩ := bind_eq_ok_iff.mp h
      obtain ⟨⟨domains, c₁⟩, hdomains, h⟩ := bind_eq_ok_iff.mp h
      obtain ⟨⟨algorithms, c₂⟩, halgorithms, h⟩ := bind_eq_ok_iff.mp h
      obtain ⟨⟨events, c₃⟩, hevents, h⟩ := bind_eq_ok_iff.mp h
      cases h
      have hsome : 1 ≤ (Field.uint32 header 528).toNat :=
        Nat.pos_of_ne_zero fun h => hzero (UInt32.toNat.inj h)
      refine ⟨header, c₀, domains, c₁, algorithms, c₂, events, c₃, hsteps, hlen, ⟨hsome, ?_, ?_, ?_⟩,
        hdomains, halgorithms, hevents, rfl⟩
      · exact (checkCeiling_eq_ok_iff _ _ _ _).mp hd
      · exact (checkCeiling_eq_ok_iff _ _ _ _).mp ha
      · exact (checkCeiling_eq_ok_iff _ _ _ _).mp he
  · rintro ⟨header, c₀, domains, c₁, algorithms, c₂, events, c₃, hsteps, hlen, hcounted,
      hdomains, halgorithms, hevents, rfl⟩
    rw [decode_of_counted hsteps hlen hcounted]
    simp only [hdomains, halgorithms, hevents, ok_bind, pure_eq_ok]

theorem profileOf_image (i : Image) :
    profileOf i.header (i.domains.map fun d => (d.domain, d.primitives.map (·.primitive)))
      (i.algorithms.map fun a => algorithmOf a.1) (i.events.map fun e => eventOf e.1) =
        i.profile := by
  rw [profileOf, List.map_map, List.flatMap_map]
  rfl

theorem decode_eq_ok_iff (image : List UInt8) (p : Profile) :
    decode image = .ok p ↔ ∃ i : Image, i.bytes <+: image ∧ i.profile = p := by
  rw [decode_eq_ok_iff_runs]
  constructor
  · rintro ⟨header, c₀, domains, c₁, algorithms, c₂, events, c₃, hsteps, hlen, hcounted,
      hdomains, halgorithms, hevents, rfl⟩
    obtain ⟨ds, hd, hsteps₁, rfl⟩ := (takes_domain.many _ _ _ _).mp hdomains
    obtain ⟨as, ha, hsteps₂, rfl⟩ := (takes_algorithm.many _ _ _ _).mp halgorithms
    obtain ⟨es, he, hsteps₃, rfl⟩ := (takes_event.many _ _ _ _).mp hevents
    refine ⟨⟨header, ds, as, es, hlen, hd.symm, ha.symm, he.symm, ?_, ?_, ?_, ?_⟩, ?_,
      (profileOf_image _).symm⟩
    · exact hd ▸ hcounted.some_domain
    · exact hd ▸ hcounted.few_domains
    · exact ha ▸ hcounted.few_algorithms
    · exact he ▸ hcounted.few_events
    · exact ⟨c₃.rest, (((hsteps.trans hsteps₁).trans hsteps₂).trans hsteps₃).1.symm⟩
  · rintro ⟨i, hprefix, rfl⟩
    obtain ⟨c₃, h⟩ := (Cursor.exists_steps_iff (Cursor.ofBytes image) i.bytes).mpr hprefix
    obtain ⟨c₂, h, hevents⟩ := (Cursor.steps_append_iff _ c₃ _ _).mp h
    obtain ⟨c₁, h, halgorithms⟩ := (Cursor.steps_append_iff _ c₂ _ _).mp h
    obtain ⟨c₀, hheader, hdomains⟩ := (Cursor.steps_append_iff _ c₁ _ _).mp h
    exact ⟨i.header, c₀, _, c₁, _, c₂, _, c₃, hheader, i.header_length, i.counted,
      (takes_domain.many _ _ _ _).mpr ⟨i.domains, i.domains_counted.symm, hdomains, rfl⟩,
      (takes_algorithm.many _ _ _ _).mpr ⟨i.algorithms, i.algorithms_counted.symm, halgorithms, rfl⟩,
      (takes_event.many _ _ _ _).mpr ⟨i.events, i.events_counted.symm, hevents, rfl⟩,
      profileOf_image i⟩

theorem Image.profile_frame (i : Image) :
    i.profile.frame = (descriptorOf i.header, Field.uint32 i.header 0, i.domains.map (·.domain),
      i.algorithms.map (fun a => algorithmOf a.1), i.events.map fun e => eventOf e.1) :=
  Profile.frame_insertPrimitives _ _

theorem Image.profile_primitives (i : Image) : i.profile.primitives.toList = i.primitives :=
  Profile.primitives_insertPrimitives _ _

/-- No decoded primitive has more actions than the ceiling allows. -/
theorem length_actions_of_decode {image : List UInt8} {p : Profile} (h : decode image = .ok p)
    {primitive : Primitive} (hmem : primitive ∈ p.primitives.toList) :
    primitive.actions.length ≤ 16 := by
  obtain ⟨i, -, rfl⟩ := (decode_eq_ok_iff image p).mp h
  rw [i.profile_primitives] at hmem
  obtain ⟨d, -, hmem⟩ := List.mem_flatMap.mp hmem
  obtain ⟨x, -, rfl⟩ := List.mem_map.mp hmem
  have hlen : x.primitive.actions.length = x.actions.length := List.length_map _
  rw [hlen]
  exact x.few

/-- Decoding succeeds exactly on the images of the grammar with any bytes behind them, and a decoded
profile holds the records of the image in its order. -/
theorem decode_accepts_images (b : List UInt8) :
    ((∃ p, decode b = .ok p) ↔ ∃ (i : Image) (rest : List UInt8), b = i.bytes ++ rest) ∧
    ∀ (i : Image) (rest : List UInt8), ∃ p, decode (i.bytes ++ rest) = .ok p ∧
      p.descriptor = descriptorOf i.header ∧
      p.declaredSize = Field.uint32 i.header 0 ∧
      p.domains = i.domains.map (·.domain) ∧
      p.primitives.toList = i.domains.flatMap (fun d => d.primitives.map (·.primitive)) ∧
      p.algorithms = i.algorithms.map (fun a => algorithmOf a.1) ∧
      p.events = i.events.map (fun e => eventOf e.1) := by
  constructor
  · constructor
    · rintro ⟨p, h⟩
      obtain ⟨i, ⟨rest, hb⟩, -⟩ := (decode_eq_ok_iff b p).mp h
      exact ⟨i, rest, hb.symm⟩
    · rintro ⟨i, rest, rfl⟩
      exact ⟨i.profile, (decode_eq_ok_iff _ _).mpr ⟨i, List.prefix_append _ _, rfl⟩⟩
  · intro i rest
    have hframe := i.profile_frame
    simp only [Profile.frame, Prod.mk.injEq] at hframe
    obtain ⟨hdescriptor, hsize, hdomains, halgorithms, hevents⟩ := hframe
    exact ⟨i.profile, (decode_eq_ok_iff _ _).mpr ⟨i, List.prefix_append _ _, rfl⟩, hdescriptor,
      hsize, hdomains, i.profile_primitives, halgorithms, hevents⟩

end DeviceSupport.Package
