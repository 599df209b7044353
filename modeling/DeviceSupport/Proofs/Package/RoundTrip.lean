import DeviceSupport.Proofs.Package.Grammar
import DeviceSupport.Proofs.Package.Layout
import Mathlib.Tactic.MkIffOfInductiveProp

/-! Decoding undoes encoding.

What encoding writes for a record is an image of the grammar with the value that is read back from
it, from the actions up; `exists_items` carries this over to the lists of records. Where all texts
are storable, that value is the one its description asks for. Then the decoder, which accepts exactly
the images, gives these values. -/
namespace DeviceSupport
set_option autoImplicit false

open Package

/-! ## What can be written -/

structure PrimitiveSpec.Storable (p : PrimitiveSpec) : Prop where
  actions : ∀ a ∈ p.actions, a.Storable
  few : p.actions.length ≤ 16

structure DomainSpec.Storable (d : DomainSpec) : Prop where
  name : FitsField 32 d.name
  guid : d.guid.length = 16
  primitives : ∀ p ∈ d.primitives, p.Storable
  few : d.primitives.length ≤ 4096

structure PackageSpec.Storable (s : PackageSpec) : Prop where
  descriptor : s.descriptor.Storable
  domains : ∀ d ∈ s.domains, d.Storable
  events : ∀ e ∈ s.events, e.Storable
  some_domain : 1 ≤ s.domains.length
  few_domains : s.domains.length ≤ 64
  few_algorithms : s.algorithms.length ≤ 256
  few_events : s.events.length ≤ 512
  /-- The size of the image is a word. -/
  short : (encode s).length < 4294967296

attribute [mk_iff] ActionSpec.Storable PrimitiveSpec.Storable DomainSpec.Storable
  EventSpec.Storable Descriptor.Storable

instance (a : ActionSpec) : Decidable a.Storable := decidable_of_iff' _ a.storable_iff

instance (p : PrimitiveSpec) : Decidable p.Storable := decidable_of_iff' _ p.storable_iff

instance (d : DomainSpec) : Decidable d.Storable := decidable_of_iff' _ d.storable_iff

instance (e : EventSpec) : Decidable e.Storable := decidable_of_iff' _ e.storable_iff

instance (d : Descriptor) : Decidable d.Storable := decidable_of_iff' _ d.storable_iff

instance (s : PackageSpec) : Decidable s.Storable :=
  decidable_of_iff (s.descriptor.Storable ∧ (∀ d ∈ s.domains, d.Storable) ∧
      (∀ e ∈ s.events, e.Storable) ∧ 1 ≤ s.domains.length ∧ s.domains.length ≤ 64 ∧
      s.algorithms.length ≤ 256 ∧ s.events.length ≤ 512 ∧ s.imageSize < 4294967296)
    ⟨fun ⟨hdescriptor, hdomains, hevents, hsome, hds, has, hes, hshort⟩ =>
        ⟨hdescriptor, hdomains, hevents, hsome, hds, has, hes, s.imageSize_eq ▸ hshort⟩,
      fun h => ⟨h.descriptor, h.domains, h.events, h.some_domain, h.few_domains, h.few_algorithms,
        h.few_events, s.imageSize_eq.symm ▸ h.short⟩⟩

/-- All counts are inside their ceilings, and the size of the image is a word. Nothing is said of
texts. -/
structure PackageSpec.Fits (s : PackageSpec) : Prop where
  few_actions : ∀ d ∈ s.domains, ∀ p ∈ d.primitives, p.actions.length ≤ 16
  few_primitives : ∀ d ∈ s.domains, d.primitives.length ≤ 4096
  some_domain : 1 ≤ s.domains.length
  few_domains : s.domains.length ≤ 64
  few_algorithms : s.algorithms.length ≤ 256
  few_events : s.events.length ≤ 512
  short : (encode s).length < 4294967296

theorem PackageSpec.Storable.fits {s : PackageSpec} (h : s.Storable) : s.Fits where
  few_actions d hd p hp := ((h.domains d hd).primitives p hp).few
  few_primitives d hd := (h.domains d hd).few
  some_domain := h.some_domain
  few_domains := h.few_domains
  few_algorithms := h.few_algorithms
  few_events := h.few_events
  short := h.short

theorem PrimitiveSpec.Storable.readBack_eq {p : PrimitiveSpec} (h : p.Storable) :
    p.readBack = p.decoded := by
  have hactions : p.actions.map (·.readBack) = p.actions.map (·.decoded) :=
    List.map_congr_left fun a ha => (h.actions a ha).readBack_eq
  rw [PrimitiveSpec.readBack, hactions]
  rfl

/-- The profile of a package, built from its description alone. -/
def PackageSpec.decoded (s : PackageSpec) : Profile :=
  Profile.insertPrimitives
    { descriptor := s.descriptor
      declaredSize := UInt32.ofNat (encode s).length
      domains := s.domains.map (·.decoded)
      algorithms := s.algorithms.map (·.decoded)
      events := s.events.map (·.decoded) }
    (s.domains.flatMap fun d => d.primitives.map (·.decoded))

namespace Package

/-! ## Lists of records -/

theorem exists_items {α ι β : Type} {encode : α → List UInt8} {expected : α → β}
    {bytes : ι → List UInt8} {value : ι → β} (xs : List α)
    (h : ∀ x ∈ xs, ∃ i, bytes i = encode x ∧ value i = expected x) :
    ∃ items : List ι, items.length = xs.length ∧ items.flatMap bytes = xs.flatMap encode ∧
      items.map value = xs.map expected := by
  induction xs with
  | nil => exact ⟨[], rfl, rfl, rfl⟩
  | cons x xs ih =>
    obtain ⟨i, hbytes, hvalue⟩ := h x (List.mem_cons_self ..)
    obtain ⟨items, hlen, hall, hvalues⟩ := ih fun y hy => h y (List.mem_cons_of_mem x hy)
    refine ⟨i :: items, ?_, ?_, ?_⟩
    · rw [List.length_cons, hlen, List.length_cons]
    · rw [List.flatMap_cons, hbytes, hall, List.flatMap_cons]
    · rw [List.map_cons, hvalue, hvalues, List.map_cons]

/-- A record is not longer than all records of its list together. -/
theorem length_le_flatMap {α : Type} (encode : α → List UInt8) {xs : List α} {x : α}
    (h : x ∈ xs) : (encode x).length ≤ (xs.flatMap encode).length := by
  rw [List.flatMap_def]
  exact (List.sublist_flatten_of_mem (List.mem_map_of_mem h)).length_le

/-- A count inside its ceiling is read back as it is. -/
theorem toNat_count {count limit : Nat} (h : count ≤ limit) (hlimit : limit < 4294967296) :
    (UInt32.ofNat count).toNat = count :=
  UInt32.toNat_ofNat_of_lt' (Nat.lt_of_le_of_lt h hlimit)

/-! ## Records -/

theorem exists_primitiveImage {p : PrimitiveSpec} (hfew : p.actions.length ≤ 16)
    (hlen : (encodePrimitive p).length < 4294967296) :
    ∃ x : PrimitiveImage, x.bytes = encodePrimitive p ∧ x.primitive = p.readBack := by
  have hlength := length_encodePrimitive p
  obtain ⟨actions, hcount, hbytes, hvalues⟩ := exists_items p.actions fun a ha => by
    have hle := length_le_flatMap encodeAction ha
    exact exists_actionImage (a := a) (by omega)
  have hsized : IsSized 284 (encodePrimitive p) := isSized_of_eq rfl (by omega) hlen
  have hcounted : (Field.uint32 (encodePrimitive p) 280).toNat = actions.length := by
    rw [count_encodePrimitive, toNat_count hfew (by decide), hcount]
  have hinside : actions.flatMap (·.bytes) <+: (encodePrimitive p).drop 284 := by
    rw [encodePrimitive_eq, ← length_primitiveHeader p, List.drop_left, hbytes]
    exact List.prefix_append _ _
  refine ⟨⟨encodePrimitive p, actions, hsized, hcounted, hcount ▸ hfew, hinside⟩, rfl, ?_⟩
  rw [PrimitiveImage.primitive, hvalues, primitiveOf_encode]

theorem exists_domainImage {d : DomainSpec} (hactions : ∀ p ∈ d.primitives, p.actions.length ≤ 16)
    (hfew : d.primitives.length ≤ 4096) (hlen : (encodeDomain d).length < 4294967296) :
    ∃ x : DomainImage, x.bytes = encodeDomain d ∧
      (x.domain, x.primitives.map (·.primitive)) =
        (domainOf (encodeDomain d), d.primitives.map (·.readBack)) := by
  have hlength := length_encodeDomain d
  obtain ⟨primitives, hcount, hbytes, hvalues⟩ := exists_items d.primitives fun p hp => by
    have hle := length_le_flatMap encodePrimitive hp
    exact exists_primitiveImage (hactions p hp) (by omega)
  have hsized : IsSized 236 (encodeDomain d) := isSized_of_eq rfl (by omega) hlen
  have hcounted : (Field.uint32 (encodeDomain d) 192).toNat = primitives.length := by
    rw [count_encodeDomain, toNat_count hfew (by decide), hcount]
  have hinside : primitives.flatMap (·.bytes) <+: (encodeDomain d).drop 236 := by
    rw [encodeDomain_eq, ← length_domainHeader d, List.drop_left, hbytes]
    exact List.prefix_append _ _
  refine ⟨⟨encodeDomain d, primitives, hsized, hcounted, hcount ▸ hfew, hinside⟩, rfl, ?_⟩
  rw [DomainImage.domain, hvalues]

/-! ## Packages -/

/-- Whatever the texts of a package are, its image is one of the grammar, with the header and the
records that were written. -/
theorem exists_writtenImage {s : PackageSpec} (h : s.Fits) :
    ∃ i : Image, i.bytes = encode s ∧ i.header = s.header ∧
      i.domains.map (fun d => (d.domain, d.primitives.map (·.primitive))) =
        s.domains.map (fun d => (domainOf (encodeDomain d), d.primitives.map (·.readBack))) ∧
      i.algorithms.map (fun a => algorithmOf a.1) = s.algorithms.map (·.decoded) ∧
      i.events.map (fun e => eventOf e.1) = s.events.map (fun e => eventOf (encodeEvent e)) := by
  obtain ⟨-, hdomains, halgorithms, hevents⟩ := counts_header s
  have hlength := length_encode s
  have hshort := h.short
  obtain ⟨ds, hd, hdbytes, hdvalues⟩ := exists_items s.domains fun d hmem => by
    have hle := length_le_flatMap encodeDomain hmem
    exact exists_domainImage (h.few_actions d hmem) (h.few_primitives d hmem) (by omega)
  obtain ⟨as, ha, habytes, havalues⟩ := exists_items s.algorithms fun a _ =>
    show ∃ x : AlgorithmImage, x.1 = encodeAlgorithm a ∧ algorithmOf x.1 = a.decoded from
      ⟨⟨_, length_encodeAlgorithm a⟩, rfl, algorithmOf_encode a⟩
  obtain ⟨es, he, hebytes, hevalues⟩ := exists_items s.events fun e _ =>
    show ∃ x : EventImage, x.1 = encodeEvent e ∧ eventOf x.1 = eventOf (encodeEvent e) from
      ⟨⟨_, length_encodeEvent e⟩, rfl, rfl⟩
  refine ⟨⟨s.header, ds, as, es, length_packageHeader s, ?_, ?_, ?_, ?_, ?_, ?_, ?_⟩,
    ?_, rfl, hdvalues, havalues, hevalues⟩
  · rw [hdomains, toNat_count h.few_domains (by decide), hd]
  · rw [halgorithms, toNat_count h.few_algorithms (by decide), ha]
  · rw [hevents, toNat_count h.few_events (by decide), he]
  · exact hd ▸ h.some_domain
  · exact hd ▸ h.few_domains
  · exact ha ▸ h.few_algorithms
  · exact he ▸ h.few_events
  · rw [Image.bytes, hdbytes, habytes, hebytes, encode_eq]

theorem exists_image {s : PackageSpec} (h : s.Storable) :
    ∃ i : Image, i.bytes = encode s ∧ i.header = s.header ∧
      i.domains.map (fun d => (d.domain, d.primitives.map (·.primitive))) =
        s.domains.map (fun d => (d.decoded, d.primitives.map (·.decoded))) ∧
      i.algorithms.map (fun a => algorithmOf a.1) = s.algorithms.map (·.decoded) ∧
      i.events.map (fun e => eventOf e.1) = s.events.map (·.decoded) := by
  obtain ⟨i, hbytes, hheader, hdomains, halgorithms, hevents⟩ := exists_writtenImage h.fits
  refine ⟨i, hbytes, hheader, hdomains.trans ?_, halgorithms, hevents.trans ?_⟩
  · refine List.map_congr_left fun d hd => ?_
    have hprimitives : d.primitives.map (·.readBack) = d.primitives.map (·.decoded) :=
      List.map_congr_left fun p hp => ((h.domains d hd).primitives p hp).readBack_eq
    rw [domainOf_encode (h.domains d hd).name (h.domains d hd).guid, hprimitives]
  · exact List.map_congr_left fun e he => eventOf_encode (h.events e he)

theorem exists_image_decoded {s : PackageSpec} (h : s.Storable) :
    ∃ i : Image, i.bytes = encode s ∧ i.profile = s.decoded := by
  obtain ⟨i, hbytes, hheader, hdomains, halgorithms, hevents⟩ := exists_image h
  have hrecords : i.domains.map (·.domain) = s.domains.map (·.decoded) := by
    have hfirst := congrArg (List.map Prod.fst) hdomains
    rwa [List.map_map, List.map_map] at hfirst
  have hprimitives : i.primitives = s.domains.flatMap fun d => d.primitives.map (·.decoded) := by
    have hsecond := congrArg (List.flatMap Prod.snd) hdomains
    rwa [List.flatMap_map, List.flatMap_map] at hsecond
  refine ⟨i, hbytes, ?_⟩
  rw [Image.profile, PackageSpec.decoded, hheader, descriptorOf_header h.descriptor,
    (counts_header s).1, hrecords, hprimitives, halgorithms, hevents]

/-- Decoding a written image comes to building the profile from the description alone. -/
theorem decode_encode_eq {s : PackageSpec} (h : s.Storable) : decode (encode s) = .ok s.decoded := by
  obtain ⟨i, hbytes, hprofile⟩ := exists_image_decoded h
  exact (decode_eq_ok_iff _ _).mpr ⟨i, hbytes ▸ List.prefix_refl _, hprofile⟩

theorem getD_decode_encode {s : PackageSpec} (h : s.Storable) :
    (decode (encode s)).toOption.getD default = s.decoded := by
  rw [decode_encode_eq h]
  rfl

/-- Decoding the image of a package gives everything that the package was made from. -/
theorem decode_encode_package {s : PackageSpec} (h : s.Storable) :
    ∃ p, decode (encode s) = .ok p ∧
      p.descriptor = s.descriptor ∧
      p.declaredSize = UInt32.ofNat (encode s).length ∧
      p.domains = s.domains.map (·.decoded) ∧
      p.primitives.toList = s.domains.flatMap (fun d => d.primitives.map (·.decoded)) ∧
      p.algorithms = s.algorithms.map (·.decoded) ∧
      p.events = s.events.map (·.decoded) := by
  have hframe : s.decoded.frame = _ := Profile.frame_insertPrimitives _ _
  simp only [Profile.frame, Prod.mk.injEq] at hframe
  obtain ⟨hdescriptor, hsize, hdomains, halgorithms, hevents⟩ := hframe
  exact ⟨s.decoded, decode_encode_eq h, hdescriptor, hsize, hdomains,
    Profile.primitives_insertPrimitives _ _, halgorithms, hevents⟩

/-- A package with padding at each level, and with a vacant slot before the filled ones. -/
def sample : PackageSpec where
  descriptor := { code := "demo", majorVersion := 1, bus := .pci, pciBus := "0" }
  domains :=
    [{ name := "CPU", qualifier := "D0", capabilityDetail := [1, 2], padding := 2
       primitives :=
        [{ opcode := .get, tuple := ⟨17, 1, 255⟩, requestType := 1, resultType := 8, padding := 3
           actions :=
            [{ actionType := .config, isKernel := false, padding := 1
               params := [none, some (.text "_PSV"), some (.number 7)] }] }] }]

theorem storable_sample : sample.Storable := by decide

theorem decode_encode_sample : sample.Storable ∧ ∃ p, decode (encode sample) = .ok p ∧
    p.descriptor = sample.descriptor ∧ p.domains = sample.domains.map (·.decoded) := by
  obtain ⟨p, hdecode, hdescriptor, -, hdecoded, -⟩ := decode_encode_package storable_sample
  exact ⟨storable_sample, p, hdecode, hdescriptor, hdecoded⟩

end Package

end DeviceSupport
