import DeviceSupport.Package.Container
import DeviceSupport.Proofs.Package.RoundTrip

/-! Containers are transparent.

A container is read by its directory alone: the signature in front, and the offset of the image in
the last four bytes (`image_eq_ok_iff`). Version, the other offset and what lies between directory
and image are not looked at, so decoding a container is decoding its image, faults included
(`decode_gapped`). -/
namespace DeviceSupport.Container
set_option autoImplicit false

open Package (number32 length_number32 toUInt32_number32)

/-! ## The directory -/

/-- Where the directory says that the image starts. -/
def imageOffset (container : List UInt8) : Nat := (Field.uint32 container 12).toNat

theorem bytes_take {container : List UInt8} {offset length size : Nat}
    (h : offset + length ≤ size) :
    Field.bytes (container.take size) offset length = Field.bytes container offset length := by
  rw [Field.bytes, Field.bytes, List.drop_take, List.take_take]
  congr 1
  omega

theorem fixed_directory {container : List UInt8} (h : directorySize ≤ container.length) :
    ∃ c, (Cursor.ofBytes container).fixed "edp directory" directorySize =
      .ok (⟨"edp directory", 0, container.take directorySize⟩, c) := by
  have hsteps := Cursor.steps_advance (c := Cursor.ofBytes container) h
  refine ⟨_, (Cursor.fixed_eq_ok_iff _ _ _ _ _).mpr ⟨_, hsteps, ?_, rfl⟩⟩
  exact List.length_take_of_le h

/-- A directory that is cut short is refused as a record of its size. -/
theorem image_of_lt {container : List UInt8} (h : container.length < directorySize) :
    image container =
      .error (.packageShort "edp directory" 0 directorySize container.length) := by
  have hview : (Cursor.ofBytes container).view "edp directory" directorySize =
      .error (.packageShort "edp directory" 0 directorySize container.length) :=
    Cursor.view_of_length_lt h
  rw [image, Cursor.fixed, hview]
  rfl

/-- Behind a whole directory, its signature and its offset decide. -/
theorem image_of_le {container : List UInt8} (h : directorySize ≤ container.length) :
    image container =
      if Field.bytes container 0 4 ≠ signature then
        let shown := ", ".intercalate
          ((Field.bytes container 0 4).map fun b => Hexadecimal.encode [b])
        .error (.malformedPackage s!"bad EDP signature [{shown}]")
      else if imageOffset container < directorySize ∨
          container.length ≤ imageOffset container then
        let offset := Field.uint32 container 12
        .error (.malformedPackage
          s!"EDP fpc_offset {offset} outside container of {container.length} bytes")
      else .ok (container.drop (imageOffset container)) := by
  obtain ⟨c, hfixed⟩ := fixed_directory h
  let directory : Record := ⟨"edp directory", 0, container.take directorySize⟩
  have hlen : directory.bytes.length = 16 := List.length_take_of_le h
  have hfound : directory.field 0 4 = .ok (Field.bytes container 0 4) := by
    rw [Record.field_of_le (by omega), bytes_take (by decide)]
  have hoffset : directory.uint32 12 = .ok (Field.uint32 container 12) := by
    rw [Record.uint32_of_le (by omega), Field.uint32, bytes_take (by decide)]
    rfl
  unfold image
  rw [hfixed, ok_bind]
  dsimp only
  rw [hfound, ok_bind, hoffset]
  by_cases hsigned : Field.bytes container 0 4 ≠ signature
  · rw [if_pos hsigned, if_pos hsigned]
    rfl
  rw [if_neg hsigned, if_neg hsigned, ok_bind]
  by_cases houtside : imageOffset container < directorySize ∨
      container.length ≤ imageOffset container
  · rw [if_pos houtside]
    exact if_pos houtside
  · rw [if_neg houtside]
    exact if_neg houtside

/-- A container has an image exactly when it starts with the signature and when its directory, which
is whole, names a place behind itself and inside the container; the image is all from there on. -/
theorem image_eq_ok_iff (container found : List UInt8) :
    image container = .ok found ↔
      directorySize ≤ container.length ∧ signature <+: container ∧
        directorySize ≤ imageOffset container ∧ imageOffset container < container.length ∧
        found = container.drop (imageOffset container) := by
  have hsigned : signature <+: container ↔ Field.bytes container 0 4 = signature := by
    rw [List.prefix_iff_eq_take, eq_comm]
    rfl
  by_cases hwhole : directorySize ≤ container.length
  · rw [image_of_le hwhole, hsigned]
    by_cases hfound : Field.bytes container 0 4 = signature
    · rw [if_neg (not_not_intro hfound)]
      by_cases hinside : imageOffset container < directorySize ∨
          container.length ≤ imageOffset container
      · rw [if_pos hinside]
        exact ⟨fun h => (nomatch h), fun ⟨_, _, _, _, _⟩ => by omega⟩
      · rw [if_neg hinside, Except.ok.injEq]
        constructor
        · rintro rfl
          exact ⟨hwhole, hfound, by omega, by omega, rfl⟩
        · rintro ⟨-, -, -, -, rfl⟩
          rfl
    · rw [if_pos hfound]
      exact ⟨fun h => (nomatch h), fun h => absurd h.2.1 hfound⟩
  · have hshort : container.length < directorySize := Nat.lt_of_not_le hwhole
    rw [image_of_lt hshort]
    exact ⟨fun h => (nomatch h), fun h => absurd h.1 hwhole⟩

/-! ## Around an image -/

/-- A container with any version and second offset, and with a gap between directory and image. -/
def gapped (words gap image : List UInt8) : List UInt8 :=
  signature ++ words ++ number32 (directorySize + gap.length) ++ gap ++ image

theorem imageOffset_gapped {words gap : List UInt8} (hwords : words.length = 8)
    (hgap : directorySize + gap.length < 4294967296) (image : List UInt8) :
    imageOffset (gapped words gap image) = directorySize + gap.length := by
  have hsignature : signature.length = 4 := rfl
  unfold imageOffset gapped Field.uint32
  simp only [List.append_assoc]
  rw [Field.bytes_skip (by omega), Field.bytes_skip (by omega), hsignature, hwords,
    Field.bytes_here (length_number32 _), toUInt32_number32, UInt32.toNat_ofNat_of_lt' hgap]

theorem image_gapped {words gap found : List UInt8} (hwords : words.length = 8)
    (hgap : directorySize + gap.length < 4294967296) (hfound : found ≠ []) :
    image (gapped words gap found) = .ok found := by
  have hoffset := imageOffset_gapped hwords hgap found
  have hparts : gapped words gap found =
      (signature ++ words ++ number32 (directorySize + gap.length) ++ gap) ++ found := rfl
  have hfront : (signature ++ words ++ number32 (directorySize + gap.length) ++ gap).length =
      directorySize + gap.length := by
    simp [signature, directorySize, hwords]
    omega
  have hlen : (gapped words gap found).length = directorySize + gap.length + found.length := by
    rw [hparts, List.length_append, hfront]
  have hpos : 0 < found.length := List.length_pos_iff.mpr hfound
  refine (image_eq_ok_iff _ _).mpr ⟨by omega, ?_, by omega, by omega, ?_⟩
  · unfold gapped
    simp only [List.append_assoc]
    exact List.prefix_append _ _
  · rw [hoffset, hparts, List.drop_left' hfront]

theorem wrap_eq_gapped (found : List UInt8) :
    wrap found = gapped (number32 1 ++ number32 directorySize) [] found := by
  unfold wrap gapped
  simp only [List.append_assoc, List.nil_append]
  rfl

theorem encode_nonempty (s : PackageSpec) : Package.encode s ≠ [] := by
  intro h
  have hlen : (Package.encode s).length = _ + 4 := Package.length_sized _
  rw [h] at hlen
  simp at hlen

theorem decode_gapped {words gap found : List UInt8} (hwords : words.length = 8)
    (hgap : directorySize + gap.length < 4294967296) (hfound : found ≠ []) :
    decode (gapped words gap found) = Package.decode found := by
  rw [decode, image_gapped hwords hgap hfound, ok_bind]

theorem decode_encode (s : PackageSpec) : decode (encode s) = Package.decode (Package.encode s) := by
  rw [encode, wrap_eq_gapped]
  exact decode_gapped rfl (by decide) (encode_nonempty s)

theorem length_encode (s : PackageSpec) : (encode s).length = directorySize + s.imageSize := by
  have hsignature : signature.length = 4 := rfl
  rw [encode, wrap, s.imageSize_eq, directorySize]
  simp only [List.length_append, Package.length_number32, hsignature]

/-- A container stands for the image in it: it is found exactly behind a directory with the signature
and an offset inside the container, and decoding it answers what decoding the image answers, whatever
lies between the two. -/
theorem containers_transparent :
    (∀ container found : List UInt8, image container = .ok found ↔
      16 ≤ container.length ∧ [0x40, 0x45, 0x44, 0x50] <+: container ∧
        16 ≤ (Field.uint32 container 12).toNat ∧
        (Field.uint32 container 12).toNat < container.length ∧
        found = container.drop (Field.uint32 container 12).toNat) ∧
      (∀ words gap found : List UInt8, words.length = 8 → 16 + gap.length < 4294967296 →
        found ≠ [] →
          decode ([0x40, 0x45, 0x44, 0x50] ++ words ++ number32 (16 + gap.length) ++ gap ++ found) =
            Package.decode found) ∧
      ∀ s : PackageSpec, decode (encode s) = Package.decode (Package.encode s) := by
  exact ⟨image_eq_ok_iff, fun words gap found => decode_gapped, decode_encode⟩

end DeviceSupport.Container

namespace DeviceSupport.Sample

/-- A package behind a gap of two bytes, and a byte that is no image: both are decoded as if they
stood alone. -/
theorem gapped_decoded :
    (Container.decode ([0x40, 0x45, 0x44, 0x50] ++ List.replicate 8 7 ++ Package.number32 18 ++
        [1, 2] ++ Package.encode Package.sample) = Package.decode (Package.encode Package.sample) ∧
      (Package.decode (Package.encode Package.sample)).isOk) ∧
    Container.decode ([0x40, 0x45, 0x44, 0x50] ++ List.replicate 8 7 ++ Package.number32 18 ++
        [1, 2] ++ [9]) = .error (.packageShort "header" 0 540 1) := by
  have hgapped {found : List UInt8} (hfound : found ≠ []) :=
    Container.containers_transparent.2.1 (List.replicate 8 7) [1, 2] found rfl (by decide) hfound
  refine ⟨⟨hgapped (Container.encode_nonempty _), ?_⟩, ?_⟩
  · rw [Package.decode_encode_eq Package.storable_sample]
    rfl
  · exact hgapped (List.cons_ne_nil 9 [])

end DeviceSupport.Sample
