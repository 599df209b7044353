import DeviceSupport.Package.Encode
import DeviceSupport.Proofs.Package.Places

/-! What the offsets of an image's records and of its faults count from.

The offset of a record, and the offset in the fault of a record that cannot be taken, count from the
start of the record around it. So the header, domains, algorithms and events are found at their
offsets, and primitives and actions, which lie in other records, never are
(`offsets_count_from_parent`). -/
namespace DeviceSupport.Package
set_option autoImplicit false

/-! ## Level by level -/

namespace Logged
variable {α : Type} {image : List UInt8}

theorem keeps_nextAction {base : Nat} (before : List Take) (c : Cursor) (h : Ahead image base c) :
    (nextAction base c).Keeps image (fun t => t.base = base ∧ t.name = "action") before := by
  refine keeps_chained_bind (by decide) h (fun _ => ⟨rfl, rfl⟩) fun bytes c' hsteps hcovered => ?_
  refine (keeps_quiet fun fault hfault => ?_).bind fun action _ => keeps_pure _
  obtain ⟨offset, length, hmissing⟩ := onlyMisses_decodeAction _ fault hfault
  exact .reading _ (List.mem_append_right before List.mem_cons_self) _ rfl offset length hmissing

theorem walks_nextAction (base : Nat) : Walks (nextAction base) :=
  walks_of_takes (result_nextAction base) takes_action

theorem keeps_decodePrimitive {base : Nat} {r : Record} (hlength : 284 ≤ r.bytes.length)
    (h : Ahead image (base + r.offset) ⟨284, r.bytes.drop 284⟩) (before : List Take) :
    (decodePrimitive base r).Keeps image
      (fun t => t.base = base + r.offset ∧ t.name = "action") before := by
  rw [decodePrimitive_of_le hlength]
  refine (keeps_quiet fun fault => counting_of_checkCeiling).bind fun _ _ => ?_
  exact (keeps_many keeps_nextAction (walks_nextAction _) Ahead.steps _ _ _ h).bind
    fun actions _ => keeps_pure _

theorem keeps_nextPrimitive {base : Nat} (before : List Take) (c : Cursor)
    (h : Ahead image base c) :
    (nextPrimitive base c).Keeps image (fun t => t.base = base ∧ t.name = "primitive") before := by
  refine keeps_chained_bind (by decide) h (fun _ => ⟨rfl, rfl⟩) fun bytes c' hsteps hcovered => ?_
  have hinside := h.inside hsteps hcovered
  refine ((keeps_decodePrimitive hcovered hinside _).nest fun t ht => ?_).bind
    fun primitive _ => keeps_pure _
  exact ⟨_, List.mem_append_right before List.mem_cons_self, _, rfl, ht.1, .inr ⟨rfl, ht.2⟩⟩

theorem walks_nextPrimitive (base : Nat) : Walks (nextPrimitive base) :=
  walks_of_takes (result_nextPrimitive base) takes_primitive

end Logged

/-- The record was to be taken from the image itself, behind the header unless it is the header. -/
def Take.Outer (t : Take) : Prop :=
  t.base = 0 ∧ (t.name = "header" ∨
    540 ≤ t.cursor.position ∧ (t.name = "domain" ∨ t.name = "algorithm" ∨ t.name = "event"))

/-- The cursor stands in the image itself, behind the header. -/
def Behind (image : List UInt8) (c : Cursor) : Prop := Ahead image 0 c ∧ 540 ≤ c.position

theorem Behind.steps {image : List UInt8} {c c' : Cursor} {bytes : List UInt8}
    (h : Behind image c) (hsteps : c.Steps bytes c') : Behind image c' := by
  refine ⟨h.1.steps hsteps, ?_⟩
  have hposition := hsteps.2
  have hle := h.2
  omega

namespace Logged
variable {α : Type} {image : List UInt8}

theorem keeps_nextDomain (before : List Take) (c : Cursor) (h : Behind image c) :
    (nextDomain c).Keeps image Take.Outer before := by
  refine keeps_chained_bind (by decide) h.1 (fun _ => ⟨rfl, .inr ⟨h.2, .inl rfl⟩⟩)
    fun bytes c' hsteps hcovered => ?_
  have hinside := h.1.inside hsteps hcovered
  rw [Nat.zero_add] at hinside
  refine (keeps_quiet fun fault hfault => ?_).bind fun domain _ => ?_
  · rw [decodeDomain_of_le hcovered, bind_eq_error_iff] at hfault
    rcases hfault with hceiling | ⟨_, -, hdone⟩
    · exact counting_of_checkCeiling hceiling
    · nomatch hdone
  rw [Record.body_of_le hcovered, quiet_ok_bind]
  refine ((keeps_many keeps_nextPrimitive (walks_nextPrimitive _) Ahead.steps _ _ _ hinside).nest
    fun t ht => ?_).bind fun primitives _ => keeps_pure _
  refine Take.Nested.append ⟨_, List.mem_append_right before List.mem_cons_self, _, rfl, ?_,
    .inl ⟨rfl, ht.2⟩⟩ []
  rw [ht.1, Take.start, Nat.zero_add]

theorem walks_nextDomain : Walks nextDomain := walks_of_takes result_nextDomain takes_domain

theorem keeps_nextFixed {name : String} {length : Nat} {read : Cursor → Except Fault (α × Cursor)}
    {value : List UInt8 → α} (hname : name = "algorithm" ∨ name = "event")
    (htakes : Cursor.Takes read (fun i : {bytes : List UInt8 // bytes.length = length} => i.1)
      (fun i => value i.1)) (before : List Take) (c : Cursor) (h : Behind image c) :
    (nextFixed name length read c).Keeps image Take.Outer before := by
  refine (keeps_take (placed_fixed h.1 name length) ⟨rfl, .inr ⟨h.2, .inr hname⟩⟩).bind
    fun (r, c') hr => keeps_quiet fun fault hfault => ?_
  obtain ⟨bytes, hsteps, hlength, -⟩ := (Cursor.fixed_eq_ok_iff c c' name length r).mp hr
  rw [(htakes c c' (value bytes)).mpr ⟨⟨bytes, hlength⟩, hsteps, rfl⟩] at hfault
  nomatch hfault

theorem keeps_decode (image : List UInt8) : (decode image).Keeps image Take.Outer [] := by
  have hahead := ahead_ofBytes image
  refine (keeps_take (placed_fixed hahead "header" 540) ⟨rfl, .inl rfl⟩).bind fun (r, c) hr => ?_
  obtain ⟨bytes, hsteps, hlength, hrecord⟩ :=
    (Cursor.fixed_eq_ok_iff (Cursor.ofBytes image) c "header" 540 r).mp hr
  have hbehind : Behind image c := by
    refine ⟨hahead.steps hsteps, ?_⟩
    rw [hsteps.2, hlength]
    exact Nat.le_add_left 540 _
  have hheader : r.bytes.length = 540 := by rw [hrecord, hlength]
  simp (disch := omega) only [Record.uint32_of_le, decodeDescriptor_eq_ok, quiet_ok_bind]
  refine (keeps_quiet fun fault hfault => ?_).bind fun _ _ => ?_
  · split at hfault
    · exact .counting (.inl (Except.error.inj hfault).symm)
    · nomatch hfault
  refine (keeps_quiet fun fault => counting_of_checkCeiling).bind fun _ _ => ?_
  refine (keeps_quiet fun fault => counting_of_checkCeiling).bind fun _ _ => ?_
  refine (keeps_quiet fun fault => counting_of_checkCeiling).bind fun _ _ => ?_
  have hfirst : Walks (nextFixed "algorithm" 28 nextAlgorithm) :=
    walks_of_takes (result_nextFixed nextAlgorithm_error) takes_algorithm
  have hsecond : Walks (nextFixed "event" 76 nextEvent) :=
    walks_of_takes (result_nextFixed nextEvent_error) takes_event
  -- Three runs of items; each starts where the one before it ended.
  refine (keeps_many keeps_nextDomain walks_nextDomain Behind.steps _ _ c hbehind).bind
    fun (domains, c₁) h₁ => ?_
  obtain ⟨bytes₁, hsteps₁⟩ := walks_nextDomain.many _ c domains c₁ h₁
  have hbehind₁ := hbehind.steps hsteps₁
  refine (keeps_many (keeps_nextFixed (.inl rfl) takes_algorithm) hfirst Behind.steps _ _ c₁
    hbehind₁).bind fun (algorithms, c₂) h₂ => ?_
  obtain ⟨bytes₂, hsteps₂⟩ := hfirst.many _ c₁ algorithms c₂ h₂
  have hbehind₂ := hbehind₁.steps hsteps₂
  exact (keeps_many (keeps_nextFixed (.inr rfl) takes_event) hsecond Behind.steps _ _ c₂
    hbehind₂).bind fun _ _ => keeps_pure _

end Logged

/-! ## Offsets in the image -/

theorem Take.Nested.name {takes : List Take} {t : Take} (h : t.Nested takes) :
    t.name = "primitive" ∨ t.name = "action" := by
  obtain ⟨parent, -, r, -, -, ⟨-, hname⟩ | ⟨-, hname⟩⟩ := h
  · exact .inl hname
  · exact .inr hname

theorem Take.Outer.name {t : Take} (h : t.Outer) :
    t.name ∈ ["header", "domain", "algorithm", "event"] := by
  obtain ⟨-, hname | ⟨-, hname | hname | hname⟩⟩ := h <;> simp [hname]

section
variable {takes : List Take}

theorem start_domain (h : ∀ t ∈ takes, t.Outer ∨ t.Nested takes) {t : Take} (ht : t ∈ takes)
    (hname : t.name = "domain") : 540 ≤ t.start := by
  rcases h t ht with ⟨-, hheader | ⟨hposition, -⟩⟩ | hnested
  · simp [hname] at hheader
  · exact Nat.le_add_left_of_le hposition
  · have hother := hnested.name
    simp [hname] at hother

theorem start_primitive (h : ∀ t ∈ takes, t.Outer ∨ t.Nested takes) {t : Take} (ht : t ∈ takes)
    (hname : t.name = "primitive") : 540 ≤ t.start := by
  rcases h t ht with houter | ⟨parent, hparent, r, -, hbase, hnames⟩
  · have hother := houter.name
    simp [hname] at hother
  · have hdomain : parent.name = "domain" := by simpa [hname] using hnames
    have hstart := start_domain h hparent hdomain
    rw [Take.start, hbase]
    omega

/-- Records that lie in another one start behind the image's header. -/
theorem base_cases (h : ∀ t ∈ takes, t.Outer ∨ t.Nested takes) {t : Take} (ht : t ∈ takes) :
    t.base = 0 ∧ t.name ∈ ["header", "domain", "algorithm", "event"] ∨
      540 ≤ t.base ∧ t.Nested takes := by
  rcases h t ht with houter | hnested
  · exact .inl ⟨houter.1, houter.name⟩
  · refine .inr ⟨?_, hnested⟩
    obtain ⟨parent, hparent, r, -, hbase, ⟨hname, -⟩ | ⟨hname, -⟩⟩ := hnested
    · exact hbase ▸ start_domain h hparent hname
    · exact hbase ▸ start_primitive h hparent hname

end

/-- Of all records that decoding comes to, whatever becomes of the image: a record lies in the image
at its offset behind the start of the record around it, so it is found at its offset itself exactly
when no record is around it; a record that cannot be taken is named by the same offset. A fault of
the decoder is that of a record which cannot be taken, of a field that a taken record does not have,
or of a count, and a size that does not cover its header is always one of the first kind. -/
theorem offsets_count_from_parent (image : List UInt8) :
    let log := Logged.decode image
    log.result = decode image ∧
      (∀ t ∈ log.takes,
        (t.base = 0 ∧ t.name ∈ ["header", "domain", "algorithm", "event"] ∨
          540 ≤ t.base ∧ t.Nested log.takes) ∧
        (∀ r, t.outcome = .ok r →
          t.start + r.length ≤ image.length ∧ Field.bytes image t.start r.length = r.bytes ∧
            t.base + r.offset = t.start ∧ (r.offset = t.start ↔ t.base = 0)) ∧
        ∀ fault, t.outcome = .error fault →
          t.cursor.rest <+: image.drop t.start ∧
            ∃ offset, t.base + offset = t.start ∧ (offset = t.start ↔ t.base = 0) ∧
              ((∃ size, fault = .recordSizeInvalid t.name offset size) ∨
                ∃ needed available, fault = .packageShort t.name offset needed available)) ∧
      (∀ fault, decode image = .error fault → Explains log.takes fault) ∧
      ∀ name offset size, decode image = .error (.recordSizeInvalid name offset size) →
        ∃ t ∈ log.takes, t.outcome = .error (.recordSizeInvalid name offset size) := by
  intro log
  have hkeeps := Logged.keeps_decode image
  have hresult : log.result = decode image := Logged.result_decode image
  have hexplained (fault : Fault) (h : decode image = .error fault) : Explains log.takes fault :=
    hkeeps.fault fault (hresult.trans h)
  have hplace (t : Take) : t.cursor.position = t.start ↔ t.base = 0 := by
    rw [Take.start]
    omega
  refine ⟨hresult, fun t ht => ⟨?base, fun r hr => ?taken, fun fault hfault => ?failed⟩,
    hexplained, fun name offset size h => ?size⟩
  case base => exact base_cases (fun p hp => (hkeeps.takes p hp).2) ht
  case taken =>
    have hplaced := (hkeeps.takes t ht).1
    obtain ⟨-, hoffset, hwithin, hbytes⟩ := hplaced.taken r hr
    exact ⟨hwithin, hbytes, by rw [hoffset, Take.start], hoffset ▸ hplace t⟩
  case failed =>
    have hplaced := (hkeeps.takes t ht).1
    exact ⟨hplaced.ahead.rest, t.cursor.position, rfl, hplace t, hplaced.failed fault hfault⟩
  case size =>
    cases hexplained _ h with
    | taking t mem failed => exact ⟨t, mem, failed⟩
    | reading t mem r taken place length missing =>
      unfold Record.field at missing
      split at missing <;> nomatch missing
    | counting count =>
      rcases count with hnone | ⟨what, count, limit, hmany⟩
      · nomatch hnone
      · nomatch hmany

/-! ## A sample

A primitive that declares a size smaller than its header. -/

def single : PackageSpec where
  descriptor := { code := "demo" }
  domains :=
    [{ name := "CPU", qualifier := "D0"
       primitives :=
         [{ opcode := .get, tuple := ⟨14, 1, 255⟩, requestType := 24, resultType := 6 }] }]

/-- The image of `single`, where the size of the primitive, at 776, is overwritten with 16. -/
def undersized : List UInt8 :=
  (encode single).take 776 ++ [16, 0, 0, 0] ++ (encode single).drop 780

/-- The fault tells 236, where the domain's header ends in the domain; in the image the record
stands at 776, and no primitive stands at 236. -/
theorem undersized_misplaced :
    decode undersized = .error (.recordSizeInvalid "primitive" 236 16) ∧
      Field.uint32 undersized 776 = 16 ∧ Field.uint32 undersized 236 ≠ 16 ∧
      ∃ t ∈ (Logged.decode undersized).takes,
        t.outcome = .error (.recordSizeInvalid "primitive" 236 16) ∧ t.start = 776 := by
  -- One evaluation for all parts, since each would write the image anew.
  obtain ⟨hresult, ⟨t, ht, hfault, hstart⟩, hsize, hother⟩ :
      fault? (Logged.decode undersized).result = some (.recordSizeInvalid "primitive" 236 16) ∧
        (∃ t ∈ (Logged.decode undersized).takes,
          fault? t.outcome = some (.recordSizeInvalid "primitive" 236 16) ∧ t.start = 776) ∧
        Field.uint32 undersized 776 = 16 ∧ Field.uint32 undersized 236 ≠ 16 := by
    decide +kernel
  rw [Logged.result_decode] at hresult
  exact ⟨eq_error_of_fault? hresult, hsize, hother, t, ht, eq_error_of_fault? hfault, hstart⟩

end DeviceSupport.Package
