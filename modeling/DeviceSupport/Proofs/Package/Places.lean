import DeviceSupport.Proofs.Package.Takes

/-! Where the records lie that a run takes, and where its faults come from.

A record lies ahead of the cursor that it is taken from, so its bytes are in the image behind the
start of the record around it (`Take.Placed`). A run `Keeps` this for all that it takes, and what it
took explains its fault; the steps of a decoder are put together with `keeps_take`, `Keeps.bind` and
`keeps_many`. -/
namespace DeviceSupport.Package
set_option autoImplicit false

/-! ## Attempts -/

/-- Where the record that was to be taken starts in the image. -/
def Take.start (t : Take) : Nat := t.base + t.cursor.position

/-- A cursor over the bytes of a record that starts at `base`: what lies ahead of it is what the
image has there. -/
structure Ahead (image : List UInt8) (base : Nat) (c : Cursor) : Prop where
  within : base + c.position ≤ image.length
  rest : c.rest <+: image.drop (base + c.position)

theorem ahead_ofBytes (image : List UInt8) : Ahead image 0 (Cursor.ofBytes image) :=
  ⟨Nat.zero_le _, List.prefix_refl _⟩

/-- What is stepped over lies in the image. -/
theorem Ahead.prefix_steps {image : List UInt8} {base : Nat} {c c' : Cursor} {bytes : List UInt8}
    (h : Ahead image base c) (hsteps : c.Steps bytes c') :
    ∃ rest, image.drop (base + c.position) = bytes ++ (c'.rest ++ rest) ∧
      base + c.position + bytes.length ≤ image.length := by
  obtain ⟨rest, hrest⟩ := h.rest
  rw [hsteps.1, List.append_assoc] at hrest
  have hlength := congrArg List.length hrest
  rw [List.length_append, List.length_drop] at hlength
  have hwithin := h.within
  exact ⟨rest, hrest.symm, by omega⟩

theorem Ahead.steps {image : List UInt8} {base : Nat} {c c' : Cursor} {bytes : List UInt8}
    (h : Ahead image base c) (hsteps : c.Steps bytes c') : Ahead image base c' := by
  obtain ⟨rest, hrest, hwithin⟩ := h.prefix_steps hsteps
  have hposition : base + c'.position = base + c.position + bytes.length := by
    rw [hsteps.2]
    omega
  refine ⟨by omega, rest, ?_⟩
  rw [hposition, ← List.drop_drop, hrest, List.drop_left]

/-- The bytes behind a record's header, as the image has them. -/
theorem Ahead.inside {image : List UInt8} {base : Nat} {c c' : Cursor} {bytes : List UInt8}
    (h : Ahead image base c) (hsteps : c.Steps bytes c') {header : Nat}
    (hheader : header ≤ bytes.length) :
    Ahead image (base + c.position) ⟨header, bytes.drop header⟩ := by
  obtain ⟨rest, hrest, hwithin⟩ := h.prefix_steps hsteps
  refine ⟨by dsimp only; omega, c'.rest ++ rest, ?_⟩
  rw [← List.drop_drop, hrest, List.drop_append_of_le_length hheader]

/-- The record of an attempt lies ahead of its cursor, and a fault tells where the cursor stood. -/
structure Take.Placed (image : List UInt8) (t : Take) : Prop where
  ahead : Ahead image t.base t.cursor
  taken : ∀ r, t.outcome = .ok r → r.name = t.name ∧ r.offset = t.cursor.position ∧
    t.start + r.length ≤ image.length ∧ Field.bytes image t.start r.length = r.bytes
  failed : ∀ fault, t.outcome = .error fault →
    (∃ size, fault = .recordSizeInvalid t.name t.cursor.position size) ∨
      ∃ needed available, fault = .packageShort t.name t.cursor.position needed available

theorem view_error {c : Cursor} {name : String} {length : Nat} {fault : Fault}
    (h : c.view name length = .error fault) :
    fault = .packageShort name c.position length c.remaining := by
  unfold Cursor.view at h
  dsimp only at h
  split at h
  · nomatch h
  · exact (Except.error.inj h).symm

theorem fixed_error {c : Cursor} {name : String} {length : Nat} {fault : Fault}
    (h : c.fixed name length = .error fault) :
    ∃ needed available, fault = .packageShort name c.position needed available := by
  rw [Cursor.fixed, bind_eq_error_iff] at h
  rcases h with hview | ⟨r, -, hdone⟩
  · exact ⟨_, _, view_error hview⟩
  · cases hdone

theorem chained_error {c : Cursor} {name : String} {header : Nat} {fault : Fault}
    (h : c.chained name header = .error fault) :
    (∃ size, fault = .recordSizeInvalid name c.position size) ∨
      ∃ needed available, fault = .packageShort name c.position needed available := by
  rw [Cursor.chained, bind_eq_error_iff] at h
  rcases h with hhead | ⟨head, -, hrest⟩
  · exact .inr ⟨_, _, view_error hhead⟩
  dsimp only at hrest
  split at hrest
  · exact .inl ⟨_, (Except.error.inj hrest).symm⟩
  · rcases bind_eq_error_iff.mp hrest with hview | ⟨r, -, hdone⟩
    · exact .inr ⟨_, _, view_error hview⟩
    · cases hdone

/-- An attempt whose record lies between two cursors. -/
theorem placed_take {image : List UInt8} {base : Nat} {c : Cursor} (h : Ahead image base c)
    {name : String} {step : Except Fault (Record × Cursor)}
    (htaken : ∀ r c', step = .ok (r, c') →
      ∃ bytes, c.Steps bytes c' ∧ r = ⟨name, c.position, bytes⟩)
    (hfailed : ∀ fault, step = .error fault →
      (∃ size, fault = .recordSizeInvalid name c.position size) ∨
        ∃ needed available, fault = .packageShort name c.position needed available) :
    Take.Placed image ⟨base, c, name, step.map (·.1)⟩ := by
  cases step with
  | error fault =>
    refine ⟨h, fun r hr => (nomatch hr), fun other hother => ?_⟩
    cases hother
    exact hfailed fault rfl
  | ok taken =>
    obtain ⟨bytes, hsteps, hrecord⟩ := htaken taken.1 taken.2 rfl
    refine ⟨h, fun r hr => ?_, fun fault hfault => nomatch hfault⟩
    have hr : taken.1 = r := Except.ok.inj hr
    obtain ⟨rest, hrest, hwithin⟩ := h.prefix_steps hsteps
    rw [← hr, hrecord]
    refine ⟨rfl, rfl, hwithin, ?_⟩
    show (image.drop (base + c.position)).take bytes.length = bytes
    rw [hrest, List.take_left]

theorem placed_fixed {image : List UInt8} {base : Nat} {c : Cursor} (h : Ahead image base c)
    (name : String) (length : Nat) :
    Take.Placed image ⟨base, c, name, (c.fixed name length).map (·.1)⟩ := by
  refine placed_take h (fun r c' hr => ?_) fun fault hfault => .inr (fixed_error hfault)
  obtain ⟨bytes, hsteps, -, hrecord⟩ := (Cursor.fixed_eq_ok_iff c c' name length r).mp hr
  exact ⟨bytes, hsteps, hrecord⟩

theorem placed_chained {image : List UInt8} {base : Nat} {c : Cursor} (h : Ahead image base c)
    (name : String) {header : Nat} (hheader : 4 ≤ header) :
    Take.Placed image ⟨base, c, name, (c.chained name header).map (·.1)⟩ := by
  refine placed_take h (fun r c' hr => ?_) fun fault => chained_error
  obtain ⟨bytes, hsteps, -, hrecord⟩ := (Cursor.chained_eq_ok_iff hheader c c' name r).mp hr
  exact ⟨bytes, hsteps, hrecord⟩

/-! ## What a run keeps -/

/-- The record was to be taken from inside another one, which is among these. -/
def Take.Nested (takes : List Take) (t : Take) : Prop :=
  ∃ parent ∈ takes, ∃ r, parent.outcome = .ok r ∧ t.base = parent.start ∧
    (parent.name = "domain" ∧ t.name = "primitive" ∨
      parent.name = "primitive" ∧ t.name = "action")

theorem Take.Nested.append {takes : List Take} {t : Take} (h : t.Nested takes)
    (more : List Take) : t.Nested (takes ++ more) := by
  obtain ⟨parent, hparent, r, hr⟩ := h
  exact ⟨parent, List.mem_append_left more hparent, r, hr⟩

/-- What a fault can come from: a record that could not be taken, a field that a record does not
have, or the number of records. -/
inductive Explains (takes : List Take) (fault : Fault) : Prop where
  | taking (t : Take) (mem : t ∈ takes) (failed : t.outcome = .error fault)
  | reading (t : Take) (mem : t ∈ takes) (r : Record) (taken : t.outcome = .ok r)
      (offset length : Nat) (missing : r.field offset length = .error fault)
  | counting (count : fault = .missingDomain ∨
      ∃ what count limit, fault = .resourceExhausted what count limit)

theorem Explains.append {takes : List Take} {fault : Fault} (h : Explains takes fault)
    (more : List Take) : Explains (takes ++ more) fault := by
  cases h with
  | taking t mem failed => exact .taking t (List.mem_append_left more mem) failed
  | reading t mem r taken offset length missing =>
    exact .reading t (List.mem_append_left more mem) r taken offset length missing
  | counting count => exact .counting count

/-- A run behind some takes: its own are of a kind `Root`, or nested in others, and its fault has
been seen. -/
structure Logged.Keeps {α : Type} (image : List UInt8) (Root : Take → Prop) (before : List Take)
    (run : Logged α) : Prop where
  takes : ∀ t ∈ run.takes, t.Placed image ∧ (Root t ∨ t.Nested (before ++ run.takes))
  fault : ∀ fault, run.result = .error fault → Explains (before ++ run.takes) fault

namespace Logged
variable {α β : Type} {image : List UInt8} {Root : Take → Prop} {before : List Take}

theorem keeps_pure (a : α) : (pure a : Logged α).Keeps image Root before :=
  ⟨fun _ ht => absurd ht List.not_mem_nil, fun _ h => nomatch h⟩

theorem keeps_quiet {step : Except Fault α}
    (h : ∀ fault, step = .error fault → Explains before fault) :
    (quiet step).Keeps image Root before := by
  refine ⟨fun t ht => absurd ht List.not_mem_nil, fun fault hfault => ?_⟩
  exact (h fault hfault).append []

theorem keeps_take {base : Nat} {c : Cursor} {name : String}
    {step : Except Fault (Record × Cursor)}
    (hplaced : Take.Placed image ⟨base, c, name, step.map (·.1)⟩)
    (hroot : Root ⟨base, c, name, step.map (·.1)⟩) :
    (take base c name step).Keeps image Root before := by
  refine ⟨fun t ht => ?_, fun fault hfault => ?_⟩
  · have ht : t = ⟨base, c, name, step.map (·.1)⟩ := List.mem_singleton.mp ht
    rw [ht]
    exact ⟨hplaced, .inl hroot⟩
  · have hstep : step = .error fault := hfault
    refine .taking ⟨base, c, name, step.map (·.1)⟩ ?_ (by rw [hstep]; rfl)
    exact List.mem_append_right before List.mem_cons_self

theorem Keeps.bind {run : Logged α} {next : α → Logged β} (h : run.Keeps image Root before)
    (hnext : ∀ a, run.result = .ok a → (next a).Keeps image Root (before ++ run.takes)) :
    (run >>= next).Keeps image Root before := by
  obtain ⟨takes, result⟩ := run
  cases result with
  | error fault =>
    refine ⟨h.takes, fun other hother => h.fault other ?_⟩
    cases hother
    rfl
  | ok a =>
    have hlater := hnext a rfl
    refine ⟨fun t ht => ?_, fun fault hfault => ?_⟩
    · show t.Placed image ∧ (Root t ∨ t.Nested (before ++ (takes ++ (next a).takes)))
      rw [← List.append_assoc]
      rcases List.mem_append.mp ht with hfirst | hsecond
      · obtain ⟨hplaced, hroot⟩ := h.takes t hfirst
        exact ⟨hplaced, hroot.imp_right fun hnested => hnested.append _⟩
      · exact hlater.takes t hsecond
    · show Explains (before ++ (takes ++ (next a).takes)) fault
      rw [← List.append_assoc]
      exact hlater.fault fault hfault

/-- A run inside a record that has been taken. -/
theorem Keeps.nest {run : Logged α} {Inner : Take → Prop} (h : run.Keeps image Inner before)
    (hinner : ∀ t, Inner t → t.Nested before) : run.Keeps image Root before := by
  refine ⟨fun t ht => ?_, h.fault⟩
  obtain ⟨hplaced, hroot⟩ := h.takes t ht
  refine ⟨hplaced, .inr ?_⟩
  rcases hroot with hroot | hnested
  · exact (hinner t hroot).append _
  · exact hnested

/-- What follows a record of a chain has it among the takes before. -/
theorem keeps_chained_bind {base : Nat} {c : Cursor} {name : String} {header : Nat}
    (hheader : 4 ≤ header) (h : Ahead image base c)
    (hroot : ∀ outcome, Root ⟨base, c, name, outcome⟩) {next : Record × Cursor → Logged β}
    (hnext : ∀ bytes c', c.Steps bytes c' → header ≤ bytes.length →
      (next (⟨name, c.position, bytes⟩, c')).Keeps image Root
        (before ++ [⟨base, c, name, .ok ⟨name, c.position, bytes⟩⟩])) :
    (chained base c name header >>= next).Keeps image Root before := by
  refine (keeps_take (placed_chained h name hheader) (hroot _)).bind fun (r, c') hr => ?_
  have hchained : c.chained name header = .ok (r, c') := hr
  obtain ⟨bytes, hsteps, hsized, rfl⟩ :=
    (Cursor.chained_eq_ok_iff hheader c c' name r).mp hchained
  rw [hchained]
  exact hnext bytes c' hsteps hsized.covered

/-- A reader that moves the cursor over what it has read. -/
def Walks (read : Cursor → Logged (α × Cursor)) : Prop :=
  ∀ c a c', (read c).result = .ok (a, c') → ∃ bytes, c.Steps bytes c'

theorem walks_of_takes {ι : Type} {read : Cursor → Logged (α × Cursor)}
    {plain : Cursor → Except Fault (α × Cursor)} {bytes : ι → List UInt8} {value : ι → α}
    (hresult : ∀ c, (read c).result = plain c) (htakes : Cursor.Takes plain bytes value) :
    Walks read := by
  intro c a c' hread
  rw [hresult] at hread
  obtain ⟨i, hsteps, -⟩ := (htakes c c' a).mp hread
  exact ⟨bytes i, hsteps⟩

theorem Walks.many {read : Cursor → Logged (α × Cursor)} (h : Walks read) (count : Nat) :
    Walks (many read count) := by
  induction count with
  | zero =>
    intro c as c' hmany
    cases hmany
    exact ⟨[], .refl c⟩
  | succ count ih =>
    intro c as c' hmany
    rw [Logged.many, result_bind, bind_eq_ok_iff] at hmany
    obtain ⟨⟨a, d⟩, hfirst, hrest⟩ := hmany
    rw [result_bind, bind_eq_ok_iff] at hrest
    obtain ⟨⟨rest, e⟩, hlater, hdone⟩ := hrest
    cases hdone
    obtain ⟨bytes, hsteps⟩ := h c a d hfirst
    obtain ⟨more, hmore⟩ := ih d rest c' hlater
    exact ⟨bytes ++ more, hsteps.trans hmore⟩

/-- Items one after the other, where what is known of the cursor survives its steps. -/
theorem keeps_many {read : Cursor → Logged (α × Cursor)} {Known : Cursor → Prop}
    (hread : ∀ before c, Known c → (read c).Keeps image Root before) (hwalks : Walks read)
    (hknown : ∀ {c c' : Cursor} {bytes : List UInt8}, Known c → c.Steps bytes c' → Known c')
    (count : Nat) (before : List Take) (c : Cursor) (h : Known c) :
    (many read count c).Keeps image Root before := by
  induction count generalizing before c with
  | zero => exact keeps_pure _
  | succ count ih =>
    refine (hread before c h).bind fun first hfirst => ?_
    obtain ⟨bytes, hsteps⟩ := hwalks c first.1 first.2 hfirst
    exact (ih _ first.2 (hknown h hsteps)).bind fun rest _ => keeps_pure _

end Logged

/-! ## Fields that are not there -/

/-- A step that fails only where it reads a field that the record does not have. -/
def OnlyMisses (r : Record) {α : Type} (step : Except Fault α) : Prop :=
  ∀ fault, step = .error fault → ∃ offset length, r.field offset length = .error fault

section
variable {α β : Type} {r : Record}

theorem onlyMisses_ok (a : α) : OnlyMisses r (.ok a) := by
  intro fault h
  nomatch h

theorem onlyMisses_field (offset length : Nat) : OnlyMisses r (r.field offset length) :=
  fun _ h => ⟨offset, length, h⟩

theorem OnlyMisses.bind {step : Except Fault α} {next : α → Except Fault β}
    (hstep : OnlyMisses r step) (hnext : ∀ a, OnlyMisses r (next a)) :
    OnlyMisses r (step >>= next) := by
  intro fault h
  rcases bind_eq_error_iff.mp h with hfirst | ⟨a, -, hsecond⟩
  · exact hstep fault hfirst
  · exact hnext a fault hsecond

theorem onlyMisses_mapM {step : α → Except Fault β} {xs : List α}
    (h : ∀ x ∈ xs, OnlyMisses r (step x)) : OnlyMisses r (xs.mapM step) := by
  induction xs with
  | nil => exact onlyMisses_ok []
  | cons x xs ih =>
    rw [List.mapM_cons]
    have hrest := ih fun y hy => h y (List.mem_cons_of_mem x hy)
    exact (h x List.mem_cons_self).bind fun _ => hrest.bind fun _ => onlyMisses_ok _

/-- The readers of a field all take its bytes first. -/
theorem onlyMisses_read (offset length : Nat) (value : List UInt8 → α) :
    OnlyMisses r (do let bytes ← r.field offset length; return value bytes) :=
  (onlyMisses_field offset length).bind fun _ => onlyMisses_ok _

theorem onlyMisses_decodeParam (offset : Nat) : OnlyMisses r (decodeParam r offset) := by
  refine (onlyMisses_read _ _ _).bind fun kind => (onlyMisses_read _ _ _).bind fun length => ?_
  split
  · exact (onlyMisses_read _ _ _).bind fun _ => onlyMisses_ok _
  split
  · exact (onlyMisses_read _ _ _).bind fun _ => onlyMisses_ok _
  · exact onlyMisses_ok none

theorem onlyMisses_decodeSlot (slot : Nat) : OnlyMisses r (decodeSlot r slot) := by
  refine (onlyMisses_read _ _ _).bind fun valid => ?_
  split
  · exact onlyMisses_ok none
  · exact (onlyMisses_read _ _ _).bind fun offset => onlyMisses_decodeParam _

theorem onlyMisses_decodeAction (r : Record) : OnlyMisses r (decodeAction r) := by
  refine (onlyMisses_mapM fun slot _ => onlyMisses_decodeSlot slot).bind fun params => ?_
  refine (onlyMisses_read _ _ _).bind fun kernel => (onlyMisses_read _ _ _).bind fun size => ?_
  refine (onlyMisses_read _ _ _).bind fun actionType => ?_
  exact (onlyMisses_read _ _ _).bind fun priority => onlyMisses_ok _

end

theorem counting_of_checkCeiling {what : String} {count limit : UInt32} {fault : Fault}
    {takes : List Take} (h : checkCeiling what count limit = .error fault) :
    Explains takes fault := by
  unfold checkCeiling at h
  split at h
  · exact .counting (.inr ⟨what, count, limit, (Except.error.inj h).symm⟩)
  · nomatch h

end DeviceSupport.Package
