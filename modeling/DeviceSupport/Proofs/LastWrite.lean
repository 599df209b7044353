/-! The last write of a history.

Each step of a history may write something (`written?`). A place that every step either writes or
leaves as it is holds, after a history, what the last of its writes wrote, or else what it held
before (`read_foldl`). -/
namespace DeviceSupport
set_option autoImplicit false

section
variable {ι α σ : Type} (written? : ι → Option α)

/-- What the last writing step of a history writes. -/
def lastWritten? (history : List ι) : Option α := (history.filterMap written?).getLast?

theorem lastWritten?_cons (step : ι) (later : List ι) :
    lastWritten? written? (step :: later) = (lastWritten? written? later).or (written? step) := by
  unfold lastWritten?
  cases hwritten : written? step with
  | none => rw [List.filterMap_cons_none hwritten, Option.or_none]
  | some a =>
    rw [List.filterMap_cons_some hwritten, List.getLast?_cons]
    cases (later.filterMap written?).getLast? <;> rfl

theorem lastWritten?_of_none {history : List ι} (h : ∀ step ∈ history, written? step = none) :
    lastWritten? written? history = none := by
  have hnothing : history.filterMap written? = [] := List.filterMap_eq_nil_iff.mpr h
  rw [lastWritten?, hnothing, List.getLast?_nil]

/-- The step behind which nothing is written is the last one. -/
theorem lastWritten?_of_split {step : ι} {a : α} (before : List ι) {after : List ι}
    (hstep : written? step = some a) (hafter : ∀ later ∈ after, written? later = none) :
    lastWritten? written? (before ++ step :: after) = some a := by
  induction before with
  | nil =>
    rw [List.nil_append, lastWritten?_cons, lastWritten?_of_none written? hafter, hstep,
      Option.none_or]
  | cons first before ih => rw [List.cons_append, lastWritten?_cons, ih, Option.some_or]

theorem exists_of_lastWritten? {history : List ι} {a : α}
    (h : lastWritten? written? history = some a) : ∃ step ∈ history, written? step = some a :=
  List.mem_filterMap.mp (List.mem_of_getLast? h)

theorem read_foldl (perform : σ → ι → σ) (read : σ → Option α)
    (h : ∀ s step, read (perform s step) = (written? step).or (read s)) (s : σ)
    (history : List ι) :
    read (history.foldl perform s) = (lastWritten? written? history).or (read s) := by
  induction history generalizing s with
  | nil => rfl
  | cons step later ih =>
    rw [lastWritten?_cons, Option.or_assoc, ← h]
    exact ih (perform s step)

end

end DeviceSupport
