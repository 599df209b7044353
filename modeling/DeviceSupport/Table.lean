/-! Finite tables, as lists of entries.

`insert` replaces the value of a key in its place, or puts a new entry last; `erase` removes it.
`get?_insert` and `get?_erase` say what that does to every look-up. -/
namespace DeviceSupport
set_option autoImplicit false

abbrev Table (κ α : Type) := List (κ × α)

namespace Table
variable {κ α : Type} [DecidableEq κ]

def get? (key : κ) : Table κ α → Option α
  | [] => none
  | (k, a) :: entries => if k = key then some a else get? key entries

def insert (key : κ) (value : α) : Table κ α → Table κ α
  | [] => [(key, value)]
  | (k, a) :: entries =>
    if k = key then (key, value) :: entries else (k, a) :: insert key value entries

def erase (key : κ) (table : Table κ α) : Table κ α := table.filter (·.1 ≠ key)

/-! ## Look-ups -/

theorem mem_of_get? {table : Table κ α} {key : κ} {value : α} (h : get? key table = some value) :
    (key, value) ∈ table := by
  induction table with
  | nil => nomatch h
  | cons e es ih =>
    rw [get?] at h
    split at h
    · next hkey =>
      cases h
      rw [← hkey]
      exact List.mem_cons_self
    · exact List.mem_cons_of_mem e (ih h)

theorem get?_of_mem {table : Table κ α} {e : κ × α} (h : e ∈ table) :
    ∃ value, get? e.1 table = some value := by
  induction table with
  | nil => exact absurd h List.not_mem_nil
  | cons first rest ih =>
    rw [get?]
    by_cases hfirst : first.1 = e.1
    · exact ⟨first.2, if_pos hfirst⟩
    · rw [if_neg hfirst]
      rcases List.mem_cons.mp h with rfl | hrest
      · exact absurd rfl hfirst
      · exact ih hrest

theorem get?_insert (table : Table κ α) (key other : κ) (value : α) :
    get? other (insert key value table) = if key = other then some value else get? other table := by
  induction table with
  | nil => rfl
  | cons e es ih =>
    obtain ⟨k, a⟩ := e
    by_cases h : k = key
    · subst h
      by_cases h' : k = other <;> simp [insert, get?, h']
    · by_cases h' : k = other
      · subst h'
        simp [insert, get?, h, Ne.symm h]
      · simp [insert, get?, h, h', ih]

theorem get?_erase (table : Table κ α) (key other : κ) :
    get? other (erase key table) = if key = other then none else get? other table := by
  induction table with
  | nil => simp [erase, get?]
  | cons e es ih =>
    obtain ⟨k, a⟩ := e
    have step : erase key ((k, a) :: es) =
        if k = key then erase key es else (k, a) :: erase key es := by
      by_cases h : k = key <;> simp [erase, h]
    rw [step]
    by_cases h : k = key
    · subst h
      rw [if_pos rfl, ih]
      by_cases h' : k = other <;> simp [get?, h']
    · by_cases h' : k = other
      · subst h'
        simp [get?, h, Ne.symm h]
      · simp [get?, h, h', ih]

end Table

end DeviceSupport
