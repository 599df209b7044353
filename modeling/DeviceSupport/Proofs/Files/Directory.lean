import DeviceSupport.Proofs.Files.Tree
import Mathlib.Data.List.Perm.Basic

/-! The files of a directory.

A tree is `Proper` when it could be that of a file system: an entry stands in it once, in a
directory and under a name that can be given to it. Then `fileNames` names each file of a directory
once (`mem_fileNames_iff`, `nodup_fileNames`), and a name joined to a path of the directory is a path
of the file, unless that path is too long (`find_join`). -/
namespace DeviceSupport
set_option autoImplicit false

/-! ## Tables with distinct keys -/

theorem Table.get?_eq_some_iff {κ α : Type} [DecidableEq κ] {table : Table κ α}
    (h : (table.map (·.1)).Nodup) (key : κ) (value : α) :
    Table.get? key table = some value ↔ (key, value) ∈ table := by
  refine ⟨Table.mem_of_get?, fun hmem => ?_⟩
  induction table with
  | nil => exact absurd hmem List.not_mem_nil
  | cons e rest ih =>
    obtain ⟨own, first⟩ := e
    rw [List.map_cons, List.nodup_cons] at h
    rw [Table.get?]
    rcases List.mem_cons.mp hmem with heq | hrest
    · obtain ⟨rfl, rfl⟩ := Prod.mk.inj heq
      exact if_pos rfl
    · have hne : own ≠ key := by
        rintro rfl
        exact h.1 (List.mem_map.mpr ⟨_, hrest, rfl⟩)
      rw [if_neg hne]
      exact ih h.2 hrest

namespace FileTree

/-! ## Proper trees -/

structure Proper (t : FileTree) : Prop where
  distinct : (t.nodes.map (·.1)).Nodup
  inside : ∀ e ∈ t.nodes, t.node? e.1.dropLast = some .directory
  named : ∀ e ∈ t.nodes, ∀ name ∈ e.1,
    Path.IsName name ∧ hasNul name = false ∧ name.utf8ByteSize ≤ nameLimit

theorem Proper.node?_eq_some_iff {t : FileTree} (h : t.Proper) {place : List String}
    (hplace : place ≠ []) (node : FileNode) :
    t.node? place = some node ↔ (place, node) ∈ t.nodes := by
  rw [node?, if_neg (by simpa using hplace), Table.get?_eq_some_iff h.distinct]

/-- The order in which the entries are kept does not show in what is found. -/
theorem Proper.node?_of_perm {t later : FileTree} (h : t.Proper)
    (hperm : later.nodes.Perm t.nodes) (place : List String) :
    later.node? place = t.node? place := by
  unfold node?
  split
  next => rfl
  next =>
    have hdistinct : (later.nodes.map (·.1)).Nodup := (hperm.map _).nodup_iff.mpr h.distinct
    refine Option.ext fun node => ?_
    rw [Table.get?_eq_some_iff hdistinct, Table.get?_eq_some_iff h.distinct, hperm.mem_iff]

theorem Proper.of_perm {t later : FileTree} (h : t.Proper) (hperm : later.nodes.Perm t.nodes) :
    later.Proper where
  distinct := (hperm.map _).nodup_iff.mpr h.distinct
  inside e he := by
    rw [h.node?_of_perm hperm]
    exact h.inside e (hperm.mem_iff.mp he)
  named e he := h.named e (hperm.mem_iff.mp he)

theorem Proper.extends_of_perm {t later : FileTree} (h : t.Proper)
    (hperm : later.nodes.Perm t.nodes) (hworking : later.working = t.working) :
    t.Extends later where
  working := hworking
  directory place hplace := by
    rw [h.node?_of_perm hperm]
    exact hplace

/-- A tree stays proper without one of its files. -/
theorem Proper.erase {t : FileTree} (h : t.Proper) {place : List String}
    (hplace : t.node? place ≠ some .directory) :
    ({ t with nodes := Table.erase place t.nodes } : FileTree).Proper where
  distinct := h.distinct.sublist (List.filter_sublist.map _)
  inside e he := by
    have hinside := h.inside e (List.mem_filter.mp he).1
    have hne : place ≠ e.1.dropLast := by
      rintro rfl
      exact hplace hinside
    unfold node? at hinside ⊢
    split
    next => rfl
    next hnonempty =>
      rw [if_neg hnonempty] at hinside
      rw [Table.get?_erase, if_neg hne]
      exact hinside
  named e he := h.named e (List.mem_filter.mp he).1

/-! ## The files of a directory -/

theorem Proper.of_file {t : FileTree} (h : t.Proper) {place : List String} {name : String}
    {bytes : List UInt8} (hfile : t.node? (place ++ [name]) = some (.file bytes)) :
    t.node? place = some .directory ∧ Path.IsName name ∧ hasNul name = false ∧
      name.utf8ByteSize ≤ nameLimit := by
  have hmem := (h.node?_eq_some_iff (by simp) _).mp hfile
  have hinside := h.inside _ hmem
  rw [List.dropLast_concat] at hinside
  exact ⟨hinside, h.named _ hmem name (by simp)⟩

theorem entry_of_fileName {place : List String} {e : List String × FileNode} {name : String}
    (h : (match e with
      | (own, .file _) => if own.dropLast = place then own.getLast? else none
      | (_, .directory) => none) = some name) :
    e.1 = place ++ [name] ∧ ∃ bytes, e.2 = .file bytes := by
  obtain ⟨own, node⟩ := e
  cases node with
  | directory => nomatch h
  | file bytes =>
    dsimp only at h
    split at h
    next hplace =>
      have hown := List.dropLast_append_getLast? name h
      rw [hplace] at hown
      exact ⟨hown.symm, bytes, rfl⟩
    next => nomatch h

theorem Proper.mem_fileNames_iff {t : FileTree} (h : t.Proper) (place : List String)
    (name : String) :
    name ∈ t.fileNames place ↔ ∃ bytes, t.node? (place ++ [name]) = some (.file bytes) := by
  have hentry (bytes : List UInt8) :
      t.node? (place ++ [name]) = some (.file bytes) ↔
        (place ++ [name], FileNode.file bytes) ∈ t.nodes := h.node?_eq_some_iff (by simp) _
  simp only [hentry, fileNames, List.mem_filterMap]
  constructor
  · rintro ⟨⟨own, node⟩, hmem, hname⟩
    obtain ⟨rfl, bytes, rfl⟩ := entry_of_fileName hname
    exact ⟨bytes, hmem⟩
  · rintro ⟨bytes, hmem⟩
    exact ⟨_, hmem, by simp⟩

theorem Proper.nodup_fileNames {t : FileTree} (h : t.Proper) (place : List String) :
    (t.fileNames place).Nodup := by
  refine List.pairwise_filterMap.mpr ((List.pairwise_map.mp h.distinct).imp ?_)
  intro e other hne name hname last hlast heq
  subst heq
  exact hne ((entry_of_fileName hname).1.trans (entry_of_fileName hlast).1.symm)

/-! ## Paths of files -/

/-- The path of a file leads to it unless it is too long. -/
theorem Proper.find_join {t : FileTree} (h : t.Proper) {directory name : String}
    {place : List String} {bytes : List UInt8} (hplace : t.locate directory = .ok place)
    (hfile : t.node? (place ++ [name]) = some (.file bytes)) :
    t.find (Path.join directory name) =
      if (Path.join directory name).utf8ByteSize ≤ pathLimit then .ok (.file bytes)
      else .error .nameTooLong := by
  obtain ⟨hdirectory, hname, hnul, hlength⟩ := h.of_file hfile
  have hcheck : checkPath directory = .ok () := by
    obtain ⟨⟨⟩, hcheck, -⟩ := bind_eq_ok_iff.mp hplace
    exact hcheck
  have hnonempty : directory ≠ "" := (checkPath_eq_ok_iff.mp hcheck).2.1
  split
  next hshort =>
    have hwhole : checkPath (Path.join directory name) = .ok () :=
      (checkPath_join hname hnonempty).mpr ⟨hcheck, hnul, hshort⟩
    have hlocate : t.locate (Path.join directory name) = .ok (place ++ [name]) := by
      rw [locate_join t hname hnonempty hwhole, hplace]
      refine (enter_eq_ok_iff hname).mpr ⟨hdirectory, hlength, ?_, rfl⟩
      rw [hfile]
      rfl
    refine bind_eq_ok_iff.mpr ⟨_, hlocate, ?_⟩
    rw [hfile]
    rfl
  next hlong =>
    have hclean : hasNul (Path.join directory name) = false := by
      rw [hasNul_join hname hnonempty, (checkPath_eq_ok_iff.mp hcheck).1, hnul]
      rfl
    have hwhole : checkPath (Path.join directory name) = .error .nameTooLong := by
      simp [checkPath, hclean, Path.join_nonempty directory hname]
      omega
    rw [find, locate, hwhole]
    rfl

end FileTree

end DeviceSupport
