import DeviceSupport.Files.Tree
import DeviceSupport.Proofs.Bytes.Field
import DeviceSupport.Proofs.Files.Path

/-! Where paths lead in a tree, and what a write changes of that.

A path to a name in a directory leads to the directory first and enters the name from there
(`locate_join`). A tree `Extends` another one when every directory of it is still there: then every
path that led to a directory leads to the same place. Writing a file extends the tree, so a written
file is found under the path it was written to (`find_write`). -/
namespace DeviceSupport.FileTree
set_option autoImplicit false

/-! ## One part further -/

theorem node?_of_enter {t : FileTree} {place next : List String} {part : String}
    (h : t.enter place part = .ok next) : t.node? place = some .directory := by
  unfold enter at h
  split at h
  next hnode => exact hnode
  next => nomatch h
  next => nomatch h

theorem enter_idle {t : FileTree} {place : List String} {part : String}
    (hplace : t.node? place = some .directory) (h : Path.isIdle part = true) :
    t.enter place part = .ok place := by
  simp [enter, hplace, h]

/-- Entering a name leads to the entry of that name. -/
theorem enter_eq_ok_iff {t : FileTree} {place next : List String} {name : String}
    (h : Path.IsName name) :
    t.enter place name = .ok next ↔
      t.node? place = some .directory ∧ name.utf8ByteSize ≤ nameLimit ∧
        (t.node? (place ++ [name])).isSome ∧ next = place ++ [name] := by
  constructor
  · intro henter
    have hplace := node?_of_enter henter
    simp only [enter, hplace, h.moves, h.forward, Bool.false_eq_true, if_false] at henter
    split at henter
    next => nomatch henter
    next hlength =>
      split at henter
      next hpresent => exact ⟨hplace, by omega, hpresent, (Except.ok.inj henter).symm⟩
      next => nomatch henter
  · rintro ⟨hplace, hlength, hpresent, rfl⟩
    have hlength : ¬nameLimit < name.utf8ByteSize := by omega
    simp [enter, hplace, h.moves, h.forward, hlength, hpresent]

/-! ## Names in directories -/

theorem checkPath_eq_ok_iff {path : String} :
    checkPath path = .ok () ↔
      hasNul path = false ∧ path ≠ "" ∧ path.utf8ByteSize ≤ pathLimit := by
  unfold checkPath
  constructor
  · intro h
    split at h
    next => nomatch h
    next hnul =>
      split at h
      next => nomatch h
      next hempty =>
        split at h
        next => nomatch h
        next hlength =>
          exact ⟨by simpa using hnul, by simpa using hempty, by omega⟩
  · rintro ⟨hnul, hempty, hlength⟩
    have hlength : ¬pathLimit < path.utf8ByteSize := by omega
    simp [hnul, hempty, hlength]

theorem hasNul_append (front behind : String) :
    hasNul (front ++ behind) = (hasNul front || hasNul behind) := by
  simp [hasNul]

theorem hasNul_join {directory name : String} (h : Path.IsName name) (hdirectory : directory ≠ "") :
    hasNul (Path.join directory name) = (hasNul directory || hasNul name) := by
  obtain ⟨slash, hslash, hjoin⟩ := Path.join_eq_append h hdirectory
  have hnul : hasNul slash = false := by
    rcases hslash with rfl | rfl <;> decide
  rw [hjoin, hasNul_append, hasNul_append, hnul, Bool.false_or]

/-- A path may be followed exactly when its directory may be, its name holds no NUL, and it is short
enough. -/
theorem checkPath_join {directory name : String} (h : Path.IsName name)
    (hdirectory : directory ≠ "") :
    checkPath (Path.join directory name) = .ok () ↔
      checkPath directory = .ok () ∧ hasNul name = false ∧
        (Path.join directory name).utf8ByteSize ≤ pathLimit := by
  have hsize : directory.utf8ByteSize ≤ (Path.join directory name).utf8ByteSize := by
    obtain ⟨slash, -, hjoin⟩ := Path.join_eq_append h hdirectory
    rw [hjoin, String.utf8ByteSize_append]
    omega
  rw [checkPath_eq_ok_iff, checkPath_eq_ok_iff, hasNul_join h hdirectory, Bool.or_eq_false_iff]
  constructor
  · rintro ⟨⟨hfront, hname⟩, -, hlength⟩
    exact ⟨⟨hfront, hdirectory, by omega⟩, hname, hlength⟩
  · rintro ⟨⟨hfront, -, -⟩, hname, hlength⟩
    exact ⟨⟨hfront, hname⟩, Path.join_nonempty directory h, hlength⟩

/-- A slash at the end of a path asks for a directory, and so does a name behind it. -/
theorem enter_slash (t : FileTree) (place : List String) (name : String) :
    (t.enter place "" >>= fun next => t.enter next name) = t.enter place name := by
  by_cases hplace : t.node? place = some .directory
  · rw [enter_idle hplace rfl]
    rfl
  · unfold enter
    cases hnode : t.node? place with
    | none => rfl
    | some node =>
      cases node with
      | file bytes => rfl
      | directory => exact absurd hnode hplace

theorem walk_join (t : FileTree) {directory name : String} (h : Path.IsName name)
    (hdirectory : directory ≠ "") (place : List String) :
    (Path.parts (Path.join directory name)).foldlM t.enter place =
      (Path.parts directory).foldlM t.enter place >>= fun next => t.enter next name := by
  obtain ⟨front, hdirectory | hslash, hjoin⟩ := Path.parts_join hdirectory
  · simp [hjoin name h, hdirectory, List.foldlM_append]
  · simp [hjoin name h, hslash, List.foldlM_append, enter_slash]

/-- Where a path to a name leads: to the directory, and from there into the name. -/
theorem locate_join (t : FileTree) {directory name : String} (h : Path.IsName name)
    (hdirectory : directory ≠ "") (hcheck : checkPath (Path.join directory name) = .ok ()) :
    t.locate (Path.join directory name) =
      t.locate directory >>= fun place => t.enter place name := by
  have hfront : checkPath directory = .ok () := ((checkPath_join h hdirectory).mp hcheck).1
  have horigin : t.origin (Path.join directory name) = t.origin directory := by
    rw [origin, origin, Path.startsWith_join h hdirectory]
  rw [locate, locate, hcheck, hfront, horigin]
  exact walk_join t h hdirectory _

/-- An entry that is found under a name in a directory shows that the directory is there. -/
theorem isPresent_of_find_join {t : FileTree} {directory name : String} {node : FileNode}
    (hname : Path.IsName name) (hdirectory : directory ≠ "")
    (h : t.find (Path.join directory name) = .ok node) : t.isPresent directory = true := by
  obtain ⟨place, hlocate, -⟩ := bind_eq_ok_iff.mp h
  have hcheck : checkPath (Path.join directory name) = .ok () := by
    obtain ⟨⟨⟩, hcheck, -⟩ := bind_eq_ok_iff.mp hlocate
    exact hcheck
  rw [locate_join t hname hdirectory hcheck] at hlocate
  obtain ⟨parent, hparent, henter⟩ := bind_eq_ok_iff.mp hlocate
  have hfind : t.find directory = .ok .directory := by
    refine bind_eq_ok_iff.mpr ⟨parent, hparent, ?_⟩
    rw [node?_of_enter henter]
    rfl
  rw [isPresent, hfind]
  rfl

/-! ## Writing -/

/-- Every directory is still there. -/
structure Extends (t later : FileTree) : Prop where
  working : later.working = t.working
  directory : ∀ place, t.node? place = some .directory → later.node? place = some .directory

theorem Extends.enter {t later : FileTree} (h : t.Extends later) {place next : List String}
    {part : String} (henter : t.enter place part = .ok next)
    (hnext : later.node? next = some .directory) : later.enter place part = .ok next := by
  have hplace := node?_of_enter henter
  simp only [FileTree.enter, hplace] at henter
  simp only [FileTree.enter, h.directory place hplace]
  by_cases hidle : Path.isIdle part = true
  · simpa [hidle] using henter
  by_cases hup : part = ".."
  · simpa [hidle, hup] using henter
  by_cases hlong : nameLimit < part.utf8ByteSize
  · simp [hidle, hup, hlong] at henter
  by_cases hpresent : (t.node? (place ++ [part])).isSome = true
  · simp only [hidle, hup, hlong, hpresent, if_true, if_false, Except.ok.injEq,
      Bool.false_eq_true] at henter ⊢
    subst henter
    simp [hnext]
  · simp [hidle, hup, hlong, hpresent] at henter

theorem node?_of_walk {t : FileTree} {parts : List String} {place next : List String}
    (hwalk : parts.foldlM t.enter place = .ok next) (hnext : t.node? next = some .directory) :
    t.node? place = some .directory := by
  cases parts with
  | nil =>
    obtain rfl := Except.ok.inj hwalk
    exact hnext
  | cons part parts =>
    obtain ⟨middle, henter, -⟩ := bind_eq_ok_iff.mp hwalk
    exact node?_of_enter henter

/-- The way to a directory passes through directories only, so that it is still there. -/
theorem Extends.walk {t later : FileTree} (h : t.Extends later) {parts : List String}
    {place next : List String} (hwalk : parts.foldlM t.enter place = .ok next)
    (hnext : t.node? next = some .directory) : parts.foldlM later.enter place = .ok next := by
  induction parts generalizing place with
  | nil => exact hwalk
  | cons part parts ih =>
    rw [List.foldlM_cons, bind_eq_ok_iff] at hwalk ⊢
    obtain ⟨middle, henter, hrest⟩ := hwalk
    exact ⟨middle, h.enter henter (h.directory middle (node?_of_walk hrest hnext)), ih hrest⟩

theorem Extends.origin {t later : FileTree} (h : t.Extends later) (path : String) :
    later.origin path = t.origin path := by
  rw [FileTree.origin, FileTree.origin, h.working]

theorem Extends.locate {t later : FileTree} (h : t.Extends later) {path : String}
    {place : List String} (hlocate : t.locate path = .ok place)
    (hplace : t.node? place = some .directory) : later.locate path = .ok place := by
  obtain ⟨⟨⟩, hcheck, hwalk⟩ := bind_eq_ok_iff.mp hlocate
  refine bind_eq_ok_iff.mpr ⟨(), hcheck, ?_⟩
  rw [h.origin]
  exact h.walk hwalk hplace

theorem node?_insert (t : FileTree) {place : List String} (hplace : place ≠ []) (node : FileNode)
    (other : List String) :
    ({ t with nodes := Table.insert place node t.nodes } : FileTree).node? other =
      if place = other then some node else t.node? other := by
  unfold node?
  split
  next hother =>
    rw [List.isEmpty_iff] at hother
    rw [if_neg (by rw [hother]; exact hplace)]
  next => exact Table.get?_insert t.nodes place other node

theorem extends_insert {t : FileTree} {place : List String} (hplace : place ≠ []) (node : FileNode)
    (h : t.node? place = some .directory → node = .directory) :
    t.Extends { t with nodes := Table.insert place node t.nodes } where
  working := rfl
  directory other hother := by
    rw [node?_insert t hplace]
    split
    next hsame =>
      subst hsame
      rw [h hother]
    next => exact hother

/-- A path that leads to a directory with all its parts but the last, which is a name. -/
structure Way (t : FileTree) (path : String) (parent : List String) (name : String) : Prop where
  check : checkPath path = .ok ()
  front : ∃ front, Path.parts path = front ++ [name] ∧
    front.foldlM t.enter (t.origin path) = .ok parent
  directory : t.node? parent = some .directory
  moves : Path.isIdle name = false
  forward : name ≠ ".."
  length : name.utf8ByteSize ≤ nameLimit

theorem way_of_destination {t : FileTree} {path : String} {place : List String}
    (h : t.destination path = .ok place) :
    ∃ parent name, t.Way path parent name ∧ place = parent ++ [name] := by
  unfold destination at h
  obtain ⟨⟨⟩, hcheck, h⟩ := bind_eq_ok_iff.mp h
  obtain ⟨parent, hparent, h⟩ := bind_eq_ok_iff.mp h
  have hparts : Path.parts path =
      (Path.parts path).dropLast ++ [(Path.parts path).getLastD ""] := by
    rw [List.getLastD_eq_getLast?, List.getLast?_eq_some_getLast (Path.parts_ne_nil path)]
    exact (List.dropLast_concat_getLast (Path.parts_ne_nil path)).symm
  generalize (Path.parts path).getLastD "" = name at h hparts
  refine ⟨parent, name, ?_⟩
  dsimp only at h
  split at h
  next hnode =>
    split at h
    next => nomatch h
    next hname =>
      simp only [Bool.or_eq_true, decide_eq_true_eq, not_or] at hname
      obtain ⟨hmoves, hforward⟩ := hname
      split at h
      next => nomatch h
      next hlength =>
        exact ⟨⟨hcheck, ⟨_, hparts, hparent⟩, hnode, by simpa using hmoves, hforward, by omega⟩,
          (Except.ok.inj h).symm⟩
  next => nomatch h

theorem Way.later {t later : FileTree} {path name : String} {parent : List String}
    (h : t.Way path parent name) (hextends : t.Extends later) : later.Way path parent name := by
  obtain ⟨front, hparts, hparent⟩ := h.front
  have hwalk := hextends.walk hparent h.directory
  rw [← hextends.origin] at hwalk
  exact ⟨h.check, ⟨front, hparts, hwalk⟩,
    hextends.directory parent h.directory, h.moves, h.forward, h.length⟩

theorem Way.find {t : FileTree} {path name : String} {parent : List String} {node : FileNode}
    (h : t.Way path parent name) (hnode : t.node? (parent ++ [name]) = some node) :
    t.find path = .ok node := by
  obtain ⟨front, hparts, hparent⟩ := h.front
  have henter : t.enter parent name = .ok (parent ++ [name]) := by
    have hlength : ¬nameLimit < name.utf8ByteSize := by
      have := h.length
      omega
    simp [enter, h.directory, h.moves, h.forward, hlength, hnode]
  have hlocate : t.locate path = .ok (parent ++ [name]) := by
    refine bind_eq_ok_iff.mpr ⟨(), h.check, ?_⟩
    rw [hparts, List.foldlM_append]
    refine bind_eq_ok_iff.mpr ⟨parent, hparent, ?_⟩
    rw [List.foldlM_cons, henter]
    rfl
  refine bind_eq_ok_iff.mpr ⟨_, hlocate, ?_⟩
  rw [hnode]
  rfl

/-- A written file is found under its path. -/
theorem find_write {t later : FileTree} {path : String} {bytes : List UInt8}
    (h : t.write path bytes = .ok later) : later.find path = .ok (.file bytes) := by
  unfold write at h
  obtain ⟨place, hplace, h⟩ := bind_eq_ok_iff.mp h
  obtain ⟨parent, name, hway, rfl⟩ := way_of_destination hplace
  have hne : parent ++ [name] ≠ [] := by simp
  split at h
  next => nomatch h
  next hfree =>
    obtain rfl := Except.ok.inj h
    refine (hway.later (extends_insert hne (.file bytes) fun hnode => absurd hnode hfree)).find ?_
    rw [node?_insert t hne, if_pos rfl]

theorem read_eq_ok_iff {t : FileTree} {path : String} {bytes : List UInt8} :
    t.read path = .ok bytes ↔ t.find path = .ok (.file bytes) := by
  rw [read, bind_eq_ok_iff]
  constructor
  · rintro ⟨node, hfind, hnode⟩
    cases node with
    | file own =>
      obtain rfl := Except.ok.inj hnode
      exact hfind
    | directory => nomatch hnode
  · intro hfind
    exact ⟨_, hfind, rfl⟩

/-- A file that takes another path's place keeps its bytes. -/
theorem find_move {t later : FileTree} {source target : String} {bytes : List UInt8}
    (h : t.move source target = .ok later) (hsource : t.find source = .ok (.file bytes)) :
    later.find target = .ok (.file bytes) := by
  obtain ⟨own, hread, h⟩ := bind_eq_ok_iff.mp h
  obtain ⟨place, -, h⟩ := bind_eq_ok_iff.mp h
  rw [read_eq_ok_iff.mpr hsource] at hread
  obtain rfl := Except.ok.inj hread
  exact find_write h

end DeviceSupport.FileTree
