import DeviceSupport.Proofs.Files.Tree

/-! Directories that are made, and files that lie beside each other.

Making directories keeps every directory that is there, and the way to the new one can be walked in
the tree it leaves; so the new directory is there (`isPresent_makeDirectories`). A file that is
written beside another one is not found under the other's path (`find_write_beside`). -/
namespace DeviceSupport.FileTree
set_option autoImplicit false

/-! ## Making directories -/

theorem Extends.refl (t : FileTree) : t.Extends t := ⟨rfl, fun _ h => h⟩

theorem Extends.trans {t middle later : FileTree} (h : t.Extends middle)
    (hnext : middle.Extends later) : t.Extends later where
  working := hnext.working.trans h.working
  directory place hplace := hnext.directory place (h.directory place hplace)

/-- A part that is not found in a directory is a name that nothing has there. -/
theorem enter_insert {t : FileTree} {place : List String} {part : String}
    (hplace : t.node? place = some .directory) (h : t.enter place part = .error .notFound) :
    FileTree.enter { t with nodes := Table.insert (place ++ [part]) .directory t.nodes } place part =
      .ok (place ++ [part]) := by
  have hnew : place ++ [part] ≠ [] := by simp
  have hextends := extends_insert (t := t) hnew .directory fun _ => rfl
  have hstays := hextends.directory place hplace
  simp only [enter, hplace] at h
  simp only [enter, hstays]
  by_cases hidle : Path.isIdle part = true
  · simp [hidle] at h
  by_cases hup : part = ".."
  · rw [if_neg hidle, if_pos hup] at h
    cases h
  by_cases hlong : nameLimit < part.utf8ByteSize
  · simp [hidle, hup, hlong] at h
  simp [hidle, hup, hlong, node?_insert t hnew]

/-- What one step of making directories can do. -/
theorem enterMaking_eq_ok {t later : FileTree} {place next : List String} {part : String}
    (h : enterMaking (place, t) part = .ok (next, later)) :
    t.Extends later ∧ later.enter place part = .ok next := by
  unfold enterMaking at h
  dsimp only at h
  split at h
  next own henter =>
    obtain ⟨rfl, rfl⟩ := Prod.mk.inj (Except.ok.inj h)
    exact ⟨.refl t, henter⟩
  next hmissing =>
    split at h
    next hplace =>
      obtain ⟨rfl, rfl⟩ := Prod.mk.inj (Except.ok.inj h)
      exact ⟨extends_insert (by simp) .directory fun _ => rfl, enter_insert hplace hmissing⟩
    next => nomatch h
  next => nomatch h

/-- The way that was made can be walked, if it ends in a directory. -/
theorem foldlM_enterMaking {parts : List String} {t later : FileTree} {place last : List String}
    (h : parts.foldlM enterMaking (place, t) = .ok (last, later))
    (hlast : later.node? last = some .directory) :
    t.Extends later ∧ parts.foldlM later.enter place = .ok last := by
  induction parts generalizing place t with
  | nil =>
    obtain ⟨rfl, rfl⟩ := Prod.mk.inj (Except.ok.inj h)
    exact ⟨.refl t, rfl⟩
  | cons part parts ih =>
    rw [List.foldlM_cons, bind_eq_ok_iff] at h
    obtain ⟨⟨next, middle⟩, hstep, hrest⟩ := h
    obtain ⟨hextends, henter⟩ := enterMaking_eq_ok hstep
    obtain ⟨hlater, hwalk⟩ := ih hrest
    refine ⟨hextends.trans hlater, ?_⟩
    rw [List.foldlM_cons, bind_eq_ok_iff]
    exact ⟨next, hlater.enter henter (node?_of_walk hwalk hlast), hwalk⟩

/-- A directory that was made is there. -/
theorem isPresent_makeDirectories {t later : FileTree} {path : String} (hpath : path ≠ "")
    (h : t.makeDirectories path = .ok later) : later.isPresent path = true := by
  have hempty : ¬path.isEmpty = true := by simpa using hpath
  rw [makeDirectories, if_neg hempty] at h
  obtain ⟨⟨⟩, hcheck, h⟩ := bind_eq_ok_iff.mp h
  obtain ⟨⟨last, made⟩, hfold, h⟩ := bind_eq_ok_iff.mp h
  dsimp only at h
  split at h
  next hlast =>
    obtain rfl := Except.ok.inj h
    obtain ⟨hextends, hwalk⟩ := foldlM_enterMaking hfold hlast
    rw [← hextends.origin] at hwalk
    have hfind : made.find path = .ok .directory := by
      refine bind_eq_ok_iff.mpr ⟨last, bind_eq_ok_iff.mpr ⟨(), hcheck, hwalk⟩, ?_⟩
      rw [hlast]
      rfl
    rw [isPresent, hfind]
    rfl
  next => cases h

/-! ## Files beside each other -/

/-- Where a file goes that is written under a name in a directory. -/
theorem destination_join {t : FileTree} {directory name : String} {place : List String}
    (h : Path.IsName name) (hdirectory : directory ≠ "")
    (hplace : t.destination (Path.join directory name) = .ok place) :
    ∃ parent, t.locate directory = .ok parent ∧ t.node? parent = some .directory ∧
      place = parent ++ [name] := by
  obtain ⟨parent, own, hway, rfl⟩ := way_of_destination hplace
  obtain ⟨front, hparts, hwalk⟩ := hway.front
  obtain ⟨before, hbefore, hjoin⟩ := Path.parts_join hdirectory
  rw [hjoin name h] at hparts
  obtain ⟨rfl, hown⟩ := List.append_inj' hparts rfl
  obtain rfl := (List.cons.inj hown).1
  refine ⟨parent, ?_, hway.directory, rfl⟩
  refine bind_eq_ok_iff.mpr ⟨(), ((checkPath_join h hdirectory).mp hway.check).1, ?_⟩
  rw [origin, Path.startsWith_join h hdirectory, ← origin] at hwalk
  rcases hbefore with hbefore | hbefore
  · rw [hbefore]
    exact hwalk
  · -- The slash at the end of the directory is one more step that stays where it is.
    rw [hbefore, List.foldlM_append, bind_eq_ok_iff]
    exact ⟨parent, hwalk, by rw [List.foldlM_cons, enter_idle hway.directory rfl]; rfl⟩

/-- What is found under a name in a directory. -/
theorem find_join {t : FileTree} {directory name : String} {parent : List String}
    (h : Path.IsName name) (hlength : name.utf8ByteSize ≤ nameLimit) (hdirectory : directory ≠ "")
    (hcheck : checkPath (Path.join directory name) = .ok ())
    (hparent : t.locate directory = .ok parent) (hnode : t.node? parent = some .directory) :
    t.find (Path.join directory name) =
      (t.node? (parent ++ [name])).elim (.error .notFound) .ok := by
  have hlong : ¬nameLimit < name.utf8ByteSize := by omega
  rw [find, locate_join t h hdirectory hcheck, hparent]
  cases hfound : t.node? (parent ++ [name]) with
  | none =>
    have henter : t.enter parent name = .error .notFound := by
      simp [enter, hnode, h.moves, h.forward, hlong, hfound]
    simp only [bind, Except.bind, henter]
    rfl
  | some node =>
    have henter : t.enter parent name = .ok (parent ++ [name]) := by
      simp [enter, hnode, h.moves, h.forward, hlong, hfound]
    simp only [bind, Except.bind, henter, hfound]
    rfl

/-- Writing a file changes nothing under the path of another file of its directory. -/
theorem find_write_beside {t later : FileTree} {directory name other : String} {bytes : List UInt8}
    (hdirectory : directory ≠ "") (hname : Path.IsName name)
    (hlength : name.utf8ByteSize ≤ nameLimit) (hother : Path.IsName other) (hne : name ≠ other)
    (h : t.write (Path.join directory other) bytes = .ok later) :
    later.find (Path.join directory name) = t.find (Path.join directory name) := by
  obtain ⟨place, hplace, h⟩ := bind_eq_ok_iff.mp h
  obtain ⟨parent, hparent, hnode, rfl⟩ := destination_join hother hdirectory hplace
  have hnew : parent ++ [other] ≠ [] := by simp
  split at h
  next => nomatch h
  next hfree =>
    obtain rfl := Except.ok.inj h
    have hextends := extends_insert hnew (.file bytes) fun hnode => absurd hnode hfree
    cases hcheck : checkPath (Path.join directory name) with
    | error fault => simp only [find, locate, hcheck, bind, Except.bind]
    | ok done =>
      have hapart : parent ++ [other] ≠ parent ++ [name] := by simpa using hne.symm
      rw [find_join hname hlength hdirectory hcheck hparent hnode,
        find_join hname hlength hdirectory hcheck (hextends.locate hparent hnode)
          (hextends.directory parent hnode), node?_insert t hnew, if_neg hapart]

end DeviceSupport.FileTree
