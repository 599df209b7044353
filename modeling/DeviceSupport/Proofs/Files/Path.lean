import DeviceSupport.Files.Path

/-! A name behind a directory.

A name is one part of a path that stands for itself. Whether or not the directory is written with a
slash at its end, `join` puts the name last among the parts (`parts_join`), so the name of the
joined path is the one that was put there, and so is its extension. With another extension the path
stays in the directory (`withExtension_join`). -/
namespace DeviceSupport.Path
set_option autoImplicit false

/-- A part of a path that leads somewhere and says where. -/
structure IsName (name : String) : Prop where
  slashless : '/' ∉ name.toList
  moves : isIdle name = false
  forward : name ≠ ".."

instance (name : String) : Decidable (IsName name) :=
  decidable_of_iff ('/' ∉ name.toList ∧ isIdle name = false ∧ name ≠ "..")
    ⟨fun ⟨h₁, h₂, h₃⟩ => ⟨h₁, h₂, h₃⟩, fun h => ⟨h.slashless, h.moves, h.forward⟩⟩

theorem IsName.nonempty {name : String} (h : IsName name) : name ≠ "" := by
  rintro rfl
  exact absurd h.moves (by decide)

theorem IsName.relative {name : String} (h : IsName name) : name.startsWith "/" = false := by
  rw [Bool.eq_false_iff, ne_eq, String.startsWith_string_iff]
  intro hslash
  exact h.slashless (hslash.mem (by decide))

/-! ## Parts -/

theorem parts_ne_nil (path : String) : parts path ≠ [] := by
  simpa only [parts, ne_eq, List.map_eq_nil_iff] using List.splitOn_ne_nil '/' path.toList

theorem parts_of_slashless {name : String} (h : '/' ∉ name.toList) : parts name = [name] := by
  rw [parts, List.splitOn_eq_singleton h, List.map_singleton, String.ofList_toList]

theorem parts_append_slash (front behind : String) :
    parts (front ++ "/" ++ behind) = parts front ++ parts behind := by
  have hslash : ("/" : String).toList = ['/'] := rfl
  have htext : (front ++ "/" ++ behind).toList = front.toList ++ '/' :: behind.toList := by
    simp [hslash]
  rw [parts, htext, List.splitOn_append_cons_self, List.map_append]
  rfl

theorem endsWith_slash_iff (text : String) :
    text.endsWith "/" = true ↔ ['/'] <:+ text.toList := by
  rw [String.endsWith_eq_endsWith_toSlice, String.Slice.endsWith_string_iff, String.copy_toSlice]
  rfl

theorem endsWith_slash {text : String} (h : text.endsWith "/" = true) :
    ∃ front, text = front ++ "/" := by
  obtain ⟨front, hfront⟩ := (endsWith_slash_iff text).mp h
  refine ⟨String.ofList front, String.toList_inj.mp ?_⟩
  simpa using hfront.symm

theorem join_of_not_slash {directory name : String} (h : IsName name) (hdirectory : directory ≠ "")
    (hslash : ¬['/'] <:+ directory.toList) : join directory name = directory ++ "/" ++ name := by
  rw [join, if_neg (by simp [h.relative, hdirectory]),
    if_neg (mt (endsWith_slash_iff directory).mp hslash)]

/-- How a name is put behind a directory. -/
theorem join_eq_append {directory name : String} (h : IsName name) (hdirectory : directory ≠ "") :
    ∃ slash, (slash = "" ∨ slash = "/") ∧ join directory name = directory ++ (slash ++ name) := by
  by_cases hslash : ['/'] <:+ directory.toList
  · refine ⟨"", .inl rfl, ?_⟩
    rw [join, if_neg (by simp [h.relative, hdirectory]),
      if_pos ((endsWith_slash_iff directory).mpr hslash), String.empty_append]
  · refine ⟨"/", .inr rfl, ?_⟩
    rw [join_of_not_slash h hdirectory hslash, String.append_assoc]

theorem join_nonempty (directory : String) {name : String} (h : IsName name) :
    join directory name ≠ "" := by
  by_cases hdirectory : directory = ""
  · rw [join, if_pos (by simp [hdirectory])]
    exact h.nonempty
  · obtain ⟨slash, -, hjoin⟩ := join_eq_append h hdirectory
    simp [hjoin, hdirectory]

/-- A joined path starts where its directory starts. -/
theorem startsWith_join {directory name : String} (h : IsName name) (hdirectory : directory ≠ "") :
    (join directory name).startsWith "/" = directory.startsWith "/" := by
  obtain ⟨slash, -, hjoin⟩ := join_eq_append h hdirectory
  have hslash : ("/" : String).toList = ['/'] := rfl
  rw [Bool.eq_iff_iff, String.startsWith_string_iff, String.startsWith_string_iff, hjoin,
    String.toList_append, hslash]
  cases hlist : directory.toList with
  | nil => exact absurd (String.toList_eq_nil_iff.mp hlist) hdirectory
  | cons c cs => simp

/-- What stands before a name that is put behind a directory: the parts of the directory, without
the empty one behind a slash at its end. -/
theorem parts_join {directory : String} (hdirectory : directory ≠ "") :
    ∃ front, (parts directory = front ∨ parts directory = front ++ [""]) ∧
      ∀ name, IsName name → parts (join directory name) = front ++ [name] := by
  have hparts (front : String) {name : String} (h : IsName name) :
      parts (front ++ "/" ++ name) = parts front ++ [name] := by
    rw [parts_append_slash, parts_of_slashless h.slashless]
  by_cases hslash : directory.endsWith "/" = true
  · obtain ⟨front, rfl⟩ := endsWith_slash hslash
    have hempty := parts_append_slash front ""
    rw [String.append_empty] at hempty
    refine ⟨parts front, .inr hempty, fun name h => ?_⟩
    rw [join, if_neg (by simp [h.relative]), if_pos hslash, hparts front h]
  · refine ⟨parts directory, .inl rfl, fun name h => ?_⟩
    rw [join, if_neg (by simp [h.relative, hdirectory]), if_neg hslash, hparts directory h]

theorem parts_join_eq_append (directory : String) {name : String} (h : IsName name) :
    ∃ front, parts (join directory name) = front ++ [name] := by
  by_cases hdirectory : directory = ""
  · subst hdirectory
    exact ⟨[], by rw [join, if_pos (by simp), parts_of_slashless h.slashless, List.nil_append]⟩
  · obtain ⟨front, -, hparts⟩ := parts_join hdirectory
    exact ⟨front, hparts name h⟩

theorem split?_of_parts {path name : String} {front : List String} (h : IsName name)
    (hparts : parts path = front ++ [name]) : split? path = some (front, name) := by
  simp [split?, hparts, h.moves, h.forward]

theorem split?_join (directory : String) {name : String} (h : IsName name) :
    ∃ before, split? (join directory name) = some (before, name) := by
  obtain ⟨front, hparts⟩ := parts_join_eq_append directory h
  exact ⟨front, split?_of_parts h hparts⟩

/-- The extension of a joined path is that of the name. -/
theorem extension?_join (directory : String) {name : String} (h : IsName name) :
    extension? (join directory name) = extension? name := by
  obtain ⟨before, hsplit⟩ := split?_join directory h
  obtain ⟨nothing, hname⟩ := split?_join "" h
  rw [join, if_pos (by simp)] at hname
  simp [extension?, hsplit, hname]

theorem join_injective {directory name other : String} (hname : IsName name) (hother : IsName other)
    (h : join directory name = join directory other) : name = other := by
  obtain ⟨before, hsplit⟩ := split?_join directory hname
  obtain ⟨behind, hsame⟩ := split?_join directory hother
  rw [h, hsame] at hsplit
  exact (Prod.mk.inj (Option.some.inj hsplit)).2.symm

/-! ## Another extension -/

theorem intercalate_parts (path : String) : "/".intercalate (parts path) = path := by
  have hslash : ("/" : String).toList = ['/'] := rfl
  have hparts : (parts path).map String.toList = path.toList.splitOn '/' := by
    simp [parts, Function.comp_def]
  rw [← String.toList_inj, String.toList_intercalate, hparts, hslash]
  exact List.intercalate_splitOn '/'

theorem join_append {directory name rest : String} (hname : IsName name)
    (hwhole : IsName (name ++ rest)) :
    join directory (name ++ rest) = join directory name ++ rest := by
  unfold join
  simp only [hname.relative, hwhole.relative, Bool.false_or]
  split
  · rfl
  · split
    · rw [String.append_assoc]
    · rw [String.append_assoc, String.append_assoc, String.append_assoc]

/-- A file of a directory that gets another extension stays in that directory. -/
theorem withExtension_join (stem old extension : String) {directory : String}
    (hdirectory : directory ≠ "") (hbare : IsName (stem ++ "."))
    (hname : IsName (stem ++ "." ++ old)) (hlater : IsName (stem ++ "." ++ extension))
    (hold : splitName (stem ++ "." ++ old) = (stem, some old))
    (hstem : (splitName (stem ++ ".")).1 = stem) :
    withExtension (join directory (stem ++ "." ++ old)) extension =
      join directory (stem ++ "." ++ extension) := by
  obtain ⟨front, -, hparts⟩ := parts_join hdirectory
  have hextension : extension? (join directory (stem ++ "." ++ old)) = some old := by
    simp [extension?, split?_of_parts hname (hparts _ hname), hold]
  have htake : String.ofList ((join directory (stem ++ "." ++ old)).toList.take
      ((join directory (stem ++ "." ++ old)).length - old.length)) =
        join directory (stem ++ ".") := by
    have hlength : (join directory (stem ++ ".") ++ old).length - old.length =
        (join directory (stem ++ ".")).toList.length := by
      rw [String.length_append, String.length_toList, Nat.add_sub_cancel]
    rw [join_append hbare hname, hlength, String.toList_append, List.take_left,
      String.ofList_toList]
  have hwhole := intercalate_parts (join directory (stem ++ "." ++ extension))
  rw [hparts _ hlater] at hwhole
  unfold withExtension
  simp only [hextension, Option.getD_some, htake, split?_of_parts hbare (hparts _ hbare), hstem]
  exact hwhole

end DeviceSupport.Path
