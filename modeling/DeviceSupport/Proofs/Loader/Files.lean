import DeviceSupport.Loader
import DeviceSupport.Proofs.Files.Directory

/-! The files that a directory is loaded from.

What a package comes to hangs on its name and its bytes alone (`outcome`). A directory `Offers` the
files that are packages by their extension and that a path leads to; in the order of their names
they are one list, whatever order the tree keeps them in, and their paths are the ones that are
loaded (`packagePaths_eq`). -/
namespace DeviceSupport.Loader
set_option autoImplicit false

/-! ## One file -/

/-- Whether the extension of a name is the wanted one, whatever the case of its letters. -/
def HasExtension (name wanted : String) : Prop :=
  ∃ extension, Path.extension? name = some extension ∧ extension.toLower = wanted.toLower

theorem toList_toLower (text : String) : text.toLower.toList = text.toList.map Char.toLower :=
  String.toList_map

/-- The extension letter by letter, in a form that is evaluated. -/
theorem hasExtension_iff (name wanted : String) : HasExtension name wanted ↔
    ∃ extension ∈ Path.extension? name,
      extension.toList.map Char.toLower = wanted.toList.map Char.toLower := by
  simp only [HasExtension, Option.mem_def, ← String.toList_inj, toList_toLower]

theorem any_sameExtension_iff (name wanted : String) :
    (Path.extension? name).any (sameExtension wanted) = true ↔ HasExtension name wanted := by
  rw [Option.any_eq_true]
  constructor
  · rintro ⟨extension, hextension, hsame⟩
    exact ⟨extension, hextension, (of_decide_eq_true hsame).symm⟩
  · rintro ⟨extension, hextension, hsame⟩
    exact ⟨extension, hextension, decide_eq_true hsame.symm⟩

instance (name wanted : String) : Decidable (HasExtension name wanted) :=
  decidable_of_iff _ (any_sameExtension_iff name wanted)

def Accepts (l : Loader) (name : String) : Prop := ∃ wanted ∈ l.extensions, HasExtension name wanted

instance (l : Loader) (name : String) : Decidable (l.Accepts name) :=
  inferInstanceAs (Decidable (∃ wanted ∈ l.extensions, HasExtension name wanted))

theorem isPackage_join (l : Loader) (directory : String) {name : String} (h : Path.IsName name) :
    l.isPackage (Path.join directory name) = decide (l.Accepts name) := by
  rw [Bool.eq_iff_iff, decide_eq_true_iff, isPackage, Path.extension?_join directory h]
  simp only [Accepts, ← any_sameExtension_iff, Option.any_eq_true, List.any_eq_true, sameExtension,
    decide_eq_true_eq]
  constructor
  · rintro ⟨extension, hextension, wanted, hwanted, hsame⟩
    exact ⟨wanted, hwanted, extension, hextension, hsame.symm⟩
  · rintro ⟨wanted, hwanted, extension, hextension, hsame⟩
    exact ⟨extension, hextension, wanted, hwanted, hsame.symm⟩

/-- What a file of a directory comes to, from its name and its bytes alone. -/
def outcome (l : Loader) (directory : String) (file : String × List UInt8) : Except Fault Profile :=
  if l.maxBytes.toNat < file.2.length then
    .error (.fileTooLarge (Path.join directory file.1) (UInt64.ofNat file.2.length) l.maxBytes)
  else if HasExtension file.1 "edp" then Container.decode file.2
  else Package.decode file.2

theorem decode_join (directory : String) {name : String} (h : Path.IsName name)
    (bytes : List UInt8) :
    decode (Path.join directory name) bytes =
      if HasExtension name "edp" then Container.decode bytes else Package.decode bytes := by
  simp only [decode, isContainer, Path.extension?_join directory h, any_sameExtension_iff]

section
variable {l : Loader} {files : FileTree} {directory : String} {place : List String}

theorem isFile_join (hproper : files.Proper) (hplace : files.locate directory = .ok place)
    {name : String} {bytes : List UInt8}
    (hfile : files.node? (place ++ [name]) = some (.file bytes)) :
    files.isFile (Path.join directory name) =
      decide ((Path.join directory name).utf8ByteSize ≤ FileTree.pathLimit) := by
  rw [FileTree.isFile, hproper.find_join hplace hfile]
  by_cases hshort : (Path.join directory name).utf8ByteSize ≤ FileTree.pathLimit
  · simp [hshort]
  · simp [hshort]

theorem loadFile_join (hproper : files.Proper) (hplace : files.locate directory = .ok place)
    {name : String} {bytes : List UInt8}
    (hfile : files.node? (place ++ [name]) = some (.file bytes))
    (hshort : (Path.join directory name).utf8ByteSize ≤ FileTree.pathLimit) :
    l.loadFile files (Path.join directory name) = l.outcome directory (name, bytes) := by
  have hfind := hproper.find_join hplace hfile
  rw [if_pos hshort] at hfind
  rw [loadFile, FileTree.read_eq_ok_iff.mpr hfind, outcome]
  simp only [decode_join directory (hproper.of_file hfile).2.1]

/-! ## The files of a directory -/

/-- A package by its extension that a path leads to. -/
structure Offers (l : Loader) (files : FileTree) (directory : String) (place : List String)
    (file : String × List UInt8) : Prop where
  present : files.node? (place ++ [file.1]) = some (.file file.2)
  accepted : l.Accepts file.1
  short : (Path.join directory file.1).utf8ByteSize ≤ FileTree.pathLimit

/-- The files that a directory offers, in the order of their names. -/
structure Picks (l : Loader) (files : FileTree) (directory : String) (place : List String)
    (picked : List (String × List UInt8)) : Prop where
  ordered : picked.Pairwise fun a b => a.1 < b.1
  complete : ∀ file, file ∈ picked ↔ l.Offers files directory place file

/-- A list in the order of its names is known by its members. -/
theorem eq_of_ordered {α : Type} {xs ys : List (String × α)}
    (hxs : xs.Pairwise fun a b => a.1 < b.1) (hys : ys.Pairwise fun a b => a.1 < b.1)
    (hmem : ∀ x, x ∈ xs ↔ x ∈ ys) : xs = ys := by
  have hnodup {zs : List (String × α)} (h : zs.Pairwise fun a b => a.1 < b.1) : zs.Nodup := by
    refine h.imp fun {a b} hlt heq => ?_
    subst heq
    exact String.lt_irrefl _ hlt
  refine List.Perm.eq_of_pairwise (fun a b _ _ hab hba => ?_) hxs hys
    ((List.perm_ext_iff_of_nodup (hnodup hxs) (hnodup hys)).mpr hmem)
  exact absurd hba (String.lt_asymm hab)

theorem Picks.unique {picked others : List (String × List UInt8)} {later : FileTree}
    (h : l.Picks files directory place picked) (hothers : l.Picks later directory place others)
    (hsame : ∀ file, l.Offers files directory place file ↔ l.Offers later directory place file) :
    picked = others :=
  eq_of_ordered h.ordered hothers.ordered fun file => by
    rw [h.complete, hothers.complete, hsame]

/-- The file of a name, if the directory offers it. -/
def offered? (l : Loader) (files : FileTree) (directory : String) (place : List String)
    (name : String) : Option (String × List UInt8) :=
  match files.node? (place ++ [name]) with
  | some (.file bytes) =>
    if l.Accepts name ∧ (Path.join directory name).utf8ByteSize ≤ FileTree.pathLimit then
      some (name, bytes)
    else none
  | _ => none

theorem offered?_eq_some_iff {name : String} {file : String × List UInt8} :
    l.offered? files directory place name = some file ↔
      file.1 = name ∧ l.Offers files directory place file := by
  unfold offered?
  constructor
  · intro h
    split at h
    next bytes hfile =>
      split at h
      next hname =>
        obtain rfl := Option.some.inj h
        exact ⟨rfl, hfile, hname.1, hname.2⟩
      next => nomatch h
    next => nomatch h
  · rintro ⟨rfl, hpresent, haccepted, hshort⟩
    simp [hpresent, haccepted, hshort]

/-- Looking at each path for a package file finds the files that the directory offers. -/
theorem filter_paths_eq (hproper : files.Proper) (hplace : files.locate directory = .ok place)
    {names : List String}
    (hnames : ∀ name ∈ names, ∃ bytes, files.node? (place ++ [name]) = some (.file bytes)) :
    ((names.map (Path.join directory)).filter fun path => files.isFile path && l.isPackage path) =
      (names.filterMap (l.offered? files directory place)).map fun file =>
        Path.join directory file.1 := by
  induction names with
  | nil => rfl
  | cons name names ih =>
    have hrest := ih fun other hother => hnames other (List.mem_cons_of_mem name hother)
    obtain ⟨bytes, hfile⟩ := hnames name List.mem_cons_self
    have hname := (hproper.of_file hfile).2.1
    rw [List.map_cons, List.filter_cons, isFile_join hproper hplace hfile,
      isPackage_join l directory hname, List.filterMap_cons, hrest]
    by_cases haccepted : l.Accepts name
    · by_cases hshort : (Path.join directory name).utf8ByteSize ≤ FileTree.pathLimit
      · simp [offered?, hfile, haccepted, hshort]
      · simp [offered?, hfile, hshort]
    · simp [offered?, hfile, haccepted]

/-- The paths that are loaded are those of the files that the directory offers. -/
theorem packagePaths_eq (l : Loader) (hproper : files.Proper)
    (hplace : files.locate directory = .ok place) :
    ∃ picked, l.Picks files directory place picked ∧
      l.packagePaths files directory = picked.map fun file => Path.join directory file.1 := by
  let names := (files.fileNames place).mergeSort fun a b => decide (a ≤ b)
  have hmem (name : String) :
      name ∈ names ↔ ∃ bytes, files.node? (place ++ [name]) = some (.file bytes) := by
    rw [← hproper.mem_fileNames_iff, (List.mergeSort_perm _ _).mem_iff]
  have hsorted : names.Pairwise fun a b => decide (a ≤ b) = true := by
    apply List.pairwise_mergeSort
    · intro a b c hab hbc
      exact decide_eq_true (String.le_trans (of_decide_eq_true hab) (of_decide_eq_true hbc))
    · intro a b
      simpa using String.le_total a b
  have hdistinct : names.Nodup :=
    (List.mergeSort_perm _ _).nodup_iff.mpr (hproper.nodup_fileNames place)
  have hordered : names.Pairwise (· < ·) :=
    (hsorted.and hdistinct).imp fun h => Std.lt_of_le_of_ne (of_decide_eq_true h.1) h.2
  refine ⟨names.filterMap (l.offered? files directory place), ⟨?_, fun file => ?_⟩, ?_⟩
  · refine List.pairwise_filterMap.mpr (hordered.imp fun {a b} hlt file hfile other hother => ?_)
    rw [(offered?_eq_some_iff.mp hfile).1, (offered?_eq_some_iff.mp hother).1]
    exact hlt
  · rw [List.mem_filterMap]
    constructor
    · rintro ⟨name, -, hoffered⟩
      exact (offered?_eq_some_iff.mp hoffered).2
    · intro hoffers
      exact ⟨file.1, (hmem file.1).mpr ⟨file.2, hoffers.present⟩,
        offered?_eq_some_iff.mpr ⟨rfl, hoffers⟩⟩
  · rw [packagePaths, hplace]
    exact filter_paths_eq hproper hplace fun name hname => (hmem name).mp hname

end

end DeviceSupport.Loader
