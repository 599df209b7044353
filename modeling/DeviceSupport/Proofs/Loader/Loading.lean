import DeviceSupport.Proofs.Loader.Files
import DeviceSupport.Proofs.Registry.Batch

/-! What loading the files of a directory gives.

They are taken one after the other in the order of their names: a profile takes the next handle, and
a fault changes nothing for the files that follow (`foldl_loadInto`). So each file is once in one of
the two lists, and a handle finds the profile of its own file (`Loads.settles`). -/
namespace DeviceSupport.Loader
set_option autoImplicit false

section
variable {l : Loader} {files : FileTree} {directory : String} {place : List String}

/-! ## Loading them -/

/-- The files that come to a profile, by name. -/
def profiles (l : Loader) (directory : String) (picked : List (String × List UInt8)) :
    List (String × Profile) :=
  picked.filterMap fun file => (l.outcome directory file).toOption.map (file.1, ·)

/-- The files that do not, by path, with what is wrong with them. -/
def faults (l : Loader) (directory : String) (picked : List (String × List UInt8)) :
    List (String × Fault) :=
  picked.filterMap fun file =>
    (fault? (l.outcome directory file)).map (Path.join directory file.1, ·)

theorem mem_profiles_iff {picked : List (String × List UInt8)} {name : String} {profile : Profile} :
    (name, profile) ∈ l.profiles directory picked ↔
      ∃ bytes, (name, bytes) ∈ picked ∧ l.outcome directory (name, bytes) = .ok profile := by
  rw [profiles, List.mem_filterMap]
  constructor
  · rintro ⟨⟨own, bytes⟩, hmem, hfile⟩
    obtain ⟨found, hfound, hpair⟩ := Option.map_eq_some_iff.mp hfile
    obtain ⟨rfl, rfl⟩ := Prod.mk.inj hpair
    exact ⟨bytes, hmem, eq_ok_of_toOption hfound⟩
  · rintro ⟨bytes, hmem, houtcome⟩
    refine ⟨_, hmem, ?_⟩
    rw [houtcome]
    rfl

theorem profiles_ordered {picked : List (String × List UInt8)}
    (h : picked.Pairwise fun a b => a.1 < b.1) :
    (l.profiles directory picked).Pairwise fun a b => a.1 < b.1 := by
  refine List.pairwise_filterMap.mpr (h.imp fun {a b} hlt x hx y hy => ?_)
  obtain ⟨-, -, rfl⟩ := Option.map_eq_some_iff.mp hx
  obtain ⟨-, -, rfl⟩ := Option.map_eq_some_iff.mp hy
  exact hlt

theorem profiles_cons_ok {file : String × List UInt8} {profile : Profile}
    (h : l.outcome directory file = .ok profile) (picked : List (String × List UInt8)) :
    l.profiles directory (file :: picked) = (file.1, profile) :: l.profiles directory picked ∧
      l.faults directory (file :: picked) = l.faults directory picked := by
  simp [profiles, faults, h, fault?, Except.toOption]

theorem profiles_cons_error {file : String × List UInt8} {fault : Fault}
    (h : l.outcome directory file = .error fault) (picked : List (String × List UInt8)) :
    l.profiles directory (file :: picked) = l.profiles directory picked ∧
      l.faults directory (file :: picked) =
        (Path.join directory file.1, fault) :: l.faults directory picked := by
  simp [profiles, faults, h, fault?, Except.toOption]

/-- Each file is in one of the two lists, and nothing else is in either. -/
theorem profiles_faults_perm (picked : List (String × List UInt8)) :
    ((l.profiles directory picked).map (fun file => Path.join directory file.1) ++
        (l.faults directory picked).map (·.1)).Perm
      (picked.map fun file => Path.join directory file.1) := by
  induction picked with
  | nil => exact .refl []
  | cons file picked ih =>
    cases houtcome : l.outcome directory file with
    | ok profile =>
      obtain ⟨hprofiles, hfaults⟩ := profiles_cons_ok houtcome picked
      rw [hprofiles, hfaults]
      exact ih.cons _
    | error fault =>
      obtain ⟨hprofiles, hfaults⟩ := profiles_cons_error houtcome picked
      rw [hprofiles, hfaults]
      exact List.perm_middle.trans (ih.cons _)

/-- What a registry becomes with some files, and what is reported of them. -/
structure Loads (l : Loader) (directory : String) (picked : List (String × List UInt8))
    (before : Registry) (report : LoadReport) (after : Registry) : Prop where
  loaded : report.loaded =
    (Registry.numbered before.nextId (l.profiles directory picked)).map fun (id, file) =>
      (Path.join directory file.1, id)
  failed : report.failed = l.faults directory picked
  registered : after = before.run ((l.profiles directory picked).map fun file => .register file.2)

theorem Loads.report_eq {picked : List (String × List UInt8)} {before : Registry}
    {report : LoadReport} {after : Registry} (h : l.Loads directory picked before report after) :
    report =
      { loaded := (Registry.numbered before.nextId (l.profiles directory picked)).map
          fun (id, file) => (Path.join directory file.1, id)
        failed := l.faults directory picked } := by
  rw [← h.loaded, ← h.failed]

/-- One file after the other: a profile takes the next handle, and a fault changes nothing for the
files that follow. -/
theorem foldl_loadInto {picked : List (String × List UInt8)}
    (hload : ∀ file ∈ picked,
      l.loadFile files (Path.join directory file.1) = l.outcome directory file)
    (report : LoadReport) (before : Registry) :
    ∃ own after, l.Loads directory picked before own after ∧
      (picked.map fun file => Path.join directory file.1).foldl (l.loadInto files)
        (report, before) = (report.append own, after) := by
  induction picked generalizing report before with
  | nil =>
    refine ⟨{}, before, ⟨rfl, rfl, rfl⟩, ?_⟩
    simp [LoadReport.append]
  | cons file picked ih =>
    have hrest := ih fun other hother => hload other (List.mem_cons_of_mem file hother)
    have hfile := hload file List.mem_cons_self
    rw [List.map_cons, List.foldl_cons, loadInto, hfile]
    cases houtcome : l.outcome directory file with
    | ok profile =>
      obtain ⟨hprofiles, hfaults⟩ := profiles_cons_ok houtcome picked
      obtain ⟨own, after, howns, hfold⟩ := hrest
        { report with loaded := report.loaded ++ [(Path.join directory file.1, ⟨before.nextId⟩)] }
        (before.register profile).2
      refine ⟨{ own with loaded := (Path.join directory file.1, ⟨before.nextId⟩) :: own.loaded },
        after, ⟨?_, ?_, ?_⟩, hfold.trans ?_⟩
      · rw [hprofiles, howns.loaded]
        rfl
      · rw [hfaults]
        exact howns.failed
      · rw [hprofiles]
        exact howns.registered
      · simp [LoadReport.append]
    | error fault =>
      obtain ⟨hprofiles, hfaults⟩ := profiles_cons_error houtcome picked
      obtain ⟨own, after, howns, hfold⟩ := hrest
        { report with failed := report.failed ++ [(Path.join directory file.1, fault)] } before
      refine ⟨{ own with failed := (Path.join directory file.1, fault) :: own.failed },
        after, ⟨?_, ?_, ?_⟩, hfold.trans ?_⟩
      · rw [hprofiles]
        exact howns.loaded
      · rw [hfaults, howns.failed]
      · rw [hprofiles]
        exact howns.registered
      · simp [LoadReport.append]

/-- A directory loads the files that it offers. -/
theorem loadDirectory_loads (l : Loader) (hproper : files.Proper)
    (hplace : files.locate directory = .ok place) (before : Registry) :
    ∃ picked, l.Picks files directory place picked ∧
      l.Loads directory picked before (l.loadDirectory files directory before).1
        (l.loadDirectory files directory before).2 := by
  obtain ⟨picked, hpicks, hpaths⟩ := packagePaths_eq l hproper hplace
  refine ⟨picked, hpicks, ?_⟩
  have hload : ∀ file ∈ picked,
      l.loadFile files (Path.join directory file.1) = l.outcome directory file := by
    intro file hfile
    have hoffers := (hpicks.complete file).mp hfile
    exact loadFile_join hproper hplace hoffers.present hoffers.short
  obtain ⟨own, after, hloads, hfold⟩ := foldl_loadInto hload {} before
  have hown : ({} : LoadReport).append own = own := rfl
  rw [loadDirectory, hpaths, hfold, hown]
  exact hloads

theorem Loads.unique {picked others : List (String × List UInt8)} {before : Registry}
    {report other : LoadReport} {after last : Registry}
    (h : l.Loads directory picked before report after)
    (hother : l.Loads directory others before other last)
    (hsame : l.profiles directory others = l.profiles directory picked) :
    other.loaded = report.loaded ∧ last = after := by
  rw [hother.loaded, h.loaded, hother.registered, h.registered, hsame]
  exact ⟨rfl, rfl⟩

/-! ## Every file once, and each handle for its own file -/

/-- All that is to be said of a loaded directory: the two lists hold each file once, handles count up
from the next one, what is registered stands behind what was there, and a handle finds the profile
of its own file while handles last. -/
structure Settles (l : Loader) (directory : String) (picked : List (String × List UInt8))
    (before : Registry) (report : LoadReport) (after : Registry) : Prop
    extends l.Loads directory picked before report after where
  split : (report.loaded.map (·.1) ++ report.failed.map (·.1)).Perm
    (picked.map fun file => Path.join directory file.1)
  distinct : (picked.map fun file => Path.join directory file.1).Nodup
  consecutive : ∀ i : Nat, report.loaded[i]? =
    (l.profiles directory picked)[i]?.map fun file =>
      (Path.join directory file.1, ⟨before.nextId + UInt32.ofNat i⟩)
  entries : after.entries = before.entries ++
    (Registry.numbered before.nextId (l.profiles directory picked)).map fun (id, file) =>
      (id, file.2)
  nextId : after.nextId = before.nextId + UInt32.ofNat (l.profiles directory picked).length
  found : ∀ history, before = ({} : Registry).run history →
    Registry.registrations history + picked.length < 4294967296 →
      ∀ entry ∈ report.loaded, ∃ file ∈ picked, entry.1 = Path.join directory file.1 ∧
        ∃ profile, l.outcome directory file = .ok profile ∧ after.get? entry.2 = some profile

theorem Picks.distinct {picked : List (String × List UInt8)}
    (h : l.Picks files directory place picked) (hproper : files.Proper) :
    (picked.map fun file => Path.join directory file.1).Nodup := by
  refine List.pairwise_map.mpr (h.ordered.imp_of_mem fun {a b} ha hb hlt heq => ?_)
  have hname (file : String × List UInt8) (hfile : file ∈ picked) : Path.IsName file.1 :=
    (hproper.of_file ((h.complete file).mp hfile).present).2.1
  rw [Path.join_injective (hname a ha) (hname b hb) heq] at hlt
  exact String.lt_irrefl _ hlt

theorem Loads.found {picked : List (String × List UInt8)} {before after : Registry}
    {report : LoadReport} (h : l.Loads directory picked before report after)
    {history : List Registry.Operation} (hbefore : before = ({} : Registry).run history)
    (hlast : Registry.registrations history + picked.length < 4294967296)
    {entry : String × ProfileId} (hentry : entry ∈ report.loaded) :
    ∃ file ∈ picked, entry.1 = Path.join directory file.1 ∧
      ∃ profile, l.outcome directory file = .ok profile ∧ after.get? entry.2 = some profile := by
  rw [h.loaded] at hentry
  obtain ⟨⟨id, name, profile⟩, hnumbered, rfl⟩ := List.mem_map.mp hentry
  have hprofile : (name, profile) ∈ l.profiles directory picked := by
    have hmem := List.mem_map_of_mem (f := (·.2)) hnumbered
    rwa [Registry.numbered_snd] at hmem
  obtain ⟨bytes, hfile, houtcome⟩ := mem_profiles_iff.mp hprofile
  refine ⟨(name, bytes), hfile, rfl, profile, houtcome, ?_⟩
  have hlength : ((l.profiles directory picked).map (·.2)).length ≤ picked.length := by
    rw [List.length_map]
    exact List.length_filterMap_le _ _
  have hregistered : (id, profile) ∈ Registry.numbered before.nextId
      ((l.profiles directory picked).map (·.2)) := by
    rw [Registry.numbered_map]
    exact List.mem_map.mpr ⟨_, hnumbered, rfl⟩
  have hget := Registry.get?_run_registers history ((l.profiles directory picked).map (·.2))
    (by omega) (hbefore ▸ hregistered)
  rw [List.map_map] at hget
  rw [h.registered, hbefore]
  exact hget

theorem Loads.settles {picked : List (String × List UInt8)} {before after : Registry}
    {report : LoadReport} (h : l.Loads directory picked before report after)
    (hpicks : l.Picks files directory place picked) (hproper : files.Proper) :
    l.Settles directory picked before report after := by
  have hrun := Registry.run_registers before ((l.profiles directory picked).map (·.2))
  rw [List.map_map, Registry.numbered_map, List.length_map] at hrun
  have hafter := h.registered.trans hrun
  have hpaths : report.loaded.map (·.1) =
      (l.profiles directory picked).map fun file => Path.join directory file.1 := by
    rw [h.loaded, List.map_map]
    conv_rhs => rw [← Registry.numbered_snd before.nextId (l.profiles directory picked)]
    rw [List.map_map]
    rfl
  refine ⟨h, ?_, hpicks.distinct hproper, fun i => ?_, congrArg Registry.entries hafter,
    congrArg Registry.nextId hafter, fun history hbefore hlast entry hentry =>
      h.found hbefore hlast hentry⟩
  · rw [hpaths, h.failed]
    exact profiles_faults_perm picked
  · rw [h.loaded, List.getElem?_map, Registry.numbered_getElem?, Option.map_map]
    rfl

end

end DeviceSupport.Loader
