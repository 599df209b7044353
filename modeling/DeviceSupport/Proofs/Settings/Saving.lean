import DeviceSupport.Proofs.Files.Making
import DeviceSupport.Proofs.Json.RoundTrip
import DeviceSupport.Proofs.Text.Utf8
import DeviceSupport.Settings.Store
import Mathlib.Data.Prod.Basic

/-! What becomes of settings that were saved.

Settings written as JSON are read back as they were (`ofJson?_toJson`), and a saved file is found
under its path with the bytes that were written. Reading refuses one thing that writing accepts, a
limit of zero bytes; so saved settings load again exactly when their limit is not zero
(`saved_then_loaded`), and the same holds of an update and the load after it. -/
namespace DeviceSupport
set_option autoImplicit false

/-! ## Settings as JSON -/

theorem list?_toJson (texts : List String) : Json.list? Json.text? (toJson texts) = some texts := by
  have hall : (texts.map toJson).mapM Json.text? = some texts := by
    induction texts with
    | nil => rfl
    | cons text texts ih =>
      rw [List.map_cons, List.mapM_cons, ih]
      rfl
  exact hall

theorem uint64?_toJson (n : UInt64) : Json.uint64? (toJson n) = some n := by
  have hlt : n.toNat < UInt64.size := n.toNat_lt
  simp [toJson, Json.uint64?, Json.naturalBelow?, Json.natural?_natural, hlt]

theorem regular_texts (texts : List String) : Json.Regular (toJson texts) := by
  refine .array fun item hitem => ?_
  obtain ⟨text, -, rfl⟩ := List.mem_map.mp hitem
  exact .text text

namespace PackageSettings

theorem ofJson?_toJson (s : PackageSettings) : ofJson? (toJson s) = some s := by
  have hfields : Json.record? ["search_paths", "extensions", "max_package_bytes"] (toJson s) =
      some [some (toJson s.searchPaths), some (toJson s.extensions), some (toJson s.maxBytes)] :=
    rfl
  simp [ofJson?, hfields, Json.optional?, list?_toJson, uint64?_toJson]

theorem regular_toJson (s : PackageSettings) : Json.Regular (toJson s) := by
  refine .object fun field hfield => ?_
  simp only [List.mem_cons, List.not_mem_nil, or_false] at hfield
  rcases hfield with rfl | rfl | rfl
  · exact regular_texts s.searchPaths
  · exact regular_texts s.extensions
  · exact .natural s.maxBytes.toNat

end PackageSettings

namespace LogSettings

theorem ofJson?_toJson (s : LogSettings) : ofJson? (toJson s) = some s := by
  have hfields : Json.record? ["level"] (toJson s) = some [some (toJson s.filter)] := rfl
  have hfilter : Json.text? (toJson s.filter) = some s.filter := rfl
  simp [ofJson?, hfields, Json.optional?, hfilter]

theorem regular_toJson (s : LogSettings) : Json.Regular (toJson s) := by
  refine .object fun field hfield => ?_
  rw [List.mem_singleton] at hfield
  subst hfield
  exact .text s.filter

end LogSettings

namespace Settings

theorem ofJson?_toJson (s : Settings) : ofJson? (toJson s) = some s := by
  have hfields : Json.record? ["dsp", "logging"] (toJson s) =
      some [some (toJson s.packages), some (toJson s.logging)] := rfl
  simp [ofJson?, hfields, Json.optional?, PackageSettings.ofJson?_toJson,
    LogSettings.ofJson?_toJson]

theorem regular_toJson (s : Settings) : Json.Regular (toJson s) := by
  refine .object fun field hfield => ?_
  simp only [List.mem_cons, List.not_mem_nil, or_false] at hfield
  rcases hfield with rfl | rfl
  · exact s.packages.regular_toJson
  · exact s.logging.regular_toJson

/-- What reading answers to settings. -/
def reread (s : Settings) : Except Fault Settings :=
  if s.packages.maxBytes = 0 then
    .error (.configuration "dsp.max_package_bytes must be greater than zero")
  else .ok s

theorem read_write (s : Settings) : read s.write = s.reread := by
  have hjson : Json.read? s.write = some (toJson s) := Json.read?_pretty s.regular_toJson
  simp [read, hjson, ofJson?_toJson, reread]

/-! ## Files -/

theorem saveTo_eq_ok {files after : FileTree} {path : String} {s : Settings}
    (h : saveTo files path s = (.ok (), after)) :
    after.find path = .ok (.file (Utf8.encode s.write)) := by
  unfold saveTo at h
  dsimp only at h
  split at h
  next => nomatch h
  next middle hwrite =>
    split at h
    next => nomatch h
    next later hmove =>
      obtain rfl := (Prod.mk.inj h).2
      exact FileTree.find_move hmove (FileTree.find_write hwrite)

theorem loadFrom_of_find {files : FileTree} {path : String} {s : Settings}
    (h : files.find path = .ok (.file (Utf8.encode s.write))) : loadFrom files path = s.reread := by
  have hpresent : files.isPresent path = true := by
    rw [FileTree.isPresent, h]
    rfl
  have hdecode : Utf8.decode? (Utf8.encode s.write) = some s.write := by
    simp [Utf8.decode?, Utf8.decode_encode]
  rw [loadFrom, FileTree.read_eq_ok_iff.mpr h]
  simp [hpresent, Except.toOption, hdecode, read_write]

end Settings

/-! ## The store -/

namespace SettingsStore

theorem directory_nonempty (s : SettingsStore) : s.directory ≠ "" :=
  Path.join_nonempty s.home (by decide)

theorem path_of_isPresent {s : SettingsStore} (h : s.files.isPresent s.directory = true) :
    s.path = (.ok (Path.join s.directory Settings.fileName), s) := by
  rw [path, if_pos h]

theorem load_of_path {s opened : SettingsStore} {path : String}
    (h : s.path = (.ok path, opened)) :
    s.load = (Settings.loadFrom opened.files path, opened) := by
  unfold load
  rw [h]

/-- The store finds the settings that lie under its path, and its files stay as they are. -/
theorem load_of_find {s : SettingsStore} {settings : Settings}
    (h : s.files.find (Path.join s.directory Settings.fileName) =
      .ok (.file (Utf8.encode settings.write))) : s.load = (settings.reread, s) := by
  have hname : Path.IsName Settings.fileName := by decide
  have hpath := path_of_isPresent (FileTree.isPresent_of_find_join hname s.directory_nonempty h)
  rw [load_of_path hpath, Settings.loadFrom_of_find h]

/-- What there is when the path could be given. -/
theorem path_eq_ok {s opened : SettingsStore} {path : String} (h : s.path = (.ok path, opened)) :
    path = Path.join opened.directory Settings.fileName ∧ opened.home = s.home ∧
      opened.cache = s.cache ∧ opened.files.isPresent opened.directory = true := by
  unfold SettingsStore.path at h
  dsimp only at h
  split at h
  next hpresent =>
    obtain ⟨hpath, rfl⟩ := Prod.mk.inj h
    exact ⟨(Except.ok.inj hpath).symm, rfl, rfl, hpresent⟩
  next =>
    split at h
    next files hmade =>
      obtain ⟨hpath, rfl⟩ := Prod.mk.inj h
      exact ⟨(Except.ok.inj hpath).symm, rfl, rfl,
        FileTree.isPresent_makeDirectories s.directory_nonempty hmade⟩
    next => nomatch (Prod.mk.inj h).1

/-- What a save that succeeds has done. -/
theorem save_eq_ok {s after : SettingsStore} {settings : Settings}
    (h : s.save settings = (.ok (), after)) :
    ∃ path opened files, s.path = (.ok path, opened) ∧
      Settings.saveTo opened.files path settings = (.ok (), files) ∧
      after = { opened with files, cache := some settings } := by
  unfold save at h
  split at h
  next => nomatch (Prod.mk.inj h).1
  next path opened hpath =>
    split at h
    next files hsave => exact ⟨path, opened, files, hpath, hsave, (Prod.mk.inj h).2.symm⟩
    next => nomatch (Prod.mk.inj h).1

theorem load_of_save {s after : SettingsStore} {settings : Settings}
    (h : s.save settings = (.ok (), after)) : after.load = (settings.reread, after) := by
  obtain ⟨path, opened, files, hpath, hsave, rfl⟩ := save_eq_ok h
  obtain ⟨rfl, -⟩ := path_eq_ok hpath
  exact load_of_find (Settings.saveTo_eq_ok hsave)

/-- An update that succeeds is a load and then a save. -/
theorem update_eq_ok {s later : SettingsStore} {change : Settings → Settings} {settings : Settings}
    (h : s.update change = (.ok settings, later)) :
    ∃ old opened, s.load = (.ok old, opened) ∧ settings = change old ∧
      opened.save settings = (.ok (), later) := by
  unfold update at h
  split at h
  next => nomatch (Prod.mk.inj h).1
  next old opened hload =>
    split at h
    next saved hsave =>
      obtain ⟨hsettings, rfl⟩ := Prod.mk.inj h
      obtain rfl := Except.ok.inj hsettings
      exact ⟨old, opened, hload, rfl, hsave⟩
    next => nomatch (Prod.mk.inj h).1

theorem load_of_update {s after : SettingsStore} {change : Settings → Settings}
    {settings : Settings} (h : s.update change = (.ok settings, after)) :
    after.load = (settings.reread, after) := by
  obtain ⟨old, opened, -, -, hsave⟩ := update_eq_ok h
  exact load_of_save hsave

/-- An update to a limit of zero is the last one: every later update is refused, and the store stays
as it is. -/
theorem update_of_zero {s after : SettingsStore} {change : Settings → Settings}
    {settings : Settings} (h : s.update change = (.ok settings, after))
    (hzero : settings.packages.maxBytes = 0) (next : Settings → Settings) :
    after.update next =
      (.error (.configuration "dsp.max_package_bytes must be greater than zero"), after) := by
  have hload := load_of_update h
  rw [Settings.reread, if_pos hzero] at hload
  unfold update
  rw [hload]

end SettingsStore

/-! ## Saved, then loaded -/

namespace Settings

/-- Settings that were saved to a path load from it again just as they were, and so do settings
that an update saved, unless their limit is zero: those are saved as well and then refused. -/
theorem saved_then_loaded (s : Settings) :
    (∀ (files after : FileTree) (path : String), saveTo files path s = (.ok (), after) →
      loadFrom after path =
        if s.packages.maxBytes = 0 then
          .error (.configuration "dsp.max_package_bytes must be greater than zero")
        else .ok s) ∧
    ∀ (store after : SettingsStore) (change : Settings → Settings),
      store.update change = (.ok s, after) →
        after.load.1 =
          if s.packages.maxBytes = 0 then
            .error (.configuration "dsp.max_package_bytes must be greater than zero")
          else .ok s := by
  constructor
  · intro files after path h
    exact loadFrom_of_find (saveTo_eq_ok h)
  · intro store after change h
    rw [SettingsStore.load_of_update h]
    rfl

end Settings

namespace Sample

/-- A store whose files are still to be made. -/
def freshStore : SettingsStore := { files := {}, home := "/home" }

def saved : Settings := { logging := { filter := "warn" } }

def zeroLimit : Settings := { packages := { maxBytes := 0 } }

/-- Nothing keeps the two samples from being saved. -/
theorem saves_succeed : ∀ s ∈ [saved, zeroLimit],
    (Settings.saveTo {} "settings.json" s).1.isOk = true ∧
      (freshStore.update fun _ => s).1.toOption = some s := by decide +kernel

theorem saveTo_sample {s : Settings} (h : s ∈ [saved, zeroLimit]) :
    Settings.saveTo {} "settings.json" s =
      (.ok (), (Settings.saveTo {} "settings.json" s).2) :=
  Prod.fst_eq_iff.mp (done_of_isOk (saves_succeed s h).1)

theorem update_sample {s : Settings} (h : s ∈ [saved, zeroLimit]) :
    (freshStore.update fun _ => s) = (.ok s, (freshStore.update fun _ => s).2) :=
  Prod.fst_eq_iff.mp (eq_ok_of_toOption (saves_succeed s h).2)

theorem saved_loads :
    Settings.loadFrom (Settings.saveTo {} "settings.json" saved).2 "settings.json" = .ok saved ∧
      (freshStore.update fun _ => saved).2.load.1 = .ok saved := by
  have hsample : saved ∈ [saved, zeroLimit] := List.mem_cons_self
  constructor
  · exact (Settings.saved_then_loaded saved).1 _ _ _ (saveTo_sample hsample)
  · exact (Settings.saved_then_loaded saved).2 _ _ _ (update_sample hsample)

/-- A limit of zero is saved and then refused, by path and in the store. -/
theorem zeroLimit_refused :
    (Settings.saveTo {} "settings.json" zeroLimit).1 = .ok () ∧
      Settings.loadFrom (Settings.saveTo {} "settings.json" zeroLimit).2 "settings.json" ≠
        .ok zeroLimit ∧
      (freshStore.update fun _ => zeroLimit).1 = .ok zeroLimit ∧
      (freshStore.update fun _ => zeroLimit).2.load.1 ≠ .ok zeroLimit := by
  have hsample : zeroLimit ∈ [saved, zeroLimit] := List.mem_cons_of_mem saved List.mem_cons_self
  have hsaved := saveTo_sample hsample
  have hupdate := update_sample hsample
  have hreread : zeroLimit.reread =
      .error (.configuration "dsp.max_package_bytes must be greater than zero") := rfl
  refine ⟨congrArg Prod.fst hsaved, fun hloaded => ?_, congrArg Prod.fst hupdate, fun hloaded => ?_⟩
  · have hfound := Settings.loadFrom_of_find (Settings.saveTo_eq_ok hsaved)
    nomatch hreread.symm.trans (hfound.symm.trans hloaded)
  · have hfound := congrArg Prod.fst (SettingsStore.load_of_update hupdate)
    nomatch hreread.symm.trans (hfound.symm.trans hloaded)

end Sample

end DeviceSupport
