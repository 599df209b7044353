import DeviceSupport.Proofs.Settings.Saving

/-! The settings in memory and the settings on disk.

A save goes to the disk first and then to memory; other operations drop what is in memory or fill it
from the disk. `Agrees` says that a load gives a certain answer and that memory, if it holds anything,
holds that answer, or the defaults where a load fails. Every operation keeps the two in agreement
(`Agrees.perform`), whether it succeeds or fails, and so does every history (`Agrees.run`). -/
namespace DeviceSupport
set_option autoImplicit false

/-! ## Files -/

namespace Settings

/-- The name of the temporary file beside the settings. -/
def temporaryName : String := "settings.json.tmp"

theorem temporary_eq {directory : String} (h : directory ≠ "") :
    Path.withExtension (Path.join directory fileName) "json.tmp" =
      Path.join directory temporaryName :=
  Path.withExtension_join "settings" "json" "json.tmp" h (by decide) (by decide) (by decide)
    (by decide) (by decide)

/-- What a save that fails can have done to the files. -/
theorem saveTo_eq_error {files later : FileTree} {path : String} {s : Settings} {fault : Fault}
    (h : saveTo files path s = (.error fault, later)) :
    later = files ∨
      files.write (Path.withExtension path "json.tmp") (Utf8.encode s.write) = .ok later := by
  unfold saveTo at h
  dsimp only at h
  split at h
  next => exact .inl (Prod.mk.inj h).2.symm
  next middle hwrite =>
    split at h
    next =>
      obtain rfl := (Prod.mk.inj h).2
      exact .inr hwrite
    next => nomatch (Prod.mk.inj h).1

/-- Only what is found under the path is read. -/
theorem loadFrom_congr {files later : FileTree} {path : String}
    (h : later.find path = files.find path) : loadFrom later path = loadFrom files path := by
  have hpresent : later.isPresent path = files.isPresent path := by
    rw [FileTree.isPresent, FileTree.isPresent, h]
  have hread : later.read path = files.read path := by
    rw [FileTree.read, FileTree.read, h]
  rw [loadFrom, loadFrom, hpresent, hread]

theorem reread_of_limit {s : Settings} (h : s.packages.maxBytes ≠ 0) : s.reread = .ok s :=
  if_neg h

end Settings

namespace SettingsStore

/-! ## Loading -/

theorem path_eq_error {s later : SettingsStore} {fault : Fault}
    (h : s.path = (.error fault, later)) : later = s := by
  unfold SettingsStore.path at h
  dsimp only at h
  split at h
  next => nomatch (Prod.mk.inj h).1
  next =>
    split at h
    next => nomatch (Prod.mk.inj h).1
    next => exact (Prod.mk.inj h).2.symm

/-- What is in memory does not matter for the path. -/
theorem path_with_cache (s : SettingsStore) (cache : Option Settings) :
    ({ s with cache } : SettingsStore).path = (s.path.1, { s.path.2 with cache }) := by
  unfold SettingsStore.path directory
  dsimp only
  split
  · rfl
  · split <;> rfl

theorem load_of_unplaced {s later : SettingsStore} {fault : Fault}
    (h : s.path = (.error fault, later)) : s.load = (.error fault, s) := by
  unfold load
  rw [h, path_eq_error h]

theorem load_opened {s opened : SettingsStore} {path : String} (h : s.path = (.ok path, opened)) :
    opened.load = s.load := by
  obtain ⟨rfl, -, -, hpresent⟩ := path_eq_ok h
  rw [load_of_path (path_of_isPresent hpresent), load_of_path h]

/-- A second load answers as the first. -/
theorem load_load (s : SettingsStore) : s.load.2.load = s.load := by
  rcases hpath : s.path with ⟨fault | path, opened⟩
  · rw [load_of_unplaced hpath]
    exact load_of_unplaced hpath
  · have hopened := load_opened hpath
    rw [load_of_path hpath] at hopened ⊢
    exact hopened

theorem load_with_cache (s : SettingsStore) (cache : Option Settings) :
    ({ s with cache } : SettingsStore).load = (s.load.1, { s.load.2 with cache }) := by
  unfold load
  rw [path_with_cache]
  rcases s.path with ⟨fault | path, opened⟩ <;> rfl

theorem cache_load (s : SettingsStore) : s.load.2.cache = s.cache :=
  congrArg (·.2.cache) (load_with_cache s s.cache)

/-- The directory of the settings is there or can be made, and the file in it is missing or loads. -/
def Readable (s : SettingsStore) : Prop :=
  ∃ path opened, s.path = (.ok path, opened) ∧
    (opened.files.isPresent path = false ∨
      ∃ settings, Settings.loadFrom opened.files path = .ok settings)

theorem readable_iff (s : SettingsStore) : s.Readable ↔ ∃ settings, s.load.1 = .ok settings := by
  constructor
  · rintro ⟨path, opened, hpath, hmissing | ⟨settings, hloads⟩⟩
    · refine ⟨{}, ?_⟩
      rw [load_of_path hpath]
      simp [Settings.loadFrom, hmissing]
    · exact ⟨settings, by rw [load_of_path hpath, hloads]⟩
  · rintro ⟨settings, hload⟩
    rcases hpath : s.path with ⟨fault | path, opened⟩
    · rw [load_of_unplaced hpath] at hload
      cases hload
    · rw [load_of_path hpath] at hload
      exact ⟨path, opened, hpath, .inr ⟨settings, hload⟩⟩

/-! ## Saving -/

theorem cache_of_save {s later : SettingsStore} {settings : Settings}
    (h : s.save settings = (.ok (), later)) : later.cache = some settings := by
  obtain ⟨path, opened, files, -, -, rfl⟩ := save_eq_ok h
  rfl

/-- A temporary file beside the settings does not show in a load, whatever was written of it. -/
theorem load_of_temporary {s : SettingsStore} {files : FileTree} {bytes : List UInt8}
    (hpresent : s.files.isPresent s.directory = true)
    (h : s.files.write (Path.join s.directory Settings.temporaryName) bytes = .ok files) :
    ({ s with files } : SettingsStore).load.1 = s.load.1 := by
  have hname : Path.IsName Settings.fileName := by decide
  have htemporary : Path.IsName Settings.temporaryName := by decide
  have hlater : files.isPresent s.directory = true :=
    FileTree.isPresent_of_find_join htemporary s.directory_nonempty (FileTree.find_write h)
  have hsame := FileTree.find_write_beside s.directory_nonempty hname (by decide) htemporary
    (by decide) h
  rw [load_of_path (path_of_isPresent (s := { s with files }) hlater),
    load_of_path (path_of_isPresent hpresent)]
  exact Settings.loadFrom_congr hsame

/-- A save that fails changes neither what is in memory nor what is loaded. -/
theorem save_eq_error {s later : SettingsStore} {settings : Settings} {fault : Fault}
    (h : s.save settings = (.error fault, later)) :
    later.cache = s.cache ∧ later.load.1 = s.load.1 := by
  unfold save at h
  split at h
  next own unopened hpath =>
    obtain rfl := (Prod.mk.inj h).2
    rw [path_eq_error hpath]
    exact ⟨rfl, rfl⟩
  next path opened hpath =>
    obtain ⟨rfl, -, hcache, hpresent⟩ := path_eq_ok hpath
    split at h
    next => nomatch (Prod.mk.inj h).1
    next own files hsave =>
      obtain rfl := (Prod.mk.inj h).2
      refine ⟨hcache, ?_⟩
      rw [← load_opened hpath]
      rcases Settings.saveTo_eq_error hsave with rfl | hwrite
      · rfl
      · rw [Settings.temporary_eq opened.directory_nonempty] at hwrite
        exact load_of_temporary hpresent hwrite

/-! ## Updating -/

theorem update_eq_error {s later : SettingsStore} {change : Settings → Settings} {fault : Fault}
    (h : s.update change = (.error fault, later)) :
    later.cache = s.cache ∧ later.load.1 = s.load.1 := by
  have hcache := cache_load s
  have hload := load_load s
  unfold update at h
  split at h
  next own opened hfailed =>
    obtain rfl := (Prod.mk.inj h).2
    rw [hfailed] at hcache hload
    exact ⟨hcache, by rw [hload, hfailed]⟩
  next old opened hloaded =>
    split at h
    next => nomatch (Prod.mk.inj h).1
    next own unsaved hsave =>
      obtain rfl := (Prod.mk.inj h).2
      obtain ⟨hkept, hsame⟩ := save_eq_error hsave
      rw [hloaded] at hcache hload
      exact ⟨hkept.trans hcache, by rw [hsame, hload, hloaded]⟩

/-! ## Histories -/

inductive Operation where
  | save (settings : Settings)
  | update (change : Settings → Settings)
  | load
  | cached
  | invalidate

def perform (s : SettingsStore) : Operation → SettingsStore
  | .save settings => (s.save settings).2
  | .update change => (s.update change).2
  | .load => s.load.2
  | .cached => s.cached.2
  | .invalidate => s.invalidate

def run (s : SettingsStore) (history : List Operation) : SettingsStore := history.foldl perform s

/-- The settings that an operation saves. -/
def saves? (s : SettingsStore) : Operation → Option Settings
  | .save settings => (s.save settings).1.toOption.map fun _ => settings
  | .update change => (s.update change).1.toOption
  | .load | .cached | .invalidate => none

/-- All settings that a history saves. -/
def saves (s : SettingsStore) : List Operation → List Settings
  | [] => []
  | operation :: rest => (s.saves? operation).toList ++ (s.perform operation).saves rest

/-- What a load answers, and what is in memory if anything is. -/
structure Agrees (s : SettingsStore) (answer : Except Fault Settings) : Prop where
  stored : s.load.1 = answer
  kept : ∀ settings, s.cache = some settings → settings = answer.toOption.getD {}

theorem Agrees.cached {s : SettingsStore} {answer : Except Fault Settings} (h : s.Agrees answer) :
    s.cached.1 = answer.toOption.getD {} := by
  unfold SettingsStore.cached
  split
  next settings hcache => exact h.kept settings hcache
  next => simp only [h.stored]

theorem agrees_of_load {later : SettingsStore} {settings : Settings}
    (hload : later.load = (settings.reread, later)) (hcache : later.cache = some settings)
    (hlimit : settings.packages.maxBytes ≠ 0) : later.Agrees (.ok settings) where
  stored := by rw [hload, Settings.reread_of_limit hlimit]
  kept own hown := (Option.some.inj (hcache.symm.trans hown)).symm

theorem Agrees.of_same {s later : SettingsStore} {answer : Except Fault Settings}
    (h : s.Agrees answer) (hsame : later.cache = s.cache ∧ later.load.1 = s.load.1) :
    later.Agrees answer where
  stored := hsame.2.trans h.stored
  kept settings hcache := h.kept settings (hsame.1.symm.trans hcache)

/-- Every operation keeps memory and disk in agreement, on what it saved or else on what they had. -/
theorem Agrees.perform {s : SettingsStore} {answer : Except Fault Settings} (h : s.Agrees answer)
    (operation : Operation)
    (hlimit : ∀ settings, s.saves? operation = some settings → settings.packages.maxBytes ≠ 0) :
    (s.perform operation).Agrees (((s.saves? operation).map .ok).getD answer) := by
  cases operation with
  | save settings =>
    simp only [saves?, SettingsStore.perform] at hlimit ⊢
    rcases hsave : s.save settings with ⟨fault | done, later⟩
    · exact h.of_same (save_eq_error hsave)
    · rw [hsave] at hlimit
      exact agrees_of_load (load_of_save hsave) (cache_of_save hsave)
        (hlimit settings rfl)
  | update change =>
    simp only [saves?, SettingsStore.perform] at hlimit ⊢
    rcases hupdate : s.update change with ⟨fault | settings, later⟩
    · exact h.of_same (update_eq_error hupdate)
    · rw [hupdate] at hlimit
      obtain ⟨old, opened, -, -, hsave⟩ := update_eq_ok hupdate
      exact agrees_of_load (load_of_save hsave) (cache_of_save hsave)
        (hlimit settings rfl)
  | load => exact h.of_same ⟨cache_load s, congrArg Prod.fst (load_load s)⟩
  | cached =>
    simp only [SettingsStore.perform]
    unfold SettingsStore.cached
    split
    next => exact h
    next =>
      refine ⟨?_, ?_⟩
      · rw [load_with_cache, load_load]
        exact h.stored
      · intro settings hcache
        rw [← Option.some.inj hcache]
        simp only [h.stored, saves?, Option.map_none, Option.getD_none]
  | invalidate =>
    refine ⟨?_, ?_⟩
    · rw [SettingsStore.perform, invalidate, load_with_cache]
      exact h.stored
    · intro settings hcache
      nomatch hcache

/-- The last settings that were saved answer, and the first ones count where no others follow. -/
theorem answer_of_append (first : Option Settings) (rest : List Settings)
    (answer : Except Fault Settings) :
    ((first.toList ++ rest).getLast?.map .ok).getD answer =
      (rest.getLast?.map .ok).getD ((first.map .ok).getD answer) := by
  cases first with
  | none => rfl
  | some settings =>
    show ((settings :: rest).getLast?.map Except.ok).getD answer = _
    rw [List.getLast?_cons]
    cases rest.getLast? <;> rfl

/-- So does every history. -/
theorem Agrees.run {history : List Operation} {s : SettingsStore} {answer : Except Fault Settings}
    (h : s.Agrees answer)
    (hlimits : ∀ settings ∈ s.saves history, settings.packages.maxBytes ≠ 0) :
    (s.run history).Agrees (((s.saves history).getLast?.map .ok).getD answer) := by
  induction history generalizing s answer with
  | nil => exact h
  | cons operation rest ih =>
    have hstep := h.perform operation fun settings hsaves =>
      hlimits settings (by simp [saves, hsaves])
    have hrest := ih hstep fun settings hmem =>
      hlimits settings (List.mem_append_right _ hmem)
    rw [saves, answer_of_append]
    exact hrest

/-- Memory agrees with the disk after any history that starts with nothing in memory and saves no
limit of zero. What a load answers is what was saved last, or what it answered at the start. What is
read from memory is that answer, and the defaults only where a load fails, which it never does when
it could read the settings at the start. An update changes the settings that a load answers, and
whatever fails leaves both as they were. -/
theorem memory_agrees_with_disk {start : SettingsStore} (hempty : start.cache = none)
    {history : List Operation}
    (hlimits : ∀ settings ∈ start.saves history, settings.packages.maxBytes ≠ 0) :
    let s := start.run history
    s.load.1 = ((start.saves history).getLast?.map .ok).getD start.load.1 ∧
      s.cached.1 = s.load.1.toOption.getD {} ∧
      (start.Readable → s.load.1 = .ok s.cached.1) ∧
      (∀ change settings later, s.update change = (.ok settings, later) →
        (∃ old, s.load.1 = .ok old ∧ settings = change old) ∧ later.cache = some settings ∧
          (settings.packages.maxBytes ≠ 0 → later.load.1 = .ok settings)) ∧
      (∀ settings fault later, s.save settings = (.error fault, later) →
        later.cache = s.cache ∧ later.load.1 = s.load.1) ∧
      ∀ change fault later, s.update change = (.error fault, later) →
        later.cache = s.cache ∧ later.load.1 = s.load.1 := by
  intro s
  have hstart : start.Agrees start.load.1 :=
    ⟨rfl, fun settings hcache => nomatch hempty.symm.trans hcache⟩
  have hagrees : s.Agrees (((start.saves history).getLast?.map .ok).getD start.load.1) :=
    hstart.run hlimits
  have hcached : s.cached.1 = s.load.1.toOption.getD {} := by
    rw [hagrees.cached, hagrees.stored]
  refine ⟨hagrees.stored, hcached, fun hreadable => ?readable,
    fun change settings later hupdate => ?updated, fun _ _ _ => save_eq_error,
    fun _ _ _ => update_eq_error⟩
  case readable =>
    obtain ⟨first, hfirst⟩ := start.readable_iff.mp hreadable
    have hanswers : ∃ settings, s.load.1 = .ok settings := by
      rw [hagrees.stored]
      cases (start.saves history).getLast? with
      | none => exact ⟨first, hfirst⟩
      | some settings => exact ⟨settings, rfl⟩
    obtain ⟨settings, hload⟩ := hanswers
    rw [hcached, hload]
    rfl
  case updated =>
    obtain ⟨old, opened, hload, hsettings, hsave⟩ := update_eq_ok hupdate
    refine ⟨⟨old, by rw [hload], hsettings⟩, cache_of_save hsave, fun hlimit => ?_⟩
    rw [load_of_save hsave, Settings.reread_of_limit hlimit]

end SettingsStore

namespace Sample
open SettingsStore

def louder (s : Settings) : Settings := { s with logging := { filter := "debug" } }

def sitting : List Operation := [.cached, .update louder, .invalidate, .save saved]

/-- A store that cannot save: a directory stands where the temporary file should go. -/
def blockedStore : SettingsStore :=
  { files :=
      { nodes := [(["home"], .directory), (["home", "ufdsp"], .directory),
          (["home", "ufdsp", "settings.json.tmp"], .directory)] }
    home := "/home" }

/-- What was saved last is in memory and on disk; where nothing can be saved, what was there at the
start stays in both. -/
theorem last_saved_agrees :
    (freshStore.run sitting).load.1 = .ok saved ∧ (freshStore.run sitting).cached.1 = saved ∧
      (blockedStore.run sitting).load.1 = .ok {} ∧ (blockedStore.run sitting).cached.1 = {} := by
  have hempty : freshStore.cache = none ∧ blockedStore.cache = none := ⟨rfl, rfl⟩
  have hsaves : freshStore.saves sitting = [louder {}, saved] := by decide +kernel
  have hnone : blockedStore.saves sitting = [] := by decide +kernel
  have hfresh : freshStore.load.1 = .ok {} := eq_ok_of_toOption (by decide +kernel)
  have hmissing : blockedStore.load.1 = .ok {} := eq_ok_of_toOption (by decide +kernel)
  have hlimits : ∀ settings ∈ freshStore.saves sitting, settings.packages.maxBytes ≠ 0 := by
    rw [hsaves]
    decide
  have hunsaved : ∀ settings ∈ blockedStore.saves sitting, settings.packages.maxBytes ≠ 0 := by
    rw [hnone]
    decide
  obtain ⟨hlast, -, hsame, -⟩ := memory_agrees_with_disk hempty.1 hlimits
  obtain ⟨hstays, -, hkept, -⟩ := memory_agrees_with_disk hempty.2 hunsaved
  rw [hsaves] at hlast
  rw [hnone, List.getLast?_nil, Option.map_none, Option.getD_none, hmissing] at hstays
  have hmemory : Except.ok (freshStore.run sitting).cached.1 = .ok saved :=
    (hsame (freshStore.readable_iff.mpr ⟨{}, hfresh⟩)).symm.trans hlast
  have hblocked : Except.ok (blockedStore.run sitting).cached.1 = .ok {} :=
    (hkept (blockedStore.readable_iff.mpr ⟨{}, hmissing⟩)).symm.trans hstays
  exact ⟨hlast, Except.ok.inj hmemory, hstays, Except.ok.inj hblocked⟩

end Sample

end DeviceSupport
