import DeviceSupport.Proofs.Loader.Loading
import DeviceSupport.Proofs.Package.Container
import DeviceSupport.Selection

/-! Loading a directory is determined by the files in it that load.

Neither the order in which the tree keeps the files nor a file that does not load shows in what is
registered (`loadDirectory_determined`). Two limits stay: a path must have room for the name of a
file, and handles must not have run out (`Sample.shelf_exceptions`). -/
namespace DeviceSupport.Loader
set_option autoImplicit false

section
variable {l : Loader} {files : FileTree} {directory : String} {place : List String}

/-! ## Files that do not load -/

/-- There is no file of a name that would load. -/
def Fails (l : Loader) (files : FileTree) (directory : String) (place : List String)
    (name : String) : Prop :=
  match files.node? (place ++ [name]) with
  | none => True
  | some (.file bytes) => ∃ fault, l.outcome directory (name, bytes) = .error fault
  | some .directory => False

/-- Two trees that differ only in files of a directory that do not load. -/
structure SameButFailures (l : Loader) (directory : String) (place : List String)
    (files later : FileTree) : Prop where
  working : later.working = files.working
  elsewhere : ∀ other, later.node? other = files.node? other ∨
    ∃ name, other = place ++ [name] ∧ l.Fails files directory place name ∧
      l.Fails later directory place name

theorem SameButFailures.symm {later : FileTree}
    (h : l.SameButFailures directory place files later) :
    l.SameButFailures directory place later files where
  working := h.working.symm
  elsewhere other := by
    rcases h.elsewhere other with hsame | ⟨name, hother, hfiles, hlater⟩
    · exact .inl hsame.symm
    · exact .inr ⟨name, hother, hlater, hfiles⟩

theorem SameButFailures.extends {later : FileTree}
    (h : l.SameButFailures directory place files later) : files.Extends later where
  working := h.working
  directory other hother := by
    rcases h.elsewhere other with hsame | ⟨name, rfl, hfails, -⟩
    · rw [hsame]
      exact hother
    · simp [Fails, hother] at hfails

theorem SameButFailures.offers {later : FileTree}
    (h : l.SameButFailures directory place files later) {file : String × List UInt8}
    (hoffers : l.Offers files directory place file) {profile : Profile}
    (hprofile : l.outcome directory file = .ok profile) : l.Offers later directory place file := by
  refine ⟨?_, hoffers.accepted, hoffers.short⟩
  rcases h.elsewhere (place ++ [file.1]) with hsame | ⟨name, hother, hfails, -⟩
  · rw [hsame]
    exact hoffers.present
  · obtain rfl : file.1 = name := by simpa using hother
    rw [Fails, hoffers.present] at hfails
    obtain ⟨fault, hfault⟩ := hfails
    rw [hprofile] at hfault
    nomatch hfault

theorem SameButFailures.profiles_eq {later : FileTree}
    (h : l.SameButFailures directory place files later)
    {picked others : List (String × List UInt8)} (hpicks : l.Picks files directory place picked)
    (hothers : l.Picks later directory place others) :
    l.profiles directory others = l.profiles directory picked := by
  refine eq_of_ordered (profiles_ordered hothers.ordered) (profiles_ordered hpicks.ordered) ?_
  rintro ⟨name, profile⟩
  rw [mem_profiles_iff, mem_profiles_iff]
  constructor
  · rintro ⟨bytes, hfile, houtcome⟩
    have hoffers := (hothers.complete _).mp hfile
    exact ⟨bytes, (hpicks.complete _).mpr (h.symm.offers hoffers houtcome), houtcome⟩
  · rintro ⟨bytes, hfile, houtcome⟩
    have hoffers := (hpicks.complete _).mp hfile
    exact ⟨bytes, (hothers.complete _).mpr (h.offers hoffers houtcome), houtcome⟩

end

/-! ## The whole directory -/

/-- Loading a directory settles the files that it offers in the order of their names. The order in
which the tree keeps them does not matter, for the report, the registry or any selection from it;
and files that do not load change nothing for the others. -/
theorem loadDirectory_determined (l : Loader) {files : FileTree} (hproper : files.Proper)
    {directory : String} {place : List String} (hplace : files.locate directory = .ok place)
    (hdirectory : files.node? place = some .directory) (before : Registry) :
    (∃ picked, l.Picks files directory place picked ∧
      l.Settles directory picked before (l.loadDirectory files directory before).1
        (l.loadDirectory files directory before).2) ∧
    (∀ later : FileTree, later.nodes.Perm files.nodes → later.working = files.working →
      l.loadDirectory later directory before = l.loadDirectory files directory before ∧
        ∀ criteria : Criteria, (l.loadDirectory later directory before).2.select criteria =
          (l.loadDirectory files directory before).2.select criteria) ∧
    ∀ later : FileTree, later.Proper → l.SameButFailures directory place files later →
      (l.loadDirectory later directory before).1.loaded =
          (l.loadDirectory files directory before).1.loaded ∧
        (l.loadDirectory later directory before).2 =
          (l.loadDirectory files directory before).2 := by
  obtain ⟨picked, hpicks, hloads⟩ := loadDirectory_loads l hproper hplace before
  refine ⟨⟨picked, hpicks, hloads.settles hpicks hproper⟩, fun later hperm hworking => ?_,
    fun later hlater hsame => ?_⟩
  · have hthere := (hproper.extends_of_perm hperm hworking).locate hplace hdirectory
    obtain ⟨others, hothers, hagain⟩ :=
      loadDirectory_loads l (hproper.of_perm hperm) hthere before
    obtain rfl : picked = others := hpicks.unique hothers fun file => by
      constructor
      · rintro ⟨hpresent, haccepted, hshort⟩
        exact ⟨(hproper.node?_of_perm hperm _).trans hpresent, haccepted, hshort⟩
      · rintro ⟨hpresent, haccepted, hshort⟩
        exact ⟨(hproper.node?_of_perm hperm _).symm.trans hpresent, haccepted, hshort⟩
    have hsame :
        l.loadDirectory later directory before = l.loadDirectory files directory before := by
      refine Prod.ext ?_ (hloads.unique hagain rfl).2
      rw [hagain.report_eq, hloads.report_eq]
    exact ⟨hsame, fun criteria => by rw [hsame]⟩
  · have hthere := hsame.extends.locate hplace hdirectory
    obtain ⟨others, hothers, hagain⟩ := loadDirectory_loads l hlater hthere before
    exact hloads.unique hagain (hsame.profiles_eq hpicks hothers)

end DeviceSupport.Loader

namespace DeviceSupport.Sample
open Loader

/-! ## A sample

A package in a container and one without, beside a broken one and a file that is no package. -/

def shelf (contained plain broken notes : List UInt8) : FileTree where
  nodes :=
    [(["dsp"], .directory), (["dsp", "b.fpc"], .file plain), (["dsp", "a.EDP"], .file contained),
      (["dsp", "broken.fpc"], .file broken), (["dsp", "notes.txt"], .file notes)]

section
variable (contained plain broken notes : List UInt8)

theorem shelf_proper : (shelf contained plain broken notes).Proper := by
  have hnamed : ∀ own ∈ (shelf contained plain broken notes).nodes.map (·.1), ∀ name ∈ own,
      Path.IsName name ∧ FileTree.hasNul name = false ∧
        name.utf8ByteSize ≤ FileTree.nameLimit := by
    change ∀ own ∈ [["dsp"], ["dsp", "b.fpc"], ["dsp", "a.EDP"], ["dsp", "broken.fpc"],
      ["dsp", "notes.txt"]], _
    decide
  refine ⟨?_, ?_, fun e he => hnamed e.1 (List.mem_map_of_mem he)⟩
  · change [["dsp"], ["dsp", "b.fpc"], ["dsp", "a.EDP"], ["dsp", "broken.fpc"],
      ["dsp", "notes.txt"]].Nodup
    decide
  · simp [shelf, FileTree.node?, Table.get?]

theorem shelf_locate : (shelf contained plain broken notes).locate "dsp" = .ok ["dsp"] := by
  have hstart : (shelf contained plain broken notes).origin "dsp" = [] := by
    simp [FileTree.origin, shelf]
  have henter : (shelf contained plain broken notes).enter [] "dsp" = .ok ["dsp"] :=
    (FileTree.enter_eq_ok_iff (by decide)).mpr ⟨rfl, by decide, rfl, rfl⟩
  refine bind_eq_ok_iff.mpr ⟨(), rfl, ?_⟩
  rw [Path.parts_of_slashless (by decide), hstart, List.foldlM_cons, henter]
  rfl

/-- The paths of the packages on the shelf. -/
theorem shelf_paths : Path.join "dsp" "a.EDP" = "dsp/a.EDP" ∧
    Path.join "dsp" "b.fpc" = "dsp/b.fpc" ∧
    Path.join "dsp" "broken.fpc" = "dsp/broken.fpc" := by
  have hjoin {name : String} (h : Path.IsName name) : Path.join "dsp" name = "dsp" ++ "/" ++ name :=
    Path.join_of_not_slash h (by decide) (by decide)
  exact ⟨hjoin (by decide), hjoin (by decide), hjoin (by decide)⟩

/-- The extensions on the shelf, one of them in capitals. -/
theorem shelf_extensions :
    HasExtension "a.EDP" "edp" ∧ HasExtension "b.fpc" "fpc" ∧ HasExtension "broken.fpc" "fpc" ∧
      ¬HasExtension "b.fpc" "edp" ∧ ¬HasExtension "broken.fpc" "edp" ∧
      ¬Accepts {} "notes.txt" := by
  simp only [Accepts, hasExtension_iff]
  decide

theorem shelf_picks : Picks {} (shelf contained plain broken notes) "dsp" ["dsp"]
    [("a.EDP", contained), ("b.fpc", plain), ("broken.fpc", broken)] := by
  obtain ⟨hcontained, hplain, hbroken, -, -, hnotes⟩ := shelf_extensions
  have hfpc : "fpc" ∈ ({} : Loader).extensions := by decide
  have hedp : "edp" ∈ ({} : Loader).extensions := by decide
  have hshort : ∀ name ∈ ["a.EDP", "b.fpc", "broken.fpc"],
      (Path.join "dsp" name).utf8ByteSize ≤ FileTree.pathLimit := by
    simp only [List.forall_mem_cons, shelf_paths]
    decide
  refine ⟨?_, fun ⟨name, bytes⟩ => ⟨fun hfile => ?_, fun hoffers => ?_⟩⟩
  · have hnames : ["a.EDP", "b.fpc", "broken.fpc"].Pairwise (· < ·) := by decide
    rwa [← List.pairwise_map (f := Prod.fst) (R := (· < ·))]
  · simp only [List.mem_cons, Prod.mk.injEq, List.not_mem_nil, or_false] at hfile
    rcases hfile with ⟨rfl, rfl⟩ | ⟨rfl, rfl⟩ | ⟨rfl, rfl⟩
    · exact ⟨by simp [shelf, FileTree.node?, Table.get?], ⟨_, hedp, hcontained⟩,
        hshort _ (by simp)⟩
    · exact ⟨by simp [shelf, FileTree.node?, Table.get?], ⟨_, hfpc, hplain⟩, hshort _ (by simp)⟩
    · exact ⟨by simp [shelf, FileTree.node?, Table.get?], ⟨_, hfpc, hbroken⟩, hshort _ (by simp)⟩
  · have hmem := ((shelf_proper contained plain broken notes).node?_eq_some_iff (by simp) _).mp
      hoffers.present
    simp only [shelf, List.mem_cons, List.not_mem_nil, Prod.mk.injEq, or_false,
      List.cons_append, List.nil_append, List.cons.injEq, and_true, true_and, reduceCtorEq,
      and_false, false_or, FileNode.file.injEq] at hmem
    rcases hmem with ⟨rfl, rfl⟩ | ⟨rfl, rfl⟩ | ⟨rfl, rfl⟩ | ⟨rfl, rfl⟩
    · simp
    · simp
    · simp
    · exact absurd hoffers.accepted hnotes

end

/-- The shelf without the broken package. -/
def tidied (contained plain broken notes : List UInt8) : FileTree :=
  { shelf contained plain broken notes with
    nodes := Table.erase ["dsp", "broken.fpc"] (shelf contained plain broken notes).nodes }

theorem tidied_proper (contained plain broken notes : List UInt8) :
    (tidied contained plain broken notes).Proper := by
  refine (shelf_proper contained plain broken notes).erase ?_
  simp [shelf, FileTree.node?, Table.get?]

theorem tidied_same (contained plain broken notes : List UInt8) {fault : Fault}
    (h : outcome {} "dsp" ("broken.fpc", broken) = .error fault) :
    SameButFailures {} "dsp" ["dsp"] (shelf contained plain broken notes)
      (tidied contained plain broken notes) := by
  refine ⟨rfl, fun other => ?_⟩
  by_cases hother : other = ["dsp", "broken.fpc"]
  · subst hother
    refine .inr ⟨"broken.fpc", rfl, ?_, ?_⟩
    · simp [Fails, shelf, FileTree.node?, Table.get?, h]
    · simp [Fails, tidied, FileTree.node?, Table.get?_erase]
  · refine .inl ?_
    unfold FileTree.node?
    split
    next => rfl
    next => rw [tidied, Table.get?_erase, if_neg (Ne.symm hother)]

def stocked (code : String) : PackageSpec where
  descriptor := { code }
  domains :=
    [{ name := "CPU", qualifier := "D0"
       primitives :=
         [{ opcode := .get, tuple := ⟨14, 1, 255⟩, requestType := 24, resultType := 6 }] }]

theorem decode_first :
    Container.decode (Container.encode (stocked "first")) = .ok (stocked "first").decoded := by
  rw [Container.decode_encode]
  exact Package.decode_encode_eq (by decide)

theorem size_first :
    (Container.encode (stocked "first")).length ≤ ({} : Loader).maxBytes.toNat := by
  rw [Container.length_encode]
  decide

/-- The container and the plain package come to profiles, and the broken one to a fault. -/
theorem shelf_outcomes {contained plain broken : List UInt8} {first second : Profile}
    {fault : Fault} (hsmall : ∀ bytes ∈ [contained, plain, broken],
      bytes.length ≤ ({} : Loader).maxBytes.toNat) (hfirst : Container.decode contained = .ok first)
    (hsecond : Package.decode plain = .ok second) (hfault : Package.decode broken = .error fault) :
    outcome {} "dsp" ("a.EDP", contained) = .ok first ∧
      outcome {} "dsp" ("b.fpc", plain) = .ok second ∧
      outcome {} "dsp" ("broken.fpc", broken) = .error fault := by
  obtain ⟨hedp, -, -, hplain, hbroken, -⟩ := shelf_extensions
  have hfits (bytes : List UInt8) (h : bytes ∈ [contained, plain, broken]) :
      ¬({} : Loader).maxBytes.toNat < bytes.length := Nat.not_lt.mpr (hsmall bytes h)
  refine ⟨?_, ?_, ?_⟩
  · rw [outcome, if_neg (hfits _ (by simp)), if_pos hedp]
    exact hfirst
  · rw [outcome, if_neg (hfits _ (by simp)), if_neg hplain]
    exact hsecond
  · rw [outcome, if_neg (hfits _ (by simp)), if_neg hbroken]
    exact hfault

/-- What is loaded from the shelf, in any order of its files and without the broken one. -/
theorem shelf_loads :
    let contained := Container.encode (stocked "first")
    let plain := Package.encode (stocked "second")
    let files := shelf contained plain [0, 0] []
    let loaded := ({} : Loader).loadDirectory files "dsp" {}
    (∃ first second, Container.decode contained = .ok first ∧ Package.decode plain = .ok second ∧
      loaded.1.loaded = [("dsp/a.EDP", ⟨0⟩), ("dsp/b.fpc", ⟨1⟩)] ∧
      loaded.2.entries = [(⟨0⟩, first), (⟨1⟩, second)]) ∧
    loaded.1.failed.map (·.1) = ["dsp/broken.fpc"] ∧
    ({} : Loader).loadDirectory { files with nodes := files.nodes.reverse } "dsp" {} = loaded ∧
    (({} : Loader).loadDirectory (tidied contained plain [0, 0] []) "dsp" {}).2 = loaded.2 := by
  intro contained plain files loaded
  have hproper : files.Proper := shelf_proper contained plain [0, 0] []
  have hplace : files.locate "dsp" = .ok ["dsp"] := shelf_locate contained plain [0, 0] []
  obtain ⟨⟨picked, hpicks, hsettles⟩, horder, hfailures⟩ :=
    loadDirectory_determined {} hproper hplace rfl {}
  obtain rfl := hpicks.unique (shelf_picks contained plain [0, 0] []) fun _ => Iff.rfl
  have hsecond : Package.decode plain = .ok (stocked "second").decoded :=
    Package.decode_encode_eq (by decide)
  have hsmall : ∀ bytes ∈ [contained, plain, [0, 0]],
      bytes.length ≤ ({} : Loader).maxBytes.toNat := by
    have hplain : plain.length ≤ ({} : Loader).maxBytes.toNat := by
      rw [← PackageSpec.imageSize_eq]
      decide
    simp only [List.forall_mem_cons]
    exact ⟨size_first, hplain, by decide, nofun⟩
  obtain ⟨fault, hfault⟩ : ∃ fault, fault? (Package.decode [0, 0]) = some fault := ⟨_, rfl⟩
  obtain ⟨ha, hb, hbroken⟩ := shelf_outcomes hsmall decode_first hsecond
    (eq_error_of_fault? hfault)
  have hprofiles := profiles_cons_ok ha [("b.fpc", plain), ("broken.fpc", [0, 0])]
  rw [(profiles_cons_ok hb _).1, (profiles_cons_ok hb _).2, (profiles_cons_error hbroken _).1,
    (profiles_cons_error hbroken _).2] at hprofiles
  obtain ⟨hloaded, hfailed⟩ := hprofiles
  refine ⟨⟨_, _, decode_first, hsecond, ?_, ?_⟩, ?_, ?_, ?_⟩
  · rw [hsettles.loaded, hloaded]
    simp [Registry.numbered, profiles, shelf_paths]
  · rw [hsettles.entries, hloaded]
    rfl
  · rw [hsettles.failed, hfailed]
    simp [faults, shelf_paths]
  · exact (horder { files with nodes := files.nodes.reverse } (List.reverse_perm _) rfl).1
  · exact (hfailures _ (tidied_proper _ _ _ _) (tidied_same _ _ _ _ hbroken)).2

/-! ## Where less holds

A path of the shelf that is itself as long as a path may be leaves no room for a name, so that every
file is passed over. And handles that have run out start over from the oldest one. -/

/-- The path of the shelf with `n` parts that go nowhere. -/
def winding : Nat → String
  | 0 => "dsp"
  | n + 1 => winding n ++ "/" ++ "."

theorem size_winding (n : Nat) : (winding n).utf8ByteSize = 3 + 2 * n := by
  have hslash : ("/" : String).utf8ByteSize = 1 := by decide
  have hdot : ("." : String).utf8ByteSize = 1 := by decide
  induction n with
  | zero => decide
  | succ n ih =>
    rw [winding, String.utf8ByteSize_append, String.utf8ByteSize_append, ih, hslash, hdot]
    omega

theorem hasNul_winding (n : Nat) : FileTree.hasNul (winding n) = false := by
  have hslash : FileTree.hasNul "/" = false := by decide
  have hdot : FileTree.hasNul "." = false := by decide
  induction n with
  | zero => decide
  | succ n ih =>
    rw [winding, FileTree.hasNul_append, FileTree.hasNul_append, ih, hslash, hdot]
    rfl

theorem parts_winding (n : Nat) : Path.parts (winding n) = "dsp" :: List.replicate n "." := by
  induction n with
  | zero => exact Path.parts_of_slashless (by decide)
  | succ n ih =>
    have hdot : Path.parts "." = ["."] := Path.parts_of_slashless (by decide)
    rw [winding, Path.parts_append_slash, ih, hdot, List.replicate_succ', List.cons_append]

theorem locate_winding (contained plain broken notes : List UInt8) {n : Nat}
    (h : 3 + 2 * n ≤ FileTree.pathLimit) :
    (shelf contained plain broken notes).locate (winding n) = .ok ["dsp"] := by
  have hcheck : FileTree.checkPath (winding n) = .ok () := by
    refine FileTree.checkPath_eq_ok_iff.mpr ⟨hasNul_winding n, ?_, by rw [size_winding]; exact h⟩
    intro hempty
    have hsize := size_winding n
    rw [hempty] at hsize
    exact absurd hsize (by simp; omega)
  have hstart : (shelf contained plain broken notes).origin (winding n) = [] := by
    simp [FileTree.origin, shelf]
  have henter : (shelf contained plain broken notes).enter [] "dsp" = .ok ["dsp"] :=
    (FileTree.enter_eq_ok_iff (by decide)).mpr ⟨rfl, by decide, rfl, rfl⟩
  have hstay (k : Nat) : (List.replicate k ".").foldlM
      (shelf contained plain broken notes).enter ["dsp"] = .ok ["dsp"] := by
    induction k with
    | zero => rfl
    | succ k ih =>
      rw [List.replicate_succ, List.foldlM_cons, FileTree.enter_idle rfl rfl]
      exact ih
  refine bind_eq_ok_iff.mpr ⟨(), hcheck, ?_⟩
  rw [parts_winding, hstart, List.foldlM_cons, henter]
  exact hstay n

/-- A directory whose path is as long as a path may be offers nothing. -/
theorem not_offers_of_long {l : Loader} {files : FileTree} (hproper : files.Proper)
    {directory : String} {place : List String} (hlong : FileTree.pathLimit ≤ directory.utf8ByteSize)
    (file : String × List UInt8) : ¬l.Offers files directory place file := by
  intro hoffers
  have hname := (hproper.of_file hoffers.present).2.1
  have hdirectory : directory ≠ "" := by
    rintro rfl
    exact absurd hlong (by decide)
  obtain ⟨slash, -, hjoin⟩ := Path.join_eq_append hname hdirectory
  have hshort := hoffers.short
  rw [hjoin, String.utf8ByteSize_append, String.utf8ByteSize_append] at hshort
  have hempty : file.1.utf8ByteSize = 0 := by omega
  exact hname.nonempty (String.utf8ByteSize_eq_zero_iff.mp hempty)

/-- A directory whose path is as long as a path may be loads nothing. -/
theorem loadDirectory_of_long {l : Loader} {files : FileTree} (hproper : files.Proper)
    {directory : String} {place : List String} (hplace : files.locate directory = .ok place)
    (hlong : FileTree.pathLimit ≤ directory.utf8ByteSize) (before : Registry) :
    l.loadDirectory files directory before = ({}, before) := by
  obtain ⟨picked, hpicks, hloads⟩ := loadDirectory_loads l hproper hplace before
  have hnone : picked = [] := by
    refine List.eq_nil_iff_forall_not_mem.mpr fun file hfile => ?_
    exact not_offers_of_long hproper hlong file ((hpicks.complete file).mp hfile)
  subst hnone
  have hreport : (l.loadDirectory files directory before).1 = {} := hloads.report_eq
  exact Prod.ext hreport hloads.registered

def old : Profile := { descriptor := { code := "old" }, declaredSize := 0 }

/-- A registry in which the first `n` handles have been given out. -/
def worn (n : Nat) : Registry := ({} : Registry).run ((List.replicate n old).map .register)

/-- When every handle has been given out, the first one is next. -/
theorem worn_next : (worn 4294967296).nextId = 0 := by
  rw [worn, Registry.run_registers, List.length_replicate]
  rfl

/-- What is registered behind the worn entries hides none of them. -/
theorem worn_get? {n : Nat} (h : 0 < n) {after : Registry}
    {profiles : List (ProfileId × Profile)}
    (hentries : after.entries = (worn n).entries ++ profiles) :
    (after.get? ⟨0⟩).map (·.code) = some "old" := by
  obtain ⟨k, rfl⟩ : ∃ k, n = k + 1 := ⟨n - 1, by omega⟩
  rw [Registry.get?, hentries, worn, Registry.run_registers, List.replicate_succ]
  rfl

/-- Loaded into the worn registry, the first package gets a handle that finds another profile. -/
theorem worn_loads {plain broken notes : List UInt8} :
    let contained := Container.encode (stocked "first")
    let loaded := ({} : Loader).loadDirectory (shelf contained plain broken notes) "dsp"
      (worn 4294967296)
    ∃ first, Container.decode contained = .ok first ∧ ("dsp/a.EDP", ⟨0⟩) ∈ loaded.1.loaded ∧
      loaded.2.get? ⟨0⟩ ≠ some first := by
  intro contained loaded
  have hproper := shelf_proper contained plain broken notes
  have hplace := shelf_locate contained plain broken notes
  obtain ⟨picked, hpicks, hloads⟩ := loadDirectory_loads {} hproper hplace (worn 4294967296)
  obtain rfl := hpicks.unique (shelf_picks contained plain broken notes) fun _ => Iff.rfl
  have houtcome : outcome {} "dsp" ("a.EDP", contained) = .ok (stocked "first").decoded := by
    rw [outcome, if_neg (Nat.not_lt.mpr size_first), if_pos shelf_extensions.1]
    exact decode_first
  have hprofiles := (profiles_cons_ok houtcome [("b.fpc", plain), ("broken.fpc", broken)]).1
  refine ⟨_, decode_first, ?_, fun hget => ?_⟩
  · rw [hloads.loaded, hprofiles, worn_next]
    simp [Registry.numbered, shelf_paths]
  · have hold := worn_get? (by decide) (hloads.settles hpicks hproper).entries
    rw [hget] at hold
    exact absurd hold (by decide)

/-- A package is passed over by a path that leaves no room for its name; and once handles have run
out, the handle of the first package finds an older profile. -/
theorem shelf_exceptions :
    let contained := Container.encode (stocked "first")
    let plain := Package.encode (stocked "second")
    let files := shelf contained plain [0, 0] []
    (files.locate (winding 2046) = .ok ["dsp"] ∧
      files.node? ["dsp", "b.fpc"] = some (.file plain) ∧ Accepts {} "b.fpc" ∧
      ({} : Loader).loadDirectory files (winding 2046) {} = ({}, {})) ∧
    ∃ first, Container.decode contained = .ok first ∧
      ("dsp/a.EDP", ⟨0⟩) ∈ (({} : Loader).loadDirectory files "dsp" (worn 4294967296)).1.loaded ∧
      (({} : Loader).loadDirectory files "dsp" (worn 4294967296)).2.get? ⟨0⟩ ≠ some first := by
  intro contained plain files
  have hproper : files.Proper := shelf_proper contained plain [0, 0] []
  have hlocate : files.locate (winding 2046) = .ok ["dsp"] :=
    locate_winding contained plain [0, 0] [] (by decide)
  have hfpc : HasExtension "b.fpc" "fpc" := shelf_extensions.2.1
  refine ⟨⟨hlocate, rfl, ⟨"fpc", by decide, hfpc⟩, ?_⟩, worn_loads⟩
  refine loadDirectory_of_long hproper hlocate ?_ {}
  rw [size_winding]
  decide

end DeviceSupport.Sample
