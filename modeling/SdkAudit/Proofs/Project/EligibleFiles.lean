import Mathlib
import SdkAudit.Proofs.Project.PlainFolders
import SdkAudit.Proofs.Text.Trim

/-!
# The files that a project lists

A project is listed by walking its folder: folders that are hidden or hold the output of tools are
not entered, files of an unknown kind are left out, and so are those that match an exclusion.  What
is listed can be told of each file by itself, from the names on the way to it.

* `Disk.HasFile` — a file lies below a folder, at the end of some names;
* `Disk.mem_walk_iff` — **the walk reaches a file exactly if every folder on the way is entered**;
* `Disk.pairwise_walk` — **the walk goes in the order of names**, folder by folder;
* `FileName.extension?_join` — the extension of a path is that of its last name;
* `IsEligible`, `ListsExactly`, `listsExactly` — **a project lists its eligible files**, each once
  and in the order of names.
-/

namespace SdkAudit

namespace Disk

/-! ### Files below a folder -/

/-- Below a folder lies a file with this text, at the end of these names. -/
inductive HasFile : Disk → List String → Option String → Prop
  | entry {disk : Disk} {name : String} {text : Option String} :
      (name, .file text) ∈ disk.entries → HasFile disk [name] text
  | within {disk inside : Disk} {name : String} {names : List String} {text : Option String} :
      (name, .folder inside) ∈ disk.entries → HasFile inside names text →
      HasFile disk (name :: names) text

variable {disk inside rest : Disk} {name : String} {names : List String}
  {text text' : Option String}

/-- The first name on the way to a file is that of an entry. -/
theorem HasFile.exists_head (h : disk.HasFile names text) :
    ∃ name tail, names = name :: tail ∧ name ∈ disk.names := by
  cases h with
  | entry hmem => exact ⟨_, _, rfl, List.mem_map_of_mem hmem⟩
  | within hmem _ => exact ⟨_, _, rfl, List.mem_map_of_mem hmem⟩

theorem HasFile.ne_nil (h : disk.HasFile names text) : names ≠ [] := by
  obtain ⟨name, tail, rfl, -⟩ := h.exists_head
  exact List.cons_ne_nil name tail

theorem not_hasFile_nil : ¬ HasFile .nil names text := by
  intro h
  obtain ⟨name, tail, -, hmem⟩ := h.exists_head
  cases hmem

/-- What lies behind the first entry lies in the folder. -/
theorem HasFile.of_rest {disk : Disk} (hsub : ∀ e ∈ rest.entries, e ∈ disk.entries)
    (h : rest.HasFile names text) : disk.HasFile names text := by
  cases h with
  | entry hmem => exact .entry (hsub _ hmem)
  | within hmem hinside => exact .within (hsub _ hmem) hinside

/-- A file lies in a folder at its first entry or behind it. -/
theorem hasFile_cons (disk : Disk) {entry : Entry}
    (hentries : disk.entries = (name, entry) :: rest.entries) : disk.HasFile names text ↔
      (names = [name] ∧ entry = .file text) ∨
        (∃ inside tail, entry = .folder inside ∧ names = name :: tail ∧ inside.HasFile tail text) ∨
          rest.HasFile names text := by
  constructor
  · rintro (hmem | ⟨hmem, hinside⟩)
    · rcases List.mem_cons.1 (hentries ▸ hmem) with heq | hmem
      · cases heq
        exact .inl ⟨rfl, rfl⟩
      · exact .inr (.inr (.entry hmem))
    · rcases List.mem_cons.1 (hentries ▸ hmem) with heq | hmem
      · cases heq
        exact .inr (.inl ⟨_, _, rfl, rfl, hinside⟩)
      · exact .inr (.inr (.within hmem hinside))
  · have hfirst : (name, entry) ∈ disk.entries := hentries ▸ List.mem_cons_self
    rintro (⟨rfl, rfl⟩ | ⟨inside, tail, rfl, rfl, htail⟩ | hrest)
    · exact .entry hfirst
    · exact .within hfirst htail
    · exact hrest.of_rest fun e he => hentries ▸ List.mem_cons_of_mem _ he

theorem hasFile_file : HasFile (.file name text' rest) names text ↔
    (names = [name] ∧ text = text') ∨ rest.HasFile names text := by
  simp [hasFile_cons (.file name text' rest) rfl, eq_comm]

theorem hasFile_link {target : String} :
    HasFile (.link name target rest) names text ↔ rest.HasFile names text := by
  simp [hasFile_cons (.link name target rest) rfl]

theorem hasFile_folder : HasFile (.folder name inside rest) names text ↔
    (∃ tail, names = name :: tail ∧ inside.HasFile tail text) ∨ rest.HasFile names text := by
  simp [hasFile_cons (.folder name inside rest) rfl]

end Disk

/-! ### Walks -/

/-- The file as it is found from further up. -/
def FoundFile.under (above : List String) (found : FoundFile) : FoundFile :=
  ⟨above ++ found.names, found.text⟩

namespace FileTree

/-- The names above a tree stand before those in it. -/
theorem walk_under (tree : FileTree) (above : List String) :
    tree.walk above = (tree.walk []).map (FoundFile.under above) := by
  induction tree generalizing above with
  | nil => rfl
  | file name text rest ih =>
    rw [walk, walk, ih above, List.map_cons]
    rfl
  | folder name inside rest ihinside ih =>
    rw [walk, walk, ih above, List.map_append, List.nil_append]
    congr 1
    split
    · rw [ihinside (above ++ [name]), ihinside [name], List.map_map]
      refine List.map_congr_left fun found _ => ?_
      simp [FoundFile.under]
    · rfl

theorem walk_folder (name : String) (inside rest : FileTree) : (folder name inside rest).walk []
    = (if isEntered name then (inside.walk []).map (FoundFile.under [name]) else [])
      ++ rest.walk [] := by
  rw [walk, List.nil_append, walk_under inside [name]]

end FileTree

namespace Disk

variable {disk : Disk} {names : List String} {text : Option String}

/-- **The walk reaches a file exactly if every folder on the way is entered.** -/
theorem mem_walk_iff : (⟨names, text⟩ : FoundFile) ∈ disk.tree.walk [] ↔
    disk.HasFile names text ∧ ∀ folder ∈ names.dropLast, isEntered folder = true := by
  induction disk generalizing names with
  | nil =>
    constructor
    · intro h
      cases h
    · rintro ⟨h, -⟩
      exact absurd h not_hasFile_nil
  | file name text' rest ih =>
    rw [tree, FileTree.walk, List.mem_cons, hasFile_file, ih, or_and_right]
    refine or_congr_left ?_
    rw [List.nil_append, FoundFile.mk.injEq]
    refine (and_iff_left_of_imp ?_).symm
    rintro ⟨rfl, -⟩
    simp
  | link name target rest ih => rw [tree, hasFile_link, ih]
  | folder name inside rest ihinside ih =>
    rw [tree, FileTree.walk_folder, List.mem_append, hasFile_folder, ih, or_and_right]
    refine or_congr_left ?_
    constructor
    · intro h
      split at h
      case isTrue hname =>
        obtain ⟨⟨tail, text⟩, hfound, heq⟩ := List.mem_map.1 h
        cases heq
        obtain ⟨hfile, hentered⟩ := ihinside.1 hfound
        refine ⟨⟨tail, rfl, hfile⟩, ?_⟩
        show ∀ folder ∈ (name :: tail).dropLast, _
        rw [List.dropLast_cons_of_ne_nil hfile.ne_nil]
        exact List.forall_mem_cons.2 ⟨hname, hentered⟩
      case isFalse => cases h
    · rintro ⟨⟨tail, rfl, hfile⟩, hentered⟩
      rw [List.dropLast_cons_of_ne_nil hfile.ne_nil, List.forall_mem_cons] at hentered
      rw [if_pos hentered.1]
      exact List.mem_map.2 ⟨_, ihinside.2 ⟨hfile, hentered.2⟩, rfl⟩

theorem names_cons_lt {name other : String} (h : name < other) (tail tail' : List String) :
    name :: tail < other :: tail' := List.Lex.rel h

/-- **The walk goes in the order of names**, folder by folder. -/
theorem pairwise_walk (h : disk.IsPlain) :
    (disk.tree.walk []).Pairwise fun found later => found.names < later.names := by
  -- what is found behind an entry starts with a name that comes later
  have hlater {name : String} {rest : Disk} (hnames : ∀ other ∈ rest.names, name < other)
      {found : FoundFile} (hfound : found ∈ rest.tree.walk []) (tail : List String) :
      name :: tail < found.names := by
    obtain ⟨names, text⟩ := found
    obtain ⟨other, tail', rfl, hmem⟩ := (mem_walk_iff.1 hfound).1.exists_head
    exact names_cons_lt (hnames other hmem) tail tail'
  induction disk with
  | nil => exact .nil
  | file name text rest ih =>
    rw [tree, FileTree.walk, List.pairwise_cons]
    exact ⟨fun found hfound => hlater h.2.1 hfound [], ih h.2.2⟩
  | link => exact h.elim
  | folder name inside rest ihinside ih =>
    rw [tree, FileTree.walk_folder, List.pairwise_append]
    refine ⟨?_, ih h.2.2.2, ?_⟩
    · split
      · refine List.pairwise_map.2 ((ihinside h.2.2.1).imp fun {found later} hlt => ?_)
        exact List.Lex.cons hlt
      · exact .nil
    · intro found hfound later hmem
      split at hfound
      · obtain ⟨found, -, rfl⟩ := List.mem_map.1 hfound
        exact hlater h.2.1 hmem found.names
      · cases hfound

end Disk

/-! ### Paths -/

namespace FileName

variable {names names' : List String}

theorem splitOn_join (hnames : ∀ name ∈ names, IsEntryName name) (hne : names ≠ []) :
    ("/".intercalate names).toList.splitOn '/' = names.map String.toList :=
  Text.splitOn_intercalate rfl (fun name hname => (hnames name hname).slash_notMem) hne

/-- Every name counts as a component. -/
theorem components_join (hnames : ∀ name ∈ names, IsEntryName name) (hne : names ≠ []) :
    components ("/".intercalate names).toList = names.map String.toList := by
  have hsplit : Text.cutAt (· = '/') ("/".intercalate names).toList = names.map String.toList :=
    (Text.cutAt_eq_splitOnP _ _).trans (splitOn_join hnames hne)
  rw [components, hsplit, List.filter_eq_self]
  intro part hpart
  obtain ⟨name, hname, rfl⟩ := List.mem_map.1 hpart
  have hdot : name.toList ≠ ['.'] := fun h =>
    (hnames name hname).ne_dot (String.toList_injective h)
  simpa [(hnames name hname).ne_empty] using hdot

/-- **The extension of a path is that of its last name.** -/
theorem extension?_join (hnames : ∀ name ∈ names, IsEntryName name) (hne : names ≠ []) :
    extension? ("/".intercalate names)
      = (extensionOf? (names.getLast hne).toList).map String.ofList := by
  have hdots : (names.getLast hne).toList ≠ ['.', '.'] := fun h =>
    (hnames _ (List.getLast_mem hne)).ne_dots (String.toList_injective h)
  have hlast : (names.map String.toList).getLast? = some (names.getLast hne).toList := by
    rw [List.getLast?_map, List.getLast?_eq_some_getLast hne, Option.map_some]
  rw [extension?, base?, components_join hnames hne, hlast]
  simp only [if_neg hdots, Option.bind_some]

theorem join_injective (hnames : ∀ name ∈ names, IsEntryName name)
    (hnames' : ∀ name ∈ names', IsEntryName name) (hne : names ≠ []) (hne' : names' ≠ [])
    (h : "/".intercalate names = "/".intercalate names') : names = names' :=
  Text.intercalate_inj rfl (fun name hname => (hnames name hname).slash_notMem)
    (fun name hname => (hnames' name hname).slash_notMem) hne hne' h

theorem below_injective {folder path path' : String} (h : below folder path = below folder path') :
    path = path' := by
  unfold below at h
  split at h
  · exact (String.append_right_inj _).1 h
  · exact (String.append_right_inj _).1 h

end FileName

/-! ### Eligible files -/

def sourceExtensions : List String :=
  ["dart", "js", "jsx", "ts", "tsx", "kt", "java", "m", "h", "swift"]

theorem Technology.isSome_ofExtension?_iff {extension : String} :
    (ofExtension? extension).isSome = true ↔ Text.lowerString extension ∈ sourceExtensions := by
  unfold ofExtension?
  split <;> simp_all [sourceExtensions]

/-- A file below a folder, at the end of some names, belongs to the project whose folder has the
path `root`. -/
structure IsEligible (exclusions : Exclusions) (root : String) (folder : Disk)
    (names : List String) : Prop where
  file : ∃ text, folder.HasFile names text
  /-- Its extension, in lower case, is that of a source file. -/
  source : ∃ name ∈ names.getLast?, ∃ extension ∈ FileName.extensionOf? name.toList,
    Text.lowerString (String.ofList extension) ∈ sourceExtensions
  /-- No folder on the way to it is hidden or holds the output of tools. -/
  entered : ∀ name ∈ names.dropLast, name.startsWith "." = false ∧ name ∉ outputFolders
  /-- Neither its path below the folder nor its full path is excluded. -/
  kept : exclusions.covers ("/".intercalate names) = false ∧
    exclusions.covers (FileName.below root ("/".intercalate names)) = false

/-- A store lists the eligible files of a folder. -/
structure ListsExactly (exclusions : Exclusions) (root : String) (folder : Disk) (store : Store) :
    Prop where
  /-- The paths are those of the eligible files, in the order of the names on the way to them. -/
  listed : ∃ files : List (List String),
    store.paths = files.map (fun names => FileName.below root ("/".intercalate names)) ∧
      (∀ names, names ∈ files ↔ IsEligible exclusions root folder names) ∧
      files.Pairwise (· < ·)
  /-- Each is listed once. -/
  once : store.paths.Nodup

namespace Disk

variable {disk inside : Disk} {names : List String} {text : Option String}

/-- The names on the way to a file are proper names. -/
theorem IsPlain.isEntryName (h : disk.IsPlain) (hfile : disk.HasFile names text) :
    ∀ name ∈ names, IsEntryName name := by
  induction hfile with
  | entry hmem => exact List.forall_mem_singleton.2 (h.isEntryName_of_mem hmem)
  | within hmem _ ih => exact List.forall_mem_cons.2 ⟨h.isEntryName_of_mem hmem, ih (h.of_mem hmem)⟩

end Disk

theorem isEntered_iff {name : String} :
    isEntered name = true ↔ name.startsWith "." = false ∧ name ∉ outputFolders := by
  simp [isEntered]

theorem isSource_join_iff {names : List String} (hnames : ∀ name ∈ names, IsEntryName name)
    (hne : names ≠ []) : isSource ("/".intercalate names) = true ↔
      ∃ name ∈ names.getLast?, ∃ extension ∈ FileName.extensionOf? name.toList,
        Text.lowerString (String.ofList extension) ∈ sourceExtensions := by
  rw [isSource, FileName.extension?_join hnames hne, List.getLast?_eq_some_getLast hne]
  simp only [Option.mem_some_iff, exists_eq_left']
  cases FileName.extensionOf? (names.getLast hne).toList with
  | none => simp
  | some extension => simp [Technology.isSome_ofExtension?_iff]

/-- A file below a plain folder is listed exactly if it is eligible. -/
theorem exists_mem_listing_iff {exclusions : Exclusions} {root : String} {folder : Disk}
    (hplain : folder.IsPlain) {names : List String} :
    (∃ text, (⟨names, text⟩ : FoundFile) ∈ folder.tree.listing exclusions root) ↔
      IsEligible exclusions root folder names := by
  have hlisted (text : Option String) : FileTree.isListed exclusions root ⟨names, text⟩ = true ↔
      isSource ("/".intercalate names) = true ∧ exclusions.covers ("/".intercalate names) = false ∧
        exclusions.covers (FileName.below root ("/".intercalate names)) = false := by
    simp [FileTree.isListed, FoundFile.relativePath, FoundFile.fullPath]
  simp only [FileTree.listing, List.mem_filter, Disk.mem_walk_iff, isEntered_iff, hlisted]
  constructor
  · rintro ⟨text, ⟨hfile, hentered⟩, hsource, hkept⟩
    exact ⟨⟨text, hfile⟩, (isSource_join_iff (hplain.isEntryName hfile) hfile.ne_nil).1 hsource,
      hentered, hkept⟩
  · rintro ⟨⟨text, hfile⟩, hsource, hentered, hkept⟩
    exact ⟨text, ⟨hfile, hentered⟩,
      (isSource_join_iff (hplain.isEntryName hfile) hfile.ne_nil).2 hsource, hkept⟩

/-- **A project lists its eligible files**, each once and in the order of names. -/
theorem listsExactly {disk inside : Disk} {location : List String}
    (hfolder : disk.folderAt? location = some inside) (hplain : inside.IsPlain)
    (exclusions : Exclusions) (root : String) :
    ListsExactly exclusions root inside
      (.ofTarget exclusions root (some (.folder (disk.treeAt location)))) := by
  rw [Disk.treeAt_eq hfolder hplain]
  let files := (inside.tree.listing exclusions root).map (·.names)
  have hpaths : (Store.ofTarget exclusions root (some (.folder inside.tree))).paths
      = files.map fun names => FileName.below root ("/".intercalate names) := by
    show (inside.tree.listing exclusions root).map (·.fullPath root) = _
    rw [List.map_map]
    rfl
  have hmem : ∀ names, names ∈ files ↔ IsEligible exclusions root inside names := by
    intro names
    rw [← exists_mem_listing_iff hplain, List.mem_map]
    constructor
    · rintro ⟨⟨names, text⟩, hfound, rfl⟩
      exact ⟨text, hfound⟩
    · rintro ⟨text, hfound⟩
      exact ⟨_, hfound, rfl⟩
  have hsorted : files.Pairwise (· < ·) :=
    List.pairwise_map.2 ((Disk.pairwise_walk hplain).sublist List.filter_sublist)
  refine ⟨⟨files, hpaths, hmem, hsorted⟩, ?_⟩
  have hnodup : files.Nodup := hsorted.imp fun hlt => ne_of_lt hlt
  rw [hpaths]
  refine hnodup.map_on fun names hnames names' hnames' heq => ?_
  obtain ⟨text, hfile⟩ := ((hmem names).1 hnames).file
  obtain ⟨text', hfile'⟩ := ((hmem names').1 hnames').file
  exact FileName.join_injective (hplain.isEntryName hfile) (hplain.isEntryName hfile') hfile.ne_nil
    hfile'.ne_nil (FileName.below_injective heq)

/-- A folder with sources among files that are not listed. -/
def someFolder : Disk :=
  .folder ".dart_tool" (.file "x.dart" (some "MappSdk") .nil)
    (.folder "build" (.file "out.dart" (some "MappSdk") .nil)
      (.folder "lib" (.folder "generated" (.file "api.dart" (some "MappSdk.isReady();") .nil)
        (.file "main.DART" (some "MappSdk.isReady();") (.file "notes.txt" (some "MappSdk") .nil)))
        .nil))

/-- For instance with a folder that is excluded. -/
theorem listsExactly_someFolder :
    (Disk.folder "app" someFolder .nil).folderAt? ["app"] = some someFolder ∧ someFolder.IsPlain ∧
      ∃ exclusions, Exclusions.read ["lib/generated/**"] = .ok exclusions ∧
        ListsExactly exclusions "app" someFolder (.ofTarget exclusions "app"
          (some (.folder ((Disk.folder "app" someFolder .nil).treeAt ["app"])))) := by
  have hfolder : (Disk.folder "app" someFolder .nil).folderAt? ["app"] = some someFolder := rfl
  have hplain : someFolder.IsPlain := by decide +kernel
  exact ⟨hfolder, hplain, _, rfl, listsExactly hfolder hplain _ "app"⟩

/-- What is listed of it. -/
example : (Exclusions.read ["lib/generated/**"]).toOption.map (fun exclusions =>
    (Store.ofTarget exclusions "app"
      (some (.folder ((Disk.folder "app" someFolder .nil).treeAt ["app"])))).paths)
      = some ["app/lib/main.DART"] := by decide +kernel

end SdkAudit
