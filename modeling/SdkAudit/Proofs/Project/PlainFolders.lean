import Mathlib
import SdkAudit.Disk

/-!
# Folders without links

The tree of a folder is as deep as it has to be, leaves out folders that are entered from inside
themselves, and follows links.  In a folder that holds no link, at any depth, none of this matters:
its tree has its files and folders, in their order, and nothing else.

* `Disk.entries`, `Disk.names` — the entries of a folder;
* `Disk.IsPlain` — a folder without links, whose entries have proper names and stand in order;
* `Disk.tree` — the files and folders of a folder;
* `Disk.folderAt?_append`, `Disk.folderCount_le` — folders below folders, and how many there are;
* `Disk.treeAt_eq` — **the tree of a folder without links holds what the folder holds**.
-/

namespace SdkAudit

/-- A name that an entry of a folder can have. -/
structure IsEntryName (name : String) : Prop where
  ne_empty : name ≠ ""
  slash_notMem : '/' ∉ name.toList
  ne_dot : name ≠ "."
  ne_dots : name ≠ ".."

instance (name : String) : Decidable (IsEntryName name) :=
  decidable_of_iff (name ≠ "" ∧ '/' ∉ name.toList ∧ name ≠ "." ∧ name ≠ "..")
    ⟨fun h => ⟨h.1, h.2.1, h.2.2.1, h.2.2.2⟩,
      fun h => ⟨h.ne_empty, h.slash_notMem, h.ne_dot, h.ne_dots⟩⟩

namespace Disk

/-! ### Entries -/

def entries : Disk → List (String × Entry)
  | nil => []
  | file name text rest => (name, .file text) :: rest.entries
  | link name target rest => (name, .link target) :: rest.entries
  | folder name inside rest => (name, .folder inside) :: rest.entries

def names (disk : Disk) : List String := disk.entries.map (·.1)

/-- A folder without links, at any depth, whose entries have proper names and stand in the order of
their names. -/
def IsPlain : Disk → Prop
  | nil => True
  | file name _ rest => IsEntryName name ∧ (∀ other ∈ rest.names, name < other) ∧ rest.IsPlain
  | link _ _ _ => False
  | folder name inside rest =>
    IsEntryName name ∧ (∀ other ∈ rest.names, name < other) ∧ inside.IsPlain ∧ rest.IsPlain

instance decidableIsPlain : (disk : Disk) → Decidable disk.IsPlain
  | nil => .isTrue trivial
  | file _ _ rest =>
    have := decidableIsPlain rest
    inferInstanceAs (Decidable (_ ∧ _ ∧ _))
  | link _ _ _ => .isFalse not_false
  | folder _ inside rest =>
    have := decidableIsPlain inside
    have := decidableIsPlain rest
    inferInstanceAs (Decidable (_ ∧ _ ∧ _ ∧ _))

/-- The files and folders of a folder. -/
def tree : Disk → FileTree
  | nil => .nil
  | file name text rest => .file name text rest.tree
  | link _ _ rest => rest.tree
  | folder name inside rest => .folder name inside.tree rest.tree

variable {disk inside : Disk} {name : String} {entry : Entry}

theorem mem_entries_of_find? (h : disk.find? name = some entry) : (name, entry) ∈ disk.entries := by
  induction disk with
  | nil => cases h
  | file other _ rest ih | link other _ rest ih | folder other _ rest _ ih =>
    rw [find?] at h
    split at h
    case isTrue hname =>
      cases h
      rw [hname]
      exact List.mem_cons_self
    case isFalse => exact List.mem_cons_of_mem _ (ih h)

/-- Where names stand in order, an entry is found by its name. -/
theorem IsPlain.find?_eq (h : disk.IsPlain) (hentry : (name, entry) ∈ disk.entries) :
    disk.find? name = some entry := by
  have hlater {other : String} {rest : Disk} (hnames : ∀ later ∈ rest.names, other < later)
      (hmem : (name, entry) ∈ rest.entries) : other ≠ name := by
    rintro rfl
    exact lt_irrefl other (hnames other (List.mem_map_of_mem hmem))
  induction disk with
  | nil => cases hentry
  | file other text rest ih =>
    rcases List.mem_cons.1 hentry with heq | hmem
    · cases heq
      rw [find?, if_pos rfl]
    · rw [find?, if_neg (hlater h.2.1 hmem)]
      exact ih h.2.2 hmem
  | link => exact h.elim
  | folder other inside rest _ ih =>
    rcases List.mem_cons.1 hentry with heq | hmem
    · cases heq
      rw [find?, if_pos rfl]
    · rw [find?, if_neg (hlater h.2.1 hmem)]
      exact ih h.2.2.2 hmem

/-- The entries of a plain folder have proper names, and the folders among them are plain. -/
theorem IsPlain.of_mem_entries (h : disk.IsPlain) (hmem : (name, entry) ∈ disk.entries) :
    IsEntryName name ∧ ∀ inside, entry = .folder inside → inside.IsPlain := by
  induction disk with
  | nil => cases hmem
  | file other text rest ih =>
    rcases List.mem_cons.1 hmem with heq | hmem
    · cases heq
      exact ⟨h.1, fun inside hfolder => by cases hfolder⟩
    · exact ih h.2.2 hmem
  | link => exact h.elim
  | folder other inside rest _ ih =>
    rcases List.mem_cons.1 hmem with heq | hmem
    · cases heq
      exact ⟨h.1, fun inside hfolder => Entry.folder.inj hfolder ▸ h.2.2.1⟩
    · exact ih h.2.2.2 hmem

theorem IsPlain.isEntryName_of_mem (h : disk.IsPlain) (hmem : (name, entry) ∈ disk.entries) :
    IsEntryName name :=
  (h.of_mem_entries hmem).1

theorem IsPlain.of_mem (h : disk.IsPlain) (hmem : (name, .folder inside) ∈ disk.entries) :
    inside.IsPlain :=
  (h.of_mem_entries hmem).2 inside rfl

/-! ### Folders below folders -/

theorem folderAt?_append (here names : List String) (disk : Disk) :
    disk.folderAt? (here ++ names) = (disk.folderAt? here).bind (·.folderAt? names) := by
  induction here generalizing disk with
  | nil => rfl
  | cons name here ih =>
    rw [List.cons_append, folderAt?, folderAt?]
    cases disk.find? name with
    | none => rfl
    | some entry =>
      cases entry with
      | folder inside => exact ih inside
      | file | link => rfl

/-- A folder has fewer folders below it than the one that it stands in. -/
theorem folderCount_lt (hmem : (name, .folder inside) ∈ disk.entries) :
    inside.folderCount < disk.folderCount := by
  induction disk with
  | nil => cases hmem
  | file other _ rest ih | link other _ rest ih =>
    rcases List.mem_cons.1 hmem with heq | hmem
    · cases heq
    · exact ih hmem
  | folder other inside' rest _ ih =>
    rw [folderCount]
    rcases List.mem_cons.1 hmem with heq | hmem
    · cases heq
      omega
    · have := ih hmem
      omega

theorem folderCount_le {location : List String} (h : disk.folderAt? location = some inside) :
    inside.folderCount ≤ disk.folderCount := by
  induction location generalizing disk with
  | nil =>
    cases h
    exact le_rfl
  | cons name location ih =>
    rw [folderAt?] at h
    split at h
    case h_1 below hfind => exact (ih h).trans (folderCount_lt (mem_entries_of_find? hfind)).le
    case h_2 => cases h

/-! ### The tree of a folder -/

/-- Where every folder among the entries is entered, the tree is that of the entries. -/
theorem treeOf_eq {enter? : List String → Option FileTree} {here : List String} (root : Disk)
    (h : disk.IsPlain) (henter : ∀ name inside, (name, .folder inside) ∈ disk.entries →
      enter? (here ++ [name]) = some inside.tree) : treeOf root here enter? disk = disk.tree := by
  induction disk with
  | nil => rfl
  | file name text rest ih =>
    rw [treeOf, tree, ih h.2.2 fun name inside hmem => henter name inside (.tail _ hmem)]
  | link => exact h.elim
  | folder name inside rest _ ih =>
    rw [treeOf, tree, henter name inside List.mem_cons_self,
      ih h.2.2.2 fun name inside hmem => henter name inside (.tail _ hmem)]

/-- The induction is on the depth: a folder lies deeper than those on the way to it, so it is none
of them, and has fewer folders below it. -/
theorem treeTo_eq {depth : Nat} {above : List (List String)} {here : List String}
    (hfolder : disk.folderAt? here = some inside) (hplain : inside.IsPlain)
    (hdepth : inside.folderCount < depth) (habove : ∀ other ∈ above, other.length < here.length) :
    disk.treeTo depth above here = inside.tree := by
  induction depth generalizing above here inside with
  | zero => omega
  | succ depth ih =>
    rw [treeTo, hfolder]
    refine treeOf_eq disk hplain fun name below hmem => ?_
    have hlength : ∀ other ∈ here :: above, other.length < (here ++ [name]).length := by
      intro other hother
      rw [List.length_append, List.length_singleton]
      rcases List.mem_cons.1 hother with rfl | hother
      · omega
      · have := habove other hother
        omega
    have hnew : here ++ [name] ∉ here :: above := fun hother => lt_irrefl _ (hlength _ hother)
    have hbelow : disk.folderAt? (here ++ [name]) = some below := by
      rw [folderAt?_append, hfolder, Option.bind_some, folderAt?, hplain.find?_eq hmem]
      rfl
    have hcount := folderCount_lt hmem
    rw [if_neg hnew, ih hbelow (hplain.of_mem hmem) (by omega) hlength]

/-- **The tree of a folder without links holds what the folder holds.** -/
theorem treeAt_eq {location : List String} (hfolder : disk.folderAt? location = some inside)
    (hplain : inside.IsPlain) : disk.treeAt location = inside.tree :=
  treeTo_eq hfolder hplain (Nat.lt_succ_of_le (folderCount_le hfolder)) (by simp)

end Disk

end SdkAudit
