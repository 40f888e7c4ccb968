import DesiredState.Disk
import DesiredState.Proofs.Finding
import DesiredState.Proofs.Path
import Mathlib.Data.List.Forall2
import Mathlib.Data.List.Nodup
import Mathlib.Data.Option.Basic

/-!
# Valid disks

**Input.** A file tree in which each directory has each name once, and no name that is
empty, a dot, two dots, or has a slash.

**Idea.** In such a tree the names in a list lead to one place at most, and a path with
names behind it leads where these lead from the place of the path. What holds between two
trees and passes to their entries is carried along a path: first over one piece, together
with the directories above, and then over all pieces. So what a path leads to on a valid
disk is valid, and it does not depend on the order in which entries are listed.

**Results.**
* `mem_filePaths_iff`: the files below a tree are where names lead to files.
* `nodup_filePaths`: no file is listed twice.
* `lookup?_below`: where a path with names behind it leads.
* `lookup?_rel`: what is carried along a path.
* `leadsTo_relisted`: the order in which entries are listed does not count.
* `IsBuilt.isValid`: what is built by putting valid trees is valid.
-/

namespace DesiredState

namespace FileTree

section Defs

/-- Each directory has each name once, and only names of entries. -/
inductive IsValid : FileTree → Prop
  | file (bytes : ByteArray) : IsValid (.file bytes)
  | special : IsValid .special
  | directory {entries : List (String × FileTree)} (once : (entries.map Prod.fst).Nodup)
      (names : ∀ entry ∈ entries, Path.IsName entry.1)
      (subtrees : ∀ entry ∈ entries, IsValid entry.2) : IsValid (.directory entries)

/-- What some names lead to, one after another. -/
def at? : List String → FileTree → Option FileTree
  | [], tree => some tree
  | name :: rest, tree => (tree.child? name).bind (at? rest)

/-- Two trees have the same entries, each name once, in any order. -/
inductive Relisted : FileTree → FileTree → Prop
  | file (bytes : ByteArray) : Relisted (.file bytes) (.file bytes)
  | special : Relisted .special .special
  | directory {entries others : List (String × FileTree)} (once : (entries.map Prod.fst).Nodup)
      (names : (entries.map Prod.fst).Perm (others.map Prod.fst))
      (subtrees : ∀ (name : String) (tree other : FileTree), (name, tree) ∈ entries →
        (name, other) ∈ others → Relisted tree other) :
      Relisted (.directory entries) (.directory others)

end Defs

section Children

variable {entries : List (String × FileTree)}

theorem child?_eq_some_iff {name : String} (once : (entries.map Prod.fst).Nodup)
    (tree : FileTree) :
    (directory entries).child? name = some tree ↔ (name, tree) ∈ entries :=
  find?_map_snd_eq_some_iff once tree

/-- A directory is the same in any order of its entries. -/
theorem Relisted.of_perm {others : List (String × FileTree)}
    (once : (entries.map Prod.fst).Nodup)
    (same : ∀ entry ∈ entries, entry.2.Relisted entry.2) (perm : entries.Perm others) :
    (FileTree.directory entries).Relisted (FileTree.directory others) := by
  refine .directory once (perm.map Prod.fst) ?_
  intro name tree other htree hother
  have heq : (name, tree) = (name, other) :=
    List.inj_on_of_nodup_map once htree (perm.mem_iff.mpr hother) rfl
  cases heq
  exact same (name, tree) htree

theorem IsValid.relisted_self {tree : FileTree} (h : tree.IsValid) : tree.Relisted tree := by
  induction h with
  | file => exact .file _
  | special => exact .special
  | directory once _ _ ih => exact .of_perm once ih (.refl _)

theorem IsValid.relisted_of_perm {others : List (String × FileTree)}
    (h : (FileTree.directory entries).IsValid) (perm : entries.Perm others) :
    (FileTree.directory entries).Relisted (FileTree.directory others) := by
  cases h with
  | directory once _ subtrees =>
      exact .of_perm once (fun entry hmem => (subtrees entry hmem).relisted_self) perm

/-- A listing in another order is as valid. -/
theorem IsValid.of_relisted {tree other : FileTree} (hvalid : tree.IsValid)
    (h : tree.Relisted other) : other.IsValid := by
  induction hvalid generalizing other with
  | file =>
      cases h
      exact .file _
  | special =>
      cases h
      exact .special
  | @directory entries once names _ ih =>
      cases h with
      | @directory _ others _ hperm hsubtrees =>
          have hentry : ∀ entry ∈ others, ∃ tree, (entry.1, tree) ∈ entries := by
            intro entry hmem
            obtain ⟨⟨name, tree⟩, hmem', rfl⟩ :=
              List.mem_map.mp (hperm.mem_iff.mpr (List.mem_map_of_mem hmem))
            exact ⟨tree, hmem'⟩
          refine .directory (hperm.nodup_iff.mp once) ?_ ?_
          · intro entry hmem
            obtain ⟨tree, htree⟩ := hentry entry hmem
            exact names (entry.1, tree) htree
          · intro entry hmem
            obtain ⟨tree, htree⟩ := hentry entry hmem
            exact ih (entry.1, tree) htree (hsubtrees entry.1 tree entry.2 htree hmem)

end Children

section Files

theorem filePathsOf_eq_flatMap (entries : List (String × FileTree)) :
    filePathsOf entries =
      entries.flatMap fun entry => entry.2.filePaths.map (entry.1 :: ·) := by
  induction entries with
  | nil => rfl
  | cons entry rest ih =>
      obtain ⟨name, tree⟩ := entry
      rw [filePathsOf, ih, List.flatMap_cons]

/-- A file among some entries is one in the tree of an entry. -/
theorem mem_filePathsOf_iff (entries : List (String × FileTree)) (names : List String) :
    names ∈ filePathsOf entries ↔
      ∃ entry ∈ entries, ∃ rest ∈ entry.2.filePaths, names = entry.1 :: rest := by
  simp only [filePathsOf_eq_flatMap, List.mem_flatMap, List.mem_map, eq_comm]

/-- The files below a tree are where names lead to files. -/
theorem IsValid.mem_filePaths_iff {tree : FileTree} (h : tree.IsValid) (names : List String) :
    names ∈ tree.filePaths ↔ ∃ bytes, tree.at? names = some (.file bytes) := by
  induction h generalizing names with
  | file bytes =>
      cases names with
      | nil => simp [filePaths, at?]
      | cons name rest => simp [filePaths, at?, child?]
  | special => cases names <;> simp [filePaths, at?, child?]
  | @directory entries once _ _ ih =>
      rw [filePaths, mem_filePathsOf_iff]
      cases names with
      | nil => simp [at?]
      | cons name rest =>
          constructor
          · rintro ⟨⟨first, tree⟩, hmem, _, hrest, heq⟩
            cases heq
            obtain ⟨bytes, hfile⟩ := (ih _ hmem rest).mp hrest
            refine ⟨bytes, ?_⟩
            rw [at?, (child?_eq_some_iff once tree).mpr hmem]
            exact hfile
          · rintro ⟨bytes, hfile⟩
            obtain ⟨tree, hchild, hrest⟩ := Option.bind_eq_some_iff.mp hfile
            have hmem := (child?_eq_some_iff once tree).mp hchild
            exact ⟨(name, tree), hmem, rest, (ih _ hmem rest).mpr ⟨bytes, hrest⟩, rfl⟩

/-- No file is listed twice. -/
theorem IsValid.nodup_filePaths {tree : FileTree} (h : tree.IsValid) :
    tree.filePaths.Nodup := by
  induction h with
  | file => exact List.nodup_singleton _
  | special => exact List.nodup_nil
  | @directory entries once _ _ ih =>
      rw [filePaths, filePathsOf_eq_flatMap, List.nodup_flatMap]
      constructor
      · intro entry hmem
        exact (ih entry hmem).map (List.cons_injective)
      · refine (List.pairwise_map.mp once).imp ?_
        intro entry other hne names hnames hothers
        obtain ⟨rest, _, rfl⟩ := List.mem_map.mp hnames
        obtain ⟨_, _, heq⟩ := List.mem_map.mp hothers
        exact hne (List.cons.inj heq).1.symm

theorem IsValid.isName_of_mem_filePaths {tree : FileTree} (h : tree.IsValid)
    {names : List String} (hmem : names ∈ tree.filePaths) : ∀ name ∈ names, Path.IsName name := by
  induction h generalizing names with
  | file =>
      rw [filePaths, List.mem_singleton] at hmem
      simp [hmem]
  | special => cases hmem
  | directory _ hnames _ ih =>
      rw [filePaths, mem_filePathsOf_iff] at hmem
      obtain ⟨entry, hentry, rest, hrest, rfl⟩ := hmem
      exact List.forall_mem_cons.mpr ⟨hnames entry hentry, ih entry hentry hrest⟩

end Files

end FileTree

namespace Disk

section Following

open FileTree

variable {disk : Disk} {base : Path} {name : String} {names : List String}

/-- A name leads from a place to its entry. -/
theorem follow_name (hname : Path.IsName name) (place : FileTree × List FileTree) :
    (follow place name).map Prod.fst = place.1.child? name := by
  obtain ⟨here, above⟩ := place
  have hidle : Path.isIdle name = false := by simp [Path.isIdle, hname.ne_empty, hname.ne_dot]
  cases here with
  | file bytes => rfl
  | special => rfl
  | directory entries =>
      have hfollow : follow (.directory entries, above) name =
          ((FileTree.directory entries).child? name).map fun child =>
            (child, .directory entries :: above) := by
        simp [follow, FileTree.isDirectory, hidle, hname.ne_dots]
      rw [hfollow, Option.map_map]
      exact Option.map_id'

/-- An empty piece on the way to a name makes no difference. -/
theorem follow_empty_bind (name : String) (place : FileTree × List FileTree) :
    ((follow place "").bind fun place => follow place name) = follow place name := by
  obtain ⟨here, above⟩ := place
  cases here <;> rfl

theorem ne_empty_of_lookup? {tree : FileTree} (h : disk.lookup? base = some tree) :
    base.text ≠ "" := by
  intro hempty
  rw [lookup?, if_pos hempty] at h
  cases h

/-- A path is followed piece by piece from the root or from the current directory. -/
theorem lookup?_eq (hbase : base.text ≠ "") :
    disk.lookup? base =
      (((if base.isAbsolute then [] else disk.cwd) ++ base.pieces).foldlM follow
        (disk.root, [])).map Prod.fst := by
  rw [lookup?, if_neg hbase]

/-- A path with a name behind it leads to the entry of that name. -/
theorem lookup?_join (hbase : base.text ≠ "") (hname : Path.IsName name) :
    disk.lookup? (base.join ⟨name⟩) = (disk.lookup? base).bind fun tree => tree.child? name := by
  have hnext := Path.isAbsolute_of_isName hname
  obtain ⟨outer, _, hjoin, hpieces⟩ := Path.exists_pieces_join hbase hnext
  obtain ⟨hne, habsolute⟩ := Path.join_starts hbase hnext
  rw [lookup?_eq hne, lookup?_eq hbase, hjoin, habsolute, Path.pieces_of_isName hname]
  set start := if base.isAbsolute = true then [] else disk.cwd
  have hbehind : (start ++ (outer ++ [name])).foldlM follow (disk.root, []) =
      ((start ++ outer).foldlM follow (disk.root, [])).bind fun place => follow place name := by
    rw [← List.append_assoc, List.foldlM_append]
    simp
  -- An empty piece at the end needs a directory to start from, and so does the name.
  have hsame : ((start ++ base.pieces).foldlM follow (disk.root, [])).bind
        (fun place => follow place name) =
      ((start ++ outer).foldlM follow (disk.root, [])).bind fun place => follow place name := by
    rcases hpieces with hpieces | hpieces
    · rw [hpieces]
    · rw [hpieces, ← List.append_assoc, List.foldlM_append]
      simp [Option.bind_assoc, follow_empty_bind]
  rw [hbehind, ← hsame, Option.map_bind, Option.bind_map]
  exact congrArg _ (funext fun place => follow_name hname place)

/-- A path with names behind it leads where they lead from its own place. -/
theorem lookup?_below (hbase : base.text ≠ "") (hnames : ∀ name ∈ names, Path.IsName name) :
    disk.lookup? (base.below names) = (disk.lookup? base).bind (at? names) := by
  induction names generalizing base with
  | nil => simp [Path.below, at?]
  | cons name rest ih =>
      obtain ⟨hname, hrest⟩ := List.forall_mem_cons.mp hnames
      have hstep := ih (Path.join_starts hbase (Path.isAbsolute_of_isName hname)).1 hrest
      rw [lookup?_join hbase hname, Option.bind_assoc] at hstep
      exact hstep

end Following

section Carrying

open FileTree

/-- A relation of trees that makes no difference to following a piece: related trees are
both directories or both not, and their entries are related by name. -/
structure IsCarried (R : FileTree → FileTree → Prop) : Prop where
  isDirectory_eq : ∀ {tree other : FileTree}, R tree other →
    other.isDirectory = tree.isDirectory
  child?_rel : ∀ {tree other : FileTree}, R tree other → ∀ name : String,
    Option.Rel R (tree.child? name) (other.child? name)

/-- Two places are related, and so are the directories above. -/
def RelPlace (R : FileTree → FileTree → Prop) (place other : FileTree × List FileTree) : Prop :=
  R place.1 other.1 ∧ List.Forall₂ R place.2 other.2

variable {R : FileTree → FileTree → Prop} {place place' : FileTree × List FileTree}
  {disk other : Disk}

/-- A relation is carried over one piece. -/
theorem follow_rel (hR : IsCarried R) (h : RelPlace R place place') (piece : String) :
    Option.Rel (RelPlace R) (follow place piece) (follow place' piece) := by
  obtain ⟨here, above⟩ := place
  obtain ⟨here', above'⟩ := place'
  obtain ⟨hhere, habove⟩ := h
  simp only [follow, hR.isDirectory_eq hhere]
  by_cases hdirectory : (!here.isDirectory) = true
  · rw [if_pos hdirectory, if_pos hdirectory]
    exact .none
  · rw [if_neg hdirectory, if_neg hdirectory]
    by_cases hidle : Path.isIdle piece = true
    · rw [if_pos hidle, if_pos hidle]
      exact .some ⟨hhere, habove⟩
    · rw [if_neg hidle, if_neg hidle]
      by_cases hdots : piece = ".."
      · rw [if_pos hdots, if_pos hdots]
        cases habove with
        | nil => exact .some ⟨hhere, .nil⟩
        | cons houter hrest => exact .some ⟨houter, hrest⟩
      · rw [if_neg hdots, if_neg hdots]
        exact rel_map (hR.child?_rel hhere piece) fun _ _ hchild =>
          ⟨hchild, .cons hhere habove⟩

/-- A relation is carried over the pieces of a path. -/
theorem foldlM_follow_rel (hR : IsCarried R) (h : RelPlace R place place')
    (pieces : List String) :
    Option.Rel (RelPlace R) (pieces.foldlM follow place) (pieces.foldlM follow place') := by
  induction pieces generalizing place place' with
  | nil => exact .some h
  | cons piece rest ih =>
      rw [List.foldlM_cons, List.foldlM_cons]
      exact rel_bind (follow_rel hR h piece) fun _ _ hnext => ih hnext

/-- A relation of the roots of two disks holds wherever a path leads. -/
theorem lookup?_rel (hR : IsCarried R) (h : R disk.root other.root)
    (hcwd : other.cwd = disk.cwd) (path : Path) :
    Option.Rel R (disk.lookup? path) (other.lookup? path) := by
  by_cases hempty : path.text = ""
  · rw [lookup?, lookup?, if_pos hempty, if_pos hempty]
    exact .none
  · rw [lookup?_eq hempty, lookup?_eq hempty, hcwd]
    have hroot : RelPlace R (disk.root, []) (other.root, []) := ⟨h, .nil⟩
    exact rel_map (foldlM_follow_rel hR hroot _) fun _ _ hplace => hplace.1

/-- Trees that are listed in different orders have the same entries. -/
theorem isCarried_relisted : IsCarried Relisted where
  isDirectory_eq h := by cases h <;> rfl
  child?_rel h name := by
    cases h with
    | file => exact .none
    | special => exact .none
    | directory once names subtrees =>
        exact rel_of_perm_names child?_eq_some_iff once names (subtrees name)

theorem isCarried_isValid : IsCarried fun tree other => tree = other ∧ tree.IsValid where
  isDirectory_eq h := by rw [h.1]
  child?_rel h name := by
    obtain ⟨rfl, hvalid⟩ := h
    cases hvalid with
    | file => exact .none
    | special => exact .none
    | @directory entries once _ subtrees =>
        cases hchild : (FileTree.directory entries).child? name with
        | none => exact .none
        | some tree =>
            have hmem := (child?_eq_some_iff once tree).mp hchild
            exact .some ⟨rfl, subtrees (name, tree) hmem⟩

/-- What a path leads to on a valid disk is valid. -/
theorem isValid_of_lookup? (hvalid : disk.root.IsValid) {path : Path} {tree : FileTree}
    (h : disk.lookup? path = some tree) : tree.IsValid := by
  have hrel := lookup?_rel isCarried_isValid ⟨rfl, hvalid⟩ rfl path
  rw [h] at hrel
  cases hrel with
  | some htree => exact htree.2

/-- A path that leads to a directory, or to a file, does so in any order of entries. -/
theorem leadsTo_relisted (h : disk.root.Relisted other.root) (hcwd : other.cwd = disk.cwd)
    (path : Path) :
    other.isDirectory path = disk.isDirectory path ∧ other.isFile path = disk.isFile path := by
  have hlookup := lookup?_rel isCarried_relisted h hcwd path
  simp only [isDirectory, isFile]
  generalize disk.lookup? path = found at hlookup ⊢
  generalize other.lookup? path = found' at hlookup ⊢
  cases hlookup with
  | none => exact ⟨rfl, rfl⟩
  | some htree => cases htree <;> exact ⟨rfl, rfl⟩

end Carrying

section Building

open FileTree

variable {tree root changed : FileTree} {entries : List (String × FileTree)} {name : String}
  {here pieces : List String}

theorem isValid_nil : (FileTree.directory []).IsValid :=
  .directory List.nodup_nil (by simp) (by simp)

/-- The entries of a valid tree make up a valid directory. -/
theorem isValid_entries (h : tree.IsValid) : (FileTree.directory tree.entries).IsValid := by
  cases h with
  | file => exact isValid_nil
  | special => exact isValid_nil
  | directory once names subtrees => exact .directory once names subtrees

theorem isValid_child? (h : tree.IsValid) (name : String) :
    ((tree.child? name).getD (.directory [])).IsValid := by
  have hrel := isCarried_isValid.child?_rel ⟨rfl, h⟩ name
  cases hchild : tree.child? name with
  | none => exact isValid_nil
  | some child =>
      rw [hchild] at hrel
      cases hrel with
      | some hvalid => exact hvalid.2

theorem isValid_replaced (h : (FileTree.directory entries).IsValid)
    (hchanged : changed.IsValid) (name : String) :
    (FileTree.directory (entries.map fun entry =>
      if entry.1 = name then (name, changed) else entry)).IsValid := by
  cases h with
  | directory once names subtrees =>
      have hnames : (entries.map fun entry =>
          if entry.1 = name then (name, changed) else entry).map Prod.fst =
          entries.map Prod.fst := by
        rw [List.map_map]
        refine List.map_congr_left ?_
        intro entry _
        rw [Function.comp_apply]
        split
        · rename_i heq
          exact heq.symm
        · rfl
      refine .directory (hnames ▸ once) (List.forall_mem_map.mpr ?_)
        (List.forall_mem_map.mpr ?_)
      · intro entry hmem
        split
        · rename_i heq
          exact heq ▸ names entry hmem
        · exact names entry hmem
      · intro entry hmem
        split
        · exact hchanged
        · exact subtrees entry hmem

theorem isValid_appended (h : (FileTree.directory entries).IsValid)
    (hchanged : changed.IsValid) (hname : Path.IsName name) (hnew : name ∉ entries.map Prod.fst) :
    (FileTree.directory (entries ++ [(name, changed)])).IsValid := by
  cases h with
  | directory once names subtrees =>
      refine .directory ?_ (List.forall_mem_append.mpr ⟨names, by simpa using hname⟩)
        (List.forall_mem_append.mpr ⟨subtrees, by simpa using hchanged⟩)
      rw [List.map_append, List.map_singleton, List.nodup_append_comm]
      exact List.nodup_cons.mpr ⟨hnew, once⟩

/-- A change that keeps trees valid does so wherever names lead. -/
theorem isValid_alter {change : FileTree → FileTree}
    (hchange : ∀ tree : FileTree, tree.IsValid → (change tree).IsValid)
    (hhere : ∀ name ∈ here, Path.IsName name) (hroot : root.IsValid) :
    (alter change here root).IsValid := by
  induction here generalizing root with
  | nil => exact hchange root hroot
  | cons name rest ih =>
      obtain ⟨hname, hrest⟩ := List.forall_mem_cons.mp hhere
      have hchanged := ih hrest (isValid_child? hroot name)
      have hentries := isValid_entries hroot
      rw [alter]
      split
      · exact isValid_replaced hentries hchanged name
      · rename_i hnone
        refine isValid_appended hentries hchanged hname ?_
        intro hmem
        obtain ⟨entry, hentry, heq⟩ := List.mem_map.mp hmem
        exact hnone (List.any_eq_true.mpr ⟨entry, hentry, decide_eq_true heq⟩)

theorem isValid_asDirectory (h : tree.IsValid) : tree.asDirectory.IsValid := by
  rw [asDirectory]
  split
  · exact h
  · exact isValid_nil

/-- A disk with nothing but its current directory is valid. -/
theorem isValid_empty {cwd : List String} (hcwd : ∀ name ∈ cwd, Path.IsName name) :
    (empty cwd).root.IsValid :=
  isValid_alter (fun _ => isValid_asDirectory) hcwd isValid_nil

theorem isValid_putAt (htree : tree.IsValid)
    (hpieces : ∀ piece ∈ pieces, Path.isIdle piece = false → piece ≠ ".." → Path.IsName piece)
    (hhere : ∀ name ∈ here, Path.IsName name) (hroot : root.IsValid) :
    (putAt tree here pieces root).IsValid := by
  induction pieces generalizing here root with
  | nil => exact isValid_alter (fun _ _ => htree) hhere hroot
  | cons piece rest ih =>
      obtain ⟨hpiece, hrest⟩ := List.forall_mem_cons.mp hpieces
      refine ih hrest ?_ (isValid_alter (fun _ => isValid_asDirectory) hhere hroot)
      rw [namesAfter]
      split
      · exact hhere
      · rename_i hidle
        split
        · intro name hmem
          exact hhere name (List.dropLast_subset here hmem)
        · rename_i hdots
          have hname := hpiece (Bool.eq_false_iff.mpr hidle) hdots
          exact List.forall_mem_append.mpr ⟨hhere, by simpa using hname⟩

/-- A valid tree that is put on a valid disk leaves it valid. -/
theorem isValid_put {disk : Disk} (hroot : disk.root.IsValid)
    (hcwd : ∀ name ∈ disk.cwd, Path.IsName name) (htree : tree.IsValid) (path : Path) :
    (disk.put path tree).root.IsValid := by
  refine isValid_putAt htree (fun _ => Path.isName_of_mem_pieces) ?_ hroot
  split
  · simp
  · exact hcwd

/-- A disk that starts with its current directory, and on which valid trees are put. -/
inductive IsBuilt : Disk → Prop
  | empty (cwd : List String) (names : ∀ name ∈ cwd, Path.IsName name) : IsBuilt (empty cwd)
  | put {disk : Disk} (built : IsBuilt disk) (path : Path) {tree : FileTree}
      (valid : tree.IsValid) : IsBuilt (disk.put path tree)

/-- What is built is valid, and so are the names of its current directory. -/
theorem IsBuilt.isValid {disk : Disk} (h : disk.IsBuilt) :
    disk.root.IsValid ∧ ∀ name ∈ disk.cwd, Path.IsName name := by
  induction h with
  | empty cwd names => exact ⟨isValid_empty names, names⟩
  | put _ path valid ih => exact ⟨isValid_put ih.1 ih.2 valid path, ih.2⟩

end Building

end Disk
end DesiredState
