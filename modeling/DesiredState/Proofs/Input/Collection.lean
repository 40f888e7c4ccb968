import DesiredState.Input.Collection
import DesiredState.Proofs.Disk

/-!
# What collection collects

**Input.** A valid disk, and the paths that node files are collected from.

**Rule.** A path is good if it leads to a directory or to a file; the first one that is
not is the failure. The files of good paths come block by block, in the order of the
paths. The block of a file is the file. The block of a directory holds every node file at
any depth below it, each once, ordered component by component. The name of a node file is
a stem that is not empty, a dot, and the name of a format, letter for letter.

**Results.**
* `ofPath?_below_isSome_iff`: the names of node files.
* `mem_nodeFilesBelow_iff`: the node files below a directory.
* `IsBlock.unique`: a path has one block at most.
* `collect_eq_error_iff`, `collect_eq_ok_iff`: failure and success, path by path.
* `collect_exact`: what is collected, and that the order of listing does not count.
-/

namespace DesiredState

section Defs

/-- The name of a node file: a stem, a dot, and the name of a format. -/
def NodeFile.IsFileName (name : String) : Prop :=
  ∃ (stem : String) (format : NodeFormat), stem ≠ "" ∧ name = stem ++ "." ++ format.name

namespace Disk

/-- A node file at any depth below a path. -/
def IsNodeFileBelow (disk : Disk) (path file : Path) : Prop :=
  ∃ (outer : List String) (name : String), (∀ other ∈ outer ++ [name], Path.IsName other) ∧
    file = path.below (outer ++ [name]) ∧ disk.isFile file = true ∧ NodeFile.IsFileName name

/-- What a path contributes: a file itself, and a directory the node files below it, each
once and in order. -/
inductive IsBlock (disk : Disk) (path : Path) : List Path → Prop
  | file (file : disk.isFile path = true) : IsBlock disk path [path]
  | directory {files : List Path} (directory : disk.isDirectory path = true)
      (complete : ∀ file, file ∈ files ↔ disk.IsNodeFileBelow path file)
      (once : files.Nodup) (ordered : files.Pairwise Path.Before) : IsBlock disk path files

end Disk

end Defs

section Names

theorem NodeFormat.ofPath?_eq_some_iff (path : Path) (format : NodeFormat) :
    ofPath? path = some format ↔ path.extension? = some format.name := by
  rw [ofPath?]
  split
  · rename_i htoml
    rw [htoml]
    cases format <;> simp [name]
  · rename_i hjson
    rw [hjson]
    cases format <;> simp [name]
  · rename_i htoml hjson
    constructor
    · intro h
      cases h
    · intro h
      cases format with
      | toml => exact absurd h htoml
      | json => exact absurd h hjson

/-- The last name tells whether a path is that of a node file. -/
theorem NodeFormat.ofPath?_below_isSome_iff {base : Path} {outer : List String} {name : String}
    (hbase : base.text ≠ "") (hnames : ∀ other ∈ outer ++ [name], Path.IsName other) :
    (ofPath? (base.below (outer ++ [name]))).isSome = true ↔ NodeFile.IsFileName name := by
  have hdotless : ∀ format : NodeFormat, '.' ∉ format.name.toList := by
    intro format
    cases format <;> decide
  simp only [Option.isSome_iff_exists, ofPath?_eq_some_iff, Path.extension?,
    Path.fileName?_below hbase hnames, Option.bind_some, Path.cutName_eq_some_iff]
  constructor
  · rintro ⟨format, stem, hstem, hname, _⟩
    exact ⟨stem, format, hstem, hname⟩
  · rintro ⟨stem, format, hstem, hname⟩
    exact ⟨format, stem, hstem, hname, hdotless format⟩

end Names

namespace Disk

section Walking

variable {disk : Disk} {path : Path} {tree : FileTree}

theorem exists_of_isDirectory (h : disk.isDirectory path = true) :
    ∃ entries, disk.lookup? path = some (.directory entries) := by
  rw [isDirectory] at h
  split at h
  · rename_i entries hlookup
    exact ⟨entries, hlookup⟩
  · cases h

theorem isFile_iff : disk.isFile path = true ↔ ∃ bytes, disk.lookup? path = some (.file bytes) := by
  rw [isFile]
  split
  · rename_i bytes hlookup
    simp [hlookup]
  · rename_i hother
    simpa using hother

theorem walk_eq (h : disk.lookup? path = some tree) :
    disk.walk path = (tree.filePaths.mergeSort pathLe).map path.below := by
  rw [walk, h]
  rfl

theorem pathLe_iff (a b : List String) : pathLe a b = true ↔ ¬ b < a := by
  rw [pathLe, Bool.not_eq_true', decide_eq_false_iff_not]

theorem pairwise_mergeSort (paths : List (List String)) :
    (paths.mergeSort pathLe).Pairwise fun a b => ¬ b < a := by
  have hsorted : (paths.mergeSort pathLe).Pairwise fun a b => pathLe a b = true := by
    refine List.pairwise_mergeSort ?_ ?_ _
    · intro a b c hab hbc
      rw [pathLe_iff, List.not_lt] at hab hbc ⊢
      exact List.le_trans hab hbc
    · intro a b
      rw [Bool.or_eq_true, pathLe_iff, pathLe_iff, List.not_lt, List.not_lt]
      exact List.le_total a b
  exact hsorted.imp fun hle => (pathLe_iff _ _).mp hle

theorem eq_of_not_lt {a b : List String} (hab : ¬ b < a) (hba : ¬ a < b) : a = b :=
  List.le_antisymm (List.not_lt.mp hab) (List.not_lt.mp hba)

/-- The names of the files below a tree are sorted strictly. -/
theorem pairwise_mergeSort_filePaths (h : tree.IsValid) :
    (tree.filePaths.mergeSort pathLe).Pairwise (· < ·) := by
  have hdistinct : (tree.filePaths.mergeSort pathLe).Nodup :=
    (List.mergeSort_perm tree.filePaths pathLe).nodup_iff.mpr h.nodup_filePaths
  refine (pairwise_mergeSort tree.filePaths).imp₂ ?_ hdistinct
  intro a b hle hne
  by_contra hlt
  exact hne (eq_of_not_lt hle hlt)

/-- A sorted list of the files below a directory is what a walk lists. -/
theorem walk_of_sorted (h : disk.lookup? path = some tree) {sorted : List (List String)}
    (hperm : tree.filePaths.Perm sorted) (hsorted : sorted.Pairwise (· < ·)) :
    disk.walk path = sorted.map path.below := by
  have heq : tree.filePaths.mergeSort pathLe = sorted := by
    refine ((List.mergeSort_perm _ _).trans hperm).eq_of_pairwise ?_
      (pairwise_mergeSort tree.filePaths) (hsorted.imp List.lt_asymm)
    intro a b _ _ hab hba
    exact eq_of_not_lt hab hba
  rw [walk_eq h, heq]

/-- The node files below a directory. -/
theorem mem_nodeFilesBelow_iff (hvalid : disk.root.IsValid) (h : disk.isDirectory path = true)
    (file : Path) : file ∈ disk.nodeFilesBelow path ↔ disk.IsNodeFileBelow path file := by
  obtain ⟨entries, hlookup⟩ := exists_of_isDirectory h
  have hbase := ne_empty_of_lookup? hlookup
  have htree := isValid_of_lookup? hvalid hlookup
  have hfile : ∀ {names : List String}, (∀ name ∈ names, Path.IsName name) →
      (disk.isFile (path.below names) = true ↔
        names ∈ (FileTree.directory entries).filePaths) := by
    intro names hnames
    rw [isFile_iff, lookup?_below hbase hnames, hlookup, Option.bind_some,
      htree.mem_filePaths_iff]
  rw [nodeFilesBelow, List.mem_filter, walk_eq hlookup, List.mem_map]
  simp only [List.mem_mergeSort]
  constructor
  · rintro ⟨⟨names, hmem, rfl⟩, hnamed⟩
    have hnames := htree.isName_of_mem_filePaths hmem
    -- No names lead to the directory itself, so there is a last name.
    rcases List.eq_nil_or_concat names with rfl | ⟨outer, name, rfl⟩
    · obtain ⟨bytes, hroot⟩ := (htree.mem_filePaths_iff []).mp hmem
      cases hroot
    · rw [List.concat_eq_append] at hnamed hnames hmem ⊢
      exact ⟨outer, name, hnames, rfl, (hfile hnames).mpr hmem,
        (NodeFormat.ofPath?_below_isSome_iff hbase hnames).mp hnamed⟩
  · rintro ⟨outer, name, hnames, rfl, hisFile, hnamed⟩
    exact ⟨⟨outer ++ [name], (hfile hnames).mp hisFile, rfl⟩,
      (NodeFormat.ofPath?_below_isSome_iff hbase hnames).mpr hnamed⟩

theorem pairwise_nodeFilesBelow (hvalid : disk.root.IsValid)
    (h : disk.isDirectory path = true) : (disk.nodeFilesBelow path).Pairwise Path.Before := by
  obtain ⟨entries, hlookup⟩ := exists_of_isDirectory h
  have hbase := ne_empty_of_lookup? hlookup
  have htree := isValid_of_lookup? hvalid hlookup
  have hnames : ∀ names ∈ (FileTree.directory entries).filePaths.mergeSort pathLe,
      ∀ name ∈ names, Path.IsName name :=
    fun names hmem => htree.isName_of_mem_filePaths (List.mem_mergeSort.mp hmem)
  rw [nodeFilesBelow, walk_eq hlookup]
  refine List.Pairwise.filter _ (List.pairwise_map.mpr ?_)
  refine (pairwise_mergeSort_filePaths htree).imp_of_mem ?_
  intro xs ys hxs hys hlt
  exact Path.before_below hbase (hnames xs hxs) (hnames ys hys) hlt

end Walking

section Blocks

variable {disk : Disk} {path : Path} {files others : List Path}

theorem isFile_eq_false_of_isDirectory (h : disk.isDirectory path = true) :
    disk.isFile path = false := by
  obtain ⟨entries, hlookup⟩ := exists_of_isDirectory h
  rw [isFile, hlookup]

/-- A directory has one list of its node files in order. -/
theorem IsBlock.unique (h : disk.IsBlock path files) (h' : disk.IsBlock path others) :
    files = others := by
  cases h with
  | file hfile =>
      cases h' with
      | file => rfl
      | directory hdirectory =>
          rw [isFile_eq_false_of_isDirectory hdirectory] at hfile
          cases hfile
  | directory hdirectory complete once ordered =>
      cases h' with
      | file hfile =>
          rw [isFile_eq_false_of_isDirectory hdirectory] at hfile
          cases hfile
      | directory _ complete' once' ordered' =>
          have hperm : files.Perm others := by
            rw [List.perm_ext_iff_of_nodup once once']
            intro file
            rw [complete, complete']
          refine hperm.eq_of_pairwise ?_ ordered ordered'
          intro a b _ _ hab hba
          exact absurd hba (Path.before_asymm hab)

/-- Success on one path. -/
theorem nodeFilesAt_eq_ok_iff (hvalid : disk.root.IsValid) :
    disk.nodeFilesAt path = .ok files ↔ disk.IsBlock path files := by
  have hblock : disk.isDirectory path = true →
      disk.IsBlock path (disk.nodeFilesBelow path) := by
    intro hdirectory
    have hordered := pairwise_nodeFilesBelow hvalid hdirectory
    refine .directory hdirectory (mem_nodeFilesBelow_iff hvalid hdirectory) ?_ hordered
    refine hordered.imp ?_
    rintro a _ hbefore rfl
    exact Path.before_asymm hbefore hbefore
  rw [nodeFilesAt]
  split
  · rename_i hdirectory
    constructor
    · intro h
      cases h
      exact hblock hdirectory
    · intro h
      rw [(hblock hdirectory).unique h]
  · rename_i hdirectory
    split
    · rename_i hfile
      constructor
      · intro h
        cases h
        exact .file hfile
      · intro h
        rw [(IsBlock.file hfile).unique h]
    · rename_i hfile
      constructor
      · intro h
        cases h
      · intro h
        cases h with
        | file h => exact absurd h hfile
        | directory h => exact absurd h hdirectory

/-- Failure on one path. -/
theorem nodeFilesAt_eq_error_iff (failure : InputFailure) :
    disk.nodeFilesAt path = .error failure ↔
      disk.isDirectory path = false ∧ disk.isFile path = false ∧ failure = .notFound path := by
  rw [nodeFilesAt]
  cases disk.isDirectory path with
  | true => simp
  | false =>
      cases disk.isFile path with
      | true => simp
      | false => simp [eq_comm]

theorem exists_nodeFilesAt_iff (disk : Disk) (path : Path) :
    (∃ files, disk.nodeFilesAt path = .ok files) ↔
      disk.isDirectory path = true ∨ disk.isFile path = true := by
  rw [nodeFilesAt]
  cases disk.isDirectory path with
  | true => simp
  | false => cases disk.isFile path <;> simp

variable {other : Disk}

/-- A block depends on nothing but which paths lead to directories and to files. -/
theorem IsBlock.congr (hdirectory : ∀ path, other.isDirectory path = disk.isDirectory path)
    (hfile : ∀ path, other.isFile path = disk.isFile path) (h : disk.IsBlock path files) :
    other.IsBlock path files := by
  cases h with
  | file h => exact .file ((hfile path).trans h)
  | directory h complete once ordered =>
      refine .directory ((hdirectory path).trans h) ?_ once ordered
      intro file
      rw [complete, IsNodeFileBelow, IsNodeFileBelow, hfile]

/-- What a path stands for does not depend on the order in which entries are listed. -/
theorem nodeFilesAt_relisted (hvalid : disk.root.IsValid) (h : disk.root.Relisted other.root)
    (hcwd : other.cwd = disk.cwd) (path : Path) :
    other.nodeFilesAt path = disk.nodeFilesAt path := by
  have hsame := leadsTo_relisted h hcwd
  cases hat : disk.nodeFilesAt path with
  | error failure =>
      rw [nodeFilesAt_eq_error_iff] at hat ⊢
      rwa [(hsame path).1, (hsame path).2]
  | ok files =>
      rw [nodeFilesAt_eq_ok_iff hvalid] at hat
      rw [nodeFilesAt_eq_ok_iff (hvalid.of_relisted h)]
      exact hat.congr (fun path => (hsame path).1) fun path => (hsame path).2

end Blocks

section Collection

variable {disk other : Disk}

/-- Collection fails at the first path that leads nowhere. -/
theorem collect_eq_error_iff (disk : Disk) (paths : List Path) (failure : InputFailure) :
    disk.collect paths = .error failure ↔
      ∃ earlier path later, paths = earlier ++ path :: later ∧
        (∀ other ∈ earlier, ∃ files, disk.nodeFilesAt other = .ok files) ∧
        disk.nodeFilesAt path = .error failure := by
  induction paths with
  | nil => simp [collect]
  | cons path rest ih =>
      rw [exists_first_cons_iff, ← ih, collect]
      cases disk.nodeFilesAt path with
      | error found => simp
      | ok files => cases disk.collect rest <;> simp

/-- Collection puts together what the paths stand for. -/
theorem collect_eq_ok_iff (disk : Disk) (paths files : List Path) :
    disk.collect paths = .ok files ↔
      ∃ blocks, List.Forall₂ (fun path block => disk.nodeFilesAt path = .ok block) paths blocks ∧
        files = blocks.flatten := by
  constructor
  · intro h
    induction paths generalizing files with
    | nil =>
        cases h
        exact ⟨[], .nil, rfl⟩
    | cons path rest ih =>
        rw [collect] at h
        split at h
        · cases h
        · rename_i first hfirst
          split at h
          · cases h
          · rename_i more hmore
            cases h
            obtain ⟨blocks, hblocks, rfl⟩ := ih more hmore
            exact ⟨first :: blocks, .cons hfirst hblocks, rfl⟩
  · rintro ⟨blocks, hblocks, rfl⟩
    induction hblocks with
    | nil => rfl
    | cons hfirst _ ih =>
        rw [collect, hfirst, ih]
        rfl

theorem collect_congr (h : ∀ path, other.nodeFilesAt path = disk.nodeFilesAt path)
    (paths : List Path) : other.collect paths = disk.collect paths := by
  induction paths with
  | nil => rfl
  | cons path rest ih => rw [collect, collect, h path, ih]

/-- The first path that leads neither to a directory nor to a file ends the collection.
If there is none, the blocks of all paths follow one another. Another order in which the
entries of directories are listed makes no difference. -/
theorem collect_exact (disk : Disk) (hvalid : disk.root.IsValid) (paths : List Path) :
    (∀ failure, disk.collect paths = .error failure ↔
      ∃ earlier path later, paths = earlier ++ path :: later ∧
        (∀ other ∈ earlier, disk.isDirectory other = true ∨ disk.isFile other = true) ∧
        disk.isDirectory path = false ∧ disk.isFile path = false ∧
        failure = .notFound path) ∧
    (∀ files, disk.collect paths = .ok files ↔
      ∃ blocks, List.Forall₂ disk.IsBlock paths blocks ∧ files = blocks.flatten) ∧
    ∀ other : Disk, other.cwd = disk.cwd → disk.root.Relisted other.root →
      other.collect paths = disk.collect paths := by
  refine ⟨?_, ?_, ?_⟩
  · intro failure
    rw [collect_eq_error_iff]
    simp only [exists_nodeFilesAt_iff, nodeFilesAt_eq_error_iff]
  · intro files
    rw [collect_eq_ok_iff]
    simp only [nodeFilesAt_eq_ok_iff hvalid]
  · intro other hcwd hrelisted
    exact collect_congr (nodeFilesAt_relisted hvalid hrelisted hcwd) paths

/-- A directory beside a file that it is the stem of, files whose names would be those of
node files but for a stem, or for the case of the extension, and a link that has the name
of one. -/
def nested : Disk where
  root := .directory
    [("a.toml", .file .empty), (".toml", .file .empty), ("X.TOML", .file .empty),
      ("notes.txt", .file .empty), ("link.toml", .special),
      ("a", .directory [("b.toml", .file .empty)])]
  cwd := []

/-- The same directory, listed from its end. -/
def nestedBackwards : Disk where
  root := .directory nested.root.entries.reverse
  cwd := []

/-- What is below `a` comes before `a.toml`, and the other entries of the directory are no
node files; one of them counts where it is given itself. -/
theorem collect_nested :
    nested.root.IsValid ∧ nested.root.Relisted nestedBackwards.root ∧
    (∃ blocks, List.Forall₂ nested.IsBlock [⟨"."⟩, ⟨"notes.txt"⟩] blocks ∧
      [⟨"./a/b.toml"⟩, ⟨"./a.toml"⟩, ⟨"notes.txt"⟩] = blocks.flatten) ∧
    nestedBackwards.collect [⟨"."⟩, ⟨"notes.txt"⟩] =
      .ok [⟨"./a/b.toml"⟩, ⟨"./a.toml"⟩, ⟨"notes.txt"⟩] ∧
    nested.collect [⟨"."⟩, ⟨"gone"⟩, ⟨"lost"⟩] = .error (.notFound ⟨"gone"⟩) := by
  have hfile : FileTree.IsValid (.file .empty) := .file _
  have hinner : FileTree.IsValid (.directory [("b.toml", .file .empty)]) :=
    .directory (by decide) (by decide) (by simpa using hfile)
  have hvalid : nested.root.IsValid :=
    .directory (by decide) (by decide) (by simpa [hfile, FileTree.IsValid.special] using hinner)
  have hrelisted : nested.root.Relisted nestedBackwards.root :=
    hvalid.relisted_of_perm (List.reverse_perm _).symm
  obtain ⟨_, hok, horder⟩ := collect_exact nested hvalid [⟨"."⟩, ⟨"notes.txt"⟩]
  have hsorted : nested.root.filePaths.Perm
      [[".toml"], ["X.TOML"], ["a", "b.toml"], ["a.toml"], ["notes.txt"]] := by decide
  have hlookup : nested.lookup? ⟨"."⟩ = some nested.root := rfl
  have hbelow : nested.nodeFilesBelow ⟨"."⟩ = [⟨"./a/b.toml"⟩, ⟨"./a.toml"⟩] := by
    rw [nodeFilesBelow, walk_of_sorted hlookup hsorted (by decide)]
    decide +kernel
  have hcollect : nested.collect [⟨"."⟩, ⟨"notes.txt"⟩] =
      .ok [⟨"./a/b.toml"⟩, ⟨"./a.toml"⟩, ⟨"notes.txt"⟩] := by
    rw [collect, nodeFilesAt, if_pos (by decide +kernel), hbelow]
    decide +kernel
  refine ⟨hvalid, hrelisted, (hok _).mp hcollect, ?_, ?_⟩
  · rw [horder nestedBackwards rfl hrelisted, hcollect]
  · obtain ⟨herror, _, _⟩ := collect_exact nested hvalid [⟨"."⟩, ⟨"gone"⟩, ⟨"lost"⟩]
    exact (herror _).mpr ⟨[⟨"."⟩], ⟨"gone"⟩, [⟨"lost"⟩], rfl, by decide +kernel⟩

end Collection

end Disk
end DesiredState
