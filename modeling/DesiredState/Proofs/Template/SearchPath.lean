import DesiredState.Proofs.Disk
import DesiredState.Report.Node
import Mathlib.Data.List.Induction

/-!
# Roots with the same components

**Input.** A list of roots on a disk, and the path of a template.

**Idea.** The components of a path keep all of its pieces but the idle ones, and on the way
to something else an idle piece only needs a directory, which the next piece needs as well.
So a relative path behind two roots with the same components leads to the same place. Where
a root has the file of a template, the first root with its components has that file too,
and a search that leaves out the later ones ends at the same root, in the same spelling.

**Results.**
* `filter_pieces`: the pieces of a path that are not idle.
* `foldlM_follow_append`: idle pieces on the way make no difference.
* `lookup?_join_congr`: where a relative path behind a root leads.
* `keepsFirst_ofRoots`: the roots that a search path keeps.
* `find?_foldl_addRoot`: a search among them.
* `locate?_searchPath`: a root from the command line comes before that of the node.
* `ofRoots_exact`: the template that a search path finds.
* `locate?_respelled`: two directories in four spellings.
-/

namespace DesiredState

namespace Path

section Defs

/-- The piece of a component, if it is not idle. -/
def Component.piece? : Component → Option String
  | .root => none
  | .current => none
  | .parent => some ".."
  | .normal name => some name

end Defs

section Spelling

variable {a b path : Path} {first piece : String} {rest : List String}

/-- The first piece is empty in an empty path, and where a path starts at the root. -/
theorem first_piece_eq_empty_iff (h : path.pieces = first :: rest) :
    first = "" ↔ path.text = "" ∨ path.isAbsolute = true := by
  have htext : path.text = "" ↔ path.text.toList = [] := String.toList_eq_nil_iff.symm
  rw [pieces_eq] at h
  rw [htext, isAbsolute]
  cases hcs : path.text.toList with
  | nil =>
      rw [hcs] at h
      cases h
      simp
  | cons c more =>
      obtain ⟨piece, pieces, hmore⟩ :=
        List.exists_cons_of_ne_nil (List.splitOn_ne_nil '/' more)
      rw [hcs, List.splitOn_cons_eq_if_modifyHead, hmore] at h
      split at h
      · rename_i hslash
        cases h
        simp [beq_iff_eq.mp hslash]
      · rename_i hslash
        cases h
        simp [mt beq_iff_eq.mpr hslash]

theorem componentOf?_eq_none_iff (piece : String) :
    componentOf? piece = none ↔ isIdle piece = true := by
  rw [componentOf?, isIdle]
  split
  · rename_i hidle
    exact iff_of_true rfl hidle
  · rename_i hidle
    split <;> exact iff_of_false (Option.some_ne_none _) hidle

theorem componentOf?_eq_some {component : Component} (h : componentOf? piece = some component) :
    component.piece? = some piece ∧ component ≠ .root := by
  rw [componentOf?] at h
  split at h
  · cases h
  · split at h
    · rename_i hdots
      cases h
      exact ⟨congrArg some hdots.symm, by simp⟩
    · cases h
      exact ⟨rfl, by simp⟩

/-- A first piece that is not empty is one component, and not the root. -/
theorem firstComponents_of_ne (absolute : Bool) (h : first ≠ "") :
    ∃ component, firstComponents absolute first = [component] ∧ component ≠ .root := by
  unfold firstComponents
  split
  · exact absurd rfl h
  · exact ⟨.current, rfl, by simp⟩
  · rename_i hdot
    cases hcomponent : componentOf? first with
    | none =>
        have hidle := (componentOf?_eq_none_iff first).mp hcomponent
        simp only [isIdle, h, decide_false, Bool.false_or, decide_eq_true_eq] at hidle
        exact absurd hidle hdot
    | some component =>
        exact ⟨component, by simp [hcomponent], (componentOf?_eq_some hcomponent).2⟩

/-- The components tell whether a path starts at the root. -/
theorem root_mem_components_iff (path : Path) :
    Component.root ∈ path.components ↔ path.isAbsolute = true := by
  obtain ⟨first, rest, hpieces⟩ := exists_pieces path
  have hfirst := first_piece_eq_empty_iff hpieces
  have hrest : Component.root ∉ rest.filterMap componentOf? := by
    intro hmem
    obtain ⟨piece, _, hpiece⟩ := List.mem_filterMap.mp hmem
    exact (componentOf?_eq_some hpiece).2 rfl
  rw [components_of_pieces hpieces, List.mem_append, or_iff_left hrest]
  by_cases hempty : first = ""
  · rw [hempty, firstComponents]
    cases path.isAbsolute <;> simp
  · obtain ⟨component, hcomponent, hne⟩ := firstComponents_of_ne path.isAbsolute hempty
    rw [hcomponent, List.mem_singleton]
    exact iff_of_false hne.symm fun habsolute => hempty (hfirst.mpr (.inr habsolute))

theorem isAbsolute_eq_of_components (h : a.components = b.components) :
    a.isAbsolute = b.isAbsolute := by
  rw [Bool.eq_iff_iff, ← root_mem_components_iff, ← root_mem_components_iff, h]

/-- Only an empty path has no components. -/
theorem components_eq_nil_iff (path : Path) : path.components = [] ↔ path.text = "" := by
  obtain ⟨first, rest, hpieces⟩ := exists_pieces path
  have hfirst := first_piece_eq_empty_iff hpieces
  constructor
  · intro hnil
    have habsolute : path.isAbsolute ≠ true := by
      rw [Ne, ← root_mem_components_iff, hnil]
      exact List.not_mem_nil
    rw [components_of_pieces hpieces] at hnil
    by_cases hempty : first = ""
    · exact (hfirst.mp hempty).resolve_right habsolute
    · obtain ⟨component, hcomponent, _⟩ := firstComponents_of_ne path.isAbsolute hempty
      rw [hcomponent] at hnil
      cases hnil
  · obtain ⟨text⟩ := path
    rintro rfl
    rfl

theorem filterMap_componentOf? (pieces : List String) :
    (pieces.filterMap componentOf?).filterMap Component.piece? =
      pieces.filter fun piece => !isIdle piece := by
  rw [List.filterMap_filterMap, ← List.filterMap_eq_filter]
  refine List.filterMap_congr ?_
  intro piece _
  cases hcomponent : componentOf? piece with
  | none => simp [Option.guard, (componentOf?_eq_none_iff piece).mp hcomponent]
  | some component =>
      have hidle : isIdle piece ≠ true := by
        rw [Ne, ← componentOf?_eq_none_iff, hcomponent]
        exact Option.some_ne_none component
      simp [Option.guard, hidle, (componentOf?_eq_some hcomponent).1]

/-- The components keep the pieces that are not idle. -/
theorem filter_pieces (path : Path) :
    path.pieces.filter (fun piece => !isIdle piece) =
      path.components.filterMap Component.piece? := by
  obtain ⟨first, rest, hpieces⟩ := exists_pieces path
  have hfirst : (firstComponents path.isAbsolute first).filterMap Component.piece? =
      [first].filter fun piece => !isIdle piece := by
    unfold firstComponents
    split
    · cases path.isAbsolute <;> rfl
    · rfl
    · exact filterMap_componentOf? _
  rw [components_of_pieces hpieces, hpieces, List.filterMap_append, hfirst,
    filterMap_componentOf?, ← List.filter_append, List.singleton_append]

end Spelling

end Path

namespace Disk

section Following

variable {disk : Disk} {place : FileTree × List FileTree} {a b next : Path}
  {pieces later : List String}

theorem follow_of_file (hplace : place.1.isDirectory = false) (piece : String) :
    follow place piece = none := by
  simp [follow, hplace]

/-- Nothing is below a file. -/
theorem foldlM_follow_of_file (hplace : place.1.isDirectory = false) (h : pieces ≠ []) :
    pieces.foldlM follow place = none := by
  obtain ⟨piece, rest, rfl⟩ := List.exists_cons_of_ne_nil h
  rw [List.foldlM_cons, follow_of_file hplace]
  rfl

/-- Idle pieces on the way to another piece make no difference. -/
theorem foldlM_follow_append (pieces : List String) (h : later ≠ [])
    (place : FileTree × List FileTree) :
    (pieces ++ later).foldlM follow place =
      (pieces.filter (fun piece => !Path.isIdle piece) ++ later).foldlM follow place := by
  induction pieces generalizing place with
  | nil => rfl
  | cons piece rest ih =>
      rw [List.cons_append, List.foldlM_cons, List.filter_cons]
      by_cases hidle : Path.isIdle piece = true
      · -- It stays in place in a directory; below a file what comes next fails as well.
        rw [if_neg (by simp [hidle])]
        by_cases hdirectory : place.1.isDirectory = true
        · have hfollow : follow place piece = some place := by
            simp [follow, hdirectory, hidle]
          rw [hfollow]
          exact ih place
        · rw [Bool.not_eq_true] at hdirectory
          have hne : rest.filter (fun piece => !Path.isIdle piece) ++ later ≠ [] := by simp [h]
          rw [foldlM_follow_of_file hdirectory hne, follow_of_file hdirectory]
          rfl
      · rw [if_pos (by simp [hidle]), List.cons_append, List.foldlM_cons]
        exact congrArg _ (funext ih)

/-- A relative path is followed from where the pieces of a base that count lead. -/
theorem lookup?_join_eq (hbase : a.text ≠ "") (hnext : next.isAbsolute = false) :
    disk.lookup? (a.join next) =
      (((if a.isAbsolute then [] else disk.cwd) ++
        (a.components.filterMap Path.Component.piece? ++ next.pieces)).foldlM follow
          (disk.root, [])).map Prod.fst := by
  obtain ⟨outer, _, hjoin, hpieces⟩ := Path.exists_pieces_join hbase hnext
  obtain ⟨hne, habsolute⟩ := Path.join_starts hbase hnext
  have houter : outer.filter (fun piece => !Path.isIdle piece) =
      a.components.filterMap Path.Component.piece? := by
    rw [← Path.filter_pieces]
    rcases hpieces with hpieces | hpieces
    · rw [hpieces]
    · have hidle : Path.isIdle "" = true := rfl
      simp [hpieces, hidle]
  obtain ⟨first, rest, hnextPieces⟩ := Path.exists_pieces next
  have hlater : next.pieces ≠ [] := by simp [hnextPieces]
  rw [lookup?_eq hne, hjoin, habsolute, List.foldlM_append, List.foldlM_append]
  simp only [foldlM_follow_append outer hlater, houter]

/-- A relative path behind paths with the same components leads to the same place. -/
theorem lookup?_join_congr (h : a.components = b.components) (hnext : next.isAbsolute = false) :
    disk.lookup? (a.join next) = disk.lookup? (b.join next) := by
  have hempty : a.text = "" ↔ b.text = "" := by
    rw [← Path.components_eq_nil_iff, ← Path.components_eq_nil_iff, h]
  by_cases ha : a.text = ""
  · simp [Path.join, ha, hempty.mp ha]
  · rw [lookup?_join_eq ha hnext, lookup?_join_eq (mt hempty.mpr ha) hnext,
      Path.isAbsolute_eq_of_components h, h]

theorem isFile_join_congr (h : a.components = b.components) (hnext : next.isAbsolute = false) :
    disk.isFile (a.join next) = disk.isFile (b.join next) := by
  rw [isFile, isFile, lookup?_join_congr h hnext]

end Following

end Disk

namespace SearchPath

section Defs

/-- The roots without those that have the components of an earlier one, in the order in
which they come first. -/
structure KeepsFirst (roots kept : List Path) : Prop where
  mem_iff : ∀ root, root ∈ kept ↔ ∃ earlier later, roots = earlier ++ root :: later ∧
    ∀ other ∈ earlier, other.components ≠ root.components
  once : (kept.map Path.components).Nodup
  ordered : kept.Pairwise fun a b => roots.idxOf a < roots.idxOf b

/-- The file of a template: the template itself when it is absolute, and otherwise the one
below the first root that has it. -/
inductive Finds (disk : Disk) (roots : List Path) (template : Path) : Path → Prop
  | itself (absolute : template.isAbsolute = true) (file : disk.isFile template = true) :
      Finds disk roots template template
  | below {earlier later : List Path} {root : Path} (relative : template.isAbsolute = false)
      (split : roots = earlier ++ root :: later)
      (first : ∀ other ∈ earlier, disk.isFile (other.join template) = false)
      (file : disk.isFile (root.join template) = true) :
      Finds disk roots template (root.join template)

end Defs

section Keeping

variable {roots kept : List Path} {root : Path}

/-- A root at the end comes first when no root before it has its components. -/
theorem exists_first_concat_iff (roots : List Path) (root x : Path) :
    (∃ earlier later, roots ++ [root] = earlier ++ x :: later ∧
        ∀ other ∈ earlier, other.components ≠ x.components) ↔
      (∃ earlier later, roots = earlier ++ x :: later ∧
        ∀ other ∈ earlier, other.components ≠ x.components) ∨
      (x = root ∧ ∀ other ∈ roots, other.components ≠ root.components) := by
  constructor
  · rintro ⟨earlier, later, hsplit, hfirst⟩
    rcases List.eq_nil_or_concat later with rfl | ⟨later, last, rfl⟩
    · obtain ⟨rfl, hroot⟩ := List.append_inj' hsplit rfl
      cases hroot
      exact .inr ⟨rfl, hfirst⟩
    · rw [List.concat_eq_append, ← List.cons_append, ← List.append_assoc] at hsplit
      obtain ⟨rfl, _⟩ := List.append_inj' hsplit rfl
      exact .inl ⟨earlier, later, rfl, hfirst⟩
  · rintro (⟨earlier, later, rfl, hfirst⟩ | ⟨rfl, hfirst⟩)
    · exact ⟨earlier, later ++ [root], by simp, hfirst⟩
    · exact ⟨roots, [], rfl, hfirst⟩

theorem KeepsFirst.subset (h : KeepsFirst roots kept) : kept ⊆ roots := by
  intro root hmem
  obtain ⟨earlier, later, rfl, _⟩ := (h.mem_iff root).mp hmem
  simp

/-- Every root has the components of one that is kept. -/
theorem KeepsFirst.exists_known (h : KeepsFirst roots kept) (hmem : root ∈ roots) :
    ∃ known ∈ kept, known.components = root.components := by
  have hsome : (roots.find? fun other => other.components = root.components).isSome = true :=
    List.find?_isSome.mpr ⟨root, hmem, by simp⟩
  obtain ⟨known, hknown⟩ := Option.isSome_iff_exists.mp hsome
  obtain ⟨hsame, earlier, later, hsplit, hfirst⟩ := List.find?_eq_some_iff_append.mp hknown
  have hsame : known.components = root.components := by simpa using hsame
  refine ⟨known, (h.mem_iff known).mpr ⟨earlier, later, hsplit, ?_⟩, hsame⟩
  intro other hother
  rw [hsame]
  simpa using hfirst other hother

/-- One more root keeps the first ones first. -/
theorem KeepsFirst.addRoot (h : KeepsFirst roots kept) (root : Path) :
    KeepsFirst (roots ++ [root]) (addRoot kept root) := by
  have hidx : ∀ known ∈ kept, (roots ++ [root]).idxOf known = roots.idxOf known :=
    fun known hmem => List.idxOf_append_of_mem (h.subset hmem)
  have hordered : kept.Pairwise fun a b =>
      (roots ++ [root]).idxOf a < (roots ++ [root]).idxOf b := by
    refine h.ordered.imp_of_mem ?_
    intro a b ha hb hlt
    rwa [hidx a ha, hidx b hb]
  rw [SearchPath.addRoot]
  split
  · rename_i hany
    obtain ⟨known, hmem, hsame⟩ := List.any_eq_true.mp hany
    have hsame : known.components = root.components := of_decide_eq_true hsame
    refine ⟨?_, h.once, hordered⟩
    intro x
    rw [exists_first_concat_iff, ← h.mem_iff, or_iff_left]
    exact fun hnew => hnew.2 known (h.subset hmem) hsame
  · rename_i hnone
    have hkept : ∀ known ∈ kept, known.components ≠ root.components := by
      intro known hmem hsame
      exact hnone (List.any_eq_true.mpr ⟨known, hmem, decide_eq_true hsame⟩)
    have hroots : ∀ other ∈ roots, other.components ≠ root.components := by
      intro other hmem hsame
      obtain ⟨known, hknown, hother⟩ := h.exists_known hmem
      exact hkept known hknown (hother.trans hsame)
    -- Its components are new, so it comes first, and behind all that are kept.
    refine ⟨?_, ?_, ?_⟩
    · intro x
      rw [exists_first_concat_iff, ← h.mem_iff, List.mem_append, List.mem_singleton,
        and_iff_left hroots]
    · rw [List.map_append, List.map_singleton, List.nodup_append_comm]
      refine List.nodup_cons.mpr ⟨?_, h.once⟩
      intro hmem
      obtain ⟨known, hknown, hsame⟩ := List.mem_map.mp hmem
      exact hkept known hknown hsame
    · refine List.pairwise_append.mpr ⟨hordered, List.pairwise_singleton _ _, ?_⟩
      intro known hknown last hlast
      have hnew : root ∉ roots := fun hmem => hroots root hmem rfl
      rw [List.mem_singleton.mp hlast, hidx known hknown, List.idxOf_append_of_notMem hnew,
        List.idxOf_cons_self, Nat.add_zero]
      exact List.idxOf_lt_length_of_mem (h.subset hknown)

/-- A search path keeps the first roots. -/
theorem keepsFirst_ofRoots (roots : List Path) : KeepsFirst roots (ofRoots roots).roots := by
  induction roots using List.reverseRecOn with
  | nil => exact ⟨by simp [ofRoots], List.nodup_nil, List.Pairwise.nil⟩
  | append_singleton roots root ih =>
      rw [ofRoots, List.foldl_append]
      exact ih.addRoot root

end Keeping

section Searching

variable {disk : Disk} {roots : List Path} {template : Path}

/-- A search for what the components of a root decide ends at the same root. -/
theorem find?_foldl_addRoot {test : Path → Bool}
    (htest : ∀ a b : Path, a.components = b.components → test a = test b)
    (roots kept : List Path) :
    (roots.foldl addRoot kept).find? test = (kept ++ roots).find? test := by
  induction roots generalizing kept with
  | nil => rw [List.append_nil, List.foldl_nil]
  | cons root rest ih =>
      rw [List.foldl_cons, ih, addRoot]
      split
      · rename_i hany
        obtain ⟨known, hmem, hsame⟩ := List.any_eq_true.mp hany
        have hroot : test known = test root := htest known root (of_decide_eq_true hsame)
        rw [List.find?_append, List.find?_append]
        cases hfound : kept.find? test with
        | some found => rfl
        | none =>
            -- The known root fails the test, and so does the one that is left out.
            have hfails := List.find?_eq_none.mp hfound known hmem
            rw [hroot] at hfails
            rw [List.find?_cons_of_neg hfails]
      · rw [List.append_assoc, List.singleton_append]

theorem locate?_of_isAbsolute (h : template.isAbsolute = true) (search : SearchPath) :
    search.locate? disk template = if disk.isFile template then some template else none := by
  rw [locate?, candidates, if_pos h, List.find?_singleton]

theorem locate?_of_relative (h : template.isAbsolute = false) (search : SearchPath) :
    search.locate? disk template =
      (search.roots.find? fun root => disk.isFile (root.join template)).map fun root =>
        root.join template := by
  rw [locate?, candidates, if_neg (by simp [h]), List.find?_map]
  rfl

/-- A template is found where a search of all the roots would find it. -/
theorem locate?_ofRoots (disk : Disk) (roots : List Path) (template : Path) :
    (ofRoots roots).locate? disk template = (⟨roots⟩ : SearchPath).locate? disk template := by
  cases habsolute : template.isAbsolute with
  | true => rw [locate?_of_isAbsolute habsolute, locate?_of_isAbsolute habsolute]
  | false =>
      rw [locate?_of_relative habsolute, locate?_of_relative habsolute, ofRoots]
      rw [find?_foldl_addRoot _ roots [], List.nil_append]
      exact fun a b h => Disk.isFile_join_congr h habsolute

theorem locate?_eq_some_iff (disk : Disk) (roots : List Path) (template found : Path) :
    (⟨roots⟩ : SearchPath).locate? disk template = some found ↔
      Finds disk roots template found := by
  cases habsolute : template.isAbsolute with
  | true =>
      rw [locate?_of_isAbsolute habsolute]
      constructor
      · intro h
        split at h
        · rename_i hfile
          cases h
          exact .itself habsolute hfile
        · cases h
      · intro h
        cases h with
        | itself _ hfile => rw [if_pos hfile]
        | below hrelative =>
            rw [habsolute] at hrelative
            cases hrelative
  | false =>
      rw [locate?_of_relative habsolute, Option.map_eq_some_iff]
      constructor
      · rintro ⟨root, hroot, rfl⟩
        obtain ⟨hfile, earlier, later, hsplit, hfirst⟩ := List.find?_eq_some_iff_append.mp hroot
        refine .below habsolute hsplit ?_ hfile
        intro other hother
        simpa using hfirst other hother
      · intro h
        cases h with
        | itself htrue =>
            rw [habsolute] at htrue
            cases htrue
        | @below earlier later root _ hsplit hfirst hfile =>
            have hpass : ∀ other ∈ earlier, (!disk.isFile (other.join template)) = true := by
              intro other hother
              rw [hfirst other hother]
              rfl
            exact ⟨root, List.find?_eq_some_iff_append.mpr
              ⟨hfile, earlier, later, hsplit, hpass⟩, rfl⟩

theorem locate?_eq_none_iff (disk : Disk) (roots : List Path) (template : Path) :
    (⟨roots⟩ : SearchPath).locate? disk template = none ↔
      if template.isAbsolute then disk.isFile template = false
      else ∀ root ∈ roots, disk.isFile (root.join template) = false := by
  cases habsolute : template.isAbsolute with
  | true => simp [locate?_of_isAbsolute habsolute]
  | false => simp [locate?_of_relative habsolute]

/-- A root that is given on the command line is searched before the node's own. -/
theorem locate?_searchPath (host : Host) (loaded : LoadedNode) (explicit : Path)
    (h : template.isAbsolute = false) :
    (loaded.searchPath host (some explicit)).locate? host.disk template =
      if host.disk.isFile (explicit.join template) then some (explicit.join template)
      else if host.disk.isFile ((loaded.templateRoot host.home).join template) then
        some ((loaded.templateRoot host.home).join template)
      else none := by
  rw [LoadedNode.searchPath, locate?_ofRoots, locate?_of_relative h, Option.toList_some,
    List.singleton_append, List.find?_cons]
  split
  · rename_i hexplicit
    rw [if_pos hexplicit]
    rfl
  · rename_i hexplicit
    rw [if_neg (Bool.eq_false_iff.mp hexplicit), List.find?_singleton]
    split <;> rfl

/-- A search path keeps the first of the roots with the same components. A template is found
on it where a search of all the roots finds it: where it stands, when it is absolute, and
otherwise below the first root that has it. So a root that is given on the command line
shadows that of the node. -/
theorem ofRoots_exact (roots : List Path) (disk : Disk) (template : Path) :
    KeepsFirst roots (ofRoots roots).roots ∧
      (ofRoots roots).locate? disk template = (⟨roots⟩ : SearchPath).locate? disk template ∧
      (∀ found, (ofRoots roots).locate? disk template = some found ↔
        Finds disk roots template found) ∧
      ((ofRoots roots).locate? disk template = none ↔
        if template.isAbsolute then disk.isFile template = false
        else ∀ root ∈ roots, disk.isFile (root.join template) = false) ∧
      ∀ (host : Host) (loaded : LoadedNode) (explicit : Path), template.isAbsolute = false →
        host.disk.isFile (explicit.join template) = true →
        (loaded.searchPath host (some explicit)).locate? host.disk template =
          some (explicit.join template) := by
  have hsame := locate?_ofRoots disk roots template
  rw [hsame]
  refine ⟨keepsFirst_ofRoots roots, rfl, locate?_eq_some_iff disk roots template,
    locate?_eq_none_iff disk roots template, ?_⟩
  intro host loaded explicit hrelative hfile
  rw [locate?_searchPath host loaded explicit hrelative, if_pos hfile]

/-- Four spellings of two directories. -/
def respelled : List Path :=
  [⟨"r/."⟩, ⟨"s"⟩, ⟨"r"⟩, ⟨"s//"⟩]

/-- A computer with these directories, the second of which has a template. -/
def shelved : Host :=
  { disk := ((Disk.empty ["d"]).put ⟨"r"⟩ (.directory [])).put ⟨"s/t.conf"⟩ (.file .empty)
    home := none
    processors := 1
    poolFailure? := fun _ => none }

/-- A node that has the second directory for its templates. -/
def borrower : LoadedNode :=
  { path := ⟨"n.toml"⟩
    file :=
      { module := "nginx"
        node := none
        templates := some "s"
        facts := .empty
        params := .empty } }

/-- Two roots are kept, and the template is found below the second one; in another spelling
this root comes before that of the node. -/
theorem locate?_respelled :
    (ofRoots respelled).roots = [⟨"r/."⟩, ⟨"s"⟩] ∧
      (ofRoots respelled).locate? shelved.disk ⟨"t.conf"⟩ = some ⟨"s/t.conf"⟩ ∧
      (borrower.searchPath shelved (some ⟨"s//"⟩)).locate? shelved.disk ⟨"t.conf"⟩ =
        some ⟨"s//t.conf"⟩ := by
  have hrelative : (⟨"t.conf"⟩ : Path).isAbsolute = false := by decide +kernel
  have ⟨_, _, hfound, _, hshadows⟩ := ofRoots_exact respelled shelved.disk ⟨"t.conf"⟩
  refine ⟨by decide +kernel, ?_, ?_⟩
  · rw [hfound]
    have hsplit : respelled = [⟨"r/."⟩] ++ ⟨"s"⟩ :: [⟨"r"⟩, ⟨"s//"⟩] := rfl
    have hfirst : ∀ other ∈ [(⟨"r/."⟩ : Path)],
        shelved.disk.isFile (other.join ⟨"t.conf"⟩) = false := by
      decide +kernel
    exact .below hrelative hsplit hfirst (by decide +kernel)
  · have hfile : shelved.disk.isFile ((⟨"s//"⟩ : Path).join ⟨"t.conf"⟩) = true := by
      decide +kernel
    exact hshadows shelved borrower ⟨"s//"⟩ hrelative hfile

end Searching

end SearchPath
end DesiredState
