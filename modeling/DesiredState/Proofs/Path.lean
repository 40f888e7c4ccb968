import DesiredState.Proofs.Pieces
import Mathlib.Data.List.Lex
import Mathlib.Order.Defs.Unbundled

/-!
# Paths below a path

**Input.** A path that is not empty, and the names that lead on from it one after
another. A name is no dot, no two dots, not empty, and without slashes.

**Idea.** To join a name appends one piece, and at most it takes the place of an empty
piece at the end, which counts for nothing. So the components grow by one at the end,
and paths below one base are ordered as the names behind it.

**Results.**
* `exists_pieces_join`: the pieces of a path with a relative one behind it.
* `components_below`: the components of a path with names behind it.
* `before_below`: paths below a base are ordered as their names.
* `extension?_eq_some_iff`: the extension of a file name.
-/

namespace DesiredState
namespace Path

section Defs

/-- The name of an entry of a directory. -/
structure IsName (name : String) : Prop where
  slashless : '/' ∉ name.toList
  ne_empty : name ≠ ""
  ne_dot : name ≠ "."
  ne_dots : name ≠ ".."

instance (name : String) : Decidable (IsName name) :=
  decidable_of_iff ('/' ∉ name.toList ∧ name ≠ "" ∧ name ≠ "." ∧ name ≠ "..")
    ⟨fun h => ⟨h.1, h.2.1, h.2.2.1, h.2.2.2⟩,
      fun h => ⟨h.slashless, h.ne_empty, h.ne_dot, h.ne_dots⟩⟩

/-- The path that some names lead to from a base. -/
def below (base : Path) (names : List String) : Path :=
  names.foldl (fun base name => base.join ⟨name⟩) base

/-- How components of different forms are ordered. -/
def Component.rank : Component → Nat
  | .root => 0
  | .current => 1
  | .parent => 2
  | .normal _ => 3

/-- The root comes before the current directory, this before the parent, and this before
all names; names are compared as strings. -/
inductive Component.Before : Component → Component → Prop
  | rank {a b : Component} (less : a.rank < b.rank) : Before a b
  | name {a b : String} (less : a < b) : Before (.normal a) (.normal b)

/-- A path comes before another, component by component. -/
def Before (a b : Path) : Prop :=
  List.Lex Component.Before a.components b.components

end Defs

section Pieces

theorem pieces_eq (path : Path) :
    path.pieces = (path.text.toList.splitOn '/').map String.ofList := by
  rw [pieces, piecesOfChars_eq_splitOn]

theorem exists_pieces (path : Path) : ∃ first rest, path.pieces = first :: rest := by
  refine List.exists_cons_of_ne_nil ?_
  rw [pieces_eq, Ne, List.map_eq_nil_iff]
  exact List.splitOn_ne_nil _ _

/-- A piece of a path that counts, and is not the parent, is a name. -/
theorem isName_of_mem_pieces {path : Path} {piece : String} (h : piece ∈ path.pieces)
    (hidle : isIdle piece = false) (hdots : piece ≠ "..") : IsName piece := by
  rw [pieces_eq] at h
  obtain ⟨cs, hcs, rfl⟩ := List.mem_map.mp h
  simp only [isIdle, Bool.or_eq_false_iff, decide_eq_false_iff_not] at hidle
  refine ⟨?_, hidle.1, hidle.2, hdots⟩
  rw [String.toList_ofList]
  exact not_mem_of_mem_splitOn hcs

end Pieces

section Joining

variable {base next : Path} {name : String}

theorem isAbsolute_of_isName (hname : IsName name) : (⟨name⟩ : Path).isAbsolute = false := by
  have hslash := hname.slashless
  cases hcs : name.toList with
  | nil => simp [isAbsolute, hcs]
  | cons c rest =>
      rw [hcs] at hslash
      simpa [isAbsolute, hcs] using (List.ne_of_not_mem_cons hslash).symm

theorem pieces_of_isName (hname : IsName name) : (⟨name⟩ : Path).pieces = [name] := by
  rw [pieces_eq, List.splitOn_eq_singleton hname.slashless, List.map_singleton,
    String.ofList_toList]

/-- To join a relative path puts its pieces behind the pieces of a path, and drops an empty
one between them. -/
theorem exists_pieces_join (hbase : base.text ≠ "") (hnext : next.isAbsolute = false) :
    ∃ outer, outer ≠ [] ∧ (base.join next).pieces = outer ++ next.pieces ∧
      (base.pieces = outer ∨ base.pieces = outer ++ [""]) := by
  rw [join, hnext]
  simp only [Bool.false_or, decide_eq_true_eq, if_neg hbase]
  split
  · rename_i hlast
    obtain ⟨cs, hcs⟩ := List.getLast?_eq_some_iff.mp hlast
    refine ⟨(cs.splitOn '/').map String.ofList, ?_, ?_, .inr ?_⟩
    · rw [Ne, List.map_eq_nil_iff]
      exact List.splitOn_ne_nil _ _
    · rw [pieces_eq, String.toList_append, hcs, List.append_assoc, List.singleton_append,
        List.splitOn_append_cons_self, List.map_append, ← pieces_eq]
    · rw [pieces_eq, hcs, List.splitOn_append_cons_self, List.map_append]
      rfl
  · obtain ⟨first, rest, hpieces⟩ := base.exists_pieces
    refine ⟨base.pieces, by simp [hpieces], ?_, .inl rfl⟩
    have htext : (base.text ++ "/" ++ next.text).toList =
        base.text.toList ++ '/' :: next.text.toList := by
      simp [String.toList_append]
    rw [pieces_eq, htext, List.splitOn_append_cons_self, List.map_append, ← pieces_eq,
      ← pieces_eq]

/-- A path with a relative one behind it starts as the path does. -/
theorem join_starts (hbase : base.text ≠ "") (hnext : next.isAbsolute = false) :
    (base.join next).text ≠ "" ∧ (base.join next).isAbsolute = base.isAbsolute := by
  obtain ⟨c, rest, hcs⟩ := List.exists_cons_of_ne_nil (mt String.toList_eq_nil_iff.mp hbase)
  have hstart : ∃ more, (base.join next).text.toList = c :: more := by
    rw [join, hnext]
    simp only [Bool.false_or, decide_eq_true_eq, if_neg hbase]
    split
    · exact ⟨rest ++ next.text.toList, by simp [String.toList_append, hcs]⟩
    · exact ⟨rest ++ '/' :: next.text.toList, by simp [String.toList_append, hcs]⟩
  obtain ⟨more, hmore⟩ := hstart
  constructor
  · intro hempty
    rw [hempty] at hmore
    cases hmore
  · rw [isAbsolute, isAbsolute, hmore, hcs]
    rfl

end Joining

section Components

/-- The components of the first piece. -/
def firstComponents (absolute : Bool) : String → List Component
  | "" => if absolute then [.root] else []
  | "." => [.current]
  | first => [first].filterMap componentOf?

/-- Only the first piece is read in a way of its own. -/
theorem components_of_pieces {path : Path} {first : String} {rest : List String}
    (h : path.pieces = first :: rest) :
    path.components =
      firstComponents path.isAbsolute first ++ rest.filterMap componentOf? := by
  rw [components, h]
  unfold firstComponents
  split
  · rename_i hnil
    cases hnil
  · rename_i hcons
    cases hcons
    split <;> rfl
  · rename_i hcons
    cases hcons
    rfl
  · rename_i hempty hdot hcons
    cases hcons
    split
    · exact absurd rfl hempty
    · exact absurd rfl hdot
    · rw [← List.filterMap_append, List.singleton_append]

theorem componentOf?_of_isName {name : String} (h : IsName name) :
    componentOf? name = some (.normal name) := by
  rw [componentOf?, if_neg (by simp [h.ne_empty, h.ne_dot]), if_neg h.ne_dots]

variable {base : Path} {name : String} {names : List String}

/-- A name behind a path is one more component. -/
theorem components_join (hbase : base.text ≠ "") (hname : IsName name) :
    (base.join ⟨name⟩).components = base.components ++ [.normal name] := by
  have hnext := isAbsolute_of_isName hname
  obtain ⟨outer, houter, hjoin, hpieces⟩ := exists_pieces_join hbase hnext
  obtain ⟨first, rest, rfl⟩ := List.exists_cons_of_ne_nil houter
  rw [pieces_of_isName hname, List.cons_append] at hjoin
  rw [List.cons_append] at hpieces
  have hidle : componentOf? "" = none := rfl
  have hcomponents : base.components =
      firstComponents base.isAbsolute first ++ rest.filterMap componentOf? := by
    rcases hpieces with hpieces | hpieces
    · exact components_of_pieces hpieces
    · rw [components_of_pieces hpieces, List.filterMap_append, List.filterMap_cons_none hidle,
        List.filterMap_nil, List.append_nil]
  rw [components_of_pieces hjoin, (join_starts hbase hnext).2, hcomponents,
    List.filterMap_append, List.filterMap_cons_some (componentOf?_of_isName hname),
    List.filterMap_nil, List.append_assoc]

/-- The names behind a path are components of their own. -/
theorem components_below (hbase : base.text ≠ "") (hnames : ∀ name ∈ names, IsName name) :
    (base.below names).components = base.components ++ names.map .normal := by
  induction names generalizing base with
  | nil => simp [below]
  | cons name rest ih =>
      obtain ⟨hname, hrest⟩ := List.forall_mem_cons.mp hnames
      have hstep := ih (join_starts hbase (isAbsolute_of_isName hname)).1 hrest
      rw [components_join hbase hname, List.append_assoc] at hstep
      exact hstep

theorem fileName?_below (hbase : base.text ≠ "")
    (hnames : ∀ outer ∈ names ++ [name], IsName outer) :
    (base.below (names ++ [name])).fileName? = some name := by
  rw [fileName?, components_below hbase hnames, List.map_append, ← List.append_assoc,
    List.map_singleton, List.getLast?_concat]

end Components

section Order

instance : Std.Asymm Component.Before where
  asymm a b hab hba := by
    cases hab with
    | rank hab =>
        cases hba with
        | rank hba => omega
        | name => exact absurd hab (Nat.lt_irrefl _)
    | name hab =>
        cases hba with
        | rank hba => exact absurd hba (Nat.lt_irrefl _)
        | name hba => exact String.lt_asymm hab hba

theorem before_asymm {a b : Path} (hab : a.Before b) : ¬ b.Before a :=
  Std.Asymm.asymm (r := List.Lex Component.Before) _ _ hab

theorem lex_map_normal {xs ys : List String} (h : xs < ys) :
    List.Lex Component.Before (xs.map .normal) (ys.map .normal) := by
  induction h with
  | nil => exact .nil
  | rel hless => exact .rel (.name hless)
  | cons _ ih => exact .cons ih

/-- Paths below a base are ordered as their names. -/
theorem before_below {base : Path} {xs ys : List String} (hbase : base.text ≠ "")
    (hxs : ∀ name ∈ xs, IsName name) (hys : ∀ name ∈ ys, IsName name) (h : xs < ys) :
    (base.below xs).Before (base.below ys) := by
  rw [Before, components_below hbase hxs, components_below hbase hys]
  exact List.Lex.append_left _ (lex_map_normal h) _

end Order

section Extensions

theorem cutAtLastDot_eq_none_iff (cs : List Char) : cutAtLastDot cs = none ↔ '.' ∉ cs := by
  induction cs with
  | nil => simp [cutAtLastDot]
  | cons c rest ih =>
      rw [cutAtLastDot, List.mem_cons, not_or, ← ih]
      cases cutAtLastDot rest with
      | none => simp [eq_comm]
      | some cut => simp

theorem cutAtLastDot_append (before : List Char) {after : List Char} (h : '.' ∉ after) :
    cutAtLastDot (before ++ '.' :: after) = some (before, after) := by
  induction before with
  | nil => rw [List.nil_append, cutAtLastDot, (cutAtLastDot_eq_none_iff after).mpr h, if_pos rfl]
  | cons c rest ih => rw [List.cons_append, cutAtLastDot, ih]

/-- The cut is at the last dot. -/
theorem cutAtLastDot_eq_some_iff (cs before after : List Char) :
    cutAtLastDot cs = some (before, after) ↔ cs = before ++ '.' :: after ∧ '.' ∉ after := by
  constructor
  · intro h
    induction cs generalizing before with
    | nil => cases h
    | cons c rest ih =>
        rw [cutAtLastDot] at h
        split at h
        · rename_i front back hcut
          cases h
          obtain ⟨rfl, hafter⟩ := ih front hcut
          exact ⟨rfl, hafter⟩
        · rename_i hnone
          split at h
          · rename_i hdot
            cases h
            exact ⟨by rw [hdot, List.nil_append], (cutAtLastDot_eq_none_iff after).mp hnone⟩
          · cases h
  · rintro ⟨rfl, hafter⟩
    exact cutAtLastDot_append before hafter

/-- The extension of a file name stands behind its last dot, unless that is the first
character. -/
theorem cutName_eq_some_iff (name ext : String) :
    (cutName name).2 = some ext ↔
      ∃ stem, stem ≠ "" ∧ name = stem ++ "." ++ ext ∧ '.' ∉ ext.toList := by
  rw [cutName]
  constructor
  · intro h
    split at h
    · rename_i c before after hcut
      cases h
      obtain ⟨hname, hafter⟩ := (cutAtLastDot_eq_some_iff _ _ _).mp hcut
      refine ⟨String.ofList (c :: before), ?_, ?_, by rwa [String.toList_ofList]⟩
      · simp
      · apply String.toList_injective
        simp [hname]
    · cases h
  · rintro ⟨stem, hstem, rfl, hdot⟩
    obtain ⟨c, before, hcs⟩ := List.exists_cons_of_ne_nil (mt String.toList_eq_nil_iff.mp hstem)
    have htext : (stem ++ "." ++ ext).toList = c :: before ++ '.' :: ext.toList := by
      simp [String.toList_append, hcs]
    rw [htext, cutAtLastDot_append _ hdot]
    simp

end Extensions

end Path
end DesiredState
