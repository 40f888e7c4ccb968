import DesiredState.Proofs.Finding
import DesiredState.Proofs.KeyMap.Assignment

/-!
# The changes between two graphs

**Input.** Two graphs, each of which declares a resource at most once.

**Results.**
* `between?_cases`: a change is an addition, a removal or a modification of two
  declarations that differ.
* `mem_changes_iff`: the changes of two graphs are the changes of their
  declarations, resource by resource.
* `nodup_refs_changes`: no resource is listed twice.
* `changes_eq_nil_iff`: there are no changes exactly when every resource is
  declared alike.
* `hasChanges_between_eq_false_iff`: nothing is counted exactly when moreover the
  same classes are included.
-/

namespace DesiredState

section Lookup

variable (graph : Graph)

theorem Graph.get?_eq_some_iff (ref : Ref) (decl : Declaration) :
    graph.get? ref = some decl ↔ decl ∈ graph.resources ∧ decl.ref = ref :=
  find?_key_eq_some_iff graph.resources_nodup ref decl

theorem Graph.get?_ref {decl : Declaration} (h : decl ∈ graph.resources) :
    graph.get? decl.ref = some decl :=
  (graph.get?_eq_some_iff decl.ref decl).mpr ⟨h, rfl⟩

theorem Graph.ref_of_get? {ref : Ref} {decl : Declaration}
    (h : graph.get? ref = some decl) : decl.ref = ref :=
  ((graph.get?_eq_some_iff ref decl).mp h).2

theorem Graph.get?_filter (keep : Declaration → Bool) (ref : Ref) :
    (graph.filter keep).get? ref = (graph.get? ref).filter keep := by
  apply Option.ext
  intro decl
  rw [Graph.get?_eq_some_iff, Option.filter_eq_some_iff, Graph.get?_eq_some_iff]
  simp only [Graph.filter, List.mem_filter]
  tauto

end Lookup

namespace Change

section Between

/-- A change is an addition, a removal, or a modification of declarations that
differ. -/
theorem between?_cases {before after : Option Declaration} {change : Change}
    (h : between? before after = some change) :
    (∃ new, before = none ∧ after = some new ∧
      change = ofPair new.ref .added none (some new)) ∨
    (∃ old, before = some old ∧ after = none ∧
      change = ofPair old.ref .removed (some old) none) ∨
    (∃ old new, before = some old ∧ after = some new ∧ old ≠ new ∧
      change = ofPair old.ref .modified (some old) (some new)) := by
  cases before with
  | none =>
      cases after with
      | none => cases h
      | some new =>
          cases h
          exact .inl ⟨new, rfl, rfl, rfl⟩
  | some old =>
      cases after with
      | none =>
          cases h
          exact .inr (.inl ⟨old, rfl, rfl, rfl⟩)
      | some new =>
          rw [between?] at h
          split at h
          · cases h
          · rename_i hne
            cases h
            exact .inr (.inr ⟨old, new, rfl, rfl, hne, rfl⟩)

theorem eq_ofPair_of_between? {before after : Option Declaration}
    {change : Change} (h : between? before after = some change) :
    change = ofPair change.ref change.kind before after := by
  rcases between?_cases h with ⟨new, rfl, rfl, rfl⟩ | ⟨old, rfl, rfl, rfl⟩ |
    ⟨old, new, rfl, rfl, _, rfl⟩ <;> rfl

theorem notify_ofPair_eq_some_iff (ref : Ref) (kind : ChangeKind)
    (before after : Option Declaration) (notify : Option Ref × Option Ref) :
    (ofPair ref kind before after).notify = some notify ↔
      notify.1 ≠ notify.2 ∧ notify.1 = before.bind Declaration.notifies ∧
        notify.2 = after.bind Declaration.notifies := by
  obtain ⟨old, new⟩ := notify
  dsimp only [ofPair]
  split
  · rename_i heq
    constructor
    · intro h
      cases h
    · rintro ⟨hne, rfl, rfl⟩
      exact absurd heq hne
  · rename_i hne
    constructor
    · intro h
      cases h
      exact ⟨hne, rfl, rfl⟩
    · rintro ⟨_, rfl, rfl⟩
      rfl

/-- There is no change exactly between declarations that are alike. -/
theorem between?_eq_none_iff (before after : Option Declaration) :
    between? before after = none ↔ before = after := by
  cases before with
  | none => cases after <;> simp [between?]
  | some old =>
      cases after with
      | none => simp [between?]
      | some new =>
          rw [between?]
          split
          · rename_i heq
            simp [heq]
          · rename_i hne
            simp [hne]

/-- A change is about the resource that its declarations are about. -/
theorem ref_of_between? {before after : Option Declaration} {change : Change}
    {ref : Ref} (h : between? before after = some change)
    (hbefore : ∀ old, before = some old → old.ref = ref)
    (hafter : ∀ new, after = some new → new.ref = ref) : change.ref = ref := by
  rcases between?_cases h with ⟨new, _, ha, rfl⟩ | ⟨old, hb, _, rfl⟩ |
    ⟨old, new, hb, _, _, rfl⟩
  · exact hafter new ha
  · exact hbefore old hb
  · exact hbefore old hb

/-- An attribute is listed exactly when its values differ, with these values. -/
theorem mem_attributeChanges_iff (before after : KeyMap Attribute)
    (change : AttributeChange) :
    change ∈ attributeChanges before after ↔
      change.before ≠ change.after ∧ change.before = before.get? change.key ∧
        change.after = after.get? change.key := by
  rw [attributeChanges, List.mem_filterMap]
  constructor
  · rintro ⟨key, _, h⟩
    split at h
    · cases h
    · rename_i hne
      cases h
      exact ⟨hne, rfl, rfl⟩
  · obtain ⟨key, old, new⟩ := change
    rintro ⟨hne, hold, hnew⟩
    dsimp only at hne hold hnew
    subst hold hnew
    refine ⟨key, ?_, if_neg hne⟩
    rw [KeyMap.mem_unionKeys]
    by_contra hnone
    rw [not_or, not_not, not_not] at hnone
    exact hne (hnone.1.trans hnone.2.symm)

end Between

end Change

namespace Graph

section Changes

variable (before after : Graph)

theorem ref_of_between?_get? {ref : Ref} {change : Change}
    (h : Change.between? (before.get? ref) (after.get? ref) = some change) :
    change.ref = ref := by
  refine Change.ref_of_between? h ?_ ?_
  · intro old hold
    exact before.ref_of_get? hold
  · intro new hnew
    exact after.ref_of_get? hnew

/-- The changes of two graphs are those of their declarations, resource by
resource. -/
theorem mem_changes_iff (change : Change) :
    change ∈ before.changes after ↔
      Change.between? (before.get? change.ref) (after.get? change.ref) =
        some change := by
  rw [changes, List.mem_append, List.mem_filterMap, List.mem_filterMap]
  constructor
  · rintro (⟨new, hmem, h⟩ | ⟨old, hmem, h⟩)
    · rw [← after.get?_ref hmem] at h
      rw [before.ref_of_between?_get? after h]
      exact h
    · have ⟨hold, hnone⟩ := List.mem_filter.mp hmem
      rw [← before.get?_ref hold, ← Option.isNone_iff_eq_none.mp hnone] at h
      rw [before.ref_of_between?_get? after h]
      exact h
  · intro h
    cases hafter : after.get? change.ref with
    | some new =>
        have ⟨hmem, href⟩ := (after.get?_eq_some_iff _ _).mp hafter
        refine .inl ⟨new, hmem, ?_⟩
        rw [href, ← hafter]
        exact h
    | none =>
        cases hbefore : before.get? change.ref with
        | none => simp [hafter, hbefore, Change.between?] at h
        | some old =>
            have ⟨hmem, href⟩ := (before.get?_eq_some_iff _ _).mp hbefore
            refine .inr ⟨old, List.mem_filter.mpr ⟨hmem, ?_⟩, ?_⟩
            · rw [href, hafter]
              rfl
            · rw [← hbefore, ← hafter]
              exact h

/-- A resource is listed exactly when its declarations differ. -/
theorem exists_change_iff (ref : Ref) :
    (∃ change ∈ before.changes after, change.ref = ref) ↔
      before.get? ref ≠ after.get? ref := by
  constructor
  · rintro ⟨change, hmem, rfl⟩ heq
    rw [mem_changes_iff, (Change.between?_eq_none_iff _ _).mpr heq] at hmem
    cases hmem
  · intro hne
    cases h : Change.between? (before.get? ref) (after.get? ref) with
    | none => exact absurd ((Change.between?_eq_none_iff _ _).mp h) hne
    | some change =>
        have href := before.ref_of_between?_get? after h
        refine ⟨change, ?_, href⟩
        rw [mem_changes_iff, href]
        exact h

theorem changes_eq_nil_iff :
    before.changes after = [] ↔ ∀ ref, before.get? ref = after.get? ref := by
  constructor
  · intro h ref
    by_contra hne
    obtain ⟨change, hmem, _⟩ := (before.exists_change_iff after ref).mpr hne
    rw [h] at hmem
    cases hmem
  · intro h
    rw [List.eq_nil_iff_forall_not_mem]
    intro change hmem
    have hne := (before.exists_change_iff after change.ref).mp ⟨change, hmem, rfl⟩
    exact hne (h change.ref)

theorem nodup_ref_filterMap {α : Type} (key : α → Ref)
    {f : α → Option Change} {xs : List α} (hkey : (xs.map key).Nodup)
    (hf : ∀ x ∈ xs, ∀ change, f x = some change → change.ref = key x) :
    ((xs.filterMap f).map Change.ref).Nodup := by
  induction xs with
  | nil => exact .nil
  | cons x rest ih =>
      rw [List.map_cons, List.nodup_cons] at hkey
      have htail : ((rest.filterMap f).map Change.ref).Nodup :=
        ih hkey.2 fun y hy => hf y (List.mem_cons_of_mem _ hy)
      cases hx : f x with
      | none => rwa [List.filterMap_cons_none hx]
      | some change =>
          rw [List.filterMap_cons_some hx, List.map_cons, List.nodup_cons]
          refine ⟨?_, htail⟩
          intro hmem
          obtain ⟨other, hother, href⟩ := List.mem_map.mp hmem
          obtain ⟨y, hy, hfy⟩ := List.mem_filterMap.mp hother
          have hkeyx := hf x List.mem_cons_self change hx
          have hkeyy := hf y (List.mem_cons_of_mem _ hy) other hfy
          have hsame : key y = key x := by rw [← hkeyy, href, hkeyx]
          exact hkey.1 (hsame ▸ List.mem_map_of_mem hy)

/-- No resource is listed twice. -/
theorem nodup_refs_changes : ((before.changes after).map Change.ref).Nodup := by
  rw [changes, List.map_append, List.nodup_append]
  refine ⟨?_, ?_, ?_⟩
  · refine nodup_ref_filterMap Declaration.ref after.resources_nodup ?_
    intro new hnew change h
    rw [← after.get?_ref hnew] at h
    exact before.ref_of_between?_get? after h
  · refine nodup_ref_filterMap Declaration.ref ?_ ?_
    · exact before.resources_nodup.sublist (List.filter_sublist.map _)
    · intro old _ change h
      cases h
      rfl
  -- What the first part lists is declared later, what the second lists is not.
  · intro ref hfirst other hsecond heq
    subst heq
    obtain ⟨change, hchange, rfl⟩ := List.mem_map.mp hfirst
    obtain ⟨new, hnew, hbetween⟩ := List.mem_filterMap.mp hchange
    obtain ⟨removal, hremoval, href⟩ := List.mem_map.mp hsecond
    obtain ⟨old, hold, hremoved⟩ := List.mem_filterMap.mp hremoval
    have hnone := (List.mem_filter.mp hold).2
    rw [← after.get?_ref hnew] at hbetween
    have hnewRef := before.ref_of_between?_get? after hbetween
    cases hremoved
    rw [show old.ref = new.ref from href.trans hnewRef, after.get?_ref hnew] at hnone
    cases hnone

end Changes

end Graph

section Summary

/-- Every change is counted under one of the kinds. -/
theorem ChangeSummary.count_kinds (changes : List Change) (includes : IncludeChanges) :
    (of changes includes).additions + (of changes includes).removals +
      (of changes includes).modifications = changes.length := by
  induction changes with
  | nil => rfl
  | cons change rest ih =>
      simp only [of, List.countP_cons, List.length_cons] at ih ⊢
      cases change.kind with
      | added => simp; omega
      | removed => simp; omega
      | modified => simp; omega

theorem ChangeSummary.hasChanges_eq_false_iff (changes : List Change)
    (includes : IncludeChanges) :
    (of changes includes).hasChanges = false ↔
      changes = [] ∧ includes.added = [] ∧ includes.removed = [] := by
  have hcount := count_kinds changes includes
  have hadded : (of changes includes).includesAdded = includes.added.length := rfl
  have hremoved : (of changes includes).includesRemoved = includes.removed.length := rfl
  rw [hasChanges, decide_eq_false_iff_not, total, ← List.length_eq_zero_iff,
    ← List.length_eq_zero_iff, ← List.length_eq_zero_iff]
  omega

theorem IncludeChanges.between_eq_nil_iff (before after : Graph) :
    (between before after).added = [] ∧ (between before after).removed = [] ↔
      ∀ name, name ∈ before.includes ↔ name ∈ after.includes := by
  simp only [between, List.filter_eq_nil_iff, decide_eq_true_eq, not_not]
  constructor
  · rintro ⟨hadded, hremoved⟩ name
    exact ⟨hremoved name, hadded name⟩
  · intro h
    exact ⟨fun name => (h name).mpr, fun name => (h name).mp⟩

/-- The summary is empty exactly when every resource is declared alike and the
same classes are included. -/
theorem ChangeSummary.hasChanges_between_eq_false_iff (before after : Graph) :
    (of (before.changes after) (.between before after)).hasChanges = false ↔
      (∀ ref, before.get? ref = after.get? ref) ∧
        ∀ name, name ∈ before.includes ↔ name ∈ after.includes := by
  rw [hasChanges_eq_false_iff, IncludeChanges.between_eq_nil_iff,
    Graph.changes_eq_nil_iff]

end Summary

end DesiredState
