import DesiredState.Proofs.Graph.Changes

/-!
# Changes as patches

**Operation.** A change is applied to a graph: an addition inserts a declaration
with the listed values, a removal deletes the declaration, and a modification
sets or deletes the listed attributes and replaces the notified resource when it
lists one.

**Results.**
* `get?_patch`: changes of different resources act each on its own declaration.
* `result_of_between?`: the change between two declarations makes the later one
  of the earlier one.
* `isPatch_changes`: the changes between two graphs lead from one to the other.
-/

namespace DesiredState

namespace Change

section Defs

/-- The attributes with the listed values set or deleted. -/
def assignAttributes (change : Change) (attributes : KeyMap Attribute) :
    KeyMap Attribute :=
  change.attributes.foldl (fun m listed => m.assign listed.key listed.after) attributes

/-- The declaration that an addition inserts. -/
def inserted (change : Change) : Declaration :=
  { kind := change.ref.kind
    id := change.ref.id
    attributes := change.assignAttributes .empty
    notifies := change.notify.bind Prod.snd }

/-- The declaration that a modification makes of an older one. -/
def edited (change : Change) (decl : Declaration) : Declaration :=
  { decl with
    attributes := change.assignAttributes decl.attributes
    notifies :=
      match change.notify with
      | none => decl.notifies
      | some notify => notify.2 }

@[simp] theorem ref_edited (change : Change) (decl : Declaration) :
    (change.edited decl).ref = decl.ref :=
  rfl

/-- What becomes of the declaration of the changed resource. -/
def result (change : Change) (decl : Option Declaration) : Option Declaration :=
  match change.kind with
  | .added => some change.inserted
  | .removed => none
  | .modified => decl.map change.edited

end Defs

end Change

namespace Graph

section Defs

/-- Apply a change. -/
def apply (graph : Graph) (change : Change) : Graph :=
  match change.kind with
  | .added => graph.push change.inserted
  | .removed => graph.filter fun decl => decl.ref ≠ change.ref
  | .modified =>
      match graph.get? change.ref with
      | none => graph
      | some decl => graph.push (change.edited decl)

/-- Apply changes one after the other. -/
def patch (graph : Graph) (changes : List Change) : Graph :=
  changes.foldl apply graph

end Defs

section Apply

/-- A change acts on its own resource and on no other one. -/
theorem get?_apply (graph : Graph) (change : Change) (ref : Ref) :
    (graph.apply change).get? ref =
      if ref = change.ref then change.result (graph.get? ref)
      else graph.get? ref := by
  unfold apply Change.result
  cases hkind : change.kind with
  | added => exact get?_push graph change.inserted ref
  | removed =>
      dsimp only
      rw [get?_filter]
      cases hget : graph.get? ref with
      | none => simp
      | some decl =>
          have href := graph.ref_of_get? hget
          by_cases h : ref = change.ref
          · simp [Option.filter, href, h]
          · simp [Option.filter, href, h]
  | modified =>
      dsimp only
      cases hget : graph.get? change.ref with
      | none =>
          by_cases h : ref = change.ref
          · simp [h, hget]
          · simp [h]
      | some decl =>
          have href := graph.ref_of_get? hget
          dsimp only
          rw [get?_push, Change.ref_edited, href]
          by_cases h : ref = change.ref
          · simp [h, hget]
          · simp [h]

/-- Changes of different resources act each on its own declaration. -/
theorem get?_patch (graph : Graph) {changes : List Change}
    (hnodup : (changes.map Change.ref).Nodup) (ref : Ref) :
    (graph.patch changes).get? ref =
      match changes.find? fun change => change.ref = ref with
      | none => graph.get? ref
      | some change => change.result (graph.get? ref) := by
  induction changes generalizing graph with
  | nil => rfl
  | cons change rest ih =>
      rw [List.map_cons, List.nodup_cons] at hnodup
      rw [patch, List.foldl_cons]
      have hrest := ih (graph.apply change) hnodup.2
      rw [patch] at hrest
      rw [hrest, get?_apply]
      by_cases h : change.ref = ref
      · have hnone : (rest.find? fun other => other.ref = ref) = none := by
          rw [List.find?_eq_none]
          intro other hother hsame
          have href : other.ref = change.ref := by simpa [h] using hsame
          exact hnodup.1 (href ▸ List.mem_map_of_mem hother)
        rw [hnone, List.find?_cons_of_pos (by simpa using h), if_pos h.symm]
      · rw [List.find?_cons_of_neg (by simpa using h), if_neg (Ne.symm h)]

end Apply

end Graph

namespace Change

section Between

theorem get?_foldl_assign {target : KeyMap Attribute}
    (m : KeyMap Attribute) {listed : List AttributeChange}
    (h : ∀ change ∈ listed, change.after = target.get? change.key) (key : String) :
    (listed.foldl (fun m change => m.assign change.key change.after) m).get? key =
      if key ∈ listed.map AttributeChange.key then target.get? key
      else m.get? key := by
  induction listed generalizing m with
  | nil => rfl
  | cons change rest ih =>
      have htail : ∀ other ∈ rest, other.after = target.get? other.key := by
        intro other hother
        exact h other (List.mem_cons_of_mem _ hother)
      rw [List.foldl_cons, ih _ htail, KeyMap.get?_assign, List.map_cons]
      by_cases hrest : key ∈ rest.map AttributeChange.key
      · rw [if_pos hrest, if_pos (List.mem_cons_of_mem _ hrest)]
      · rw [if_neg hrest]
        by_cases hkey : key = change.key
        · have hafter := h change List.mem_cons_self
          rw [if_pos hkey, if_pos (hkey ▸ List.mem_cons_self), hafter, hkey]
        · have hnot : key ∉ change.key :: rest.map AttributeChange.key := by
            rw [List.mem_cons, not_or]
            exact ⟨hkey, hrest⟩
          rw [if_neg hkey, if_neg hnot]

/-- The attribute changes between two maps make the later one of the earlier
one. -/
theorem foldl_assign_attributeChanges (before after : KeyMap Attribute) :
    (attributeChanges before after).foldl
      (fun m change => m.assign change.key change.after) before = after := by
  apply KeyMap.ext_get?
  intro key
  have hafter : ∀ change ∈ attributeChanges before after,
      change.after = after.get? change.key := by
    intro change hmem
    exact ((mem_attributeChanges_iff before after change).mp hmem).2.2
  rw [get?_foldl_assign before hafter]
  split
  · rfl
  · rename_i hunlisted
    by_contra hne
    have hmem := (mem_attributeChanges_iff before after
      ⟨key, before.get? key, after.get? key⟩).mpr ⟨hne, rfl, rfl⟩
    exact hunlisted (List.mem_map_of_mem hmem)

theorem inserted_ofPair (new : Declaration) :
    (ofPair new.ref .added none (some new)).inserted = new := by
  have hassigned : (ofPair new.ref .added none (some new)).assignAttributes .empty =
      new.attributes :=
    foldl_assign_attributeChanges .empty new.attributes
  have hnotifies : (ofPair new.ref .added none (some new)).notify.bind Prod.snd =
      new.notifies := by
    simp only [ofPair, Option.bind_none, Option.bind_some]
    cases new.notifies with
    | none => rfl
    | some target => rfl
  unfold inserted
  rw [hassigned, hnotifies]
  rfl

theorem edited_ofPair {old new : Declaration} (href : old.ref = new.ref) :
    (ofPair old.ref .modified (some old) (some new)).edited old = new := by
  have hattributes := foldl_assign_attributeChanges old.attributes new.attributes
  have hkind : old.kind = new.kind := congrArg Ref.kind href
  have hid : old.id = new.id := congrArg Ref.id href
  have hnotifies : (match (ofPair old.ref .modified (some old) (some new)).notify with
      | none => old.notifies
      | some notify => notify.2) = new.notifies := by
    simp only [ofPair, Option.bind_some]
    by_cases h : old.notifies = new.notifies
    · rw [if_pos h]
      exact h
    · rw [if_neg h]
  have hassigned : (ofPair old.ref .modified (some old) (some new)).assignAttributes
      old.attributes = new.attributes := hattributes
  unfold edited
  rw [hassigned, hnotifies]
  cases old
  cases new
  cases hkind
  cases hid
  rfl

/-- The change between two declarations of a resource makes the later one of the
earlier one. -/
theorem result_of_between? {before after : Option Declaration} {change : Change}
    (h : between? before after = some change)
    (hsame : ∀ old new, before = some old → after = some new → old.ref = new.ref) :
    change.result before = after := by
  rcases between?_cases h with ⟨new, rfl, rfl, rfl⟩ | ⟨old, rfl, rfl, rfl⟩ |
    ⟨old, new, rfl, rfl, _, rfl⟩
  · exact congrArg some (inserted_ofPair new)
  · rfl
  · exact congrArg some (edited_ofPair (hsame old new rfl rfl))

/-- A modification lists an attribute or a notified resource. -/
theorem modified_lists {before after : Option Declaration} {change : Change}
    (h : between? before after = some change) (hkind : change.kind = .modified)
    (hsame : ∀ old new, before = some old → after = some new → old.ref = new.ref) :
    change.attributes ≠ [] ∨ change.notify ≠ none := by
  rcases between?_cases h with ⟨new, rfl, rfl, rfl⟩ | ⟨old, rfl, rfl, rfl⟩ |
    ⟨old, new, rfl, rfl, hne, rfl⟩
  · cases hkind
  · cases hkind
  · by_contra hnone
    rw [not_or, not_not, not_not] at hnone
    have hresult := edited_ofPair (hsame old new rfl rfl)
    unfold edited at hresult
    rw [hnone.2, assignAttributes, hnone.1] at hresult
    exact hne hresult

end Between

end Change

/-- The classes that are left of some once the changes are made to them. -/
def IncludeChanges.applyTo (changes : IncludeChanges) (names : List String) :
    List String :=
  (names.filter fun name => name ∉ changes.removed) ++ changes.added

theorem IncludeChanges.mem_applyTo_between (before after : Graph) (name : String) :
    name ∈ (IncludeChanges.between before after).applyTo before.includes ↔
      name ∈ after.includes := by
  simp only [applyTo, between, List.mem_append, List.mem_filter, decide_eq_true_eq]
  by_cases hbefore : name ∈ before.includes
  · by_cases hafter : name ∈ after.includes
    · simp [hbefore, hafter]
    · simp [hbefore, hafter]
  · simp [hbefore]

namespace Graph

section IsPatch

/-- The value of an attribute of a resource. -/
def attribute? (graph : Graph) (ref : Ref) (key : String) : Option Attribute :=
  (graph.get? ref).bind fun decl => decl.attributes.get? key

/-- The resource that a declared one notifies. -/
def notified? (graph : Graph) (ref : Ref) : Option Ref :=
  (graph.get? ref).bind Declaration.notifies

/-- The changes of declarations and includes that turn one graph into another. -/
structure IsPatch (before after : Graph) (changes : List Change)
    (includes : IncludeChanges) : Prop where
  /-- A resource is listed at most once. -/
  nodup : (changes.map Change.ref).Nodup
  /-- A resource is listed exactly when it is declared differently. -/
  listed_iff : ∀ ref, (∃ change ∈ changes, change.ref = ref) ↔
    before.get? ref ≠ after.get? ref
  /-- The listed attributes are those that differ, with both values. -/
  mem_attributes_iff : ∀ change ∈ changes, ∀ listed, listed ∈ change.attributes ↔
    listed.before ≠ listed.after ∧
      listed.before = before.attribute? change.ref listed.key ∧
      listed.after = after.attribute? change.ref listed.key
  /-- The notified resources are listed when they differ. -/
  notify_iff : ∀ change ∈ changes, ∀ notify, change.notify = some notify ↔
    notify.1 ≠ notify.2 ∧ notify.1 = before.notified? change.ref ∧
      notify.2 = after.notified? change.ref
  /-- A modification lists something. -/
  modified : ∀ change ∈ changes, change.kind = .modified →
    change.attributes ≠ [] ∨ change.notify ≠ none
  /-- The changes make the later declarations of the earlier ones. -/
  get?_patch : ∀ ref, (before.patch changes).get? ref = after.get? ref
  /-- The changes make the later includes of the earlier ones. -/
  mem_includes : ∀ name, name ∈ includes.applyTo before.includes ↔
    name ∈ after.includes

variable (before after : Graph)

theorem same_ref_of_get? (ref : Ref) (old new : Declaration)
    (hold : before.get? ref = some old) (hnew : after.get? ref = some new) :
    old.ref = new.ref :=
  (before.ref_of_get? hold).trans (after.ref_of_get? hnew).symm

theorem get?_patch_changes (ref : Ref) :
    (before.patch (before.changes after)).get? ref = after.get? ref := by
  rw [get?_patch before (before.nodup_refs_changes after)]
  split
  · rename_i hnone
    by_contra hne
    obtain ⟨change, hmem, href⟩ := (before.exists_change_iff after ref).mpr hne
    have hnot := List.find?_eq_none.mp hnone change hmem
    exact hnot (by simpa using href)
  · rename_i change hsome
    have hmem := List.mem_of_find?_eq_some hsome
    have href : change.ref = ref := by simpa using List.find?_some hsome
    rw [mem_changes_iff, href] at hmem
    exact Change.result_of_between? hmem (before.same_ref_of_get? after ref)

theorem attributesOf_get? (ref : Ref) (key : String) :
    (Change.attributesOf (before.get? ref)).get? key = before.attribute? ref key := by
  unfold attribute? Change.attributesOf
  cases before.get? ref with
  | none => rfl
  | some decl => rfl

/-- The changes between two graphs turn one into the other. -/
theorem isPatch_changes :
    IsPatch before after (before.changes after) (IncludeChanges.between before after) where
  nodup := before.nodup_refs_changes after
  listed_iff := before.exists_change_iff after
  mem_attributes_iff := by
    intro change hmem listed
    have hbetween := (before.mem_changes_iff after change).mp hmem
    have hpair := Change.eq_ofPair_of_between? hbetween
    rw [← attributesOf_get?, ← attributesOf_get?, ← Change.mem_attributeChanges_iff]
    conv_lhs => rw [hpair]
    rfl
  notify_iff := by
    intro change hmem notify
    have hbetween := (before.mem_changes_iff after change).mp hmem
    have hpair := Change.eq_ofPair_of_between? hbetween
    conv_lhs => rw [hpair]
    exact Change.notify_ofPair_eq_some_iff _ _ _ _ notify
  modified := by
    intro change hmem hkind
    have hbetween := (before.mem_changes_iff after change).mp hmem
    exact Change.modified_lists hbetween hkind
      (before.same_ref_of_get? after change.ref)
  get?_patch := before.get?_patch_changes after
  mem_includes := IncludeChanges.mem_applyTo_between before after

end IsPatch

end Graph
end DesiredState
