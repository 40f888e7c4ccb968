import Mathlib.Data.List.Nodup

/-!
# Finding in lists

**Results.**
* `exists_first_cons_iff`: the first item with a property, at the head or behind it.
* `find?_key_eq_some_iff`: an item is found by a key that no other item has.
* `rel_of_perm_names`: look-ups by name in related lists are related.
* `rel_map`, `rel_bind`, `bind_eq_of_rel`: what is made of related results.
-/

namespace DesiredState

universe u v

/-- The first item of a list with a property is its head, or the first one behind it. -/
theorem exists_first_cons_iff {α : Type u} (pass stop : α → Prop) (x : α) (xs : List α) :
    (∃ earlier y later, x :: xs = earlier ++ y :: later ∧ (∀ z ∈ earlier, pass z) ∧ stop y) ↔
      stop x ∨ (pass x ∧
        ∃ earlier y later, xs = earlier ++ y :: later ∧ (∀ z ∈ earlier, pass z) ∧ stop y) := by
  constructor
  · rintro ⟨earlier, y, later, hsplit, hpass, hstop⟩
    cases earlier with
    | nil =>
        obtain ⟨rfl, rfl⟩ := List.cons.inj hsplit
        exact .inl hstop
    | cons first earlier =>
        obtain ⟨rfl, hrest⟩ := List.cons.inj hsplit
        obtain ⟨hhead, htail⟩ := List.forall_mem_cons.mp hpass
        exact .inr ⟨hhead, earlier, y, later, hrest, htail, hstop⟩
  · rintro (hstop | ⟨hhead, earlier, y, later, rfl, htail, hstop⟩)
    · exact ⟨[], x, xs, rfl, by simp, hstop⟩
    · exact ⟨x :: earlier, y, later, rfl, List.forall_mem_cons.mpr ⟨hhead, htail⟩, hstop⟩

/-- Where no key comes twice, an item is found by its key. -/
theorem find?_key_eq_some_iff {α : Type u} {β : Type v} [DecidableEq β] {key : α → β}
    {items : List α} (h : (items.map key).Nodup) (k : β) (item : α) :
    (items.find? fun other => key other = k) = some item ↔ item ∈ items ∧ key item = k := by
  constructor
  · intro hfound
    exact ⟨List.mem_of_find?_eq_some hfound, by simpa using List.find?_some hfound⟩
  · rintro ⟨hmem, hkey⟩
    have hsome : (items.find? fun other => key other = k).isSome = true :=
      List.find?_isSome.mpr ⟨item, hmem, decide_eq_true hkey⟩
    obtain ⟨found, hfound⟩ := Option.isSome_iff_exists.mp hsome
    have hfoundkey : key found = k := by simpa using List.find?_some hfound
    rw [hfound, List.inj_on_of_nodup_map h (List.mem_of_find?_eq_some hfound) hmem
      (hfoundkey.trans hkey.symm)]

section Pairs

variable {α : Type u} {name : String} {entries others : List (String × α)}

/-- Where no name comes twice, a value is found under its name. -/
theorem find?_map_snd_eq_some_iff (once : (entries.map Prod.fst).Nodup) (value : α) :
    (entries.find? fun entry => entry.1 = name).map Prod.snd = some value ↔
      (name, value) ∈ entries := by
  rw [Option.map_eq_some_iff]
  constructor
  · rintro ⟨entry, hfound, rfl⟩
    obtain ⟨hmem, rfl⟩ := (find?_key_eq_some_iff once name entry).mp hfound
    exact hmem
  · intro hmem
    exact ⟨(name, value), (find?_key_eq_some_iff once name _).mpr ⟨hmem, rfl⟩, rfl⟩

/-- Two lists of the same names, each once, in which what stands under a name is related:
then what is found under the name is related, too. -/
theorem rel_of_perm_names {R : α → α → Prop} {find : List (String × α) → Option α}
    (hfind : ∀ {entries : List (String × α)}, (entries.map Prod.fst).Nodup →
      ∀ value, find entries = some value ↔ (name, value) ∈ entries)
    (once : (entries.map Prod.fst).Nodup)
    (names : (entries.map Prod.fst).Perm (others.map Prod.fst))
    (values : ∀ x y, (name, x) ∈ entries → (name, y) ∈ others → R x y) :
    Option.Rel R (find entries) (find others) := by
  have once' := names.nodup_iff.mp once
  cases hx : find entries with
  | some x =>
      have hmem := (hfind once x).mp hx
      obtain ⟨⟨_, y⟩, hy, rfl⟩ := List.mem_map.mp (names.mem_iff.mp (List.mem_map_of_mem hmem))
      rw [(hfind once' y).mpr hy]
      exact .some (values x y hmem hy)
  | none =>
      cases hy : find others with
      | none => exact .none
      | some y =>
          have hmem := (hfind once' y).mp hy
          obtain ⟨⟨_, x⟩, hx', rfl⟩ :=
            List.mem_map.mp (names.mem_iff.mpr (List.mem_map_of_mem hmem))
          rw [(hfind once x).mpr hx'] at hx
          cases hx

end Pairs

section Related

variable {α β γ δ : Type u} {R : α → β → Prop} {S : γ → δ → Prop} {x : Option α} {y : Option β}

theorem rel_map {f : α → γ} {g : β → δ} (h : Option.Rel R x y)
    (hmap : ∀ a b, R a b → S (f a) (g b)) : Option.Rel S (x.map f) (y.map g) := by
  cases h with
  | none => exact .none
  | some hab => exact .some (hmap _ _ hab)

theorem rel_bind {f : α → Option γ} {g : β → Option δ} (h : Option.Rel R x y)
    (hbind : ∀ a b, R a b → Option.Rel S (f a) (g b)) : Option.Rel S (x.bind f) (y.bind g) := by
  cases h with
  | none => exact .none
  | some hab => exact hbind _ _ hab

/-- What does not tell related items apart makes the same of what is found. -/
theorem bind_eq_of_rel {f : α → Option γ} {g : β → Option γ} (h : Option.Rel R x y)
    (hbind : ∀ a b, R a b → f a = g b) : x.bind f = y.bind g := by
  cases h with
  | none => rfl
  | some hab => exact hbind _ _ hab

end Related

end DesiredState
