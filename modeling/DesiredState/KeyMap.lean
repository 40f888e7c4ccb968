/-!
# Maps from names to values

**Type.** A map holds each name once and keeps its entries in increasing order
of the names, which compare by code point. So two maps with the same value
under every name are equal.

**Operations.** Look-up, insertion, construction from a list in which the last
entry of a name wins, and filtering with a change of values.

**Results.** One equation for the look-up after each operation, and
extensionality.
-/

namespace DesiredState

universe u v

/-- A finite map from names to values, ordered by name. -/
structure KeyMap (α : Type u) where
  entries : List (String × α)
  sorted : entries.Pairwise (fun a b => a.1 < b.1)
deriving DecidableEq

namespace KeyMap

variable {α : Type u} {β : Type v}

section Order

theorem lt_or_eq_or_lt (a b : String) : a < b ∨ a = b ∨ b < a := by
  rcases String.le_total a b with h | h
  · by_cases hlt : a < b
    · exact .inl hlt
    · exact .inr (.inl (String.le_antisymm h (String.not_lt.mp hlt)))
  · by_cases hlt : b < a
    · exact .inr (.inr hlt)
    · exact .inr (.inl (String.le_antisymm (String.not_lt.mp hlt) h))

end Order

section Defs

/-- The map without entries. -/
def empty : KeyMap α := ⟨[], .nil⟩

instance : Inhabited (KeyMap α) := ⟨empty⟩

instance : EmptyCollection (KeyMap α) := ⟨empty⟩

/-- Put an entry at its place in an ordered list, over an older one of the same
name. -/
def insertEntry (key : String) (value : α) :
    List (String × α) → List (String × α)
  | [] => [(key, value)]
  | entry :: rest =>
      if key < entry.1 then (key, value) :: entry :: rest
      else if key = entry.1 then (key, value) :: rest
      else entry :: insertEntry key value rest

theorem mem_insertEntry {key : String} {value : α} {entry : String × α}
    {es : List (String × α)} (h : entry ∈ insertEntry key value es) :
    entry = (key, value) ∨ entry ∈ es := by
  induction es with
  | nil => simpa [insertEntry] using h
  | cons e rest ih =>
      rw [insertEntry] at h
      split at h
      · simpa using h
      · split at h
        · rcases List.mem_cons.mp h with h | h
          · exact .inl h
          · exact .inr (List.mem_cons_of_mem _ h)
        · rcases List.mem_cons.mp h with h | h
          · exact .inr (h ▸ List.mem_cons_self)
          · rcases ih h with h | h
            · exact .inl h
            · exact .inr (List.mem_cons_of_mem _ h)

theorem pairwise_insertEntry (key : String) (value : α)
    {es : List (String × α)} (h : es.Pairwise (fun a b => a.1 < b.1)) :
    (insertEntry key value es).Pairwise (fun a b => a.1 < b.1) := by
  induction es with
  | nil => simp [insertEntry]
  | cons e rest ih =>
      have ⟨hhead, htail⟩ := List.pairwise_cons.mp h
      rw [insertEntry]
      split
      · rename_i hlt
        refine List.pairwise_cons.mpr ⟨?_, h⟩
        intro x hx
        rcases List.mem_cons.mp hx with hx | hx
        · exact hx ▸ hlt
        · exact String.lt_trans hlt (hhead x hx)
      · rename_i hnlt
        split
        · rename_i heq
          refine List.pairwise_cons.mpr ⟨?_, htail⟩
          intro x hx
          exact heq ▸ hhead x hx
        · rename_i hne
          refine List.pairwise_cons.mpr ⟨?_, ih htail⟩
          intro x hx
          rcases mem_insertEntry hx with hx | hx
          · subst hx
            rcases lt_or_eq_or_lt key e.1 with hk | hk | hk
            · exact absurd hk hnlt
            · exact absurd hk hne
            · exact hk
          · exact hhead x hx

/-- Put a value under a name, over an older one. -/
def insert (m : KeyMap α) (key : String) (value : α) : KeyMap α :=
  ⟨insertEntry key value m.entries, pairwise_insertEntry key value m.sorted⟩

/-- The value under a name. -/
def get? (m : KeyMap α) (key : String) : Option α :=
  (m.entries.find? fun entry => entry.1 = key).map Prod.snd

/-- The name has a value. -/
def contains (m : KeyMap α) (key : String) : Bool :=
  (m.get? key).isSome

/-- The names, in order. -/
def keys (m : KeyMap α) : List String :=
  m.entries.map Prod.fst

/-- The number of entries. -/
def size (m : KeyMap α) : Nat :=
  m.entries.length

/-- No name has a value. -/
def isEmpty (m : KeyMap α) : Bool :=
  m.entries.isEmpty

/-- The map of a list of entries; of several with one name the last counts. -/
def ofList (es : List (String × α)) : KeyMap α :=
  es.foldl (fun m entry => m.insert entry.1 entry.2) empty

/-- Change every value, or drop it. -/
def filterMapEntries (f : String → α → Option β) (es : List (String × α)) :
    List (String × β) :=
  es.filterMap fun entry => (f entry.1 entry.2).map fun value => (entry.1, value)

theorem pairwise_filterMapEntries (f : String → α → Option β)
    {es : List (String × α)} (h : es.Pairwise (fun a b => a.1 < b.1)) :
    (filterMapEntries f es).Pairwise (fun a b => a.1 < b.1) := by
  refine List.Pairwise.filterMap _ ?_ h
  intro a b hab x hx y hy
  obtain ⟨_, _, rfl⟩ := Option.map_eq_some_iff.mp hx
  obtain ⟨_, _, rfl⟩ := Option.map_eq_some_iff.mp hy
  exact hab

/-- The map with every value changed, or dropped. -/
def filterMap (f : String → α → Option β) (m : KeyMap α) : KeyMap β :=
  ⟨filterMapEntries f m.entries, pairwise_filterMapEntries f m.sorted⟩

/-- The entries that satisfy a condition. -/
def filter (p : String → α → Bool) (m : KeyMap α) : KeyMap α :=
  m.filterMap fun key value => if p key value then some value else none

/-- Put a value under a name unless it has one. -/
def insertIfNew (m : KeyMap α) (key : String) (value : α) : KeyMap α :=
  if m.contains key then m else m.insert key value

/-- Put a value under a name when there is one to put. -/
def insertSome (m : KeyMap α) (key : String) : Option α → KeyMap α
  | none => m
  | some value => m.insert key value

end Defs

section Lookup

theorem get?_eq_find? (m : KeyMap α) (key : String) :
    m.get? key = (m.entries.find? fun entry => entry.1 = key).map Prod.snd :=
  rfl

@[simp] theorem get?_empty (key : String) :
    (empty : KeyMap α).get? key = none :=
  rfl

theorem find?_insertEntry (key other : String) (value : α)
    (es : List (String × α)) :
    ((insertEntry key value es).find? fun entry => entry.1 = other).map Prod.snd =
      if other = key then some value
      else (es.find? fun entry => entry.1 = other).map Prod.snd := by
  induction es with
  | nil =>
      by_cases h : other = key
      · simp [insertEntry, h]
      · simp [insertEntry, h, Ne.symm h]
  | cons e rest ih =>
      rw [insertEntry]
      split
      · by_cases h : other = key
        · simp [h]
        · simp [h, Ne.symm h, List.find?_cons]
      · split
        · rename_i heq
          by_cases h : other = key
          · simp [h]
          · simp [h, Ne.symm h, ← heq]
        · rename_i hne
          by_cases he : e.1 = other
          · have hk : other ≠ key := fun h => hne (by rw [he, h])
            simp [he, hk]
          · simp only [List.find?_cons, he, decide_false]
            exact ih

/-- An insertion is seen under its own name and nowhere else. -/
theorem get?_insert (m : KeyMap α) (key other : String) (value : α) :
    (m.insert key value).get? other =
      if other = key then some value else m.get? other :=
  find?_insertEntry key other value m.entries

theorem mem_entries_of_get?_eq_some {m : KeyMap α} {key : String} {value : α}
    (h : m.get? key = some value) : (key, value) ∈ m.entries := by
  obtain ⟨entry, hfind, rfl⟩ := Option.map_eq_some_iff.mp h
  have hkey : entry.1 = key := by
    simpa using List.find?_some hfind
  subst hkey
  exact List.mem_of_find?_eq_some hfind

theorem find?_eq_some_of_mem {es : List (String × α)}
    (h : es.Pairwise (fun a b => a.1 < b.1)) {entry : String × α}
    (hmem : entry ∈ es) :
    (es.find? fun e => e.1 = entry.1) = some entry := by
  induction es with
  | nil => simp at hmem
  | cons e rest ih =>
      have ⟨hhead, htail⟩ := List.pairwise_cons.mp h
      rcases List.mem_cons.mp hmem with heq | hin
      · subst heq
        simp
      · have hne : e.1 ≠ entry.1 := by
          intro heq
          have hlt := hhead entry hin
          rw [heq] at hlt
          exact String.lt_irrefl _ hlt
        simp only [List.find?_cons, hne, decide_false]
        exact ih htail hin

/-- The entries are the names with their values. -/
theorem get?_eq_some_iff (m : KeyMap α) (key : String) (value : α) :
    m.get? key = some value ↔ (key, value) ∈ m.entries := by
  constructor
  · exact mem_entries_of_get?_eq_some
  · intro h
    rw [get?_eq_find?, find?_eq_some_of_mem m.sorted h]
    rfl

theorem mem_filterMapEntries (f : String → α → Option β)
    (es : List (String × α)) (key : String) (value : β) :
    (key, value) ∈ filterMapEntries f es ↔
      ∃ old, (key, old) ∈ es ∧ f key old = some value := by
  simp only [filterMapEntries, List.mem_filterMap, Option.map_eq_some_iff,
    Prod.mk.injEq]
  constructor
  · rintro ⟨⟨k, old⟩, hmem, new, hf, rfl, rfl⟩
    exact ⟨old, hmem, hf⟩
  · rintro ⟨old, hmem, hf⟩
    exact ⟨(key, old), hmem, value, hf, rfl, rfl⟩

/-- A changed map is seen through the change. -/
theorem get?_filterMap (f : String → α → Option β) (m : KeyMap α)
    (key : String) :
    (m.filterMap f).get? key = (m.get? key).bind (f key) := by
  apply Option.ext
  intro value
  rw [get?_eq_some_iff]
  rw [show (key, value) ∈ (m.filterMap f).entries ↔ _ from
    mem_filterMapEntries f m.entries key value]
  simp only [Option.bind_eq_some_iff, get?_eq_some_iff]

theorem get?_filter (p : String → α → Bool) (m : KeyMap α) (key : String) :
    (m.filter p).get? key = (m.get? key).filter (p key) := by
  rw [filter, get?_filterMap]
  cases m.get? key <;> simp [Option.filter]

theorem get?_insertSome (m : KeyMap α) (key other : String)
    (value : Option α) :
    (m.insertSome key value).get? other =
      if other = key then value.or (m.get? other) else m.get? other := by
  cases value with
  | none => simp [insertSome]
  | some value => simp [insertSome, get?_insert]

end Lookup

section Extensionality

theorem entries_ext {es fs : List (String × α)}
    (he : es.Pairwise (fun a b => a.1 < b.1))
    (hf : fs.Pairwise (fun a b => a.1 < b.1))
    (h : ∀ entry, entry ∈ es ↔ entry ∈ fs) : es = fs := by
  induction es generalizing fs with
  | nil =>
      cases fs with
      | nil => rfl
      | cons f rest => exact absurd ((h f).mpr List.mem_cons_self) (by simp)
  | cons e es ih =>
      cases fs with
      | nil => exact absurd ((h e).mp List.mem_cons_self) (by simp)
      | cons f fs =>
          have ⟨hehead, hetail⟩ := List.pairwise_cons.mp he
          have ⟨hfhead, hftail⟩ := List.pairwise_cons.mp hf
          have hef : e = f := by
            rcases List.mem_cons.mp ((h e).mp List.mem_cons_self) with h1 | h1
            · exact h1
            · rcases List.mem_cons.mp ((h f).mpr List.mem_cons_self) with h2 | h2
              · exact h2.symm
              · exact absurd (String.lt_trans (hfhead e h1) (hehead f h2))
                  (String.lt_irrefl _)
          subst hef
          congr 1
          refine ih hetail hftail ?_
          intro entry
          constructor
          · intro hin
            rcases List.mem_cons.mp ((h entry).mp (List.mem_cons_of_mem _ hin)) with h1 | h1
            · exact absurd (h1 ▸ hehead entry hin) (String.lt_irrefl _)
            · exact h1
          · intro hin
            rcases List.mem_cons.mp ((h entry).mpr (List.mem_cons_of_mem _ hin)) with h1 | h1
            · exact absurd (h1 ▸ hfhead entry hin) (String.lt_irrefl _)
            · exact h1

/-- Maps with the same value under every name are equal. -/
theorem ext_get? {m n : KeyMap α} (h : ∀ key, m.get? key = n.get? key) :
    m = n := by
  have hentries : m.entries = n.entries := by
    refine entries_ext m.sorted n.sorted ?_
    rintro ⟨key, value⟩
    rw [← get?_eq_some_iff, ← get?_eq_some_iff, h key]
  cases m
  cases n
  cases hentries
  rfl

end Extensionality

end KeyMap
end DesiredState
