import DesiredState.Json.Declaration
import DesiredState.Proofs.Finding
import DesiredState.Proofs.KeyMap.Listing
import Mathlib.Data.List.Forall2
import Mathlib.Data.Option.Basic
import Mathlib.Order.Basic

/-!
# Encoding of declarations

**Input.** A declaration, and a JSON value that says the same as its encoding: the fields
of an object count by their names, and not by the order in which they are written.

**Idea.** What is read off a value looks its fields up by name, and an encoding has each
name once. So values that say the same are read alike, and it is enough that an encoding
itself is read as what was encoded. Booleans, strings and objects are told apart by the
form of a value, whatever they hold.

**Results.**
* `lastOf_eq_some_iff`: the look-up of a field.
* `toMap?_eq_some_iff`: the map of an object, read field by field.
* `Same.ofJson?_declaration`: values that say the same are read as the same declaration.
* `ofJson?_toJson_declaration`: an encoding is read as what was encoded.
* `Declaration.encoding_faithful`: a declaration survives its encoding, and no two
  declarations share one.
-/

namespace DesiredState

namespace Json

section Defs

/-- Two values say the same: the fields of their objects, each name once, are the same by
name. -/
inductive Same : Json → Json → Prop
  | refl (json : Json) : Same json json
  | array {xs ys : List Json} (length : xs.length = ys.length)
      (items : ∀ (i : Nat) (x y : Json), xs[i]? = some x → ys[i]? = some y → Same x y) :
      Same (.array xs) (.array ys)
  | object {fields others : List (String × Json)} (once : (fields.map Prod.fst).Nodup)
      (names : (fields.map Prod.fst).Perm (others.map Prod.fst))
      (values : ∀ (name : String) (x y : Json), (name, x) ∈ fields → (name, y) ∈ others →
        Same x y) :
      Same (.object fields) (.object others)

/-- The boolean of a JSON boolean. -/
def boolean? : Json → Option Bool
  | .boolean value => some value
  | _ => none

end Defs

section Lookup

variable {fields others : List (String × Json)} {name : String}

/-- Where each name comes once, a field is found under its name. -/
theorem lastOf_eq_some_iff (h : (fields.map Prod.fst).Nodup) (value : Json) :
    lastOf name fields = some value ↔ (name, value) ∈ fields := by
  have hreverse : (fields.reverse.map Prod.fst).Nodup := by
    rwa [List.map_reverse, List.nodup_reverse]
  rw [lastOf, find?_map_snd_eq_some_iff hreverse, List.mem_reverse]

/-- The fields of values that say the same say the same. -/
theorem Same.field? {a b : Json} (h : Same a b) (name : String) :
    Option.Rel Same (a.field? name) (b.field? name) := by
  cases h with
  | refl =>
      cases a.field? name with
      | none => exact .none
      | some value => exact .some (.refl value)
  | array => exact .none
  | object once names values =>
      exact rel_of_perm_names lastOf_eq_some_iff once names (values name)

/-- Fields that are written in another order say the same. -/
theorem Same.of_perm (once : (fields.map Prod.fst).Nodup) (perm : fields.Perm others) :
    Same (.object fields) (.object others) := by
  refine .object once (perm.map Prod.fst) ?_
  intro name x y hx hy
  have hsame := (lastOf_eq_some_iff once x).mpr hx
  rw [(lastOf_eq_some_iff once y).mpr (perm.mem_iff.mpr hy)] at hsame
  cases hsame
  exact .refl x

end Lookup

section Maps

variable {α : Type} {decode : Json → Option α} {fields : List (String × Json)}

/-- The fields of an object are decoded one by one. -/
theorem decodeFields_eq_some_iff (entries : List (String × α)) :
    decodeFields decode fields = some entries ↔
      List.Forall₂ (fun field entry => entry.1 = field.1 ∧ decode field.2 = some entry.2)
        fields entries := by
  induction fields generalizing entries with
  | nil => simp [decodeFields, eq_comm]
  | cons field rest ih =>
      obtain ⟨name, json⟩ := field
      rw [decodeFields, List.forall₂_cons_left_iff]
      cases hvalue : decode json with
      | none => simp
      | some value =>
          cases hrest : decodeFields decode rest with
          | none => simp [← ih, hrest]
          | some more =>
              simp only [← ih, hrest, Option.some.injEq]
              constructor
              · rintro rfl
                exact ⟨(name, value), more, ⟨rfl, rfl⟩, rfl, rfl⟩
              · rintro ⟨⟨_, _⟩, _, ⟨rfl, rfl⟩, rfl, rfl⟩
                rfl

theorem names_of_decodeFields {entries : List (String × α)}
    (h : decodeFields decode fields = some entries) :
    entries.map Prod.fst = fields.map Prod.fst := by
  rw [decodeFields_eq_some_iff] at h
  induction h with
  | nil => rfl
  | cons hentry _ ih => rw [List.map_cons, List.map_cons, hentry.1, ih]

theorem mem_of_decodeFields {entries : List (String × α)}
    (h : decodeFields decode fields = some entries) (name : String) (value : α) :
    (name, value) ∈ entries ↔ ∃ json, (name, json) ∈ fields ∧ decode json = some value := by
  rw [decodeFields_eq_some_iff] at h
  induction h with
  | nil => simp
  | @cons field entry fields entries hentry _ ih =>
      obtain ⟨key, json⟩ := field
      obtain ⟨key', found⟩ := entry
      obtain ⟨rfl, hfound⟩ := hentry
      rw [List.mem_cons, ih]
      constructor
      · rintro (heq | ⟨other, hmem, hother⟩)
        · cases heq
          exact ⟨json, List.mem_cons_self, hfound⟩
        · exact ⟨other, List.mem_cons_of_mem _ hmem, hother⟩
      · rintro ⟨other, hmem, hother⟩
        rcases List.mem_cons.mp hmem with heq | hmem
        · cases heq
          rw [hfound] at hother
          cases hother
          exact .inl rfl
        · exact .inr ⟨other, hmem, hother⟩

theorem exists_decodeFields_iff :
    (∃ entries, decodeFields decode fields = some entries) ↔
      ∀ field ∈ fields, ∃ value, decode field.2 = some value := by
  induction fields with
  | nil => simp [decodeFields]
  | cons field rest ih =>
      rw [List.forall_mem_cons, ← ih, decodeFields]
      cases decode field.2 with
      | none => simp
      | some value => cases decodeFields decode rest <;> simp

/-- The map of an object in which each name comes once holds the decoded fields, all of
which can be decoded. -/
theorem toMap?_eq_some_iff (h : (fields.map Prod.fst).Nodup) (m : KeyMap α) :
    toMap? decode (.object fields) = some m ↔
      (∀ field ∈ fields, ∃ value, decode field.2 = some value) ∧
        ∀ name, m.get? name = (lastOf name fields).bind decode := by
  have hlook : ∀ {entries}, decodeFields decode fields = some entries →
      ∀ name, (KeyMap.ofList entries).get? name = (lastOf name fields).bind decode := by
    intro entries hentries name
    have hnodup : (entries.map Prod.fst).Nodup := by
      rw [names_of_decodeFields hentries]
      exact h
    apply Option.ext
    intro value
    rw [KeyMap.get?_ofList_eq_some_iff hnodup, mem_of_decodeFields hentries,
      Option.bind_eq_some_iff]
    simp only [lastOf_eq_some_iff h]
  rw [← exists_decodeFields_iff]
  change (decodeFields decode fields).map .ofList = some m ↔ _
  rw [Option.map_eq_some_iff]
  constructor
  · rintro ⟨entries, hentries, rfl⟩
    exact ⟨⟨entries, hentries⟩, hlook hentries⟩
  · rintro ⟨⟨entries, hentries⟩, hget⟩
    refine ⟨entries, hentries, KeyMap.ext_get? ?_⟩
    intro name
    rw [hlook hentries, hget]

/-- Values that say the same have the same map, if what they hold is decoded alike. -/
theorem Same.toMap? {a b : Json} (h : Same a b)
    (hdecode : ∀ x y, Same x y → decode x = decode y) :
    Json.toMap? decode a = Json.toMap? decode b := by
  cases h with
  | refl => rfl
  | array => rfl
  | @object fields others once names values =>
      have hfield := (Same.object once names values).field?
      have hothers := names.nodup_iff.mp once
      have hbind : ∀ name, (lastOf name fields).bind decode = (lastOf name others).bind decode :=
        fun name => bind_eq_of_rel (hfield name) hdecode
      have hall : ∀ {xs : List (String × Json)}, (xs.map Prod.fst).Nodup →
          ((∀ field ∈ xs, ∃ value, decode field.2 = some value) ↔
            ∀ name ∈ xs.map Prod.fst, ∃ value, (lastOf name xs).bind decode = some value) := by
        intro xs hxs
        rw [List.forall_mem_map]
        refine forall₂_congr ?_
        intro field hmem
        rw [(lastOf_eq_some_iff hxs field.2).mpr hmem, Option.bind_some]
      apply Option.ext
      intro m
      rw [toMap?_eq_some_iff once, toMap?_eq_some_iff hothers, hall once, hall hothers]
      simp only [hbind, names.mem_iff]

end Maps

section Reading

variable {a b : Json}

theorem Same.string?_eq (h : Same a b) : a.string? = b.string? := by
  cases h <;> rfl

theorem Same.ofJson?_kind (h : Same a b) : Kind.ofJson? a = Kind.ofJson? b := by
  rw [Kind.ofJson?, Kind.ofJson?, h.string?_eq]

theorem Same.ofJson?_ref (h : Same a b) : Ref.ofJson? a = Ref.ofJson? b := by
  rw [Ref.ofJson?, Ref.ofJson?, bind_eq_of_rel (h.field? "kind") fun _ _ => ofJson?_kind,
    bind_eq_of_rel (h.field? "id") fun _ _ => string?_eq]

theorem Same.ofJson?_attribute (h : Same a b) : Attribute.ofJson? a = Attribute.ofJson? b := by
  cases h with
  | refl => rfl
  | array => rfl
  | object once names values =>
      exact congrArg (Option.map Attribute.mapping)
        ((Same.object once names values).toMap? fun _ _ => string?_eq)

theorem Same.notifiesOfJson? {x y : Option Json} (h : Option.Rel Same x y) :
    Declaration.notifiesOfJson? x = Declaration.notifiesOfJson? y := by
  cases h with
  | none => rfl
  | some hsame =>
      have href := congrArg (Option.map some) hsame.ofJson?_ref
      cases hsame with
      | refl => rfl
      | array => exact href
      | object => exact href

/-- Values that say the same are read as the same declaration, or as none. -/
theorem Same.ofJson?_declaration (h : Same a b) :
    Declaration.ofJson? a = Declaration.ofJson? b := by
  rw [Declaration.ofJson?, Declaration.ofJson?, h.ofJson?_ref,
    bind_eq_of_rel (h.field? "attributes") fun _ _ hsame =>
      hsame.toMap? fun _ _ => ofJson?_attribute,
    notifiesOfJson? (h.field? "notifies")]

end Reading

section Encoding

variable {α : Type} {encode : α → Json} {decode : Json → Option α}

/-- A map is read from its object, if its values are read from theirs. -/
theorem toMap?_ofMap (h : ∀ value, decode (encode value) = some value) (m : KeyMap α) :
    toMap? decode (.ofMap encode m) = some m := by
  have hentries : decodeFields decode (m.entries.map fun entry => (entry.1, encode entry.2)) =
      some m.entries := by
    rw [decodeFields_eq_some_iff, List.forall₂_map_left_iff]
    exact List.forall₂_same.mpr fun entry _ => ⟨rfl, h entry.2⟩
  change (decodeFields decode (m.entries.map fun entry => (entry.1, encode entry.2))).map .ofList =
    some m
  rw [hentries, Option.map_some, KeyMap.ofList_entries]

theorem ofJson?_toJson_kind (kind : Kind) : Kind.ofJson? kind.toJson = some kind :=
  Kind.ofName?_name kind

theorem ofJson?_toJson_ref (ref : Ref) : Ref.ofJson? ref.toJson = some ref := by
  cases ref with
  | mk kind id =>
      have hkind : ((Ref.mk kind id).toJson.field? "kind").bind Kind.ofJson? = some kind :=
        ofJson?_toJson_kind kind
      have hid : ((Ref.mk kind id).toJson.field? "id").bind Json.string? = some id := rfl
      rw [Ref.ofJson?, hkind, hid]

theorem ofJson?_toJson_attribute (attr : Attribute) :
    Attribute.ofJson? attr.toJson = some attr := by
  cases attr with
  | boolean value => rfl
  | text value => rfl
  | mapping entries =>
      have hentries : toMap? Json.string? (.ofMap Json.string entries) = some entries := by
        refine toMap?_ofMap ?_ entries
        intro word
        rfl
      exact congrArg (Option.map Attribute.mapping) hentries

/-- The field for the resource that is notified is left out when there is none. -/
theorem field?_notifies (decl : Declaration) :
    decl.toJson.field? "notifies" = decl.notifies.map Ref.toJson := by
  obtain ⟨kind, id, attributes, _ | ref⟩ := decl <;> rfl

/-- An encoding is read as the declaration that was encoded. -/
theorem ofJson?_toJson_declaration (decl : Declaration) :
    Declaration.ofJson? decl.toJson = some decl := by
  have href : Ref.ofJson? decl.toJson = some decl.ref := by
    have hkind : (decl.toJson.field? "kind").bind Kind.ofJson? = some decl.kind := by
      obtain ⟨kind, id, attributes, _ | ref⟩ := decl <;> exact ofJson?_toJson_kind kind
    have hid : (decl.toJson.field? "id").bind Json.string? = some decl.id := by
      obtain ⟨kind, id, attributes, _ | ref⟩ := decl <;> rfl
    rw [Ref.ofJson?, hkind, hid]
    rfl
  have hattributes : (decl.toJson.field? "attributes").bind (toMap? Attribute.ofJson?) =
      some decl.attributes := by
    obtain ⟨kind, id, attributes, _ | ref⟩ := decl <;>
      exact toMap?_ofMap ofJson?_toJson_attribute attributes
  have hnotifies : Declaration.notifiesOfJson? (decl.toJson.field? "notifies") =
      some decl.notifies := by
    rw [field?_notifies]
    cases decl.notifies with
    | none => rfl
    | some ref => exact congrArg (Option.map some) (ofJson?_toJson_ref ref)
  rw [Declaration.ofJson?, href, hattributes, hnotifies]
  rfl

end Encoding

end Json

section Faithful

/-- An attribute is read as the first of a boolean, a text and a mapping that it fits. -/
theorem Attribute.ofJson?_eq_or (json : Json) :
    Attribute.ofJson? json =
      ((json.boolean?.map .boolean).or (json.string?.map .text)).or
        ((json.toMap? Json.string?).map .mapping) := by
  cases json <;> rfl

/-- A declaration is read back from every value that says the same as its encoding, so no
two declarations have encodings that say the same. That holds of attributes, too, each of
which is read back in the one form that it fits. The field for a notified resource is there when a
resource is notified, and left out otherwise. -/
theorem Declaration.encoding_faithful :
    (∀ (decl : Declaration) (json : Json), decl.toJson.Same json →
      Declaration.ofJson? json = some decl) ∧
    (∀ a b : Declaration, a.toJson.Same b.toJson → a = b) ∧
    (∀ (attr : Attribute) (json : Json), attr.toJson.Same json →
      Attribute.ofJson? json = some attr) ∧
    (∀ a b : Attribute, a.toJson.Same b.toJson → a = b) ∧
    (∀ json : Json, Attribute.ofJson? json =
      ((json.boolean?.map .boolean).or (json.string?.map .text)).or
        ((json.toMap? Json.string?).map .mapping)) ∧
    (∀ decl : Declaration, decl.toJson.field? "notifies" = decl.notifies.map Ref.toJson) := by
  have hread : ∀ (decl : Declaration) (json : Json), decl.toJson.Same json →
      Declaration.ofJson? json = some decl := by
    intro decl json hsame
    rw [← hsame.ofJson?_declaration]
    exact Json.ofJson?_toJson_declaration decl
  have hreadattr : ∀ (attr : Attribute) (json : Json), attr.toJson.Same json →
      Attribute.ofJson? json = some attr := by
    intro attr json hsame
    rw [← hsame.ofJson?_attribute]
    exact Json.ofJson?_toJson_attribute attr
  refine ⟨hread, ?_, hreadattr, ?_, Attribute.ofJson?_eq_or, Json.field?_notifies⟩
  · intro a b hsame
    have heq := hread a b.toJson hsame
    rw [Json.ofJson?_toJson_declaration] at heq
    exact (Option.some.inj heq).symm
  · intro a b hsame
    have heq := hreadattr a b.toJson hsame
    rw [Json.ofJson?_toJson_attribute] at heq
    exact (Option.some.inj heq).symm

/-- A declaration with a boolean, its word, and a mapping under names of the encoding. -/
def Declaration.worded : Declaration :=
  { kind := .file
    id := "kind"
    attributes := .ofList [("enable", .boolean true), ("ensure", .text "true"),
      ("id", .mapping (.ofList [("kind", "package")]))]
    notifies := some ⟨.service, "web"⟩ }

/-- It is read back from its fields in the opposite order. -/
theorem Declaration.encoding_worded :
    let reordered := Json.object [("notifies", (⟨.service, "web"⟩ : Ref).toJson),
      ("attributes", .object [("enable", .boolean true), ("ensure", .string "true"),
        ("id", .object [("kind", .string "package")])]),
      ("id", .string "kind"), ("kind", .string "file")]
    worded.toJson.Same reordered ∧ ofJson? reordered = some worded := by
  intro reordered
  have hsame : worded.toJson.Same reordered :=
    .of_perm (by decide) (List.reverse_perm _).symm
  exact ⟨hsame, encoding_faithful.1 worded reordered hsame⟩

end Faithful

end DesiredState
