import DesiredState.Proofs.Template.Occurrence

/-!
# Substitution of placeholders

**Input.** A source text and the variables of a template.

**Rule.** Every occurrence of a placeholder is replaced by the value of its name,
and the text between the occurrences is kept. The leftmost occurrence whose name
has no value ends the rendering.

**Results.**
* `mem_placed_segments`: the placeholders among the segments of a text are all
  of its occurrences.
* `splice_placed`: replacing them at their places in the text is replacing them
  among the segments.
* `substitute_simultaneous`: the placeholders of a text are replaced all at once.
-/

namespace DesiredState

/-- The value of a placeholder's name; no characters when it has none. -/
def Variables.valueOf (vars : Variables) (name : List Char) : List Char :=
  ((vars.lookup? (String.ofList name)).getD "").toList

namespace Template

section Defs

/-- The segment with a placeholder replaced by the value of its name. -/
def Segment.rendered (value : List Char → List Char) : Segment → List Char
  | .plain c => [c]
  | .placeholder _ name => value name

/-- The placeholders among some segments, the first of which stands at a place. -/
def placed (start : Nat) : List Segment → List Occurrence
  | [] => []
  | .plain _ :: rest => placed (start + 1) rest
  | .placeholder written name :: rest =>
      ⟨start, written, name⟩ :: placed (start + written.length) rest

/-- The text from a place on, with each of some occurrences replaced by the value
of its name. -/
def splice (value : List Char → List Char) (source : List Char) :
    Nat → List Occurrence → List Char
  | cursor, [] => source.drop cursor
  | cursor, occurrence :: rest =>
      (source.take occurrence.start).drop cursor ++ value occurrence.name ++
        splice value source occurrence.stop rest

end Defs

section Places

theorem start_le_of_mem_placed {start : Nat} {segs : List Segment}
    {occurrence : Occurrence} (h : occurrence ∈ placed start segs) :
    start ≤ occurrence.start := by
  induction segs generalizing start with
  | nil => cases h
  | cons segment rest ih =>
      cases segment with
      | plain c =>
          have := ih h
          omega
      | placeholder written name =>
          rcases List.mem_cons.mp h with rfl | h
          · exact Nat.le_refl start
          · have := ih h
            omega

/-- The placeholders among segments stand one behind the other. -/
theorem pairwise_placed (start : Nat) (segs : List Segment) :
    (placed start segs).Pairwise fun a b => a.stop ≤ b.start := by
  induction segs generalizing start with
  | nil => exact .nil
  | cons segment rest ih =>
      cases segment with
      | plain c => exact ih (start + 1)
      | placeholder written name =>
          refine List.pairwise_cons.mpr ⟨?_, ih (start + written.length)⟩
          intro occurrence hmem
          exact start_le_of_mem_placed hmem

theorem drop_length_add (before cs : List Char) {n : Nat} (h : before.length ≤ n) :
    (before ++ cs).drop n = cs.drop (n - before.length) := by
  rw [List.drop_append, List.drop_eq_nil_of_le h, List.nil_append]

/-- The placeholders among the segments of a text are its occurrences. The
induction follows the segments and keeps what was read before them, so that
places are counted in the whole text. -/
theorem mem_placed_segments (cs before : List Char) {occurrence : Occurrence}
    (hstart : before.length ≤ occurrence.start) :
    occurrence ∈ placed before.length (segments cs) ↔
      occurrence.StandsIn (before ++ cs) := by
  fun_induction segments cs generalizing before with
  | case1 =>
      rw [Occurrence.standsIn_iff, drop_length_add before [] hstart, List.drop_nil]
      simp [placed, leading?]
  | case2 c cs written name rest hleading ih =>
      obtain ⟨hplaceholder, happend⟩ := (leading?_eq_some_iff _ _ _ _).mp hleading
      have hhere : (⟨before.length, written, name⟩ : Occurrence).StandsIn
          (before ++ c :: cs) := by
        refine ⟨hplaceholder, rest, ?_⟩
        rw [drop_length_add before (c :: cs) (Nat.le_refl _), Nat.sub_self, happend]
        rfl
      have hlength : before.length + written.length = (before ++ written).length := by
        rw [List.length_append]
      have hsource : before ++ c :: cs = (before ++ written) ++ rest := by
        rw [happend, List.append_assoc]
      rw [placed, List.mem_cons, hlength]
      constructor
      · rintro (rfl | hmem)
        · exact hhere
        · rw [hsource]
          exact (ih (before ++ written) (start_le_of_mem_placed hmem)).mp hmem
      · intro hstands
        by_cases heq : occurrence = ⟨before.length, written, name⟩
        · exact .inl heq
        · rcases hhere.disjoint hstands (Ne.symm heq) with hbehind | hahead
          · have hfrom : (before ++ written).length ≤ occurrence.start := by
              rw [← hlength]
              exact hbehind
            refine .inr ((ih (before ++ written) hfrom).mpr ?_)
            rw [← hsource]
            exact hstands
          · -- An occurrence that ends here would have to be empty.
            obtain ⟨first, inner, hwritten, _⟩ := hstands.isPlaceholder.eq_cons
            unfold Occurrence.stop at hahead
            rw [hwritten] at hahead
            simp only [List.length_cons] at hahead
            omega
  | case3 c cs hleading ih =>
      have hlength : before.length + 1 = (before ++ [c]).length := by
        rw [List.length_append, List.length_singleton]
      have hsource : before ++ c :: cs = (before ++ [c]) ++ cs := by
        rw [List.append_assoc, List.singleton_append]
      rw [placed, hlength, hsource]
      rcases Nat.eq_or_lt_of_le hstart with heq | hlt
      · constructor
        · intro hmem
          have := start_le_of_mem_placed hmem
          omega
        · intro hstands
          obtain ⟨_, hread⟩ := (Occurrence.standsIn_iff _ _).mp hstands
          rw [← hsource, ← heq, drop_length_add before _ (Nat.le_refl _),
            Nat.sub_self, List.drop_zero, hleading] at hread
          cases hread
      · exact ih (before ++ [c]) (by omega)

theorem mem_placed_iff (source : List Char) (occurrence : Occurrence) :
    occurrence ∈ placed 0 (segments source) ↔ occurrence.StandsIn source :=
  mem_placed_segments source [] (Nat.zero_le _)

/-- Replacing placeholders at their places in the text is replacing them among
the segments. The cursor stays behind while plain characters are passed. -/
theorem splice_placed (value : List Char → List Char) (segs : List Segment)
    (before : List Char) {cursor : Nat} (hcursor : cursor ≤ before.length) :
    splice value (before ++ segs.flatMap Segment.written) cursor
        (placed before.length segs) =
      before.drop cursor ++ segs.flatMap (Segment.rendered value) := by
  induction segs generalizing before cursor with
  | nil => simp [placed, splice]
  | cons segment rest ih =>
      cases segment with
      | plain c =>
          have hlonger : cursor ≤ (before ++ [c]).length := by
            rw [List.length_append]
            omega
          have hrest := ih (before ++ [c]) hlonger
          rw [List.length_append, List.length_singleton, List.append_assoc,
            List.drop_append_of_le_length hcursor, List.append_assoc] at hrest
          exact hrest
      | placeholder written name =>
          have hrest := ih (before ++ written) (Nat.le_refl _)
          rw [List.drop_length, List.nil_append, List.length_append,
            List.append_assoc] at hrest
          have htake : (before ++ (written ++ rest.flatMap Segment.written)).take
              before.length = before := List.take_left
          simp only [placed, splice, List.flatMap_cons, Segment.written,
            Segment.rendered, Occurrence.stop]
          rw [htake, hrest, List.append_assoc]

end Places

section Rendering

/-- Rendering replaces every placeholder, or stops at the first one without a
value. -/
theorem renderSegments_eq (template : String) (vars : Variables)
    (segs : List Segment) (start : Nat) :
    renderSegments template vars segs =
      match (placed start segs).find? fun occurrence =>
          (vars.lookup? (String.ofList occurrence.name)).isNone with
      | none => .ok (segs.flatMap (Segment.rendered vars.valueOf))
      | some occurrence =>
          .error (.unrendered template
            (.undefinedVariable (String.ofList occurrence.name))) := by
  induction segs generalizing start with
  | nil => rfl
  | cons segment rest ih =>
      cases segment with
      | plain c =>
          rw [renderSegments, ih (start + 1), placed]
          split
          · rename_i rendered hrendered
            split at hrendered
            · cases hrendered
              rfl
            · cases hrendered
          · rename_i fault hfault
            split at hfault
            · cases hfault
            · cases hfault
              rfl
      | placeholder written name =>
          rw [renderSegments, placed]
          cases hvalue : vars.lookup? (String.ofList name) with
          | none =>
              rw [List.find?_cons_of_pos (by simp [hvalue])]
          | some value =>
              rw [List.find?_cons_of_neg (by simp [hvalue]),
                ih (start + written.length)]
              have hrendered : vars.valueOf name = value.toList := by
                simp [Variables.valueOf, hvalue]
              dsimp only
              split
              · rename_i rendered hok
                split at hok
                · cases hok
                  rw [List.flatMap_cons, Segment.rendered, hrendered]
                · cases hok
              · rename_i fault herror
                split at herror
                · cases herror
                · cases herror
                  rfl

/-- The first occurrence in a text whose name has no value. -/
def firstUndefined? (vars : Variables) (source : List Char) : Option Occurrence :=
  (placed 0 (segments source)).find? fun occurrence =>
    (vars.lookup? (String.ofList occurrence.name)).isNone

theorem firstUndefined?_eq_none_iff (vars : Variables) (source : List Char) :
    firstUndefined? vars source = none ↔
      ∀ occurrence : Occurrence, occurrence.StandsIn source →
        vars.lookup? (String.ofList occurrence.name) ≠ none := by
  rw [firstUndefined?, List.find?_eq_none]
  constructor
  · intro h occurrence hstands
    have hnot := h occurrence ((mem_placed_iff _ _).mpr hstands)
    simpa using hnot
  · intro h occurrence hmem
    have hdefined := h occurrence ((mem_placed_iff _ _).mp hmem)
    simpa using hdefined

/-- The first occurrence without a value is the leftmost one. -/
theorem leftmost_of_firstUndefined? {vars : Variables} {source : List Char}
    {occurrence : Occurrence} (h : firstUndefined? vars source = some occurrence) :
    occurrence.StandsIn source ∧
      vars.lookup? (String.ofList occurrence.name) = none ∧
      ∀ other : Occurrence, other.StandsIn source →
        vars.lookup? (String.ofList other.name) = none →
        occurrence.start ≤ other.start := by
  obtain ⟨hundefined, before, after, hsplit, hbefore⟩ :=
    List.find?_eq_some_iff_append.mp h
  refine ⟨?_, by simpa using hundefined, ?_⟩
  · rw [← mem_placed_iff, hsplit]
    exact List.mem_append_right _ List.mem_cons_self
  · intro other hother hnone
    rw [← mem_placed_iff, hsplit] at hother
    rcases List.mem_append.mp hother with hin | hin
    · have hnot := hbefore other hin
      simp [hnone] at hnot
    · rcases List.mem_cons.mp hin with rfl | hin
      · exact Nat.le_refl _
      · have hordered := pairwise_placed 0 (segments source)
        rw [hsplit] at hordered
        have htail := (List.pairwise_append.mp hordered).2.1
        have hstop := (List.pairwise_cons.mp htail).1 other hin
        exact Nat.le_trans (Nat.le_add_right _ _) hstop

/-- Substitution replaces all occurrences at their places, or stops at the first
one without a value. -/
theorem substitute_eq (template source : String) (vars : Variables) :
    substitute template source vars =
      match firstUndefined? vars source.toList with
      | none =>
          .ok (String.ofList (splice vars.valueOf source.toList 0
            (placed 0 (segments source.toList))))
      | some occurrence =>
          .error (.unrendered template
            (.undefinedVariable (String.ofList occurrence.name))) := by
  have hsplice := splice_placed vars.valueOf (segments source.toList) []
    (Nat.zero_le _)
  rw [List.nil_append, flatMap_written_segments] at hsplice
  rw [substitute, renderSegments_eq template vars (segments source.toList) 0,
    firstUndefined?]
  split
  · exact congrArg (fun cs => Except.ok (String.ofList cs)) hsplice.symm
  · rfl

/-- Distinct occurrences are disjoint. When every one of them has a value, the
result is the text with each replaced by its value, and all else kept in place;
otherwise the leftmost one without a value is the fault. -/
theorem substitute_simultaneous (template source : String) (vars : Variables) :
    (∀ a b : Occurrence, a.StandsIn source.toList → b.StandsIn source.toList →
      a ≠ b → a.stop ≤ b.start ∨ b.stop ≤ a.start) ∧
    ((∃ text, substitute template source vars = .ok text) ↔
      ∀ occurrence : Occurrence, occurrence.StandsIn source.toList →
        vars.lookup? (String.ofList occurrence.name) ≠ none) ∧
    (∀ text, substitute template source vars = .ok text →
      ∃ occurrences : List Occurrence,
        (∀ occurrence, occurrence ∈ occurrences ↔
          occurrence.StandsIn source.toList) ∧
        occurrences.Pairwise (fun a b => a.stop ≤ b.start) ∧
        text = String.ofList (splice vars.valueOf source.toList 0 occurrences)) ∧
    (∀ fault, substitute template source vars = .error fault →
      ∃ occurrence : Occurrence, occurrence.StandsIn source.toList ∧
        vars.lookup? (String.ofList occurrence.name) = none ∧
        (∀ other : Occurrence, other.StandsIn source.toList →
          vars.lookup? (String.ofList other.name) = none →
          occurrence.start ≤ other.start) ∧
        fault = .unrendered template
          (.undefinedVariable (String.ofList occurrence.name))) := by
  refine ⟨fun a b ha hb hne => ha.disjoint hb hne, ?_⟩
  rw [substitute_eq, ← firstUndefined?_eq_none_iff]
  cases hfirst : firstUndefined? vars source.toList with
  | none =>
      refine ⟨⟨fun _ => rfl, fun _ => ⟨_, rfl⟩⟩, ?_, ?_⟩
      · intro text htext
        cases htext
        exact ⟨_, mem_placed_iff source.toList, pairwise_placed 0 _, rfl⟩
      · intro fault hfault
        cases hfault
  | some occurrence =>
      have ⟨hstands, hnone, hleftmost⟩ := leftmost_of_firstUndefined? hfirst
      refine ⟨⟨?_, ?_⟩, ?_, ?_⟩
      · rintro ⟨text, htext⟩
        cases htext
      · intro hdefined
        cases hdefined
      · intro text htext
        cases htext
      · intro fault hfault
        cases hfault
        exact ⟨occurrence, hstands, hnone, hleftmost, rfl⟩

/-- Placeholders in values are kept as they are. -/
example : substitute "page" "a\x7b\x7b fqdn \x7d\x7d"
    { fqdn := "\x7b\x7bmy_class\x7d\x7d", additionalClass := some "x", facts := .empty,
      settings := .empty, options := .empty } = .ok "a\x7b\x7bmy_class\x7d\x7d" := by
  decide +kernel

end Rendering

end Template
end DesiredState
