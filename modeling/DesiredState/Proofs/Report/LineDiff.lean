import DesiredState.Report.LineDiff
import Mathlib.Data.List.Permutation

/-!
# Breaks in line diffs

**Input.** Two texts, any edit script that leads from the lines of the one to those of
the other, and a terminal without colours.

**Idea.** A changed line is shown with a line break, whether it has one at its end or
not. Every line that has none is followed by a break of its own besides, be it deleted,
inserted or kept. So the diff shows the changed lines and nothing else exactly when every
line has its break; and since only the last line of a text can lack one, that is so
exactly when both texts end like a line, or are empty.

**Results.**
* `forall_endsLine_terminatedLines`: the texts all of whose lines have their end.
* `segmentText_plain`: what a segment shows, line by line.
* `isScript_script`: the script that is computed is one between the lines of its texts.
* `IsScript.isShown`: what is shown of any script between the lines of two texts.
* `plain_text_exact`: what a line diff shows, and when it is the changed lines alone.
* `plain_text_unended`: a kept line without a break leaves an empty line.
-/

namespace DesiredState

section Joining

variable {α : Type}

theorem join_flatMap (f : α → List String) (xs : List α) :
    String.join (xs.flatMap f) = String.join (xs.map fun x => String.join (f x)) := by
  induction xs with
  | nil => rfl
  | cons x rest ih =>
      rw [List.flatMap_cons, String.join_append, ih, List.map_cons, String.join_cons]

theorem length_join_map_append (f g : α → String) (xs : List α) :
    (String.join (xs.map fun x => f x ++ g x)).length =
      (String.join (xs.map f)).length + (String.join (xs.map g)).length := by
  induction xs with
  | nil => rfl
  | cons x rest ih =>
      simp only [List.map_cons, String.join_cons, String.length_append, ih]
      omega

/-- Texts that are put behind others disappear only when they are empty. -/
theorem join_map_append_eq_iff (f g : α → String) (xs : List α) :
    String.join (xs.map fun x => f x ++ g x) = String.join (xs.map f) ↔
      ∀ x ∈ xs, g x = "" := by
  constructor
  · intro h x hmem
    have hlength := length_join_map_append f g xs
    rw [h] at hlength
    have hempty : String.join (xs.map g) = "" := by
      rw [← String.length_eq_zero_iff]
      omega
    have hchars : ∀ text ∈ xs.map g, text.toList = [] := by
      rw [← List.flatMap_eq_nil_iff, ← String.toList_join, hempty]
      rfl
    exact String.toList_eq_nil_iff.mp (hchars (g x) (List.mem_map_of_mem hmem))
  · intro h
    refine congrArg String.join (List.map_congr_left ?_)
    intro x hmem
    rw [h x hmem, String.append_empty]

end Joining

namespace Text

section Ends

theorem endsLine_append_iff {start : List Char} (hstart : endsLine (String.ofList start) = true)
    (rest : List Char) :
    (start ++ rest = [] ∨ endsLine (String.ofList (start ++ rest)) = true) ↔
      rest = [] ∨ endsLine (String.ofList rest) = true := by
  by_cases hrest : rest = []
  · simp [hrest, hstart]
  · have hlast : endsLine (String.ofList (start ++ rest)) = endsLine (String.ofList rest) := by
      rw [endsLine, endsLine, String.toList_ofList, String.toList_ofList,
        List.getLast?_append_of_ne_nil start hrest]
    rw [hlast]
    simp [hrest]

/-- All lines of a text have their end exactly when the text, if there is any, has one. -/
theorem forall_endsLine_cutLines (line cs : List Char) :
    (∀ piece ∈ cutLines line cs, endsLine (String.ofList piece) = true) ↔
      line.reverse ++ cs = [] ∨ endsLine (String.ofList (line.reverse ++ cs)) = true := by
  have hstep : ∀ (last line rest : List Char),
      endsLine (String.ofList (last ++ line).reverse) = true →
      ((∀ piece ∈ cutLines [] rest, endsLine (String.ofList piece) = true) ↔
        rest = [] ∨ endsLine (String.ofList rest) = true) →
      ((∀ piece ∈ (last ++ line).reverse :: cutLines [] rest,
          endsLine (String.ofList piece) = true) ↔
        line.reverse ++ (last.reverse ++ rest) = [] ∨
          endsLine (String.ofList (line.reverse ++ (last.reverse ++ rest))) = true) := by
    intro last line rest hend ih
    rw [List.forall_mem_cons, ih, ← List.append_assoc, ← List.reverse_append,
      endsLine_append_iff hend]
    exact and_iff_right hend
  fun_induction cutLines line cs with
  | case1 line h => simp_all
  | case2 line h => simp_all
  | case3 line rest ih =>
      exact hstep ['\n', '\r'] line rest (by simp [endsLine]) (by simpa using ih)
  | case4 line rest _ ih => exact hstep ['\r'] line rest (by simp [endsLine]) (by simpa using ih)
  | case5 line rest ih => exact hstep ['\n'] line rest (by simp [endsLine]) (by simpa using ih)
  | case6 line c rest _ _ _ ih => simpa using ih

theorem forall_endsLine_terminatedLines (s : String) :
    (∀ line ∈ terminatedLines s, endsLine line = true) ↔ s = "" ∨ endsLine s = true := by
  rw [terminatedLines, List.forall_mem_map, forall_endsLine_cutLines]
  simp

/-- The lines of a text with their ends, put together, are the text. -/
theorem join_terminatedLines (s : String) : String.join (terminatedLines s) = s := by
  apply String.toList_injective
  rw [String.toList_join, terminatedLines, List.flatMap_map]
  simpa [List.flatMap_id'] using flatten_cutLines [] s.toList

end Ends

end Text

namespace LineDiff

open EditScript (Segment oldSide newSide)

section Defs

/-- A line of an edit script. -/
inductive Line where
  | kept (text : String)
  | deleted (text : String)
  | inserted (text : String)
deriving DecidableEq, Repr

namespace Line

/-- The text of the line, with its end if it has one. -/
def text : Line → String
  | .kept text => text
  | .deleted text => text
  | .inserted text => text

/-- The text of a line of the old text. -/
def old? : Line → Option String
  | .kept text => some text
  | .deleted text => some text
  | .inserted _ => none

/-- The text of a line of the new text. -/
def new? : Line → Option String
  | .kept text => some text
  | .deleted _ => none
  | .inserted text => some text

/-- What is to be seen of a line: if it is changed, its text behind an indent and a sign,
with a line break in any case. -/
def shown : Line → String
  | .kept _ => ""
  | .deleted text => "        " ++ "- " ++ text ++ missingBreak text
  | .inserted text => "        " ++ "+ " ++ text ++ missingBreak text

end Line

/-- The lines of a segment. -/
def segmentLines : Segment String → List Line
  | .keep lines => lines.map .kept
  | .delete lines => lines.map .deleted
  | .insert lines => lines.map .inserted

/-- The lines of an edit script, in its order. -/
def scriptLines (changes : List (Segment String)) : List Line :=
  changes.flatMap segmentLines

/-- The lines of two texts in the order of the edit script between them. -/
def lines (before after : String) : List Line :=
  scriptLines (script before after)

/-- The changed lines of two texts as they are to be seen. -/
def changedText (before after : String) : String :=
  String.join ((lines before after).map Line.shown)

/-- An edit script leads from the lines of a text to those of another one. -/
structure IsScript (before after : String) (changes : List (Segment String)) : Prop where
  old_eq : oldSide changes = Text.terminatedLines before
  new_eq : newSide changes = Text.terminatedLines after

/-- The lines of an edit script are those of two texts. Without colours each changed one
is shown, and a further break behind every line that has none at its end; so the changed
lines alone are shown exactly when each text is empty or ends like a line. -/
structure IsShown (before after : String) (changes : List (Segment String)) : Prop where
  join_old : String.join ((scriptLines changes).filterMap Line.old?) = before
  join_new : String.join ((scriptLines changes).filterMap Line.new?) = after
  text_eq : scriptText ⟨false⟩ changes =
    String.join ((scriptLines changes).map fun line => line.shown ++ missingBreak line.text)
  exact_iff : scriptText ⟨false⟩ changes = String.join ((scriptLines changes).map Line.shown) ↔
    (before = "" ∨ Text.endsLine before = true) ∧ (after = "" ∨ Text.endsLine after = true)

end Defs

section Lines

theorem missingBreak_eq_empty_iff (text : String) :
    missingBreak text = "" ↔ Text.endsLine text = true := by
  rw [missingBreak]
  split <;> simp_all

theorem filterMap_old?_segmentLines (segment : Segment String) :
    (segmentLines segment).filterMap Line.old? = segment.old := by
  cases segment <;>
    simp [segmentLines, Segment.old, List.filterMap_map, Function.comp_def, Line.old?]

theorem filterMap_new?_segmentLines (segment : Segment String) :
    (segmentLines segment).filterMap Line.new? = segment.new := by
  cases segment <;>
    simp [segmentLines, Segment.new, List.filterMap_map, Function.comp_def, Line.new?]

/-- The kept and the deleted lines are those of the old side. -/
theorem filterMap_old?_scriptLines (changes : List (Segment String)) :
    (scriptLines changes).filterMap Line.old? = oldSide changes := by
  rw [scriptLines, List.filterMap_flatMap, oldSide]
  simp only [filterMap_old?_segmentLines]

/-- The kept and the inserted lines are those of the new side. -/
theorem filterMap_new?_scriptLines (changes : List (Segment String)) :
    (scriptLines changes).filterMap Line.new? = newSide changes := by
  rw [scriptLines, List.filterMap_flatMap, newSide]
  simp only [filterMap_new?_segmentLines]

theorem isScript_script (before after : String) :
    IsScript before after (script before after) where
  old_eq := EditScript.oldSide_compute _ _
  new_eq := EditScript.newSide_compute _ _

/-- What holds of the lines of both texts holds of the lines of the script. -/
theorem forall_text_iff (P : String → Prop) (ls : List Line) :
    (∀ line ∈ ls, P line.text) ↔
      (∀ text ∈ ls.filterMap Line.old?, P text) ∧ ∀ text ∈ ls.filterMap Line.new?, P text := by
  simp only [List.mem_filterMap]
  constructor
  · intro h
    constructor
    · rintro text ⟨line, hmem, hold⟩
      cases line <;> cases hold <;> exact h _ hmem
    · rintro text ⟨line, hmem, hnew⟩
      cases line <;> cases hnew <;> exact h _ hmem
  · rintro ⟨hold, hnew⟩ line hmem
    cases line with
    | kept text => exact hold text ⟨_, hmem, rfl⟩
    | deleted text => exact hold text ⟨_, hmem, rfl⟩
    | inserted text => exact hnew text ⟨_, hmem, rfl⟩

end Lines

section Output

/-- Without colours a segment shows its changed lines, and a further break behind every
line that has none at its end. -/
theorem segmentText_plain (segment : Segment String) :
    segmentText ⟨false⟩ segment =
      String.join ((segmentLines segment).map fun line =>
        line.shown ++ missingBreak line.text) := by
  have hplain : ∀ (color : Console.Effect) (sign text : String),
      changedLine ⟨false⟩ color sign text =
        "        " ++ (sign ++ " ") ++ text ++ missingBreak text ++ missingBreak text := by
    intro color sign text
    rw [changedLine, Console.Palette.paint_of_not_hasColors rfl]
    simp only [String.append_assoc]
  cases segment with
  | keep lines =>
      simp [segmentText, segmentLines, List.map_map, Function.comp_def, Line.shown, Line.text]
  | delete lines =>
      rw [segmentText, segmentLines, List.map_map]
      exact congrArg String.join (List.map_congr_left fun text _ => hplain .red "-" text)
  | insert lines =>
      rw [segmentText, segmentLines, List.map_map]
      exact congrArg String.join (List.map_congr_left fun text _ => hplain .green "+" text)

theorem scriptText_plain (changes : List (Segment String)) :
    scriptText ⟨false⟩ changes =
      String.join ((scriptLines changes).map fun line =>
        line.shown ++ missingBreak line.text) := by
  rw [scriptText, scriptLines, List.map_flatMap, join_flatMap]
  exact congrArg String.join (List.map_congr_left fun segment _ => segmentText_plain segment)

/-- What is shown of a script between the lines of two texts. -/
theorem IsScript.isShown {before after : String} {changes : List (Segment String)}
    (h : IsScript before after changes) : IsShown before after changes where
  join_old := by rw [filterMap_old?_scriptLines, h.old_eq, Text.join_terminatedLines]
  join_new := by rw [filterMap_new?_scriptLines, h.new_eq, Text.join_terminatedLines]
  text_eq := scriptText_plain changes
  exact_iff := by
    rw [scriptText_plain, join_map_append_eq_iff]
    simp only [missingBreak_eq_empty_iff]
    rw [forall_text_iff fun text => Text.endsLine text = true, filterMap_old?_scriptLines,
      filterMap_new?_scriptLines, h.old_eq, h.new_eq, Text.forall_endsLine_terminatedLines,
      Text.forall_endsLine_terminatedLines]

/-- The lines of a diff are those of the two texts. Without colours each changed one is
shown behind an indent and its sign, with a line break, and behind every line that does
not end in a break there is a further one, also behind a kept line. So the changed lines
alone are shown exactly when each text is empty or ends like a line. All this holds of any
edit script between the lines of the texts, and the script of the diff is one. -/
theorem plain_text_exact (before after : String) :
    (∀ changes, IsScript before after changes → IsShown before after changes) ∧
    IsScript before after (script before after) ∧
    String.join ((lines before after).filterMap Line.old?) = before ∧
    String.join ((lines before after).filterMap Line.new?) = after ∧
    text ⟨false⟩ before after =
      String.join ((lines before after).map fun line =>
        line.shown ++ missingBreak line.text) ∧
    (text ⟨false⟩ before after = changedText before after ↔
      (before = "" ∨ Text.endsLine before = true) ∧
        (after = "" ∨ Text.endsLine after = true)) := by
  have hshown := (isScript_script before after).isShown
  exact ⟨fun _ => IsScript.isShown, isScript_script before after, hshown.join_old,
    hshown.join_new, hshown.text_eq, hshown.exact_iff⟩

/-- Two texts whose last line, which is kept, has no break: an empty line follows the
changed ones. -/
theorem plain_text_unended :
    lines "a\nx" "b\nx" = [.deleted "a\n", .inserted "b\n", .kept "x"] ∧
    changedText "a\nx" "b\nx" = "        - a\n        + b\n" ∧
    text ⟨false⟩ "a\nx" "b\nx" = "        - a\n        + b\n\n" ∧
    text ⟨false⟩ "a\nx" "b\nx" ≠ changedText "a\nx" "b\nx" := by
  have hlines : lines "a\nx" "b\nx" = [.deleted "a\n", .inserted "b\n", .kept "x"] := by cbv
  have hchanged : changedText "a\nx" "b\nx" = "        - a\n        + b\n" := by
    rw [changedText, hlines]
    decide +kernel
  have htext : text ⟨false⟩ "a\nx" "b\nx" = "        - a\n        + b\n\n" := by
    rw [text, scriptText_plain, ← lines, hlines]
    decide +kernel
  refine ⟨hlines, hchanged, htext, ?_⟩
  rw [htext, hchanged]
  decide

end Output

end LineDiff
end DesiredState
