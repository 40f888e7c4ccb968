import DesiredState.Fault
import DesiredState.Template.Variables

/-!
# Placeholders

**Syntax.** A placeholder is a name between two pairs of braces, with blanks
around the name if there are any. A name starts with an ASCII letter or an
underscore, and goes on with these, digits and dots.

**Algorithm.** A template is read from left to right. At each place a
placeholder is taken whole, and any other character on its own. Rendering
replaces each placeholder by the value of its name, once: values are not read
again. The leftmost name without a value ends the rendering.

**Results.** The segments of a template, written one after the other, are the
template.
-/

namespace DesiredState
namespace Template

section Defs

/-- A character that a name can start with. -/
def isNameStart (c : Char) : Bool :=
  c.isAlpha || c = '_'

/-- A character that a name can go on with. -/
def isNameChar (c : Char) : Bool :=
  c.isAlphanum || c = '_' || c = '.'

/-- A piece of a template. -/
inductive Segment where
  | plain (c : Char)
  /-- A placeholder as it is written, and the name in it. -/
  | placeholder (written name : List Char)
deriving DecidableEq, Repr

/-- The segment as it is written. -/
def Segment.written : Segment → List Char
  | .plain c => [c]
  | .placeholder written _ => written

/-- The placeholder at the front, its name, and what follows it. -/
def leading? (cs : List Char) : Option (List Char × List Char × List Char) :=
  match cs with
  | '{' :: '{' :: inside =>
      let blanks := inside.takeWhile Text.isBlank
      let fromName := inside.dropWhile Text.isBlank
      let name := fromName.takeWhile isNameChar
      let afterName := fromName.dropWhile isNameChar
      let moreBlanks := afterName.takeWhile Text.isBlank
      match name, afterName.dropWhile Text.isBlank with
      | first :: _, '}' :: '}' :: rest =>
          if isNameStart first then
            some (['{', '{'] ++ blanks ++ name ++ moreBlanks ++ ['}', '}'], name, rest)
          else none
      | _, _ => none
  | _ => none

theorem leading?_written {cs written name rest : List Char}
    (h : leading? cs = some (written, name, rest)) :
    cs = written ++ rest ∧ written ≠ [] := by
  unfold leading? at h
  split at h
  · rename_i inside
    dsimp only at h
    split at h
    · rename_i first more tail hname htail
      split at h
      · simp only [Option.some.injEq, Prod.mk.injEq] at h
        obtain ⟨rfl, rfl, rfl⟩ := h
        refine ⟨?_, by simp⟩
        have h1 := List.takeWhile_append_dropWhile (p := Text.isBlank) (l := inside)
        have h2 := List.takeWhile_append_dropWhile (p := isNameChar)
          (l := inside.dropWhile Text.isBlank)
        have h3 := List.takeWhile_append_dropWhile (p := Text.isBlank)
          (l := (inside.dropWhile Text.isBlank).dropWhile isNameChar)
        rw [htail] at h3
        simp only [List.append_assoc, List.cons_append, List.nil_append]
        rw [h3, h2, h1]
      · simp at h
    · simp at h
  · simp at h

theorem length_lt_of_leading? {cs written name rest : List Char}
    (h : leading? cs = some (written, name, rest)) : rest.length < cs.length := by
  have ⟨happ, hne⟩ := leading?_written h
  have hlen := congrArg List.length happ
  have hpos := List.length_pos_iff.mpr hne
  rw [List.length_append] at hlen
  omega

/-- The segments of a template. -/
def segments : List Char → List Segment
  | [] => []
  | c :: cs =>
      match _h : leading? (c :: cs) with
      | some (written, name, rest) => .placeholder written name :: segments rest
      | none => .plain c :: segments cs
termination_by cs => cs.length
decreasing_by
  · exact length_lt_of_leading? ‹_›
  · exact Nat.lt_succ_self cs.length

/-- The segments with each placeholder replaced by the value of its name. -/
def renderSegments (template : String) (vars : Variables) :
    List Segment → Except Fault (List Char)
  | [] => .ok []
  | .plain c :: rest =>
      match renderSegments template vars rest with
      | .ok rendered => .ok (c :: rendered)
      | .error fault => .error fault
  | .placeholder _ name :: rest =>
      match vars.lookup? (String.ofList name) with
      | none =>
          .error (.unrendered template (.undefinedVariable (String.ofList name)))
      | some value =>
          match renderSegments template vars rest with
          | .ok rendered => .ok (value.toList ++ rendered)
          | .error fault => .error fault

/-- Replace every placeholder of a source text; the template's name is for the
fault. -/
def substitute (template source : String) (vars : Variables) :
    Except Fault String :=
  (renderSegments template vars (segments source.toList)).map String.ofList

end Defs

section Lemmas

/-- The segments of a template, written one after the other, are the
template. -/
theorem flatMap_written_segments (cs : List Char) :
    (segments cs).flatMap Segment.written = cs := by
  fun_induction segments cs with
  | case1 => rfl
  | case2 c cs written name rest h ih =>
      rw [List.flatMap_cons, ih]
      exact (leading?_written h).1.symm
  | case3 c cs h ih =>
      rw [List.flatMap_cons, ih]
      rfl

end Lemmas

end Template
end DesiredState
