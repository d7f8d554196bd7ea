import Mathlib.Data.List.TakeWhile
import TopDown.Text.WhiteSpace
/-!
What trimming leaves. A text is white space, content and white space again, and the content begins and ends with
something else: this determines the content, and it is what trimming gives.
-/

set_option autoImplicit false

namespace TopDown.Text

def Blank (chars : List Char) : Prop := ∀ char ∈ chars, isWhiteSpace char = true

-- What is left of a text without the white space around it.
def Trimmed (chars content : List Char) : Prop :=
  ∃ front back, chars = front ++ content ++ back ∧ Blank front ∧ Blank back ∧
    ∀ char, content.head? = some char ∨ content.getLast? = some char → isWhiteSpace char = false

theorem blank_nil : Blank [] := fun _ member => absurd member List.not_mem_nil

theorem drop_front_of_blank (front content : List Char) (blank : Blank front)
    (solid : ∀ char, content.head? = some char → isWhiteSpace char = false) : dropFront (front ++ content) = content := by
  rw [dropFront, List.dropWhile_append_of_pos blank]
  cases content with
  | nil => rfl
  | cons first rest => simp [solid first rfl]

theorem drop_back_of_blank (content back : List Char) (blank : Blank back)
    (solid : ∀ char, content.getLast? = some char → isWhiteSpace char = false) : dropBack (content ++ back) = content := by
  have turned := drop_front_of_blank back.reverse content.reverse (by simpa [Blank] using blank)
    (by simpa [List.head?_reverse] using solid)
  rw [dropBack, List.reverse_append, turned, List.reverse_reverse]

theorem front_cut (chars : List Char) : ∃ front, chars = front ++ dropFront chars ∧ Blank front ∧
    ∀ char, (dropFront chars).head? = some char → isWhiteSpace char = false := by
  refine ⟨chars.takeWhile isWhiteSpace, List.takeWhile_append_dropWhile.symm, ?_, ?_⟩
  · exact fun char member => List.mem_takeWhile_imp member
  · intro char first
    have solid := List.head?_dropWhile_not isWhiteSpace chars
    rw [dropFront] at first
    rw [first] at solid
    exact solid

theorem back_cut (chars : List Char) : ∃ back, chars = dropBack chars ++ back ∧ Blank back ∧
    ∀ char, (dropBack chars).getLast? = some char → isWhiteSpace char = false := by
  obtain ⟨front, same, blank, solid⟩ := front_cut chars.reverse
  refine ⟨front.reverse, ?_, by simpa [Blank] using blank, by simpa [dropBack] using solid⟩
  rw [dropBack, ← List.reverse_append, ← same, List.reverse_reverse]

theorem trimmed_trim (chars : List Char) : Trimmed chars (trim chars) := by
  obtain ⟨front, chars_eq, frontBlank, first⟩ := front_cut chars
  obtain ⟨back, rest_eq, backBlank, last⟩ := back_cut (dropFront chars)
  refine ⟨front, back, ?_, frontBlank, backBlank, ?_⟩
  · rw [trim, List.append_assoc, ← rest_eq, ← chars_eq]
  · rintro char (head | final)
    · refine first char ?_
      rw [rest_eq, List.head?_append, ← trim, head]
      rfl
    · exact last char final

theorem trim_of_trimmed (chars content : List Char) (trimmed : Trimmed chars content) : trim chars = content := by
  obtain ⟨front, back, rfl, frontBlank, backBlank, solid⟩ := trimmed
  have last := drop_back_of_blank content back backBlank fun char final => solid char (Or.inr final)
  cases content with
  | nil =>
      have blank : Blank (front ++ [] ++ back) := by
        intro char member
        simp only [List.append_nil, List.mem_append] at member
        exact member.elim (frontBlank char) (backBlank char)
      have gone := drop_front_of_blank (front ++ [] ++ back) [] blank (by simp)
      rw [List.append_nil] at gone
      rw [trim, gone]
      rfl
  | cons first rest =>
      have cut := drop_front_of_blank front (first :: rest ++ back) frontBlank fun char head =>
        solid char (Or.inl head)
      rw [trim, List.append_assoc, cut, last]

-- White space around a text makes no difference to what trimming leaves.
theorem trim_around (front content back : List Char) (frontBlank : Blank front) (backBlank : Blank back) :
    trim (front ++ content ++ back) = trim content := by
  obtain ⟨before, after, same, beforeBlank, afterBlank, solid⟩ := trimmed_trim content
  refine trim_of_trimmed _ _ ⟨front ++ before, after ++ back, ?_, ?_, ?_, solid⟩
  · calc front ++ content ++ back = front ++ (before ++ trim content ++ after) ++ back := by rw [← same]
      _ = (front ++ before) ++ trim content ++ (after ++ back) := by simp only [List.append_assoc]
  · exact fun char member => (List.mem_append.mp member).elim (frontBlank char) (beforeBlank char)
  · exact fun char member => (List.mem_append.mp member).elim (afterBlank char) (backBlank char)

end TopDown.Text
