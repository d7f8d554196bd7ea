import TopDown.Proofs.Trimming
import TopDown.RuleText
/-!
One line of grammar text, told without its reader: a rule line has a single arrow with an upper case letter before
it, a line that goes on has no arrow and begins with a bar. Any other line is refused with the first fault that it has.
-/

set_option autoImplicit false

namespace TopDown

namespace RuleText

def arrow : List Char := ['-', '>']

def ArrowFree (chars : List Char) : Prop := ¬ arrow <:+: chars

-- What a piece between bars stands for.
def formOf (piece : List Char) : Form :=
  match piece.filter fun char => !Text.isWhiteSpace char && char ≠ emptyMark with
  | [] => [.epsilon]
  | kept => kept.map Symbol.ofChar

def formsOf (chars : List Char) : List Form := (chars.splitOn separator).map formOf

-- A line that keeps to the format, and what it says.
inductive Reads : List Char → RuleLine → Prop where
  | rule (before after : List Char) (left : Char) (unmarked : endMark ∉ before ++ arrow ++ after)
      (single : ArrowFree before ∧ ArrowFree after) (named : Text.Trimmed before [left])
      (upper : 'A' ≤ left ∧ left ≤ 'Z') : Reads (before ++ arrow ++ after) (.rule left (formsOf after))
  | continuation (after : List Char) (unmarked : endMark ∉ separator :: after)
      (free : ArrowFree (separator :: after)) : Reads (separator :: after) (.continuation (formsOf after))

-- A line that is at fault wherever it stands, with the first fault in this order that it has.
inductive Refused : List Char → RuleFault → Prop where
  | marked (content : List Char) (marked : endMark ∈ content) : Refused content .reservedEndMark
  | arrows (before between after : List Char) (unmarked : endMark ∉ before ++ arrow ++ between ++ arrow ++ after) :
      Refused (before ++ arrow ++ between ++ arrow ++ after) .tooManyArrows
  | unnamed (before after : List Char) (unmarked : endMark ∉ before ++ arrow ++ after)
      (single : ArrowFree before ∧ ArrowFree after) (blank : Text.Trimmed before []) :
      Refused (before ++ arrow ++ after) .emptyLeft
  | misnamed (before after name : List Char) (unmarked : endMark ∉ before ++ arrow ++ after)
      (single : ArrowFree before ∧ ArrowFree after) (named : Text.Trimmed before name) (filled : name ≠ [])
      (other : ∀ left, 'A' ≤ left → left ≤ 'Z' → name ≠ [left]) :
      Refused (before ++ arrow ++ after) (.invalidLeft (.ofList name))
  | bare (content : List Char) (unmarked : endMark ∉ content) (free : ArrowFree content)
      (unbarred : content.head? ≠ some separator) : Refused content .missingArrow

theorem arrow_free_nil : ArrowFree [] := by
  simp [ArrowFree, arrow]

theorem arrow_free_tail (first : Char) (rest : List Char) (free : ArrowFree (first :: rest)) : ArrowFree rest :=
  fun inside => free (List.infix_cons_iff.mpr (Or.inr inside))

theorem arrow_free_or_split (chars : List Char) :
    ArrowFree chars ∨ ∃ before after, ArrowFree before ∧ chars = before ++ arrow ++ after := by
  induction chars with
  | nil => exact Or.inl arrow_free_nil
  | cons first rest ih =>
      by_cases front : arrow <+: first :: rest
      · obtain ⟨after, same⟩ := front
        exact Or.inr ⟨[], after, arrow_free_nil, same.symm⟩
      · rcases ih with free | ⟨before, after, free, same⟩
        · refine Or.inl fun inside => ?_
          exact (List.infix_cons_iff.mp inside).elim front free
        · refine Or.inr ⟨first :: before, after, fun inside => ?_, by simp [same]⟩
          rcases List.infix_cons_iff.mp inside with here | further
          · refine front (here.trans ⟨arrow ++ after, ?_⟩)
            simp [same]
          · exact free further

theorem split_ne_nil (chars : List Char) : splitArrows chars ≠ [] := by
  induction chars using splitArrows.induct with
  | case1 rest ih => simp [splitArrows]
  | case2 first rest noArrow ih =>
      rw [splitArrows.eq_2 first rest noArrow]
      simpa using ih
  | case3 => simp [splitArrows]

theorem split_of_arrow_free (chars : List Char) (free : ArrowFree chars) : splitArrows chars = [chars] := by
  induction chars using splitArrows.induct with
  | case1 rest ih => exact absurd ⟨[], rest, rfl⟩ free
  | case2 first rest noArrow ih =>
      rw [splitArrows.eq_2 first rest noArrow, ih (arrow_free_tail first rest free)]
      rfl
  | case3 => rfl

-- Arrows cannot overlap, so a line is divided at every arrow in it.
theorem split_at_arrow (before after : List Char) :
    splitArrows (before ++ arrow ++ after) = splitArrows before ++ splitArrows after := by
  induction before using splitArrows.induct with
  | case1 rest ih =>
      simp only [List.cons_append, splitArrows, ih]
  | case2 first rest noArrow ih =>
      have apart : ∀ later, first = '-' → rest ++ arrow ++ after = '>' :: later → False := by
        intro later dash tail
        cases rest with
        | nil => simp [arrow] at tail
        | cons second further =>
            injection tail with point
            exact noArrow further dash (by rw [point])
      rw [List.cons_append, List.cons_append, splitArrows.eq_2 first _ apart, ih,
        splitArrows.eq_2 first rest noArrow]
      cases pieces : splitArrows rest with
      | nil => exact absurd pieces (split_ne_nil rest)
      | cons piece further => rfl
  | case3 => simp [splitArrows, arrow]

theorem many_pieces (before between after : List Char) :
    2 < (splitArrows (before ++ arrow ++ between ++ arrow ++ after)).length := by
  have front := List.length_pos_iff.mpr (split_ne_nil before)
  have middle := List.length_pos_iff.mpr (split_ne_nil between)
  have back := List.length_pos_iff.mpr (split_ne_nil after)
  rw [split_at_arrow, split_at_arrow, List.length_append, List.length_append]
  omega

theorem of_char_epsilon_iff (char : Char) : Symbol.ofChar char = .epsilon ↔ char = emptyMark := by
  constructor
  · intro same
    have back := Symbol.char_of_char char
    rw [same] at back
    exact back.symm
  · intro same
    rw [Symbol.ofChar, if_pos same]

theorem read_alternative (piece : List Char) : readAlternative piece = formOf piece := by
  have kept : ((piece.filter (!Text.isWhiteSpace ·)).map Symbol.ofChar).filter (· ≠ .epsilon) =
      (piece.filter fun char => !Text.isWhiteSpace char && char ≠ emptyMark).map Symbol.ofChar := by
    rw [List.filter_map, List.filter_filter]
    congr 1
    refine List.filter_congr fun char _ => ?_
    simp [of_char_epsilon_iff, Bool.and_comm]
  rw [readAlternative, formOf, kept]
  cases piece.filter fun char => !Text.isWhiteSpace char && char ≠ emptyMark <;> rfl

theorem read_alternatives (chars : List Char) : readAlternatives chars = formsOf chars := by
  simp only [readAlternatives, formsOf, funext read_alternative]

theorem upper_iff (char : Char) : char.isUpper = true ↔ 'A' ≤ char ∧ char ≤ 'Z' := decide_eq_true_iff

theorem read_left (left : Char) (upper : 'A' ≤ left ∧ left ≤ 'Z') : readLeft [left] = .ok left := by
  rw [readLeft, if_pos ((upper_iff left).mpr upper)]

theorem read_left_of_misnamed (chars : List Char) (filled : chars ≠ [])
    (other : ∀ left, 'A' ≤ left → left ≤ 'Z' → chars ≠ [left]) :
    readLeft chars = .error (.invalidLeft (.ofList chars)) := by
  match chars with
  | [] => exact absurd rfl filled
  | [char] =>
      have lower : ¬ char.isUpper = true := by
        intro known
        obtain ⟨low, high⟩ := (upper_iff char).mp known
        exact other char low high rfl
      rw [readLeft, if_neg lower, String.singleton_eq_ofList]
  | first :: second :: rest => rfl

-- A line with one arrow is judged by its left side.
theorem read_of_single (before after : List Char) (unmarked : endMark ∉ before ++ arrow ++ after)
    (single : ArrowFree before ∧ ArrowFree after) :
    readLine (before ++ arrow ++ after) = (readLeft (Text.trim before)).map (.rule · (formsOf after)) := by
  rw [readLine, if_neg unmarked, split_at_arrow, split_of_arrow_free before single.1,
    split_of_arrow_free after single.2, ← read_alternatives]
  rfl

theorem read_of_many (content : List Char) (unmarked : endMark ∉ content)
    (many : 2 < (splitArrows content).length) : readLine content = .error .tooManyArrows := by
  rw [readLine, if_neg unmarked]
  split
  · rename_i pieces
    simp [pieces] at many
  · rename_i pieces
    simp [pieces] at many
  · rfl

theorem read_of_reads (content : List Char) (line : RuleLine) (reads : Reads content line) :
    readLine content = .ok line := by
  cases reads with
  | rule before after left unmarked single named upper =>
      rw [read_of_single before after unmarked single, Text.trim_of_trimmed before _ named, read_left left upper]
      rfl
  | continuation after unmarked free =>
      rw [readLine, if_neg unmarked, split_of_arrow_free _ free, ← read_alternatives]
      rfl

theorem read_of_refused (content : List Char) (fault : RuleFault) (refused : Refused content fault) :
    readLine content = .error fault := by
  cases refused with
  | marked content marked => rw [readLine, if_pos marked]
  | arrows before between after unmarked =>
      exact read_of_many _ unmarked (many_pieces before between after)
  | unnamed before after unmarked single blank =>
      rw [read_of_single before after unmarked single, Text.trim_of_trimmed before _ blank]
      rfl
  | misnamed before after name unmarked single named filled other =>
      rw [read_of_single before after unmarked single, Text.trim_of_trimmed before name named,
        read_left_of_misnamed name filled other]
      rfl
  | bare content unmarked free unbarred =>
      rw [readLine, if_neg unmarked, split_of_arrow_free _ free]
      dsimp only
      split
      · exact absurd rfl unbarred
      · rfl

theorem reads_or_refused (content : List Char) :
    (∃ line, Reads content line) ∨ ∃ fault, Refused content fault := by
  by_cases marked : endMark ∈ content
  · exact Or.inr ⟨_, .marked content marked⟩
  · rcases arrow_free_or_split content with free | ⟨before, rest, beforeFree, rfl⟩
    · by_cases barred : content.head? = some separator
      · obtain ⟨after, rfl⟩ := List.head?_eq_some_iff.mp barred
        exact Or.inl ⟨_, .continuation after marked free⟩
      · exact Or.inr ⟨_, .bare content marked free barred⟩
    · rcases arrow_free_or_split rest with restFree | ⟨between, after, _, rfl⟩
      · have trimmed := Text.trimmed_trim before
        by_cases blank : Text.trim before = []
        · rw [blank] at trimmed
          exact Or.inr ⟨_, .unnamed before rest marked ⟨beforeFree, restFree⟩ trimmed⟩
        · by_cases named : ∃ left, ('A' ≤ left ∧ left ≤ 'Z') ∧ Text.trim before = [left]
          · obtain ⟨left, upper, same⟩ := named
            rw [same] at trimmed
            exact Or.inl ⟨_, .rule before rest left marked ⟨beforeFree, restFree⟩ trimmed upper⟩
          · refine Or.inr ⟨_, .misnamed before rest _ marked ⟨beforeFree, restFree⟩ trimmed blank ?_⟩
            exact fun left low high same => named ⟨left, ⟨low, high⟩, same⟩
      · have chain : before ++ arrow ++ (between ++ arrow ++ after) =
            before ++ arrow ++ between ++ arrow ++ after := by simp
        rw [chain] at marked ⊢
        exact Or.inr ⟨_, .arrows before between after marked⟩

end RuleText

end TopDown
