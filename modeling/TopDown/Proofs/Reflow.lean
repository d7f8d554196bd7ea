import Mathlib.Data.List.DropRight
import Mathlib.Logic.Relation
import TopDown.Proofs.LinePieces
/-!
Grammar text laid out anew. White space put anywhere but into an arrow leaves the grammar of a text as it is, or its
error but for the left side that this quotes. In a text that is a grammar, line breaks beside blanks and before bars,
and empty marks among the alternatives, leave the grammar as well.
-/

set_option autoImplicit false

namespace TopDown

namespace RuleText

-- The characters of a line on either side of a place in it.
def lineBefore (front : List Char) : List Char := front.rtakeWhile (· ≠ '\n')

def lineBehind (back : List Char) : List Char := back.takeWhile (· ≠ '\n')

-- A place in a line that is behind its arrow, or behind the bar that it begins with.
def Placed (front : List Char) : Prop :=
  arrow <:+: front ∨ ∃ blank after, Text.Blank blank ∧ front = blank ++ separator :: after

-- One more white space character, at any place but between the two characters of an arrow.
inductive Spaced : List Char → List Char → Prop where
  | blank (front back : List Char) (char : Char) (white : Text.isWhiteSpace char = true) (inline : char ≠ '\n')
      (apart : ¬ (front.getLast? = some '-' ∧ back.head? = some '>')) : Spaced (front ++ back) (front ++ char :: back)

-- One more character that the rules do not depend on: white space, a line break that leaves a blank line or makes
-- a bar begin a line, and an empty mark behind the arrow of a line or the bar that it begins with.
inductive Relaid : List Char → List Char → Prop where
  | spaced (text other : List Char) (spaced : Spaced text other) : Relaid text other
  | blankLine (front back : List Char) (edge : Text.Blank (lineBefore front) ∨ Text.Blank (lineBehind back)) :
      Relaid (front ++ back) (front ++ '\n' :: back)
  | barLine (front back : List Char) : Relaid (front ++ separator :: back) (front ++ '\n' :: separator :: back)
  | mark (front back : List Char) (placed : Placed (lineBefore front)) :
      Relaid (front ++ back) (front ++ emptyMark :: back)

-- What a line adds to the rules above it, told of the line as it is written.
inductive Adds (line : List Char) : List Rule → List Rule → Prop where
  | blank (rules : List Rule) (white : Text.Blank line) : Adds line rules rules
  | rule (rules : List Rule) (before after : List Char) (left : Char) (written : line = before ++ arrow ++ after)
      (unmarked : endMark ∉ line) (single : ArrowFree before ∧ ArrowFree after) (named : solids before = [left])
      (upper : 'A' ≤ left ∧ left ≤ 'Z') : Adds line rules (⟨left, formsOf after⟩ :: rules)
  | continuation (previous : Rule) (older : List Rule) (front after : List Char)
      (written : line = front ++ separator :: after) (unmarked : endMark ∉ line) (free : ArrowFree line)
      (white : Text.Blank front) : Adds line (previous :: older)
        ({ previous with alternatives := previous.alternatives ++ formsOf after } :: older)

theorem lines_before (front : List Char) : ∃ above, ∀ rest : List Char,
    (front ++ rest).splitOn '\n' = above ++ (lineBefore front ++ rest).splitOn '\n' := by
  induction front using List.reverseRecOn with
  | nil => exact ⟨[], fun rest => rfl⟩
  | append_singleton init last ih =>
      by_cases broken : last = '\n'
      · have none : lineBefore (init ++ [last]) = [] := List.rtakeWhile_concat_neg _ _ _ (by simp [broken])
        refine ⟨init.splitOn '\n', fun rest => ?_⟩
        rw [none, broken, List.append_assoc, List.singleton_append, List.nil_append, List.splitOn_append_cons_self]
      · have longer : lineBefore (init ++ [last]) = lineBefore init ++ [last] :=
          List.rtakeWhile_concat_pos _ _ _ (by simp [broken])
        obtain ⟨above, lines⟩ := ih
        refine ⟨above, fun rest => ?_⟩
        rw [longer, List.append_assoc, List.append_assoc]
        exact lines (last :: rest)

theorem lines_behind (back : List Char) : ∃ below, ∀ front : List Char, '\n' ∉ front →
    (front ++ back).splitOn '\n' = (front ++ lineBehind back) :: below := by
  induction back with
  | nil =>
      refine ⟨[], fun front inline => ?_⟩
      rw [List.append_nil, List.splitOn_eq_singleton inline, lineBehind, List.takeWhile_nil, List.append_nil]
  | cons first rest ih =>
      by_cases broken : first = '\n'
      · refine ⟨rest.splitOn '\n', fun front inline => ?_⟩
        rw [broken, List.splitOn_append_cons_self, List.splitOn_eq_singleton inline, lineBehind,
          List.takeWhile_cons_of_neg (by simp), List.append_nil, List.singleton_append]
      · obtain ⟨below, lines⟩ := ih
        refine ⟨below, fun front inline => ?_⟩
        have further := lines (front ++ [first]) (by simp [inline, Ne.symm broken])
        rw [lineBehind, List.takeWhile_cons_of_pos (by simp [broken])]
        simpa [lineBehind] using further

theorem line_before_inline (front : List Char) : '\n' ∉ lineBefore front :=
  fun member => by simpa using List.mem_rtakeWhile_imp member

-- The lines of a text around a place in it, whatever is put there.
theorem lines_around (front back : List Char) : ∃ above below,
    (∀ middle, '\n' ∉ middle → (front ++ (middle ++ back)).splitOn '\n' =
      above ++ [lineBefore front ++ (middle ++ lineBehind back)] ++ below) ∧
    ∀ middle, '\n' ∉ middle → (front ++ '\n' :: (middle ++ back)).splitOn '\n' =
      above ++ [lineBefore front, middle ++ lineBehind back] ++ below := by
  obtain ⟨above, before⟩ := lines_before front
  obtain ⟨below, behind⟩ := lines_behind back
  refine ⟨above, below, fun middle inline => ?_, fun middle inline => ?_⟩
  · have whole := behind (lineBefore front ++ middle) (by simp [line_before_inline, inline])
    rw [List.append_assoc, List.append_assoc] at whole
    rw [before, whole, List.append_assoc, List.singleton_append]
  · rw [before, List.splitOn_append_cons_self, List.splitOn_eq_singleton (line_before_inline front), behind _ inline,
      List.append_assoc]
    rfl

theorem skeleton_spaced (front back : List Char) (char : Char) (white : Text.isWhiteSpace char = true)
    (apart : ¬ (front.getLast? = some '-' ∧ back.head? = some '>')) :
    skeleton (lineBefore front ++ char :: lineBehind back) = skeleton (lineBefore front ++ lineBehind back) := by
  refine skeleton_insert _ _ char white ?_
  rintro ⟨dash, point⟩
  obtain ⟨upper, frontSame⟩ : lineBefore front <:+ front := List.rtakeWhile_suffix _ _
  obtain ⟨lower, backSame⟩ : lineBehind back <+: back := List.takeWhile_prefix _
  refine apart ⟨?_, ?_⟩
  · rw [← frontSame, List.getLast?_append, dash]
    rfl
  · rw [← backSame, List.head?_append, point]
    rfl

theorem skeletons_spaced (text other : List Char) (spaced : Spaced text other) :
    (other.splitOn '\n').map skeleton = (text.splitOn '\n').map skeleton := by
  obtain ⟨front, back, char, white, inline, apart⟩ := spaced
  obtain ⟨above, below, lines, _⟩ := lines_around front back
  have wider := lines [char] (by simpa using inline.symm)
  have plain := lines [] List.not_mem_nil
  rw [List.singleton_append, List.singleton_append] at wider
  rw [List.nil_append, List.nil_append] at plain
  simp only [wider, plain, List.map_append, List.map_cons, skeleton_spaced front back char white apart]

theorem text_kind (text other : String)
    (alike : (other.toList.splitOn '\n').map skeleton = (text.toList.splitOn '\n').map skeleton) :
    (Grammar.ofText other).mapError RuleError.kind = (Grammar.ofText text).mapError RuleError.kind := by
  rw [Grammar.ofText, Grammar.ofText, map_error_map, map_error_map, read_lines_kind 1 [] _ _ alike]

theorem text_ok (text : String) (grammar : Grammar) :
    Grammar.ofText text = .ok grammar ↔ (text.toList.splitOn '\n').foldlM addText [] = .ok grammar.rules.reverse := by
  rw [← read_lines_ok 1 [] grammar.rules, Grammar.ofText]
  cases RuleText.readLines 1 [] (text.toList.splitOn '\n') with
  | error error => simp [Except.map]
  | ok rules =>
      rw [Except.map, Except.ok.injEq, Except.ok.injEq]
      exact ⟨fun same => congrArg Grammar.rules same, fun same => congrArg Grammar.mk same⟩

-- One arrow divides a line in one way.
theorem cut_at_arrow (before after front back : List Char) (single : ArrowFree before ∧ ArrowFree after)
    (same : before ++ arrow ++ after = front ++ arrow ++ back) : front = before ∧ back = after := by
  have pieces : splitArrows front ++ splitArrows back = [before, after] := by
    rw [← split_at_arrow, ← same, split_at_arrow, split_of_arrow_free before single.1,
      split_of_arrow_free after single.2, List.singleton_append]
  obtain ⟨piece, further, split⟩ := List.exists_cons_of_ne_nil (split_ne_nil front)
  cases further with
  | nil =>
      rw [split, List.singleton_append, List.cons.injEq] at pieces
      have frontSame := (arrow_free_of_single front piece split).2
      have backSame := (arrow_free_of_single back after pieces.2).2
      exact ⟨frontSame.symm.trans pieces.1, backSame.symm⟩
  | cons second more =>
      rw [split, List.cons_append, List.cons_append, List.cons.injEq, List.cons.injEq, List.append_eq_nil_iff] at pieces
      exact absurd pieces.2.2.2 (split_ne_nil back)

theorem cut_behind (front tail before back : List Char) (char : Char) (absent : char ∉ front)
    (same : front ++ tail = before ++ char :: back) :
    ∃ middle, before = front ++ middle ∧ tail = middle ++ char :: back := by
  rcases List.append_eq_append_iff.mp same with ⟨middle, left, right⟩ | ⟨middle, left, right⟩
  · exact ⟨middle, left, right⟩
  · cases middle with
    | nil => exact ⟨[], by simpa using left.symm, by simpa using right.symm⟩
    | cons first rest =>
        injection right with point
        exact absurd (by simp [left, point]) absent

theorem read_left_ok (chars : List Char) (left : Char) (read : readLeft chars = .ok left) :
    chars = [left] ∧ 'A' ≤ left ∧ left ≤ 'Z' := by
  match chars with
  | [] => cases read
  | [char] =>
      rw [readLeft] at read
      split at read
      · rename_i upper
        cases read
        exact ⟨rfl, (upper_iff left).mp upper⟩
      · cases read
  | first :: second :: rest => cases read

theorem pieces_of_adds (line : List Char) (rules longer : List Rule) (adds : Adds line rules longer) :
    addPieces rules (skeleton line) = .ok longer := by
  cases adds with
  | blank _ white =>
      have none := skeleton_blanks line [] [] white Text.blank_nil
      rw [List.append_nil, List.append_nil] at none
      exact if_pos none
  | rule _ before after left written unmarked single named upper =>
      have pieces : skeleton line = [[left], solids after] := by
        rw [written, skeleton_across, skeleton_of_arrow_free before single.1, skeleton_of_arrow_free after single.2,
          named, List.singleton_append]
      rw [← marked_skeleton, pieces] at unmarked
      rw [addPieces, pieces, if_neg (by simp), pieces_of_rule _ _ unmarked, read_left left upper, forms_of_solids]
      rfl
  | continuation previous older front after written unmarked free white =>
      have pieces : skeleton line = [separator :: solids after] := by
        rw [skeleton_of_arrow_free line free, written, solids_append, (solids_eq_nil_iff front).mpr white,
          solids_cons separator after (by decide), List.nil_append]
      rw [← marked_skeleton, pieces, List.flatten_singleton] at unmarked
      rw [addPieces, pieces, if_neg (by simp), pieces_of_continuation _ unmarked, forms_of_solids]
      rfl

theorem adds_of_arrow_free (line : List Char) (rules longer : List Rule) (free : ArrowFree line)
    (unmarked : endMark ∉ line) (added : readPieces [solids line] >>= addLine rules = .ok longer) :
    Adds line rules longer := by
  have absent : endMark ∉ solids line := fun member => unmarked ((mem_solids line endMark).mp member).1
  by_cases barred : (solids line).head? = some separator
  · obtain ⟨tail, same⟩ := List.head?_eq_some_iff.mp barred
    obtain ⟨front, after, written, white, _, tailSame⟩ := List.filter_eq_cons_iff.mp same
    rw [same] at added absent
    rw [pieces_of_continuation _ absent, ← tailSame, ← solids, forms_of_solids] at added
    cases rules with
    | nil => cases added
    | cons previous older =>
        cases added
        refine .continuation previous older front after written unmarked free fun char member => ?_
        simpa using white char member
  · rw [pieces_of_bare _ absent barred] at added
    cases added

theorem adds_of_arrow (before after : List Char) (rules longer : List Rule)
    (single : ArrowFree before ∧ ArrowFree after) (unmarked : endMark ∉ before ++ arrow ++ after)
    (added : readPieces [solids before, solids after] >>= addLine rules = .ok longer) :
    Adds (before ++ arrow ++ after) rules longer := by
  have absent : endMark ∉ [solids before, solids after].flatten := by
    simp only [List.mem_append, not_or] at unmarked
    simp [mem_solids, unmarked]
  rw [pieces_of_rule _ _ absent, forms_of_solids] at added
  cases named : readLeft (solids before) with
  | error fault =>
      rw [named] at added
      cases added
  | ok left =>
      rw [named] at added
      cases added
      obtain ⟨same, upper⟩ := read_left_ok _ left named
      exact .rule rules before after left rfl unmarked single same upper

theorem adds_of_pieces (line : List Char) (rules longer : List Rule)
    (added : addPieces rules (skeleton line) = .ok longer) : Adds line rules longer := by
  rw [addPieces] at added
  by_cases none : skeleton line = [[]]
  · rw [if_pos none] at added
    cases added
    exact .blank _ (blank_of_skeleton line none)
  · rw [if_neg none] at added
    by_cases marked : endMark ∈ line
    · rw [pieces_of_marked _ ((marked_skeleton line).mpr marked)] at added
      cases added
    · rcases arrow_free_or_split line with free | ⟨before, rest, beforeFree, rfl⟩
      · rw [skeleton_of_arrow_free line free] at added
        exact adds_of_arrow_free line rules longer free marked added
      · rcases arrow_free_or_split rest with restFree | ⟨between, after, _, rfl⟩
        · rw [skeleton_across, skeleton_of_arrow_free before beforeFree, skeleton_of_arrow_free rest restFree] at added
          exact adds_of_arrow before rest rules longer ⟨beforeFree, restFree⟩ marked added
        · have unmarked := (marked_skeleton _).not.mpr marked
          have many := many_pieces before between after
          rw [← List.append_assoc, ← List.append_assoc] at unmarked added
          rw [pieces_of_many _ unmarked (by simpa [skeleton] using many)] at added
          cases added

theorem adds_iff (line : List Char) (rules longer : List Rule) :
    addText rules line = .ok longer ↔ Adds line rules longer := by
  rw [add_text_ok]
  exact ⟨adds_of_pieces line rules longer, pieces_of_adds line rules longer⟩

theorem arrow_free_inside (part line : List Char) (inside : part <:+: line) (free : ArrowFree line) : ArrowFree part :=
  fun arrowed => free (arrowed.trans inside)

theorem absent_of_blank (chars : List Char) (char : Char) (white : Text.Blank chars)
    (solid : Text.isWhiteSpace char = false) : char ∉ chars := by
  intro member
  rw [white char member] at solid
  cases solid

theorem unbarred_left (before : List Char) (left : Char) (named : solids before = [left])
    (upper : 'A' ≤ left ∧ left ≤ 'Z') : separator ∉ before ++ arrow := by
  intro member
  rcases List.mem_append.mp member with inside | inside
  · have kept := (mem_solids before separator).mpr ⟨inside, by decide⟩
    rw [named, List.mem_singleton] at kept
    exact apart_upper left upper (by simp [kept])
  · exact absurd inside (by decide)

-- A line with a bar in it says the same as its two parts with the bar at the head of the second.
theorem adds_barred (front back : List Char) (rules longer : List Rule)
    (adds : Adds (front ++ separator :: back) rules longer) :
    ∃ middle, Adds front rules middle ∧ Adds (separator :: back) middle longer := by
  generalize same : front ++ separator :: back = line at adds
  have frontInside : front <:+: line := ⟨[], separator :: back, by simp [← same]⟩
  have backInside : separator :: back <:+: line := ⟨front, [], by simp [← same]⟩
  cases adds with
  | blank _ white => exact absurd (backInside.subset List.mem_cons_self) (absent_of_blank line _ white (by decide))
  | rule _ before after left written unmarked single named upper =>
      -- A left side is a single letter, so the bar is behind the arrow.
      obtain ⟨middle, rfl, rfl⟩ :=
        cut_behind _ _ _ _ separator (unbarred_left before left named upper) (written.symm.trans same.symm)
      have middleFree := arrow_free_inside middle _ ⟨[], separator :: back, by simp⟩ single.2
      have backFree := arrow_free_inside (separator :: back) _ ⟨middle, [], by simp⟩ single.2
      rw [forms_across]
      refine ⟨⟨left, formsOf middle⟩ :: rules, ?_, ?_⟩
      · exact .rule rules before middle left rfl (fun marked => unmarked (frontInside.subset marked))
          ⟨single.1, middleFree⟩ named upper
      · exact .continuation ⟨left, formsOf middle⟩ rules [] back rfl (fun marked => unmarked (backInside.subset marked))
          backFree Text.blank_nil
  | continuation previous older blank after written unmarked free white =>
      have backUnmarked : endMark ∉ separator :: back := fun marked => unmarked (backInside.subset marked)
      have backFree := arrow_free_inside _ line backInside free
      obtain ⟨middle, rfl, tail⟩ :=
        cut_behind _ _ _ _ separator (absent_of_blank blank _ white (by decide)) (written.symm.trans same.symm)
      cases middle with
      | nil =>
          -- The bar is the one that the line begins with.
          rw [List.nil_append, List.cons.injEq] at tail
          obtain ⟨_, rfl⟩ := tail
          rw [List.append_nil]
          exact ⟨previous :: older, .blank _ white,
            .continuation previous older [] after rfl backUnmarked backFree Text.blank_nil⟩
      | cons first middle =>
          rw [List.cons_append, List.cons.injEq] at tail
          obtain ⟨bar, rfl⟩ := tail
          rw [forms_across, ← List.append_assoc]
          refine ⟨{ previous with alternatives := previous.alternatives ++ formsOf middle } :: older, ?_, ?_⟩
          · exact .continuation previous older blank middle (by rw [bar])
              (fun marked => unmarked (frontInside.subset marked)) (arrow_free_inside _ line frontInside free) white
          · exact .continuation _ older [] back rfl backUnmarked backFree Text.blank_nil

theorem arrow_free_marked (front back : List Char) (free : ArrowFree (front ++ back)) :
    ArrowFree (front ++ emptyMark :: back) := by
  rw [ArrowFree, arrow_across front back emptyMark (by decide), not_or]
  exact ⟨arrow_free_inside front _ ⟨[], back, rfl⟩ free, arrow_free_inside back _ ⟨front, [], by simp⟩ free⟩

theorem unmarked_marked (front back : List Char) (unmarked : endMark ∉ front ++ back) :
    endMark ∉ front ++ emptyMark :: back := by
  rw [List.mem_append, not_or] at unmarked
  rw [List.mem_append, List.mem_cons, not_or, not_or]
  exact ⟨unmarked.1, by decide, unmarked.2⟩

-- An empty mark among the alternatives of a line says nothing.
theorem adds_marked (front back : List Char) (rules longer : List Rule) (placed : Placed front)
    (adds : Adds (front ++ back) rules longer) : Adds (front ++ emptyMark :: back) rules longer := by
  generalize same : front ++ back = line at adds
  have frontInside : front <:+: line := ⟨[], back, by simp [same]⟩
  cases adds with
  | blank _ white =>
      rcases placed with arrowed | ⟨blank, after, _, rfl⟩
      · have inside := (arrowed.trans frontInside).subset (List.mem_cons_self : '-' ∈ arrow)
        exact absurd inside (absent_of_blank line '-' white (by decide))
      · have inside := frontInside.subset (List.mem_append_right blank List.mem_cons_self)
        exact absurd inside (absent_of_blank line separator white (by decide))
  | rule _ before after left written unmarked single named upper =>
      have stillUnmarked := unmarked_marked front back (same ▸ unmarked)
      rcases placed with ⟨upTo, middle, rfl⟩ | ⟨blank, middle, white, rfl⟩
      · rw [List.append_assoc] at same
        obtain ⟨rfl, rfl⟩ := cut_at_arrow before after upTo (middle ++ back) single (written.symm.trans same.symm)
        rw [← forms_of_marked]
        exact .rule rules upTo (middle ++ emptyMark :: back) left (by simp) stillUnmarked
          ⟨single.1, arrow_free_marked middle back single.2⟩ named upper
      · rw [List.append_assoc, List.cons_append] at same
        obtain ⟨further, rfl, _⟩ :=
          cut_behind _ _ _ _ separator (unbarred_left before left named upper) (written.symm.trans same.symm)
        exact absurd (by simp [arrow]) (absent_of_blank _ '-' white (by decide))
  | continuation previous older blank after written unmarked free white =>
      have stillUnmarked := unmarked_marked front back (same ▸ unmarked)
      rcases placed with arrowed | ⟨blanks, middle, blanksWhite, rfl⟩
      · exact absurd (arrowed.trans frontInside) free
      · rw [List.append_assoc, List.cons_append] at same
        obtain ⟨further, rfl, tail⟩ :=
          cut_behind _ _ _ _ separator (absent_of_blank blank _ white (by decide)) (written.symm.trans same.symm)
        cases further with
        | nil =>
            rw [List.nil_append, List.cons.injEq] at tail
            obtain ⟨_, rfl⟩ := tail
            rw [← forms_of_marked]
            exact .continuation previous older _ (middle ++ emptyMark :: back) (by simp) stillUnmarked
              (arrow_free_marked _ back (by simpa [← same] using free)) blanksWhite
        | cons first rest =>
            rw [List.cons_append, List.cons.injEq] at tail
            obtain ⟨bar, _⟩ := tail
            exact absurd (by simp [bar]) (absent_of_blank _ separator blanksWhite (by decide))

theorem adds_of_skeleton (line other : List Char) (rules longer : List Rule) (same : skeleton other = skeleton line)
    (adds : Adds line rules longer) : Adds other rules longer := by
  rw [← adds_iff, add_text_ok] at adds ⊢
  rw [same, adds]

-- A line of which one part is blank says what the other says.
theorem adds_parted (front back : List Char) (rules longer : List Rule) (edge : Text.Blank front ∨ Text.Blank back)
    (adds : Adds (front ++ back) rules longer) : ∃ middle, Adds front rules middle ∧ Adds back middle longer := by
  rcases edge with white | white
  · have same := skeleton_blanks front back [] white Text.blank_nil
    rw [List.append_nil] at same
    exact ⟨rules, .blank rules white, adds_of_skeleton _ _ _ _ same.symm adds⟩
  · have same := skeleton_blanks [] front back Text.blank_nil white
    rw [List.nil_append] at same
    exact ⟨longer, adds_of_skeleton _ _ _ _ same.symm adds, .blank longer white⟩

theorem adds_one (line : List Char) (rules longer : List Rule) :
    [line].foldlM addText rules = .ok longer ↔ Adds line rules longer := by
  rw [List.foldlM_cons, ← adds_iff]
  cases addText rules line <;> simp [bind, Except.bind, pure, Except.pure]

theorem adds_append (above below : List (List Char)) (rules longer : List Rule) :
    (above ++ below).foldlM addText rules = .ok longer ↔
      ∃ middle, above.foldlM addText rules = .ok middle ∧ below.foldlM addText middle = .ok longer := by
  rw [List.foldlM_append]
  cases above.foldlM addText rules <;> simp [bind, Except.bind]

theorem adds_two (first second : List Char) (rules longer : List Rule) :
    [first, second].foldlM addText rules = .ok longer ↔
      ∃ middle, Adds first rules middle ∧ Adds second middle longer := by
  simp only [← adds_one, ← adds_append [first] [second], List.singleton_append]

-- Where the first lines are read, the others may stand for them.
def Kept (lines others : List (List Char)) : Prop :=
  ∀ rules longer, lines.foldlM addText rules = .ok longer → others.foldlM addText rules = .ok longer

theorem kept_around (above below lines others : List (List Char)) (kept : Kept lines others) :
    Kept (above ++ lines ++ below) (above ++ others ++ below) := by
  intro rules longer read
  simp only [adds_append] at read ⊢
  obtain ⟨further, ⟨middle, front, here⟩, back⟩ := read
  exact ⟨further, ⟨middle, front, kept middle further here⟩, back⟩

theorem kept_within (front back old new : List Char) (oldInline : '\n' ∉ old) (newInline : '\n' ∉ new)
    (kept : ∀ rules longer, Adds (lineBefore front ++ (old ++ lineBehind back)) rules longer →
      Adds (lineBefore front ++ (new ++ lineBehind back)) rules longer) :
    Kept ((front ++ (old ++ back)).splitOn '\n') ((front ++ (new ++ back)).splitOn '\n') := by
  obtain ⟨above, below, lines, _⟩ := lines_around front back
  rw [lines old oldInline, lines new newInline]
  refine kept_around above below _ _ fun rules longer read => ?_
  rw [adds_one] at read ⊢
  exact kept rules longer read

theorem kept_broken (front back middle : List Char) (inline : '\n' ∉ middle)
    (kept : ∀ rules longer, Adds (lineBefore front ++ (middle ++ lineBehind back)) rules longer →
      ∃ between, Adds (lineBefore front) rules between ∧ Adds (middle ++ lineBehind back) between longer) :
    Kept ((front ++ (middle ++ back)).splitOn '\n') ((front ++ '\n' :: (middle ++ back)).splitOn '\n') := by
  obtain ⟨above, below, lines, broken⟩ := lines_around front back
  rw [lines middle inline, broken middle inline]
  refine kept_around above below _ _ fun rules longer read => ?_
  rw [adds_one] at read
  rw [adds_two]
  exact kept rules longer read

theorem kept_of_relaid (text other : List Char) (relaid : Relaid text other) :
    Kept (text.splitOn '\n') (other.splitOn '\n') := by
  cases relaid with
  | spaced _ _ spaced =>
      obtain ⟨front, back, char, white, inline, apart⟩ := spaced
      refine kept_within front back [] [char] List.not_mem_nil (by simpa using inline.symm) fun rules longer => ?_
      exact adds_of_skeleton _ _ rules longer (skeleton_spaced front back char white apart)
  | blankLine front back edge =>
      exact kept_broken front back [] List.not_mem_nil fun rules longer => adds_parted _ _ rules longer edge
  | barLine front back =>
      exact kept_broken front back [separator] (by decide) (adds_barred _ _)
  | mark front back placed =>
      refine kept_within front back [] [emptyMark] List.not_mem_nil (by decide) fun rules longer => ?_
      exact adds_marked _ _ rules longer placed

end RuleText

namespace Grammar

open RuleText

-- White space that parts no arrow keeps the grammar, or the line and the kind of the error. A text that is a grammar
-- is the same grammar however it is laid out anew.
theorem layout_irrelevant (text : String) :
    (∀ other : String, Relation.ReflTransGen Spaced text.toList other.toList →
        (ofText other).mapError RuleError.kind = (ofText text).mapError RuleError.kind) ∧
      ∀ grammar, ofText text = .ok grammar → ∀ other : String, Relation.ReflTransGen Relaid text.toList other.toList →
        ofText other = .ok grammar := by
  constructor
  · intro other spaced
    refine text_kind text other ?_
    generalize other.toList = chars at spaced
    induction spaced with
    | refl => rfl
    | tail _ step ih => exact (skeletons_spaced _ _ step).trans ih
  · intro grammar read other relaid
    rw [text_ok] at read ⊢
    generalize other.toList = chars at relaid
    induction relaid with
    | refl => exact read
    | tail _ step ih => exact kept_of_relaid _ _ step [] _ ih

theorem layout_irrelevant_reflowed :
    (ofText "A a->b").mapError RuleError.kind = (ofText "Aa->b").mapError RuleError.kind ∧
      ofText "S->a\n\n|!b" = .ok ⟨[⟨'S', [[.terminal 'a'], [.terminal 'b']]⟩]⟩ := by
  have spaced : Spaced "Aa->b".toList "A a->b".toList :=
    .blank ['A'] ['a', '-', '>', 'b'] ' ' (by decide) (by decide) (by decide)
  have barred : Relaid "S->a|b".toList "S->a\n|b".toList := .barLine ['S', '-', '>', 'a'] ['b']
  have marked : Relaid "S->a\n|b".toList "S->a\n|!b".toList :=
    .mark ['S', '-', '>', 'a', '\n', '|'] ['b'] (Or.inr ⟨[], [], Text.blank_nil, rfl⟩)
  have parted : Relaid "S->a\n|!b".toList "S->a\n\n|!b".toList :=
    .blankLine ['S', '-', '>', 'a'] ['\n', '|', '!', 'b'] (Or.inr Text.blank_nil)
  exact ⟨(layout_irrelevant "Aa->b").1 "A a->b" (.single spaced),
    (layout_irrelevant "S->a|b").2 _ (by decide) "S->a\n\n|!b" (.tail (.tail (.single barred) marked) parted)⟩

-- An arrow that white space parts is no arrow.
example : ofText "S- >a" = .error ⟨1, .missingArrow⟩ := by decide

end Grammar

end TopDown
