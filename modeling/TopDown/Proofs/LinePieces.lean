import TopDown.Proofs.Legibility
/-!
A line by its pieces. What a line of grammar text says is settled by the pieces between its arrows, the white space in
them left out, and so is its fault, but for the left side that the fault quotes.
-/

set_option autoImplicit false

namespace TopDown

namespace RuleFault

-- A fault without the left side that it quotes.
def kind : RuleFault → RuleFault
  | invalidLeft _ => .invalidLeft ""
  | fault => fault

end RuleFault

namespace RuleError

def kind (error : RuleError) : RuleError := { error with fault := error.fault.kind }

end RuleError

namespace RuleText

def solids (chars : List Char) : List Char := chars.filter (!Text.isWhiteSpace ·)

def skeleton (line : List Char) : List (List Char) := (splitArrows line).map solids

-- The line that has these pieces, where it is not blank.
def readPieces (pieces : List (List Char)) : Except RuleFault RuleLine :=
  if endMark ∈ pieces.flatten then .error .reservedEndMark
  else
    match pieces with
    | [left, rights] => (readLeft left).map (.rule · (formsOf rights))
    | [whole] =>
        match whole with
        | '|' :: rights => .ok (.continuation (formsOf rights))
        | _ => .error .missingArrow
    | _ => .error .tooManyArrows

def addPieces (rules : List Rule) (pieces : List (List Char)) : Except RuleFault (List Rule) :=
  if pieces = [[]] then .ok rules else readPieces pieces >>= addLine rules

def addText (rules : List Rule) (line : List Char) : Except RuleFault (List Rule) :=
  if (Text.trim line).isEmpty then .ok rules else readLine (Text.trim line) >>= addLine rules

theorem mem_solids (chars : List Char) (char : Char) :
    char ∈ solids chars ↔ char ∈ chars ∧ Text.isWhiteSpace char = false := by
  simp [solids]

theorem solids_append (front back : List Char) : solids (front ++ back) = solids front ++ solids back :=
  List.filter_append front back

theorem solids_cons (first : Char) (rest : List Char) (solid : Text.isWhiteSpace first = false) :
    solids (first :: rest) = first :: solids rest :=
  List.filter_cons_of_pos (by simp [solid])

theorem solids_eq_nil_iff (chars : List Char) : solids chars = [] ↔ Text.Blank chars := by
  simp [solids, Text.Blank]

theorem solids_trimmed (chars content : List Char) (trimmed : Text.Trimmed chars content) :
    solids chars = solids content := by
  obtain ⟨front, back, rfl, frontBlank, backBlank, _⟩ := trimmed
  rw [solids_append, solids_append, (solids_eq_nil_iff front).mpr frontBlank, (solids_eq_nil_iff back).mpr backBlank,
    List.nil_append, List.append_nil]

theorem solids_modify_head (pieces : List (List Char)) (first : Char) :
    (pieces.modifyHead (first :: ·)).map solids =
      if Text.isWhiteSpace first then pieces.map solids else (pieces.map solids).modifyHead (first :: ·) := by
  cases pieces with
  | nil => simp
  | cons piece further => cases white : Text.isWhiteSpace first <;> simp [solids, white]

theorem skeleton_of_arrow_free (line : List Char) (free : ArrowFree line) : skeleton line = [solids line] := by
  rw [skeleton, split_of_arrow_free line free, List.map_singleton]

theorem skeleton_across (before after : List Char) :
    skeleton (before ++ arrow ++ after) = skeleton before ++ skeleton after := by
  rw [skeleton, split_at_arrow, List.map_append, ← skeleton, ← skeleton]

theorem arrow_free_of_single (line piece : List Char) (single : splitArrows line = [piece]) :
    ArrowFree line ∧ piece = line := by
  rcases arrow_free_or_split line with free | ⟨before, after, _, rfl⟩
  · rw [split_of_arrow_free line free] at single
    exact ⟨free, (List.cons.inj single).1.symm⟩
  · have lengths := congrArg List.length single
    rw [split_at_arrow, List.length_append, List.length_singleton] at lengths
    have front := List.length_pos_iff.mpr (split_ne_nil before)
    have back := List.length_pos_iff.mpr (split_ne_nil after)
    omega

theorem blank_of_skeleton (line : List Char) (single : skeleton line = [[]]) : Text.Blank line := by
  obtain ⟨piece, split, none⟩ := List.map_eq_singleton_iff.mp single
  rw [(arrow_free_of_single line piece split).2] at none
  exact (solids_eq_nil_iff line).mp none

-- White space leaves no trace in the pieces unless it parts the two characters of an arrow.
theorem skeleton_insert (front back : List Char) (blank : Char) (white : Text.isWhiteSpace blank = true)
    (apart : ¬ (front.getLast? = some '-' ∧ back.head? = some '>')) :
    skeleton (front ++ blank :: back) = skeleton (front ++ back) := by
  induction front using splitArrows.induct with
  | case1 rest ih =>
      have further : ¬ (rest.getLast? = some '-' ∧ back.head? = some '>') := by
        rintro ⟨last, point⟩
        exact apart ⟨by simp [List.getLast?_cons, last], point⟩
      simp only [skeleton, List.cons_append, splitArrows, List.map_cons] at ih ⊢
      rw [ih further]
  | case2 first rest noArrow ih =>
      have further : ¬ (rest.getLast? = some '-' ∧ back.head? = some '>') := by
        rintro ⟨last, point⟩
        exact apart ⟨by simp [List.getLast?_cons, last], point⟩
      have wider : ∀ later, first = '-' → rest ++ blank :: back = '>' :: later → False := by
        intro later dash tail
        cases rest with
        | nil =>
            injection tail with point
            exact absurd (point ▸ white) (by decide)
        | cons second more =>
            injection tail with point
            exact noArrow more dash (by rw [point])
      have plain : ∀ later, first = '-' → rest ++ back = '>' :: later → False := by
        intro later dash tail
        cases rest with
        | nil => exact apart ⟨by simp [dash], by simp [show back = '>' :: later from tail]⟩
        | cons second more =>
            injection tail with point
            exact noArrow more dash (by rw [point])
      rw [skeleton, skeleton, List.cons_append, List.cons_append, splitArrows.eq_2 first _ wider,
        splitArrows.eq_2 first _ plain, solids_modify_head, solids_modify_head, ← skeleton, ← skeleton, ih further]
  | case3 =>
      have single : ∀ later, blank = '-' → back = '>' :: later → False := by
        intro later dash _
        exact absurd (dash ▸ white) (by decide)
      rw [List.nil_append, List.nil_append, skeleton, splitArrows.eq_2 blank back single, solids_modify_head,
        if_pos white, ← skeleton]

theorem skeleton_blanks (front line back : List Char) (frontBlank : Text.Blank front) (backBlank : Text.Blank back) :
    skeleton (front ++ line ++ back) = skeleton line := by
  induction front with
  | nil =>
      rw [List.nil_append]
      induction back with
      | nil => rw [List.append_nil]
      | cons blank rest ih =>
          have apart : ¬ (line.getLast? = some '-' ∧ rest.head? = some '>') := by
            rintro ⟨_, point⟩
            have white := backBlank '>' (List.mem_cons_of_mem blank (List.mem_of_mem_head? point))
            exact absurd white (by decide)
          rw [skeleton_insert line rest blank (backBlank blank List.mem_cons_self) apart]
          exact ih fun char member => backBlank char (List.mem_cons_of_mem blank member)
  | cons blank rest ih =>
      have dropped := skeleton_insert [] (rest ++ line ++ back) blank (frontBlank blank List.mem_cons_self) (by simp)
      simp only [List.cons_append, List.nil_append] at dropped ⊢
      rw [dropped]
      exact ih fun char member => frontBlank char (List.mem_cons_of_mem blank member)

theorem skeleton_trim (line : List Char) : skeleton (Text.trim line) = skeleton line := by
  obtain ⟨front, back, same, frontBlank, backBlank, _⟩ := Text.trimmed_trim line
  rw [← skeleton_blanks front (Text.trim line) back frontBlank backBlank, ← same]

-- The pieces between separators do not mind what is dropped from them.
theorem split_filter (chars : List Char) (divider : Char) (keep : Char → Bool) (kept : keep divider = true) :
    (chars.filter keep).splitOn divider = (chars.splitOn divider).map (List.filter keep) := by
  induction chars with
  | nil => rfl
  | cons first rest ih =>
      obtain ⟨piece, further, pieces⟩ := List.exists_cons_of_ne_nil (List.splitOn_ne_nil divider rest)
      rw [pieces] at ih
      by_cases same : first = divider
      · rw [List.filter_cons_of_pos (by rw [same, kept]), List.splitOn_cons_eq_if_modifyHead,
          List.splitOn_cons_eq_if_modifyHead, ih, pieces]
        simp [same]
      · rw [List.splitOn_cons_eq_if_modifyHead, pieces]
        cases held : keep first with
        | true =>
            rw [List.filter_cons_of_pos held, List.splitOn_cons_eq_if_modifyHead, ih]
            simp [same, held]
        | false =>
            rw [List.filter_cons_of_neg (by simp [held]), ih]
            simp [same, held]

-- Only white space and empty marks may be dropped.
theorem forms_of_filter (chars : List Char) (keep : Char → Bool)
    (kept : ∀ char, keep char = false → Text.isWhiteSpace char = true ∨ char = emptyMark) :
    formsOf (chars.filter keep) = formsOf chars := by
  have bar : keep separator = true := by
    cases held : keep separator with
    | true => rfl
    | false => exact absurd (kept separator held) (by decide)
  have forms (piece : List Char) : formOf (piece.filter keep) = formOf piece := by
    have same : (fun char => (!Text.isWhiteSpace char && decide (char ≠ emptyMark)) && keep char) =
        fun char => !Text.isWhiteSpace char && decide (char ≠ emptyMark) := by
      funext char
      cases held : keep char with
      | true => simp
      | false => rcases kept char held with white | mark <;> simp [*]
    rw [formOf, formOf, List.filter_filter, same]
  rw [formsOf, formsOf, split_filter chars separator keep bar, List.map_map]
  exact List.map_congr_left fun piece _ => forms piece

theorem forms_of_solids (chars : List Char) : formsOf (solids chars) = formsOf chars :=
  forms_of_filter chars _ fun char dropped => Or.inl (by simpa using dropped)

theorem forms_of_marked (front back : List Char) : formsOf (front ++ emptyMark :: back) = formsOf (front ++ back) := by
  have dropped (chars : List Char) : formsOf (chars.filter (· ≠ emptyMark)) = formsOf chars :=
    forms_of_filter chars _ fun char held => Or.inr (by simpa using held)
  rw [← dropped (front ++ emptyMark :: back), ← dropped (front ++ back), List.filter_append, List.filter_append,
    List.filter_cons_of_neg (by simp)]

theorem mem_arrows (chars : List Char) (char : Char) (other : char ∉ arrow) :
    char ∈ (splitArrows chars).flatten ↔ char ∈ chars := by
  simp only [arrow, List.mem_cons, List.not_mem_nil, or_false, not_or] at other
  induction chars using splitArrows.induct with
  | case1 rest ih =>
      rw [splitArrows, List.flatten_cons, List.nil_append, ih]
      simp [other]
  | case2 first rest noArrow ih =>
      rw [splitArrows.eq_2 first rest noArrow, List.mem_cons, ← ih]
      cases pieces : splitArrows rest with
      | nil => exact absurd pieces (split_ne_nil rest)
      | cons piece further => simp
  | case3 => simp [splitArrows]

theorem marked_skeleton (line : List Char) : endMark ∈ (skeleton line).flatten ↔ endMark ∈ line := by
  have flat : (skeleton line).flatten = solids (splitArrows line).flatten := List.filter_flatten.symm
  rw [flat, mem_solids, and_iff_left (by decide), mem_arrows line endMark (by decide)]

theorem read_left_kind (chars : List Char) :
    (readLeft (Text.trim chars)).mapError RuleFault.kind = (readLeft (solids chars)).mapError RuleFault.kind := by
  have trimmed := Text.trimmed_trim chars
  rw [solids_trimmed chars _ trimmed]
  obtain ⟨_, _, _, _, _, solid⟩ := trimmed
  generalize Text.trim chars = content at solid
  match content with
  | [] => rfl
  | [char] => rw [solids_cons char [] (solid char (Or.inl rfl))]; rfl
  | first :: second :: rest =>
      have last : (solids (second :: rest)) ≠ [] := by
        intro none
        have white := (solids_eq_nil_iff _).mp none _ (List.getLast_mem (List.cons_ne_nil second rest))
        have black := solid _ (Or.inr (List.getLast?_eq_some_getLast (List.cons_ne_nil first (second :: rest))))
        rw [List.getLast_cons (List.cons_ne_nil second rest), white] at black
        cases black
      obtain ⟨next, further, pieces⟩ := List.exists_cons_of_ne_nil last
      rw [solids_cons first _ (solid first (Or.inl rfl)), pieces]
      rfl

theorem pieces_of_marked (pieces : List (List Char)) (marked : endMark ∈ pieces.flatten) :
    readPieces pieces = .error .reservedEndMark :=
  if_pos marked

theorem pieces_of_rule (left rights : List Char) (unmarked : endMark ∉ [left, rights].flatten) :
    readPieces [left, rights] = (readLeft left).map (.rule · (formsOf rights)) :=
  if_neg unmarked

theorem pieces_of_continuation (rights : List Char) (unmarked : endMark ∉ separator :: rights) :
    readPieces [separator :: rights] = .ok (.continuation (formsOf rights)) :=
  if_neg (by simpa using unmarked)

theorem pieces_of_bare (whole : List Char) (unmarked : endMark ∉ whole) (unbarred : whole.head? ≠ some separator) :
    readPieces [whole] = .error .missingArrow := by
  unfold readPieces
  rw [if_neg (by simpa using unmarked)]
  dsimp only
  split
  · exact absurd rfl unbarred
  · rfl

theorem pieces_of_many (pieces : List (List Char)) (unmarked : endMark ∉ pieces.flatten) (many : 2 < pieces.length) :
    readPieces pieces = .error .tooManyArrows := by
  unfold readPieces
  rw [if_neg unmarked]
  split
  · simp at many
  · simp at many
  · rfl

theorem map_error_map {ε δ α β : Type} (change : ε → δ) (turn : α → β) (result : Except ε α) :
    (result.map turn).mapError change = (result.mapError change).map turn := by
  cases result <;> rfl

theorem read_of_arrow_free (content : List Char) (free : ArrowFree content) (unmarked : endMark ∉ content)
    (solid : ∀ char, content.head? = some char → Text.isWhiteSpace char = false) :
    readLine content = readPieces [solids content] := by
  have absent : endMark ∉ solids content := fun member => unmarked ((mem_solids content endMark).mp member).1
  by_cases barred : content.head? = some separator
  · obtain ⟨after, rfl⟩ := List.head?_eq_some_iff.mp barred
    rw [solids_cons separator after (by decide)] at absent ⊢
    rw [read_of_reads _ _ (.continuation after unmarked free), pieces_of_continuation _ absent, forms_of_solids]
  · rw [read_of_refused content _ (.bare content unmarked free barred), pieces_of_bare _ absent]
    cases content with
    | nil => exact barred
    | cons first rest =>
        rw [solids_cons first rest (solid first rfl)]
        exact barred

-- Up to the left side that it may quote, a trimmed line is read as its pieces are.
theorem read_line_kind (line : List Char) :
    (readLine (Text.trim line)).mapError RuleFault.kind = (readPieces (skeleton line)).mapError RuleFault.kind := by
  rw [← skeleton_trim line]
  obtain ⟨_, _, _, _, _, solid⟩ := Text.trimmed_trim line
  generalize Text.trim line = content at solid
  by_cases marked : endMark ∈ content
  · rw [readLine, if_pos marked, pieces_of_marked _ ((marked_skeleton content).mpr marked)]
  · have unmarked := (marked_skeleton content).not.mpr marked
    rcases arrow_free_or_split content with free | ⟨before, rest, beforeFree, rfl⟩
    · rw [read_of_arrow_free content free marked fun char head => solid char (Or.inl head),
        skeleton_of_arrow_free content free]
    · rcases arrow_free_or_split rest with restFree | ⟨between, after, _, rfl⟩
      · rw [skeleton_across, skeleton_of_arrow_free before beforeFree, skeleton_of_arrow_free rest restFree,
          List.singleton_append] at unmarked ⊢
        rw [read_of_single before rest marked ⟨beforeFree, restFree⟩, pieces_of_rule _ _ unmarked, map_error_map,
          map_error_map, read_left_kind, forms_of_solids]
      · rw [← List.append_assoc, ← List.append_assoc] at marked unmarked ⊢
        have many := many_pieces before between after
        rw [read_of_many _ marked many, pieces_of_many _ unmarked (by simpa [skeleton] using many)]

theorem blank_iff_skeleton (line : List Char) : (Text.trim line).isEmpty = true ↔ skeleton line = [[]] := by
  rw [List.isEmpty_iff]
  constructor
  · intro blank
    rw [← skeleton_trim, blank]
    rfl
  · intro single
    rw [← skeleton_trim] at single
    obtain ⟨_, _, _, _, _, solid⟩ := Text.trimmed_trim line
    have white := blank_of_skeleton _ single
    cases content : Text.trim line with
    | nil => rfl
    | cons first rest =>
        have black := solid first (Or.inl (by rw [content]; rfl))
        rw [white first (by rw [content]; exact List.mem_cons_self)] at black
        cases black

theorem map_error_bind {ε δ α β : Type} (change : ε → δ) (result : Except ε α) (next : α → Except ε β) :
    (result >>= next).mapError change = result.mapError change >>= fun value => (next value).mapError change := by
  cases result <;> rfl

theorem add_text_kind (rules : List Rule) (line : List Char) :
    (addText rules line).mapError RuleFault.kind = (addPieces rules (skeleton line)).mapError RuleFault.kind := by
  rw [addText, addPieces]
  by_cases blank : skeleton line = [[]]
  · rw [if_pos ((blank_iff_skeleton line).mpr blank), if_pos blank]
  · rw [if_neg ((blank_iff_skeleton line).not.mpr blank), if_neg blank, map_error_bind, map_error_bind, read_line_kind]

theorem add_text_ok (rules longer : List Rule) (line : List Char) :
    addText rules line = .ok longer ↔ addPieces rules (skeleton line) = .ok longer := by
  have kinds := add_text_kind rules line
  cases added : addText rules line <;> cases told : addPieces rules (skeleton line) <;> rw [added, told] at kinds <;>
    simp_all [Except.mapError]

theorem numbered_kind {α : Type} (number : Nat) (result : Except RuleFault α) :
    (result.mapError (RuleError.mk number)).mapError RuleError.kind =
      (result.mapError RuleFault.kind).mapError (RuleError.mk number) := by
  cases result <;> rfl

theorem read_lines_cons (number : Nat) (rules : List Rule) (line : List Char) (rest : List (List Char)) :
    readLines number rules (line :: rest) =
      (addText rules line).mapError (RuleError.mk number) >>= fun longer => readLines (number + 1) longer rest := by
  rw [readLines, addText]
  by_cases blank : (Text.trim line).isEmpty
  · rw [if_pos blank, if_pos blank]
    rfl
  · rw [if_neg blank, if_neg blank]
    cases readLine (Text.trim line) >>= addLine rules <;> rfl

theorem read_lines_kind (number : Nat) (rules : List Rule) (lines others : List (List Char))
    (alike : lines.map skeleton = others.map skeleton) :
    (readLines number rules lines).mapError RuleError.kind = (readLines number rules others).mapError RuleError.kind := by
  induction lines generalizing number rules others with
  | nil =>
      rw [List.map_nil, eq_comm, List.map_eq_nil_iff] at alike
      rw [alike]
  | cons line rest ih =>
      rw [List.map_cons, eq_comm, List.map_eq_cons_iff] at alike
      obtain ⟨other, further, rfl, same, below⟩ := alike
      have kinds : (addText rules line).mapError RuleFault.kind = (addText rules other).mapError RuleFault.kind := by
        rw [add_text_kind, add_text_kind, same]
      rw [read_lines_cons, read_lines_cons, map_error_bind, map_error_bind, numbered_kind, numbered_kind, kinds]
      exact congrArg _ (funext fun longer => ih (number + 1) longer further below.symm)

-- The rules that are read, the latest first, are those that the lines add one by one.
theorem read_lines_ok (number : Nat) (rules final : List Rule) (lines : List (List Char)) :
    readLines number rules lines = .ok final ↔ lines.foldlM addText rules = .ok final.reverse := by
  induction lines generalizing number rules with
  | nil => simp [readLines, pure, Except.pure, List.reverse_eq_iff]
  | cons line rest ih =>
      rw [read_lines_cons, List.foldlM_cons]
      cases addText rules line with
      | error fault => simp [Except.mapError, bind, Except.bind]
      | ok longer => exact ih (number + 1) longer

end RuleText

end TopDown
