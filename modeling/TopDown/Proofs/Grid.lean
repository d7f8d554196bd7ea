import TopDown.Machine.Weight
import TopDown.Proofs.Spelling
/-!
Tables as plain text. A column is as wide in characters as its longest cell is in bytes, so that no cell is wider and
all lines are of one length. In the table of a grammar that was read from text no cell holds a bar or a line break:
the lines and their cells are told apart again, and the cells tell what the table holds.
-/

set_option autoImplicit false

namespace TopDown

namespace Text

theorem length_le_bytes (text : String) : text.length ≤ text.utf8ByteSize := by
  rw [← String.length_toList, ← String.ofList_toList (s := text), String.toList_ofList]
  induction text.toList with
  | nil => exact Nat.zero_le _
  | cons char rest ih =>
      have parted : String.ofList (char :: rest) = .singleton char ++ .ofList rest := by simp
      have positive := char.utf8Size_pos
      rw [parted, String.utf8ByteSize_append, String.utf8ByteSize_singleton, List.length_cons]
      omega

theorem bytes_le_width (texts : List String) (text : String) (member : text ∈ texts) :
    text.utf8ByteSize ≤ columnWidth texts :=
  Table.le_foldr_max _ _ (List.mem_map_of_mem member)

theorem length_padded (texts : List String) (text : String) (member : text ∈ texts) :
    (padFront (columnWidth texts) text).length = columnWidth texts := by
  have characters := length_le_bytes text
  have bytes := bytes_le_width texts text member
  rw [← String.length_toList, length_pad_front, String.length_toList]
  omega

-- The length of joined texts is settled by the lengths of the texts.
theorem length_joined (joint : String) (texts others : List String)
    (same : texts.map String.length = others.map String.length) :
    (joint.intercalate texts).length = (joint.intercalate others).length := by
  induction texts generalizing others with
  | nil =>
      have none : others = [] := List.map_eq_nil_iff.mp same.symm
      rw [none]
  | cons text rest ih =>
      obtain ⟨other, more, rfl, equal, rests⟩ := List.map_eq_cons_iff.mp same.symm
      have further := ih more rests.symm
      cases rest with
      | nil =>
          have none : more = [] := List.map_eq_nil_iff.mp rests
          rw [none, String.intercalate_singleton, String.intercalate_singleton, equal]
      | cons next behind =>
          obtain ⟨following, last, rfl, _, _⟩ := List.map_eq_cons_iff.mp rests
          simp only [String.intercalate_cons_cons, String.length_append, further, equal]

theorem trim_of_ends (chars : List Char)
    (ends : ∀ char, chars.head? = some char ∨ chars.getLast? = some char → isWhiteSpace char = false) :
    trim chars = chars :=
  trim_of_trimmed chars chars ⟨[], [], (List.append_nil chars).symm, blank_nil, blank_nil, ends⟩

theorem chars_padded (width : Nat) (text : String) :
    (padFront width text).toList = List.replicate (width - text.toList.length) ' ' ++ text.toList := by
  rw [padFront, String.toList_ofList, List.leftpad]

theorem trim_padded (width : Nat) (text : String) : trim (padFront width text).toList = trim text.toList := by
  have around := trim_around (List.replicate (width - text.toList.length) ' ') text.toList []
    (RuleText.blank_spaces _) blank_nil
  rw [List.append_nil] at around
  rw [chars_padded, around]

end Text

namespace TableReport

-- The cells of a grid line as they are printed.
def padded (report : TableReport) (line : List String) : List String :=
  List.zipWith Text.padFront report.widths line

/-- The cells of each column are of one width, and the lines of the grid are of one length. -/
structure Aligned (report : TableReport) : Prop where
  columns : ∀ line ∈ report.grid, (report.padded line).map String.length = report.widths
  lines : ∀ one ∈ report.gridLines, ∀ other ∈ report.gridLines, one.length = other.length

section Full

variable (report : TableReport) (full : ∀ line ∈ report.grid, line.length = report.terminals.length + 1)

include full

theorem columns_of_full (texts : List String) (known : texts ∈ report.grid) :
    (report.padded texts).map String.length = report.widths := by
  have counted : report.widths.length = report.terminals.length + 1 := by
    rw [widths, List.length_map, List.length_range]
  have lengths := full texts known
  apply List.ext_getElem
  · rw [List.length_map, padded, List.length_zipWith, lengths, counted, Nat.min_self]
  · intro column _ inside
    have within : column < texts.length := by omega
    have listed : texts[column] ∈ report.grid.map fun other => other.getD column "" :=
      List.mem_map.mpr ⟨texts, known, (List.getElem_eq_getD "").symm⟩
    have width : report.widths[column] =
        Text.columnWidth (report.grid.map fun other => other.getD column "") := by
      simp only [widths, List.getElem_map, List.getElem_range]
    simp only [List.getElem_map, padded, List.getElem_zipWith]
    rw [width]
    exact Text.length_padded _ _ listed

theorem aligned_of_full : report.Aligned where
  columns := columns_of_full report full
  lines := by
    intro one known other further
    obtain ⟨above, listed, rfl⟩ := List.mem_map.mp known
    obtain ⟨below, member, rfl⟩ := List.mem_map.mp further
    apply Text.length_joined
    exact (columns_of_full report full above listed).trans (columns_of_full report full below member).symm

end Full

end TableReport

namespace Table

theorem full_grid (table : Table) :
    ∀ line ∈ table.report.grid, line.length = table.report.terminals.length + 1 := by
  intro line known
  rcases List.mem_cons.mp known with rfl | row
  · rw [List.length_cons]
  · obtain ⟨_, listed, rfl⟩ := List.mem_map.mp row
    obtain ⟨nonTerminal, _, rfl⟩ := List.mem_map.mp listed
    simp [RowReport.plainCells, report]

end Table

/-- The cells that a grid line is read as. -/
def cellsOf (line : List Char) : List (List Char) := (line.splitOn '|').map Text.trim

theorem cells_of_joined (front : List Char) (blank : Text.Blank front) (cells : List (List Char)) (filled : cells ≠ [])
    (unbarred : ∀ cell ∈ cells, '|' ∉ cell) :
    cellsOf (front ++ [' ', '|', ' '].intercalate cells) = cells.map Text.trim := by
  have bare : '|' ∉ front := fun member => absurd (blank _ member) (by decide)
  induction cells generalizing front with
  | nil => exact absurd rfl filled
  | cons cell rest ih =>
      have own := unbarred cell List.mem_cons_self
      cases rest with
      | nil =>
          have whole : '|' ∉ front ++ cell := by simp [bare, own]
          have around := Text.trim_around front cell [] blank Text.blank_nil
          rw [List.append_nil] at around
          rw [cellsOf, List.intercalate_singleton, List.splitOn_eq_singleton whole, List.map_singleton, around,
            List.map_singleton]
      | cons next more =>
          have whole : '|' ∉ front ++ cell ++ [' '] := by simp [bare, own]
          have parted : front ++ [' ', '|', ' '].intercalate (cell :: next :: more) =
              (front ++ cell ++ [' ']) ++ '|' :: ([' '] ++ [' ', '|', ' '].intercalate (next :: more)) := by
            simp [List.intercalate_cons_cons]
          have further := ih [' '] (RuleText.blank_spaces 1) (List.cons_ne_nil next more)
            (fun other member => unbarred other (List.mem_cons_of_mem cell member)) (by decide)
          rw [cellsOf] at further
          rw [cellsOf, parted, List.splitOn_append_cons_self, List.splitOn_eq_singleton whole, List.map_append, further,
            List.map_singleton, Text.trim_around front cell [' '] blank (RuleText.blank_spaces 1)]
          rfl

namespace TableReport

open RuleText

-- A text that is a cell of a grid: it keeps within its cell, and trimming leaves it as it is.
structure Celled (text : String) : Prop where
  inline : Inline text.toList
  whole : Text.trim text.toList = text.toList

section Printed

variable (report : TableReport) (line : List String) (full : line.length = report.terminals.length + 1)
  (celled : ∀ text ∈ line, Celled text)

include celled

theorem inline_padded : ∀ text ∈ report.padded line, Inline text.toList := by
  intro text member
  rw [padded, ← List.map_uncurry_zip_eq_zipWith] at member
  obtain ⟨⟨width, cell⟩, paired, rfl⟩ := List.mem_map.mp member
  change Inline (Text.padFront width cell).toList
  rw [Text.chars_padded, inline_append]
  exact ⟨inline_blanks _, (celled cell (List.of_mem_zip paired).2).inline⟩

include full

theorem trimmed_padded : ((report.padded line).map String.toList).map Text.trim = line.map String.toList := by
  have enough : line.length ≤ report.widths.length := by
    rw [full, widths, List.length_map, List.length_range]
  have kept : ∀ pair ∈ report.widths.zip line,
      Text.trim (Text.padFront pair.1 pair.2).toList = pair.2.toList := by
    intro pair member
    rw [Text.trim_padded, (celled pair.2 (List.of_mem_zip member).2).whole]
  rw [padded, ← List.map_uncurry_zip_eq_zipWith, List.map_map, List.map_map]
  calc (report.widths.zip line).map ((Text.trim ∘ String.toList) ∘ Function.uncurry Text.padFront)
      = (report.widths.zip line).map (String.toList ∘ Prod.snd) := by
        apply List.map_congr_left
        intro pair member
        simp only [Function.comp_apply, Function.uncurry_def]
        exact kept pair member
    _ = line.map String.toList := by rw [← List.map_map, List.map_snd_zip enough]

theorem cells_of_line : cellsOf (" | ".intercalate (report.padded line)).toList = line.map String.toList := by
  have filled : (report.padded line).map String.toList ≠ [] := by
    intro none
    have lined : (line.map String.toList).length = report.terminals.length + 1 := (List.length_map _).trans full
    have lengths := congrArg List.length (trimmed_padded report line full celled)
    rw [none, lined] at lengths
    cases lengths
  have unbarred : ∀ cell ∈ (report.padded line).map String.toList, '|' ∉ cell := by
    intro cell member
    obtain ⟨text, inside, rfl⟩ := List.mem_map.mp member
    exact absent_of_inline _ (inline_padded report line celled text inside) '|' (by decide) (by decide)
  have joined := cells_of_joined [] Text.blank_nil _ filled unbarred
  rw [List.nil_append, trimmed_padded report line full celled] at joined
  rw [String.toList_intercalate]
  exact joined

end Printed

theorem celled_nothing : Celled "" := ⟨by decide, rfl⟩

theorem celled_symbol (char : Char) (plain : Plain char) : Celled (.singleton char) where
  inline := inline_singleton char plain
  whole := by
    rw [String.toList_singleton]
    refine Text.trim_of_ends [char] ?_
    rintro other (first | last)
    · exact Option.some.inj first ▸ plain.1
    · exact Option.some.inj last ▸ plain.1

theorem celled_alternative (left : Char) (upper : 'A' ≤ left ∧ left ≤ 'Z') (form : Form) (legible : Legible form) :
    Celled (.singleton left ++ " -> " ++ form.text) where
  inline := by
    rw [inline_append_text, inline_append_text]
    exact ⟨⟨inline_singleton left (plain_upper left upper), by decide⟩, inline_text form legible⟩
  whole := by
    have own : ∀ other ∈ [form], Legible other := by simpa using legible
    have shape : (String.singleton left ++ " -> " ++ form.text).toList = saidRule left form [] := by
      have middle : " -> ".toList = ' ' :: arrow ++ [' '] := by decide
      simp [String.toList_append, middle, saidRule, barred, Form.text, spelled]
    rw [shape]
    exact Text.trim_of_ends _ (lone_said left form [] upper own).ends

end TableReport

namespace Table

-- What the plain text of a table has in a cell.
def entry (table : Table) (nonTerminal terminal : Char) : String :=
  (table.get? nonTerminal terminal).elim "" fun alternative => .singleton nonTerminal ++ " -> " ++ alternative.text

theorem grid_report (table : Table) : table.report.grid =
    ("" :: table.terminals.toList.map String.singleton) :: table.nonTerminals.toList.map fun nonTerminal =>
      .singleton nonTerminal :: table.terminals.toList.map (table.entry nonTerminal) := by
  rw [TableReport.grid, report, List.map_map]
  refine congrArg _ (List.map_congr_left fun nonTerminal _ => ?_)
  rw [Function.comp_apply, RowReport.plainCells, List.map_map]
  refine congrArg _ ?_
  refine List.map_congr_left fun terminal _ => ?_
  simp only [Function.comp_apply, cellReport, entry]
  cases table.get? nonTerminal terminal <;> rfl

/-- The text of a cell, read as what a table holds there. -/
inductive Told (nonTerminal : Char) : Option Form → List Char → Prop
  | vacant : Told nonTerminal none []
  | filled (spelling : List Char) :
      Told nonTerminal (some (spelling.map Symbol.ofChar)) (nonTerminal :: " -> ".toList ++ spelling)

/-- The plain text of a table, taken apart into its lines and these into their cells. -/
structure ReadsBack (table : Table) : Prop where
  lines : table.report.plain.toList.splitOn '\n' =
    table.report.gridLines.map String.toList ++ table.conflicts.map fun conflict => conflict.text.toList
  counted : table.report.gridLines.length = 1 + table.nonTerminals.size
  pieces : ∀ line ∈ table.report.gridLines, (line.toList.splitOn '|').length = 1 + table.terminals.size
  cells : ∃ header rows, table.report.gridLines = header :: rows ∧
    cellsOf header.toList = [] :: table.terminals.toList.map ([·]) ∧
    List.Forall₂ (fun nonTerminal row => ∃ cells, cellsOf row.toList = [nonTerminal] :: cells ∧
        List.Forall₂ (fun terminal cell => Told nonTerminal (table.get? nonTerminal terminal) cell)
          table.terminals.toList cells)
      table.nonTerminals.toList rows

end Table

namespace Grammar

open RuleText TableReport

section Read

variable (text : String) (grammar : Grammar) (read : ofText text = .ok grammar)

include read

theorem upper_of_alternative (left : Char) (form : Form) (member : form ∈ grammar.alternativesOf left) :
    'A' ≤ left ∧ left ≤ 'Z' := by
  obtain ⟨rule, known, _⟩ := List.mem_flatMap.mp member
  obtain ⟨listed, named⟩ := List.mem_filter.mp known
  have upper := (legible_of_text text grammar read rule listed).upper
  rwa [of_decide_eq_true named] at upper

theorem celled_entry (nonTerminal terminal : Char) : Celled (grammar.analyze.table.entry nonTerminal terminal) := by
  rw [Table.entry]
  cases filled : grammar.analyze.table.get? nonTerminal terminal with
  | none => exact celled_nothing
  | some alternative =>
      have member := (Table.get_build grammar _ _ nonTerminal terminal alternative filled).1
      exact celled_alternative nonTerminal (upper_of_alternative text grammar read nonTerminal alternative member)
        alternative (legible_alternative text grammar read nonTerminal alternative member)

theorem told_entry (nonTerminal terminal : Char) :
    Table.Told nonTerminal (grammar.analyze.table.get? nonTerminal terminal)
      (grammar.analyze.table.entry nonTerminal terminal).toList := by
  rw [Table.entry]
  cases filled : grammar.analyze.table.get? nonTerminal terminal with
  | none => exact .vacant
  | some alternative =>
      have member := (Table.get_build grammar _ _ nonTerminal terminal alternative filled).1
      have legible := legible_alternative text grammar read nonTerminal alternative member
      have spoken : (String.singleton nonTerminal ++ " -> " ++ alternative.text).toList =
          nonTerminal :: " -> ".toList ++ spelled alternative := by
        simp [String.toList_append, Form.text, spelled]
      have told : Table.Told nonTerminal (some ((spelled alternative).map Symbol.ofChar)) _ := .filled _
      rw [chars_of_spelled alternative legible] at told
      rw [Option.elim_some, spoken]
      exact told

theorem celled_grid : ∀ line ∈ grammar.analyze.table.report.grid, ∀ cell ∈ line, Celled cell := by
  intro line known
  rw [Table.grid_report, grammar.kept_analysis.1, grammar.kept_analysis.2] at known
  rcases List.mem_cons.mp known with rfl | listed
  · refine List.forall_mem_cons.mpr ⟨celled_nothing, List.forall_mem_map.mpr fun terminal member => ?_⟩
    exact celled_symbol terminal (plain_terminal text grammar read terminal member)
  · obtain ⟨nonTerminal, member, rfl⟩ := List.mem_map.mp listed
    refine List.forall_mem_cons.mpr ⟨?_, List.forall_mem_map.mpr fun terminal _ => ?_⟩
    · exact celled_symbol nonTerminal (plain_non_terminal text grammar read nonTerminal member)
    · exact celled_entry text grammar read nonTerminal terminal

theorem inline_conflict (conflict : Conflict) (known : conflict ∈ grammar.analyze.table.conflicts) :
    Inline conflict.text.toList := by
  obtain ⟨previous, replacement, directs⟩ := Table.alternatives_of_conflict grammar grammar.analyze.first
    grammar.analyze.follow conflict known
  obtain ⟨row, column⟩ := grammar.directing_known _ _ _ replacement directs
  have left := inline_singleton _ (plain_non_terminal text grammar read _ row)
  have above := inline_singleton _ (plain_terminal text grammar read _ column)
  have before := inline_text _ (legible_alternative text grammar read _ _ previous)
  have after := inline_text _ (legible_alternative text grammar read _ _ replacement)
  unfold Conflict.text
  simp only [inline_append_text, left, above, before, after, and_true]
  decide

-- The cells of the lines as they are printed, and no line is broken by what stands in it.
theorem cells_of_grid (line : List String) (known : line ∈ grammar.analyze.table.report.grid) :
    cellsOf (" | ".intercalate (grammar.analyze.table.report.padded line)).toList = line.map String.toList :=
  TableReport.cells_of_line _ line (Table.full_grid _ line known) (celled_grid text grammar read line known)

theorem unbroken_grid : ∀ line ∈ grammar.analyze.table.report.gridLines, '\n' ∉ line.toList := by
  intro line member
  obtain ⟨cells, known, rfl⟩ := List.mem_map.mp member
  apply Text.absent_joined _ _ _ (by decide)
  intro cell inside
  exact unbroken_of_inline _ (inline_padded _ cells (celled_grid text grammar read cells known) cell inside)

theorem lines_of_plain : grammar.analyze.table.report.plain.toList.splitOn '\n' =
    grammar.analyze.table.report.gridLines.map String.toList ++
      grammar.analyze.table.conflicts.map fun conflict => conflict.text.toList := by
  have filled : grammar.analyze.table.report.gridLines ++ grammar.analyze.table.report.conflicts ≠ [] := by
    simp [TableReport.gridLines, TableReport.grid]
  rw [TableReport.plain, Text.lines_of_joined _ filled, List.map_append, Table.report, List.map_map]
  · rfl
  · intro line member
    rcases List.mem_append.mp member with row | note
    · exact unbroken_grid text grammar read line row
    · obtain ⟨conflict, known, rfl⟩ := List.mem_map.mp note
      exact unbroken_of_inline _ (inline_conflict text grammar read conflict known)

theorem pieces_of_grid (line : String) (member : line ∈ grammar.analyze.table.report.gridLines) :
    (line.toList.splitOn '|').length = 1 + grammar.analyze.table.terminals.size := by
  obtain ⟨content, known, rfl⟩ := List.mem_map.mp member
  have columns : grammar.analyze.table.report.terminals.length = grammar.analyze.table.terminals.size :=
    List.length_map ..
  have counted := congrArg List.length (cells_of_grid text grammar read content known)
  rw [cellsOf, List.length_map, List.length_map, Table.full_grid _ content known, columns] at counted
  exact counted.trans (Nat.add_comm _ _)

theorem row_reads_back (nonTerminal : Char) (member : nonTerminal ∈ grammar.analyze.table.nonTerminals.toList) :
    ∃ cells, cellsOf (" | ".intercalate (grammar.analyze.table.report.padded (.singleton nonTerminal ::
        grammar.analyze.table.terminals.toList.map (grammar.analyze.table.entry nonTerminal)))).toList =
          [nonTerminal] :: cells ∧
      List.Forall₂ (fun terminal cell => Table.Told nonTerminal (grammar.analyze.table.get? nonTerminal terminal) cell)
        grammar.analyze.table.terminals.toList cells := by
  refine ⟨grammar.analyze.table.terminals.toList.map fun terminal =>
    (grammar.analyze.table.entry nonTerminal terminal).toList, ?_, ?_⟩
  · have known : String.singleton nonTerminal :: grammar.analyze.table.terminals.toList.map
        (grammar.analyze.table.entry nonTerminal) ∈ grammar.analyze.table.report.grid := by
      rw [Table.grid_report]
      exact List.mem_cons_of_mem _ (List.mem_map_of_mem member)
    rw [cells_of_grid text grammar read _ known, List.map_cons, List.map_map, String.toList_singleton]
    rfl
  · refine List.forall₂_map_right_iff.mpr (List.forall₂_same.mpr fun terminal _ => ?_)
    exact told_entry text grammar read nonTerminal terminal

theorem grid_reads_back : grammar.analyze.table.ReadsBack := by
  have shape := grammar.analyze.table.grid_report
  have lines : grammar.analyze.table.report.gridLines = grammar.analyze.table.report.grid.map fun line =>
      " | ".intercalate (grammar.analyze.table.report.padded line) := rfl
  refine ⟨lines_of_plain text grammar read, ?_, pieces_of_grid text grammar read, ?_⟩
  · rw [lines, shape, List.length_map, List.length_cons, List.length_map, Nat.add_comm]
    rfl
  · rw [shape, List.map_cons, List.map_map] at lines
    refine ⟨_, _, lines, ?_, ?_⟩
    · rw [cells_of_grid text grammar read _ (by rw [shape]; exact List.mem_cons_self), List.map_cons, List.map_map]
      refine congrArg _ (List.map_congr_left fun char _ => ?_)
      exact String.toList_singleton char
    · refine List.forall₂_map_right_iff.mpr (List.forall₂_same.mpr fun nonTerminal member => ?_)
      exact row_reads_back text grammar read nonTerminal member

end Read

/-- The columns of a table in plain text line up, and for a grammar read from text the table is read back from them. -/
theorem grid_aligned_and_readable :
    (∀ table : Table, table.report.Aligned) ∧
    ∀ (text : String) (grammar : Grammar), ofText text = .ok grammar →
      grammar.analyze.table.nonTerminals = grammar.nonTerminals ∧
      grammar.analyze.table.terminals = grammar.terminals ∧ grammar.analyze.table.ReadsBack :=
  ⟨fun table => TableReport.aligned_of_full table.report table.full_grid, fun text grammar read =>
    ⟨grammar.kept_analysis.1, grammar.kept_analysis.2, grid_reads_back text grammar read⟩⟩

theorem grid_aligned_and_readable_multibyte :
    ∃ grammar, ofText "S -> éS | €\n | !" = .ok grammar ∧ grammar.analyze.table.report.Aligned ∧
      grammar.analyze.table.ReadsBack := by
  have read : ofText "S -> éS | €\n | !" =
      .ok ⟨[⟨'S', [[.terminal 'é', .nonTerminal 'S'], [.terminal '€'], [.epsilon]]⟩]⟩ := by decide
  exact ⟨_, read, grid_aligned_and_readable.1 _, (grid_aligned_and_readable.2 _ _ read).2.2⟩

end Grammar

end TopDown
