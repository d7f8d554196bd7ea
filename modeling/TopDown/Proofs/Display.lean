import Mathlib.Data.List.Forall2
import Mathlib.Data.List.Nodup
import Mathlib.Data.List.ProdSigma
import TopDown.Proofs.Alphabet
import TopDown.Report.Cells
import TopDown.Report.Sets
/-!
Reports show all that an analysis found. Columns are the terminals that the grammar counts for itself, members and
cells come out of the set computations: since no member or cell lies outside of the rows and columns, none is left out,
and each is shown once.
-/

set_option autoImplicit false

namespace TopDown

namespace OrderedSet

variable {α : Type} [DecidableEq α]

/-- The members of a set, each once, in the order of another set. -/
structure ListedBy (set order : OrderedSet α) (members : List α) : Prop where
  once : members.Nodup
  all : ∀ value, value ∈ members ↔ value ∈ set
  ascending : members.Pairwise fun earlier later => order.toList.idxOf earlier < order.toList.idxOf later

theorem index_ascending (values : List α) (nodup : values.Nodup) :
    values.Pairwise fun earlier later => values.idxOf earlier < values.idxOf later := by
  refine List.pairwise_iff_getElem.mpr fun low high lowInside highInside less => ?_
  rwa [nodup.idxOf_getElem low lowInside, nodup.idxOf_getElem high highInside]

theorem listed_in_order (set order : OrderedSet α) (inside : ∀ value ∈ set, value ∈ order) :
    set.ListedBy order (set.inOrderOf order) := by
  have known : set.inOrderOf order = order.toList.filter (· ∈ set) := by
    have outside : set.toList.filter (· ∉ order) = [] :=
      List.filter_eq_nil_iff.mpr fun value member => by simp [inside value member]
    rw [inOrderOf, outside, List.append_nil]
  refine ⟨?_, set.mem_in_order_of order, ?_⟩
  · rw [known]
    exact order.nodup.filter _
  · rw [known]
    exact (index_ascending order.toList order.nodup).sublist List.filter_sublist

end OrderedSet

/-- A row of the set report says of a non-terminal what the sets say. -/
structure SetRow.Tells (row : SetRow) (order : OrderedSet Char) (first : FirstSets) (follow : FollowSets)
    (nonTerminal : Char) : Prop where
  named : row.name = .singleton nonTerminal
  nullable : row.nullable = first.nullable nonTerminal
  first : ∃ members, (first.terminals nonTerminal).ListedBy order members ∧
    row.first = (members ++ if first.nullable nonTerminal then [emptyMark] else []).map .singleton
  follow : ∃ members, (follow.row nonTerminal).ListedBy order members ∧ row.follow = members.map .singleton

namespace TableReport

-- The cells that are shown, each with the texts of its row and of its column.
def shown (report : TableReport) : List ((String × String) × CellReport) :=
  report.rows.flatMap fun row => (report.terminals.zip row.cells).filterMap fun place =>
    place.2.map ((row.name, place.1), ·)

end TableReport

namespace Table

-- The filled cells that the rows list.
def listed (table : Table) : List ((Char × Char) × Form) :=
  table.nonTerminals.toList.flatMap fun nonTerminal =>
    (table.row nonTerminal).map fun cell => ((nonTerminal, cell.1), cell.2)

theorem flat_product {γ : Type} (rows columns : List Char) (pick : Char → Char → Option γ) :
    (rows.flatMap fun row => columns.filterMap (pick row)) =
      (rows ×ˢ columns).filterMap fun place => pick place.1 place.2 := by
  induction rows with
  | nil => rfl
  | cons row rest ih =>
      rw [List.flatMap_cons, ih, List.product_cons, List.filterMap_append, List.filterMap_map]
      rfl

-- What the rows list is all places in turn, as far as they are filled.
theorem listed_eq (table : Table) : table.listed =
    (table.nonTerminals.toList ×ˢ table.terminals.toList).filterMap fun place =>
      (table.get? place.1 place.2).map (place, ·) := by
  rw [← flat_product _ _ fun nonTerminal terminal => (table.get? nonTerminal terminal).map ((nonTerminal, terminal), ·)]
  refine congrArg (List.flatMap · _) (funext fun nonTerminal => ?_)
  rw [row, List.map_filterMap]
  simp only [Option.map_map]
  rfl

theorem mem_listed (table : Table) (nonTerminal terminal : Char) (alternative : Form) :
    ((nonTerminal, terminal), alternative) ∈ table.listed ↔ nonTerminal ∈ table.nonTerminals ∧
      terminal ∈ table.terminals ∧ table.get? nonTerminal terminal = some alternative := by
  simp only [listed_eq, List.mem_filterMap, List.mem_product, Option.map_eq_some_iff, Prod.exists, Prod.mk.injEq,
    OrderedSet.mem_to_list]
  constructor
  · rintro ⟨_, _, ⟨row, column⟩, _, filled, ⟨rfl, rfl⟩, rfl⟩
    exact ⟨row, column, filled⟩
  · rintro ⟨row, column, filled⟩
    exact ⟨_, _, ⟨row, column⟩, _, filled, ⟨rfl, rfl⟩, rfl⟩

theorem nodup_listed (table : Table) : (table.listed.map Prod.fst).Nodup := by
  rw [listed_eq, List.map_filterMap]
  refine List.Nodup.filterMap ?_ (table.nonTerminals.nodup.product table.terminals.nodup)
  intro one other place found again
  obtain ⟨_, _, rfl⟩ := Option.map_eq_some_iff.mp (Option.map_map .. ▸ found)
  obtain ⟨_, _, same⟩ := Option.map_eq_some_iff.mp (Option.map_map .. ▸ again)
  exact same.symm

theorem shown_report (table : Table) : table.report.shown = table.listed.map fun cell =>
    ((.singleton cell.1.1, .singleton cell.1.2), ⟨cell.2.text, table.isConflicted cell.1.1 cell.1.2⟩) := by
  have rows : table.report.shown = table.nonTerminals.toList.flatMap fun nonTerminal =>
      table.terminals.toList.filterMap fun terminal =>
        (table.cellReport nonTerminal terminal).map ((.singleton nonTerminal, .singleton terminal), ·) := by
    rw [TableReport.shown, report, List.flatMap_map]
    refine congrArg (List.flatMap · _) (funext fun nonTerminal => ?_)
    rw [List.zip_map', List.filterMap_map]
    rfl
  rw [rows, flat_product, listed_eq, List.map_filterMap]
  refine List.filterMap_congr fun place _ => ?_
  rw [cellReport, Option.map_map, Option.map_map]
  rfl

section Contested

variable (grammar : Grammar) (first : FirstSets) (follow : FollowSets) (nonTerminal terminal : Char)

-- Two alternatives at different places claim the cell.
def Contested : Prop :=
  ∃ one other : Choice, grammar.Holds one ∧ grammar.Holds other ∧ one.Before other ∧
    (one.left = nonTerminal ∧ terminal ∈ one.directing first follow) ∧
    other.left = nonTerminal ∧ terminal ∈ other.directing first follow

theorem contested_iff : Contested grammar first follow nonTerminal terminal ↔
    1 < (claimants first follow grammar.choices nonTerminal terminal).length := by
  have ordered := claimants_ordered first follow grammar nonTerminal terminal
  have known := mem_claimants first follow grammar.choices nonTerminal terminal
  constructor
  · rintro ⟨one, other, here, there, before, claims, again⟩
    have member := (known one).mpr ⟨(grammar.mem_choices one).mpr here, claims⟩
    have further := (known other).mpr ⟨(grammar.mem_choices other).mpr there, again⟩
    by_contra few
    obtain ⟨alone, same⟩ := List.length_eq_one_iff.mp (Nat.le_antisymm (Nat.not_lt.mp few) (List.length_pos_of_mem member))
    rw [same, List.mem_singleton] at member further
    exact Choice.ne_of_before before (member.trans further.symm)
  · intro many
    have before := List.pairwise_iff_getElem.mp ordered 0 1 (Nat.lt_of_succ_lt many) many Nat.one_pos
    obtain ⟨here, claims⟩ := (known _).mp (List.getElem_mem (Nat.lt_of_succ_lt many))
    obtain ⟨there, again⟩ := (known _).mp (List.getElem_mem many)
    exact ⟨_, _, (grammar.mem_choices _).mp here, (grammar.mem_choices _).mp there, before, claims, again⟩

theorem conflicted_iff : (build grammar first follow).isConflicted nonTerminal terminal = true ↔
    Contested grammar first follow nonTerminal terminal := by
  have counted := count_conflicts_at grammar first follow nonTerminal terminal
  have some : (build grammar first follow).isConflicted nonTerminal terminal = true ↔
      0 < ((build grammar first follow).conflictsAt nonTerminal terminal).length := by
    rw [conflictsAt, List.length_filter_pos_iff, isConflicted, List.any_eq_true]
  rw [some, contested_iff, counted]
  omega

-- A contested cell is filled, so its mark is shown.
theorem filled_of_contested (contested : Contested grammar first follow nonTerminal terminal) :
    ∃ alternative, (build grammar first follow).get? nonTerminal terminal = some alternative := by
  obtain ⟨one, _, here, _, _, claims, _⟩ := contested
  have member := (mem_claimants first follow grammar.choices nonTerminal terminal one).mpr
    ⟨(grammar.mem_choices one).mpr here, claims⟩
  rw [filled_build first follow grammar nonTerminal terminal, List.getLast?_eq_some_getLast (List.ne_nil_of_mem member)]
  exact ⟨_, rfl⟩

end Contested

theorem kept_claims (claims : List Claim) (table : Table) :
    (claims.foldl claim table).nonTerminals = table.nonTerminals ∧ (claims.foldl claim table).terminals = table.terminals := by
  induction claims generalizing table with
  | nil => exact ⟨rfl, rfl⟩
  | cons entry rest ih => exact ih (table.claim entry)

end Table

namespace Grammar

variable (grammar : Grammar)

theorem tells_set_row (nonTerminal : Char) :
    (grammar.setRow grammar.analyze.first grammar.analyze.follow nonTerminal).Tells grammar.terminals
      grammar.analyze.first grammar.analyze.follow nonTerminal where
  named := rfl
  nullable := rfl
  first := ⟨_, OrderedSet.listed_in_order _ _ (grammar.first_terminals_known nonTerminal), rfl⟩
  follow := ⟨_, OrderedSet.listed_in_order _ _ fun char member => (grammar.follow_known nonTerminal char member).2, rfl⟩

theorem tells_set_rows : List.Forall₂
    (fun nonTerminal row => row.Tells grammar.terminals grammar.analyze.first grammar.analyze.follow nonTerminal)
    grammar.nonTerminals.toList grammar.analyze.setReport.rows :=
  List.forall₂_map_right_iff.mpr (List.forall₂_same.mpr fun nonTerminal _ => grammar.tells_set_row nonTerminal)

theorem kept_analysis : grammar.analyze.table.nonTerminals = grammar.nonTerminals ∧
    grammar.analyze.table.terminals = grammar.terminals :=
  Table.kept_claims (Table.claims grammar grammar.analyze.first grammar.analyze.follow) (.empty grammar)

theorem cell_in_table (nonTerminal terminal : Char) (alternative : Form)
    (filled : grammar.analyze.table.get? nonTerminal terminal = some alternative) :
    nonTerminal ∈ grammar.analyze.table.nonTerminals ∧ terminal ∈ grammar.analyze.table.terminals := by
  rw [grammar.kept_analysis.1, grammar.kept_analysis.2]
  exact grammar.cell_known nonTerminal terminal alternative filled

theorem mem_listed_cells (nonTerminal terminal : Char) (alternative : Form) :
    ((nonTerminal, terminal), alternative) ∈ grammar.analyze.table.listed ↔
      grammar.analyze.table.get? nonTerminal terminal = some alternative := by
  rw [Table.mem_listed]
  constructor
  · exact fun cell => cell.2.2
  · exact fun filled => ⟨(grammar.cell_in_table _ _ _ filled).1, (grammar.cell_in_table _ _ _ filled).2, filled⟩

theorem shown_conflict_iff (nonTerminal terminal : Char) :
    (∃ content, ((.singleton nonTerminal, .singleton terminal), ⟨content, true⟩) ∈ grammar.analyze.table.report.shown) ↔
      Table.Contested grammar grammar.analyze.first grammar.analyze.follow nonTerminal terminal := by
  have marked := Table.conflicted_iff grammar grammar.analyze.first grammar.analyze.follow nonTerminal terminal
  simp only [Table.shown_report, List.mem_map, Prod.exists, Prod.mk.injEq, String.singleton_inj, CellReport.mk.injEq]
  constructor
  · rintro ⟨_, _, _, alternative, _, ⟨rfl, rfl⟩, _, conflicted⟩
    exact marked.mp conflicted
  · intro contested
    obtain ⟨alternative, filled⟩ := Table.filled_of_contested grammar _ _ nonTerminal terminal contested
    exact ⟨_, _, _, alternative, (grammar.mem_listed_cells _ _ _).mpr filled, ⟨rfl, rfl⟩, rfl, marked.mpr contested⟩

/-- What the sets and the table of an analysis hold, and what their reports show of it. -/
theorem analysis_displayed :
    (∀ nonTerminal char, char ∈ grammar.analyze.first.terminals nonTerminal ∨
      char ∈ grammar.analyze.follow.row nonTerminal → char ∈ grammar.terminals) ∧
    (∀ nonTerminal terminal alternative, grammar.analyze.table.get? nonTerminal terminal = some alternative →
      nonTerminal ∈ grammar.analyze.table.nonTerminals ∧ terminal ∈ grammar.analyze.table.terminals) ∧
    ((grammar.analyze.table.listed.map Prod.fst).Nodup ∧ ∀ nonTerminal terminal alternative,
      ((nonTerminal, terminal), alternative) ∈ grammar.analyze.table.listed ↔
        grammar.analyze.table.get? nonTerminal terminal = some alternative) ∧
    ((∀ row ∈ grammar.analyze.table.report.rows, row.cells.length = grammar.analyze.table.report.terminals.length) ∧
      grammar.analyze.table.report.shown.map (fun cell => (cell.1, cell.2.content)) =
        grammar.analyze.table.listed.map fun cell =>
          ((String.singleton cell.1.1, String.singleton cell.1.2), cell.2.text)) ∧
    (∀ nonTerminal terminal, (∃ content, ((.singleton nonTerminal, .singleton terminal), ⟨content, true⟩) ∈
        grammar.analyze.table.report.shown) ↔
      Table.Contested grammar grammar.analyze.first grammar.analyze.follow nonTerminal terminal) ∧
    List.Forall₂
      (fun nonTerminal row => row.Tells grammar.terminals grammar.analyze.first grammar.analyze.follow nonTerminal)
      grammar.nonTerminals.toList grammar.analyze.setReport.rows := by
  refine ⟨?_, grammar.cell_in_table, ⟨grammar.analyze.table.nodup_listed, grammar.mem_listed_cells⟩, ⟨?_, ?_⟩,
    grammar.shown_conflict_iff, grammar.tells_set_rows⟩
  · rintro nonTerminal char (begins | follows)
    · exact grammar.first_terminals_known nonTerminal char begins
    · exact (grammar.follow_known nonTerminal char follows).2
  · intro row member
    obtain ⟨nonTerminal, _, rfl⟩ := List.mem_map.mp member
    rw [List.length_map, Table.report, List.length_map]
  · rw [Table.shown_report, List.map_map]
    rfl

end Grammar

end TopDown
