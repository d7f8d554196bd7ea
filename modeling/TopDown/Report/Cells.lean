import TopDown.Report.Productions
import TopDown.Table
/-!
LL(1) tables as plain text, LaTeX and JSON: a column for each terminal, a row for each
non-terminal, and the conflicts. LaTeX shows a cell that was claimed more than once in red.
-/

set_option autoImplicit false

namespace TopDown

structure CellReport where
  content : String
  conflicted : Bool

structure RowReport where
  name : String
  cells : List (Option CellReport)

structure TableReport where
  terminals : List String
  rows : List RowReport
  conflicts : List String

namespace RowReport

def plainCells (row : RowReport) : List String :=
  row.name :: row.cells.map fun cell =>
    match cell with
    | none => ""
    | some cell => row.name ++ " -> " ++ cell.content

def latexCell (row : RowReport) (terminals : List String) : Option CellReport → String
  | none => ""
  | some cell =>
      let production := ProductionReport.latex ⟨row.name, [cell.content.toList.map .singleton]⟩ false terminals
      if cell.conflicted then "\x7b\\color\x7bred\x7d" ++ production ++ "\x7d" else production

def latex (row : RowReport) (terminals : List String) : String :=
  " & ".intercalate (Latex.escape row.name :: row.cells.map (row.latexCell terminals))

def json (row : RowReport) : Json.Value :=
  .list [.text row.name, .list (row.cells.map (Json.ofOption fun cell => .text cell.content))]

end RowReport

namespace TableReport

def grid (report : TableReport) : List (List String) :=
  ("" :: report.terminals) :: report.rows.map RowReport.plainCells

-- The width of each column of the grid.
def widths (report : TableReport) : List Nat :=
  (List.range (report.terminals.length + 1)).map fun column =>
    Text.columnWidth (report.grid.map fun line => line.getD column "")

def gridLines (report : TableReport) : List String :=
  report.grid.map fun line => " | ".intercalate (List.zipWith Text.padFront report.widths line)

def plain (report : TableReport) : String := "\n".intercalate (report.gridLines ++ report.conflicts)

def latexHeader (report : TableReport) : String :=
  " & ".intercalate (("\\[\\begin\x7barray\x7d\x7bc" ++ .join (report.terminals.map fun _ => "|l") ++ "\x7d\n")
    :: report.terminals.map Latex.text)

def latex (report : TableReport) : String :=
  report.latexHeader ++ "\\\\\\hline\n"
    ++ "\\\\\n".intercalate (report.rows.map (·.latex report.terminals)) ++ "\n\\end\x7barray\x7d\\]"

def json (report : TableReport) : String :=
  (Json.Value.record [("terminals", Json.texts report.terminals),
    ("rows", .list (report.rows.map RowReport.json)), ("conflicts", Json.texts report.conflicts)]).compact

end TableReport

namespace Table

def isConflicted (table : Table) (nonTerminal terminal : Char) : Bool :=
  table.conflicts.any fun conflict => conflict.nonTerminal = nonTerminal ∧ conflict.terminal = terminal

def cellReport (table : Table) (nonTerminal terminal : Char) : Option CellReport :=
  (table.get? nonTerminal terminal).map fun alternative =>
    ⟨alternative.text, table.isConflicted nonTerminal terminal⟩

def report (table : Table) : TableReport where
  terminals := table.terminals.toList.map String.singleton
  rows := table.nonTerminals.toList.map fun nonTerminal =>
    ⟨.singleton nonTerminal, table.terminals.toList.map (table.cellReport nonTerminal)⟩
  conflicts := table.conflicts.map Conflict.text

end Table

end TopDown
