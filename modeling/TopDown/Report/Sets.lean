import TopDown.Analysis
import TopDown.Text.Json
import TopDown.Text.Latex
/-!
FIRST and FOLLOW sets as plain text, LaTeX and JSON, one row for each non-terminal. Members stand
in the order of the grammar's terminals, the mark of the empty word behind them.
-/

set_option autoImplicit false

namespace TopDown

structure SetRow where
  name : String
  nullable : Bool
  first : List String
  follow : List String

namespace SetRow

def plain (row : SetRow) : String :=
  " | ".intercalate [row.name, toString row.nullable, ", ".intercalate row.first,
    ", ".intercalate row.follow]

def latexMember (member : String) : String :=
  if member.toList.head? = some emptyMark then "$\\epsilon$" else Latex.escape member

def latex (row : SetRow) : String :=
  " & ".intercalate [Latex.escape row.name, toString row.nullable,
    "\\ ".intercalate (row.first.map latexMember), "\\ ".intercalate (row.follow.map latexMember)]

def json (row : SetRow) : Json.Value :=
  .record [("name", .text row.name), ("nullable", .bool row.nullable), ("first", Json.texts row.first),
    ("follow", Json.texts row.follow)]

end SetRow

structure SetReport where
  rows : List SetRow

namespace SetReport

def plain (report : SetReport) : String := "\n".intercalate (report.rows.map SetRow.plain)

def latex (report : SetReport) : String :=
  "\\begin\x7btabular\x7d\x7bc|c|c|c\x7d\nSymbol & Nullable & First & Follow\\\\\\hline\n"
    ++ "\\\\\n ".intercalate (report.rows.map SetRow.latex) ++ "\\\\\n\\end\x7btabular\x7d"

def json (report : SetReport) : String :=
  (Json.Value.record [("data", .list (report.rows.map SetRow.json))]).compact

end SetReport

namespace Grammar

def setRow (grammar : Grammar) (first : FirstSets) (follow : FollowSets) (nonTerminal : Char) : SetRow where
  name := .singleton nonTerminal
  nullable := first.nullable nonTerminal
  first :=
    (((first.terminals nonTerminal).inOrderOf grammar.terminals)
      ++ if first.nullable nonTerminal then [emptyMark] else []).map String.singleton
  follow := ((follow.row nonTerminal).inOrderOf grammar.terminals).map String.singleton

def setReport (grammar : Grammar) (first : FirstSets) (follow : FollowSets) : SetReport :=
  ⟨grammar.nonTerminals.toList.map (grammar.setRow first follow)⟩

end Grammar

namespace Analysis

def setReport (analysis : Analysis) : SetReport := analysis.grammar.setReport analysis.first analysis.follow

end Analysis

end TopDown
