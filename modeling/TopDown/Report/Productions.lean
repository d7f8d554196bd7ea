import TopDown.Grammar
import TopDown.Text.Column
import TopDown.Text.Json
import TopDown.Text.Latex
/-!
Productions as plain text, LaTeX and JSON. A production is shown by the texts of its symbols, so
that parts of a grammar can be shown as well.
-/

set_option autoImplicit false

namespace TopDown

structure ProductionReport where
  left : String
  rights : List (List String)

namespace ProductionReport

open Text

def ofRule (rule : Rule) : ProductionReport where
  left := .singleton rule.left
  rights := rule.alternatives.map (·.map Symbol.text)

-- The alternatives after the first, each with its bar.
def plainRest (width : Nat) (multiline : Bool) (right : List String) : String :=
  if multiline then padFront width "" ++ "  | " ++ .join right else " | " ++ .join right

-- The left side stands in a column of the given width.
def plain (report : ProductionReport) (width : Nat) (multiline : Bool) : String :=
  match report.rights with
  | [] => ""
  | first :: rest =>
      (if multiline then "\n" else "").intercalate
        ((padFront width report.left ++ " -> " ++ .join first) :: rest.map (plainRest width multiline))

-- A symbol that begins with the empty mark is an epsilon, a terminal is upright text.
def latexSymbol (terminals : List String) (symbol : String) : String :=
  if symbol.toList.head? = some emptyMark then "\\epsilon"
  else if symbol ∈ terminals then Latex.text symbol
  else Latex.escape symbol

-- One row of three array columns if `aligned`, a formula by itself if not.
def latex (report : ProductionReport) (aligned : Bool) (terminals : List String) : String :=
  if report.rights.isEmpty then ""
  else
    Latex.escape report.left ++ (if aligned then " & \\rightarrow &" else " \\rightarrow ")
      ++ " \\mid ".intercalate (report.rights.map fun right =>
        " \\ ".intercalate (right.map (latexSymbol terminals)))

def json (report : ProductionReport) : Json.Value :=
  .record [("left", .text report.left), ("rights", .list (report.rights.map Json.texts))]

end ProductionReport

structure GrammarReport where
  productions : List ProductionReport
  terminals : List String

namespace GrammarReport

def plain (report : GrammarReport) : String :=
  "\n".intercalate (report.productions.map (·.plain (Text.columnWidth (report.productions.map (·.left))) true))

def latex (report : GrammarReport) : String :=
  "\\\\\n".intercalate ("\\[\\begin\x7barray\x7d\x7bcll\x7d"
    :: report.productions.map (·.latex true report.terminals) ++ ["\\end\x7barray\x7d\\]"])

def json (report : GrammarReport) : String :=
  (Json.Value.record [("productions", .list (report.productions.map (·.json)))]).compact

end GrammarReport

namespace Grammar

def report (grammar : Grammar) : GrammarReport where
  productions := grammar.rules.map .ofRule
  terminals := grammar.terminals.toList.map String.singleton

end Grammar

end TopDown
