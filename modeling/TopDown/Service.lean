import TopDown.Report.Cells
import TopDown.Report.Outcome
import TopDown.Report.Sets
import TopDown.RuleText
/-!
Text in, JSON text out: what a page that holds a rule text and an input asks for.
-/

set_option autoImplicit false

namespace TopDown.Service

def errorJson (message : String) : String := (Json.Value.record [("error", .text message)]).compact

def answer (rules : String) (view : Analysis → String) : String :=
  match Grammar.ofText rules with
  | .ok grammar => view grammar.analyze
  | .error error => errorJson error.text

def setsJson (rules : String) : String := answer rules (·.setReport.json)

def tableJson (rules : String) : String := answer rules (·.table.report.json)

def parseJson (rules input : String) : String :=
  answer rules fun analysis => ((analysis.table.parse input.toList).report input).json

end TopDown.Service
