import TopDown.Parse
import TopDown.SyntaxTree
import TopDown.Text.Json
/-!
The outcome of a parse as plain text and JSON: the input, the verdict, the trace, and the reason of
a failure or the tree, which plain text shows by indentation.
-/

set_option autoImplicit false

namespace TopDown

namespace SyntaxTree

mutual
def plainLines (depth : Nat) : SyntaxTree → List String
  | .node symbol children =>
      (.join (List.replicate depth "  ") ++ symbol.text) :: plainForest (depth + 1) children
def plainForest (depth : Nat) : List SyntaxTree → List String
  | [] => []
  | first :: rest => plainLines depth first ++ plainForest depth rest
end

mutual
def json : SyntaxTree → Json.Value
  | .node symbol children => .record [("value", .text symbol.text), ("children", .list (jsonForest children))]
def jsonForest : List SyntaxTree → List Json.Value
  | [] => []
  | first :: rest => json first :: jsonForest rest
end

end SyntaxTree

structure ParseReport where
  input : String
  success : Bool
  error : Option String
  trace : List String
  tree : Option SyntaxTree

namespace ParseReport

def plain (report : ParseReport) : String :=
  "\n".intercalate (((if report.success then "Parsing successful: " else "Parsing failed: ") ++ report.input)
    :: report.trace ++ report.error.toList ++ (report.tree.map (·.plainLines 0)).getD [])

def json (report : ParseReport) : String :=
  (Json.Value.record [("input", .text report.input), ("success", .bool report.success),
    ("error", Json.ofOption .text report.error), ("trace", Json.texts report.trace),
    ("tree", Json.ofOption SyntaxTree.json report.tree)]).compact

end ParseReport

namespace Parse

def report (parse : Parse) (input : String) : ParseReport where
  input := input
  success := parse.isAccepted
  error := parse.failure?.map Failure.text
  trace := parse.trace.map TraceStep.text
  tree := parse.tree?.map Tree.nested

end Parse

end TopDown
