import Mathlib.Data.List.Forall2
import TopDown.Proofs.Frontier
import TopDown.Proofs.JsonReader
import TopDown.Service
/-!
What a page reads in the answer to a rule text and an input. A rule text that is refused is answered with its error. Any
other is answered with the input, the verdict, the trace and, by the verdict, the tree or the reason of the failure.
-/

set_option autoImplicit false

namespace TopDown

open Json

-- A node says its symbol and, from left to right, what its children say.
inductive Tree.Depicted (tree : Tree) : Nat → Datum → Prop where
  | node (id : Nat) (items : List Datum) (children : List.Forall₂ (Tree.Depicted tree) (tree.children id) items) :
      Depicted tree id (.record [("value", .text (tree.symbol id).text), ("children", .list items)])

-- What stands for the error and for the tree.
inductive Verdict.Depicted : Verdict → Datum → Datum → Prop where
  | accepted (final : Tree) (tree : Datum) (depicted : final.Depicted 0 tree) : Depicted (.accepted final) .null tree
  | rejected (failure : Failure) : Depicted (.rejected failure) (.text failure.text) .null

namespace Service

inductive Answers (rules input : String) : Datum → Prop where
  | refused (error : RuleError) (refused : Grammar.ofText rules = .error error) :
      Answers rules input (.record [("error", .text error.text)])
  | parsed (grammar : Grammar) (parse : Parse) (error tree : Datum) (read : Grammar.ofText rules = .ok grammar)
      (parsed : grammar.analyze.table.parse input.toList = parse) (depicted : parse.verdict.Depicted error tree) :
      Answers rules input (.record [("input", .text input), ("success", .bool parse.isAccepted), ("error", error),
        ("trace", .list (parse.trace.map fun step => .text step.text)), ("tree", tree)])

end Service

theorem Json.data_texts {α : Type} (items : List α) (text : α → String) :
    (texts (items.map text)).datum = .list (items.map fun item => .text (text item)) := by
  rw [texts, List.map_map, Value.datum, data_map]
  rfl

theorem SyntaxTree.json_forest (forest : List SyntaxTree) : jsonForest forest = forest.map json := by
  induction forest with
  | nil => rfl
  | cons first rest ih => rw [jsonForest, ih, List.map_cons]

-- The nested form of a tree says what the tree says.
theorem Tree.depicted_subtree (tree : Tree) (id : Nat) : tree.Depicted id (tree.subtree id).json.datum := by
  induction id using tree.children_induction with
  | step id ih =>
      have below : List.Forall₂ tree.Depicted (tree.children id)
          ((tree.children id).map fun child => (tree.subtree child).json.datum) :=
        List.forall₂_map_right_iff.mpr (List.forall₂_same.mpr ih)
      rw [tree.subtree_eq id, SyntaxTree.json, SyntaxTree.json_forest, List.map_map, Value.datum]
      simp only [memberData, Value.datum, data_map]
      exact .node id _ below

theorem Parse.depicted_report (parse : Parse) (input : String) :
    parse.verdict.Depicted (ofOption .text (parse.report input).error).datum
      (ofOption SyntaxTree.json (parse.report input).tree).datum := by
  rcases parse with ⟨trace, final | failure⟩
  · exact .accepted final _ (final.depicted_subtree 0)
  · exact .rejected failure

namespace Service

-- The answer is one line of JSON, and it says the parse.
theorem answer_reads_back (rules input : String) :
    OneLine (parseJson rules input).toList ∧
      ∃ datum, Json.read (parseJson rules input) = some datum ∧ Answers rules input datum := by
  rw [parseJson, answer]
  cases read : Grammar.ofText rules with
  | error error => exact ⟨one_line_compact _, _, read_compact _, .refused error read⟩
  | ok grammar =>
      refine ⟨one_line_compact _, _, read_compact _, ?_⟩
      have depicted := (grammar.analyze.table.parse input.toList).depicted_report input
      have parsed := Answers.parsed grammar _ _ _ read rfl depicted
      rw [← data_texts] at parsed
      exact parsed

end Service

end TopDown
