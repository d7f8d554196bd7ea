import TopDown.SyntaxTree
import TopDown.Proofs.Cells
import TopDown.Proofs.Leftmost
/-!
Derivation trees, apart from every table and every machine. An inner node names the place of its alternative
in the grammar, so that trees which differ in a repeated alternative only are told apart. The words of a
grammar are the words of its derivation trees.
-/

set_option autoImplicit false

namespace TopDown

mutual
inductive DerivationTree where
  | leaf (symbol : Symbol)
  | node (choice : Choice) (children : DerivationForest)
inductive DerivationForest where
  | nil
  | cons (tree : DerivationTree) (rest : DerivationForest)
end

mutual
def DerivationTree.word : DerivationTree → List Char
  | .leaf symbol => symbol.read?.toList
  | .node _ children => children.word
def DerivationForest.word : DerivationForest → List Char
  | .nil => []
  | .cons tree rest => tree.word ++ rest.word
end

-- The symbols of a tree without the places of its alternatives. As in the trees of a parse, the written form
-- of the empty word has no node.
mutual
def DerivationTree.shape : DerivationTree → SyntaxTree
  | .leaf symbol => .node symbol []
  | .node choice children =>
      .node (.nonTerminal choice.left) (if choice.alternative = .empty then [] else children.shapes)
def DerivationForest.shapes : DerivationForest → List SyntaxTree
  | .nil => []
  | .cons tree rest => tree.shape :: rest.shapes
end

namespace Grammar

-- The trees that stand on a symbol, and the rows of trees that stand on a form.
mutual
inductive HasTree (grammar : Grammar) : Symbol → DerivationTree → Prop where
  | leaf (symbol : Symbol) (other : ∀ left, symbol ≠ .nonTerminal left) : HasTree grammar symbol (.leaf symbol)
  | node (left : Char) (choice : Choice) (children : DerivationForest) (known : grammar.Holds choice)
      (row : choice.left = left) (below : HasForest grammar choice.alternative children) :
      HasTree grammar (.nonTerminal left) (.node choice children)
inductive HasForest (grammar : Grammar) : Form → DerivationForest → Prop where
  | nil : HasForest grammar [] .nil
  | cons (symbol : Symbol) (form : Form) (tree : DerivationTree) (rest : DerivationForest)
      (first : HasTree grammar symbol tree) (others : HasForest grammar form rest) :
      HasForest grammar (symbol :: form) (.cons tree rest)
end

variable (grammar : Grammar)

theorem unfolds_leaf (symbol : Symbol) (other : ∀ left, symbol ≠ .nonTerminal left) :
    grammar.Unfolds 1 [symbol] symbol.read?.toList := by
  cases symbol with
  | terminal char => exact .read 0 (.terminal char) char [] [] rfl .nothing
  | nonTerminal left => exact absurd rfl (other left)
  | epsilon => exact .skip 0 [] [] .nothing
  | endOfInput => exact .read 0 .endOfInput endMark [] [] rfl .nothing

mutual
theorem unfolds_of_tree (symbol : Symbol) (tree : DerivationTree) (stands : grammar.HasTree symbol tree) :
    ∃ steps, grammar.Unfolds steps [symbol] tree.word := by
  cases stands with
  | leaf _ other =>
      rw [DerivationTree.word]
      exact ⟨1, grammar.unfolds_leaf symbol other⟩
  | node left choice children known row below =>
      obtain ⟨steps, unfolds⟩ := unfolds_of_forest choice.alternative children below
      have member := grammar.alternative_of_choice choice ((grammar.mem_choices choice).mpr known)
      rw [row] at member
      rw [DerivationTree.word]
      exact ⟨steps + 1, .replace steps left choice.alternative [] _ member ((List.append_nil _).symm ▸ unfolds)⟩
theorem unfolds_of_forest (form : Form) (forest : DerivationForest) (stands : grammar.HasForest form forest) :
    ∃ steps, grammar.Unfolds steps form forest.word := by
  cases stands with
  | nil => exact ⟨0, .nothing⟩
  | cons symbol form tree rest first others =>
      obtain ⟨before, front⟩ := unfolds_of_tree symbol tree first
      obtain ⟨after, back⟩ := unfolds_of_forest form rest others
      rw [DerivationForest.word]
      exact grammar.unfolds_append [symbol] form tree.word rest.word before after front back
end

theorem forest_split (front back : Form) (forest : DerivationForest) (stands : grammar.HasForest (front ++ back) forest) :
    ∃ first second, grammar.HasForest front first ∧ grammar.HasForest back second ∧
      forest.word = first.word ++ second.word := by
  induction front generalizing forest with
  | nil => exact ⟨.nil, forest, .nil, stands, rfl⟩
  | cons symbol front ih =>
      cases stands with
      | cons _ _ tree rest top others =>
          obtain ⟨first, second, before, after, same⟩ := ih rest others
          refine ⟨.cons tree first, second, .cons symbol front tree first top before, after, ?_⟩
          rw [DerivationForest.word, DerivationForest.word, same, List.append_assoc]

theorem forest_of_unfolds (steps : Nat) (form : Form) (word : List Char) (unfolds : grammar.Unfolds steps form word) :
    ∃ forest, grammar.HasForest form forest ∧ forest.word = word := by
  induction unfolds with
  | nothing => exact ⟨.nil, .nil, rfl⟩
  | read steps symbol char form word reads _ ih =>
      obtain ⟨forest, stands, rfl⟩ := ih
      have other : ∀ left, symbol ≠ .nonTerminal left := by
        rintro left rfl
        cases reads
      refine ⟨.cons (.leaf symbol) forest, .cons symbol form _ forest (.leaf symbol other) stands, ?_⟩
      rw [DerivationForest.word, DerivationTree.word, reads]
      rfl
  | skip steps form word _ ih =>
      obtain ⟨forest, stands, rfl⟩ := ih
      exact ⟨.cons (.leaf .epsilon) forest, .cons .epsilon form _ forest (.leaf .epsilon (by simp)) stands, rfl⟩
  | replace steps left alternative form word member _ ih =>
      obtain ⟨forest, stands, rfl⟩ := ih
      obtain ⟨children, rest, below, others, same⟩ := grammar.forest_split alternative form forest stands
      obtain ⟨choice, known, row, rfl⟩ := grammar.choice_of_alternative left alternative member
      have top := HasTree.node left choice children ((grammar.mem_choices choice).mp known) row below
      exact ⟨.cons (.node choice children) rest, .cons _ form _ rest top others, same.symm⟩

theorem generates_iff_tree (word : List Char) :
    grammar.Generates word ↔
      ∃ start tree, grammar.start? = some start ∧ grammar.HasTree (.nonTerminal start) tree ∧ tree.word = word := by
  rw [generates_iff_unfolds]
  constructor
  · intro ⟨start, steps, first, unfolds⟩
    obtain ⟨forest, stands, rfl⟩ := grammar.forest_of_unfolds steps _ word unfolds
    cases stands with
    | cons symbol form tree rest top others =>
        cases others
        exact ⟨start, tree, first, top, (List.append_nil tree.word).symm⟩
  · rintro ⟨start, tree, first, stands, rfl⟩
    obtain ⟨steps, unfolds⟩ := grammar.unfolds_of_tree _ tree stands
    exact ⟨start, steps, first, unfolds⟩

end Grammar

end TopDown
