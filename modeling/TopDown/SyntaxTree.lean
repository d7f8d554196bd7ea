import TopDown.Tree
/-!
Trees as nested values: a symbol with the trees of its children from left to right.
-/

set_option autoImplicit false

namespace TopDown

inductive SyntaxTree where
  | node (symbol : Symbol) (children : List SyntaxTree)

namespace Tree

-- The nested form of the part of a tree that hangs from one node.
def subtree (tree : Tree) (id : Nat) : SyntaxTree :=
  .node (tree.symbol id) ((tree.children id).attach.map fun child => tree.subtree child.1)
termination_by tree.size - id
decreasing_by
  have bounds := tree.child_bounds id child.1 child.2
  have inside : tree.size = tree.nodes.size := rfl
  omega

def nested (tree : Tree) : SyntaxTree := tree.subtree 0

theorem subtree_eq (tree : Tree) (id : Nat) :
    tree.subtree id = .node (tree.symbol id) ((tree.children id).map tree.subtree) := by
  rw [subtree, List.attach_map_val]

end Tree

end TopDown
