import TopDown.Proofs.Preorder
/-!
The walk that reads the leaves of a tree off a stack of pending nodes. Whatever way a tree has been put together child by
child, the walk comes to an end, takes up every node once, and reads what the tree yields by recursion over its branches.
-/

set_option autoImplicit false

namespace TopDown

namespace SyntaxTree

mutual
-- The terminals from left to right. A terminal stands in front of what hangs below it.
def yield : SyntaxTree → List Char
  | .node (.terminal char) children => char :: yieldForest children
  | .node _ children => yieldForest children
def yieldForest : List SyntaxTree → List Char
  | [] => []
  | first :: rest => yield first ++ yieldForest rest
end

theorem yield_node (symbol : Symbol) (children : List SyntaxTree) :
    (node symbol children).yield = symbol.terminal?.toList ++ yieldForest children := by
  cases symbol <;> rfl

theorem yield_forest (trees : List SyntaxTree) : yieldForest trees = trees.flatMap yield := by
  induction trees with
  | nil => rfl
  | cons first rest ih => rw [yieldForest, ih, List.flatMap_cons]

end SyntaxTree

namespace Tree

-- A tree put together by hanging one childless node after another below a node that is there, whichever that is. Marks
-- may be set at any time.
inductive Built : Tree → Prop where
  | root (symbol : Symbol) : Built (leaf symbol)
  | child (tree : Tree) (parent : Nat) (symbol : Symbol) (built : Built tree) (inside : parent < tree.size) :
      Built (tree.addChild parent symbol)
  | mark (tree : Tree) (target position : Nat) (built : Built tree) : Built (tree.markExpanded target position)

-- Nothing hangs below a terminal.
def TerminalsChildless (tree : Tree) : Prop := ∀ id char, tree.symbol id = .terminal char → tree.children id = []

-- From a stack of pending nodes, the top first, the walk takes up these nodes one by one until none is pending. Each of
-- them gives way to its children.
inductive Walks (tree : Tree) : List Nat → List Nat → Prop where
  | done : Walks tree [] []
  | visit (id : Nat) (pending visited : List Nat) (further : Walks tree (tree.children id ++ pending) visited) :
      Walks tree (id :: pending) (id :: visited)

theorem hung_of_built (tree : Tree) (built : tree.Built) : tree.Hung := by
  induction built with
  | root symbol => exact hung_leaf symbol
  | child tree parent symbol _ inside ih => exact hung_add_child tree ih parent symbol inside
  | mark tree target position _ ih => exact hung_mark_expanded tree ih target position

section Walk

variable (tree : Tree)

-- The pending nodes stand for a forest, which is listed tree by tree.
theorem walks_preorder (pending : List Nat) : tree.Walks pending (pending.flatMap tree.preorder) := by
  induction pending using leavesFrom.induct tree with
  | case1 => exact .done
  | case2 id pending ih =>
      rw [List.flatMap_cons, preorder_eq, List.cons_append, ← List.flatMap_append]
      exact .visit id pending _ ih

theorem walk_unique (pending one other : List Nat) (first : tree.Walks pending one) (second : tree.Walks pending other) :
    one = other := by
  induction first generalizing other with
  | done =>
      cases second
      rfl
  | visit id pending visited _ ih =>
      cases second with
      | visit _ _ rest further => exact congrArg (id :: ·) (ih rest further)

theorem yield_subtree (id : Nat) :
    (tree.subtree id).yield = (tree.preorder id).filterMap fun other => (tree.symbol other).terminal? := by
  induction id using tree.children_induction with
  | step id ih =>
      have below : ((tree.children id).map tree.subtree).flatMap SyntaxTree.yield =
          ((tree.children id).flatMap tree.preorder).filterMap fun other => (tree.symbol other).terminal? := by
        rw [List.flatMap_map, List.filterMap_flatMap]
        exact List.flatMap_congr ih
      rw [subtree_eq, SyntaxTree.yield_node, SyntaxTree.yield_forest, below, preorder_eq, List.filterMap_cons]
      cases (tree.symbol id).terminal? <;> rfl

end Walk

theorem built_grow (tree : Tree) (target position : Nat) (form : Form) (inside : target < tree.size)
    (built : tree.Built) : (tree.grow target position form).Built :=
  add_children_keeps Built target (fun tree symbol inside kept => .child tree target symbol kept inside) _ form
    (marked_inside tree target position inside) (.mark tree target position built)

theorem terminals_childless_grow (tree : Tree) (target position : Nat) (form : Form) (head : Char)
    (symbol : tree.symbol target = .nonTerminal head) (childless : tree.TerminalsChildless) :
    (tree.grow target position form).TerminalsChildless := by
  have inside := State.in_range_of_non_terminal tree target head symbol
  intro id char terminal
  rw [children_grow tree target position form inside id]
  by_cases same : id = target
  · rw [same, symbol_grow tree target position form inside target inside, symbol] at terminal
    cases terminal
  · rw [if_neg same]
    by_cases old : id < tree.size
    · rw [symbol_grow tree target position form inside id old] at terminal
      exact childless id char terminal
    · exact children_of_size_le tree id (Nat.le_of_not_lt old)

end Tree

namespace State

theorem terminals_childless_moves (table : Table) (state next : State) (action : Action)
    (childless : state.tree.TerminalsChildless) (moves : Moves table state action next) :
    next.tree.TerminalsChildless := by
  cases moves with
  | read entry below char rest stack left reads => exact childless
  | skip id below char rest stack left symbol => exact childless
  | expand id below char rest head alternative stack left symbol found =>
      exact Tree.terminals_childless_grow state.tree id state.cursor (childForm alternative) head symbol childless

theorem built_moves (table : Table) (state next : State) (action : Action) (built : state.tree.Built)
    (moves : Moves table state action next) : next.tree.Built := by
  cases moves with
  | read entry below char rest stack left reads => exact built
  | skip id below char rest stack left symbol => exact built
  | expand id below char rest head alternative stack left symbol found =>
      exact Tree.built_grow state.tree id state.cursor (childForm alternative)
        (in_range_of_non_terminal state.tree id head symbol) built

section Run

variable (table : Table) (start : Char) (input : List Char) (trace : List TraceStep) (state : State)
  (goes : Goes (step table) (initial start input) trace state)

include goes

theorem built_of_goes : state.tree.Built :=
  run_keeps table (fun state => state.tree.Built) (built_moves table) _ state trace goes (.root _)

theorem terminals_childless_of_goes : state.tree.TerminalsChildless :=
  run_keeps table (fun state => state.tree.TerminalsChildless) (terminals_childless_moves table) _ state trace goes
    fun id _ _ => Tree.children_leaf _ id

end Run

end State

namespace Tree

-- The walk against the recursion, on whatever tree is built. Where nothing hangs below a terminal, as in the trees of a
-- run, only childless nodes are read.
theorem leaves_are_yield :
    (∀ tree : Tree, tree.Built → ∃ visited, tree.Walks [0] visited ∧ (∀ other, tree.Walks [0] other → other = visited) ∧
      visited.Perm (List.range tree.size) ∧
      tree.leaves = visited.filterMap (fun id => (tree.symbol id).terminal?) ∧ tree.leaves = tree.nested.yield ∧
      (tree.TerminalsChildless →
        tree.leaves = (tree.frontier 0).filterMap fun id => (tree.symbol id).terminal?)) ∧
    ∀ table start input trace state, State.Goes (State.step table) (State.initial start input) trace state →
      state.tree.Built ∧ state.tree.TerminalsChildless := by
  refine ⟨fun tree built => ?_, fun table start input trace state goes =>
    ⟨State.built_of_goes table start input trace state goes,
      State.terminals_childless_of_goes table start input trace state goes⟩⟩
  have walk := tree.walks_preorder [0]
  rw [List.flatMap_singleton] at walk
  refine ⟨tree.preorder 0, walk, fun other again => tree.walk_unique [0] other _ again walk,
    preorder_perm tree (hung_of_built tree built), tree.leaves_preorder, ?_, fun childless => ?_⟩
  · rw [leaves_preorder, nested, yield_subtree]
  · rw [leaves, leaves_from_frontier tree [0] childless, List.flatMap_singleton]

-- Two branches that get their leaves by turns.
def interleaved : Tree :=
  ((((leaf (.nonTerminal 'S')).addChild 0 (.nonTerminal 'A')).addChild 0 (.nonTerminal 'B')).addChild 1
    (.terminal 'a')).addChild 2 (.terminal 'c') |>.addChild 1 (.terminal 'b')

theorem leaves_are_yield_interleaved : interleaved.Built ∧ interleaved.children 1 = [3, 5] ∧
    interleaved.children 2 = [4] ∧ interleaved.leaves = interleaved.nested.yield ∧
    interleaved.leaves = ['a', 'b', 'c'] := by
  have built : interleaved.Built :=
    .child _ 1 _ (.child _ 2 _ (.child _ 1 _ (.child _ 0 _ (.child _ 0 _ (.root _) (by decide)) (by decide))
      (by decide)) (by decide)) (by decide)
  obtain ⟨_, _, _, _, _, yields, _⟩ := leaves_are_yield.1 interleaved built
  exact ⟨built, by decide, by decide, yields, by decide +kernel⟩

end Tree

end TopDown
