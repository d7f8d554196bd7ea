import TopDown.Proofs.Alignment
import TopDown.Report.Outcome
/-!
The nodes of a tree in depth-first order, a node before its children and these from left to right. Where every node but
the root hangs in one place, this order has each node once, and whatever stands between a node and one of its children
is deeper than the node.
-/

set_option autoImplicit false

namespace TopDown

namespace Tree

def preorder (tree : Tree) (id : Nat) : List Nat :=
  id :: (tree.children id).attach.flatMap fun child => tree.preorder child.1
termination_by tree.size - id
decreasing_by
  have bounds := tree.child_bounds id child.1 child.2
  have inside : tree.size = tree.nodes.size := rfl
  omega

variable (tree : Tree)

theorem preorder_eq (id : Nat) : tree.preorder id = id :: (tree.children id).flatMap tree.preorder := by
  rw [preorder]
  exact congrArg (id :: ·) (congrArg List.flatten List.attach_map_val)

theorem mem_preorder (id other : Nat) :
    other ∈ tree.preorder id ↔ other = id ∨ ∃ child ∈ tree.children id, other ∈ tree.preorder child := by
  rw [preorder_eq, List.mem_cons, List.mem_flatMap]

theorem le_of_mem_preorder (id other : Nat) (member : other ∈ tree.preorder id) : id ≤ other := by
  induction id using tree.children_induction with
  | step id ih =>
      rcases (tree.mem_preorder id other).mp member with same | ⟨child, known, further⟩
      · exact Nat.le_of_eq same.symm
      · exact Nat.le_trans (Nat.le_of_lt (tree.child_bounds id child known).1) (ih child known further)

theorem inside_of_mem_preorder (id other : Nat) (inside : id < tree.size) (member : other ∈ tree.preorder id) :
    other < tree.size := by
  induction id using tree.children_induction with
  | step id ih =>
      rcases (tree.mem_preorder id other).mp member with rfl | ⟨child, known, further⟩
      · exact inside
      · exact ih child known (tree.child_bounds id child known).2 further

-- What is listed from a node stands together.
theorem preorder_around (id other : Nat) (member : other ∈ tree.preorder id) :
    ∃ front back, tree.preorder id = front ++ tree.preorder other ++ back := by
  induction id using tree.children_induction with
  | step id ih =>
      rcases (tree.mem_preorder id other).mp member with rfl | ⟨child, known, further⟩
      · exact ⟨[], [], by rw [List.nil_append, List.append_nil]⟩
      · obtain ⟨front, back, inner⟩ := ih child known further
        obtain ⟨left, right, children⟩ := List.append_of_mem known
        refine ⟨id :: left.flatMap tree.preorder ++ front, back ++ right.flatMap tree.preorder, ?_⟩
        rw [preorder_eq, children, List.flatMap_append, List.flatMap_cons, inner]
        simp only [List.cons_append, List.append_assoc]

theorem child_of_mem_preorder (id other child : Nat) (member : other ∈ tree.preorder id)
    (known : child ∈ tree.children other) : child ∈ tree.preorder id := by
  obtain ⟨front, back, around⟩ := tree.preorder_around id other member
  have own : child ∈ tree.preorder other :=
    (tree.mem_preorder other child).mpr (Or.inr ⟨child, known, (tree.mem_preorder child child).mpr (Or.inl rfl)⟩)
  rw [around]
  exact List.mem_append_left back (List.mem_append_right front own)

theorem parent_of_mem_preorder (id other : Nat) (member : other ∈ tree.preorder id) (different : other ≠ id) :
    ∃ parent ∈ tree.preorder id, other ∈ tree.children parent := by
  induction id using tree.children_induction with
  | step id ih =>
      rcases (tree.mem_preorder id other).mp member with same | ⟨child, known, further⟩
      · exact absurd same different
      · by_cases here : other = child
        · exact ⟨id, (tree.mem_preorder id id).mpr (Or.inl rfl), here ▸ known⟩
        · obtain ⟨parent, listed, hangs⟩ := ih child known further here
          exact ⟨parent, (tree.mem_preorder id parent).mpr (Or.inr ⟨child, known, listed⟩), hangs⟩

theorem children_sublist (root id : Nat) (member : id ∈ tree.preorder root) :
    (tree.children id).Sublist (tree.preorder root) := by
  obtain ⟨front, back, around⟩ := tree.preorder_around root id member
  have own : (tree.children id).Sublist ((tree.children id).flatMap tree.preorder) := by
    induction tree.children id with
    | nil => exact List.Sublist.refl _
    | cons child rest ih =>
        rw [List.flatMap_cons, preorder_eq, List.cons_append]
        exact (ih.trans (List.sublist_append_right _ _)).cons_cons child
  rw [around, tree.preorder_eq id, List.append_assoc]
  exact ((own.cons id).trans (List.sublist_append_left _ back)).trans (List.sublist_append_right front _)

-- How many nodes stand above a node.
def level (id : Nat) : Nat := (tree.ancestors id).length

-- A node in the plain text of a tree.
def line (id : Nat) : String := .join (List.replicate (tree.level id) "  ") ++ (tree.symbol id).text

theorem level_of_root : tree.level 0 = 0 := by
  cases link : (tree.node 0).parent with
  | none => rw [level, ancestors_of_root tree 0 link, List.length_nil]
  | some parent => exact absurd (tree.parent_lt 0 parent link) (Nat.not_lt_zero parent)

section Hung

variable (hung : tree.Hung)

include hung

theorem parent_of_child (id child : Nat) (known : child ∈ tree.children id) : (tree.node child).parent = some id := by
  obtain ⟨parent, _, link, alone⟩ :=
    hung.linked child (Nat.zero_lt_of_lt (tree.child_bounds id child known).1) (tree.child_bounds id child known).2
  by_cases same : id = parent
  · rw [same]
    exact link
  · have none := alone id
    rw [if_neg same] at none
    exact absurd known (List.count_eq_zero.mp none)

theorem parent_unique (one other child : Nat) (here : child ∈ tree.children one) (there : child ∈ tree.children other) :
    one = other :=
  Option.some.inj ((parent_of_child tree hung one child here).symm.trans
    (parent_of_child tree hung other child there))

theorem nodup_children (id : Nat) : (tree.children id).Nodup := by
  refine List.nodup_iff_count_le_one.mpr fun child => ?_
  by_cases known : child ∈ tree.children id
  · have bounds := tree.child_bounds id child known
    obtain ⟨parent, _, _, alone⟩ := hung.linked child (Nat.zero_lt_of_lt bounds.1) bounds.2
    rw [alone id]
    split <;> omega
  · rw [List.count_eq_zero_of_not_mem known]
    exact Nat.zero_le 1

-- What is listed from two children of a node is apart.
theorem siblings_apart (id one other node : Nat) (here : one ∈ tree.children id) (there : other ∈ tree.children id)
    (left : node ∈ tree.preorder one) (right : node ∈ tree.preorder other) : one = other := by
  have lower : ∀ child ∈ tree.children id, ∀ sibling ∈ tree.children id, child ∈ tree.preorder sibling →
      child = sibling := by
    intro child known sibling further listed
    by_contra different
    obtain ⟨parent, inside, hangs⟩ := tree.parent_of_mem_preorder sibling child listed different
    cases parent_unique tree hung parent id child hangs known
    exact absurd (tree.le_of_mem_preorder sibling id inside)
      (Nat.not_le.mpr (tree.child_bounds id sibling further).1)
  induction node using Nat.strongRecOn with
  | ind node ih =>
      by_cases first : node = one
      · exact lower one here other there (first ▸ right)
      · by_cases second : node = other
        · exact (lower other there one here (second ▸ left)).symm
        · obtain ⟨parent, inLeft, hangs⟩ := tree.parent_of_mem_preorder one node left first
          obtain ⟨again, inRight, hangsAgain⟩ := tree.parent_of_mem_preorder other node right second
          cases parent_unique tree hung again parent node hangsAgain hangs
          exact ih parent (tree.child_bounds parent node hangs).1 inLeft inRight

theorem nodup_preorder (id : Nat) : (tree.preorder id).Nodup := by
  induction id using tree.children_induction with
  | step id ih =>
      rw [preorder_eq]
      refine List.nodup_cons.mpr ⟨fun member => ?_, List.nodup_flatMap.mpr ⟨ih, ?_⟩⟩
      · obtain ⟨child, known, further⟩ := List.mem_flatMap.mp member
        have lower := tree.le_of_mem_preorder child id further
        exact absurd lower (Nat.not_le.mpr (tree.child_bounds id child known).1)
      · refine (nodup_children tree hung id).imp_of_mem ?_
        intro one other here there different node left right
        exact different (siblings_apart tree hung id one other node here there left right)

theorem mem_preorder_root (id : Nat) : id ∈ tree.preorder 0 ↔ id < tree.size := by
  constructor
  · exact tree.inside_of_mem_preorder 0 id hung.rooted
  · intro inside
    induction id using Nat.strongRecOn with
    | ind id ih =>
        by_cases root : id = 0
        · exact (tree.mem_preorder 0 id).mpr (Or.inl root)
        · obtain ⟨parent, lower, _, alone⟩ := hung.linked id (Nat.pos_of_ne_zero root) inside
          have once := alone parent
          rw [if_pos rfl] at once
          have hangs : id ∈ tree.children parent := List.count_pos_iff.mp (by omega)
          exact tree.child_of_mem_preorder 0 parent id (ih parent lower (by omega)) hangs

theorem preorder_perm : (tree.preorder 0).Perm (List.range tree.size) :=
  (List.perm_ext_iff_of_nodup (nodup_preorder tree hung 0) List.nodup_range).mpr fun id => by
    rw [mem_preorder_root tree hung, List.mem_range]

theorem length_preorder_root : (tree.preorder 0).length = tree.size := by
  rw [(preorder_perm tree hung).length_eq, List.length_range]

theorem level_of_child (id child : Nat) (known : child ∈ tree.children id) : tree.level child = tree.level id + 1 := by
  rw [level, ancestors_of_parent tree child id (parent_of_child tree hung id child known)]
  rfl

theorem level_le_of_mem (id other : Nat) (member : other ∈ tree.preorder id) : tree.level id ≤ tree.level other := by
  induction id using tree.children_induction with
  | step id ih =>
      rcases (tree.mem_preorder id other).mp member with rfl | ⟨child, known, further⟩
      · exact Nat.le_refl _
      · have deeper := ih child known further
        rw [level_of_child tree hung id child known] at deeper
        exact Nat.le_of_succ_le deeper

-- Between a node and one of its children stands nothing that is not as deep as the child.
theorem preorder_between (root id child : Nat) (member : id ∈ tree.preorder root) (known : child ∈ tree.children id) :
    ∃ front between back, tree.preorder root = front ++ id :: between ++ child :: back ∧
      ∀ node ∈ between, tree.level child ≤ tree.level node := by
  obtain ⟨front, back, around⟩ := tree.preorder_around root id member
  obtain ⟨left, right, children⟩ := List.append_of_mem known
  refine ⟨front, left.flatMap tree.preorder, (tree.children child).flatMap tree.preorder ++
    right.flatMap tree.preorder ++ back, ?_, fun node inside => ?_⟩
  · rw [around, tree.preorder_eq id, children, List.flatMap_append, List.flatMap_cons, tree.preorder_eq child]
    simp only [List.cons_append, List.append_assoc]
  · obtain ⟨sibling, listed, further⟩ := List.mem_flatMap.mp inside
    have hangs : sibling ∈ tree.children id := by
      rw [children]
      exact List.mem_append_left _ listed
    rw [level_of_child tree hung id child known, ← level_of_child tree hung id sibling hangs]
    exact level_le_of_mem tree hung sibling node further

end Hung

theorem line_chars (id : Nat) :
    (tree.line id).toList = List.replicate (2 * tree.level id) ' ' ++ [(tree.symbol id).char] := by
  have spaces (count : Nat) : (String.join (List.replicate count "  ")).toList = List.replicate (2 * count) ' ' := by
    induction count with
    | zero => rfl
    | succ count ih =>
        rw [List.replicate_succ, String.join_cons, String.toList_append, ih, Nat.mul_succ, Nat.add_comm,
          List.replicate_add]
        rfl
  rw [line, String.toList_append, spaces, Symbol.text, String.toList_singleton]

theorem plain_forest (depth : Nat) (trees : List SyntaxTree) :
    SyntaxTree.plainForest depth trees = trees.flatMap (SyntaxTree.plainLines depth) := by
  induction trees with
  | nil => rw [SyntaxTree.plainForest, List.flatMap_nil]
  | cons first rest ih => rw [SyntaxTree.plainForest, ih, List.flatMap_cons]

theorem plain_lines_subtree (hung : tree.Hung) (id : Nat) :
    (tree.subtree id).plainLines (tree.level id) = (tree.preorder id).map tree.line := by
  induction id using tree.children_induction with
  | step id ih =>
      rw [subtree_eq, SyntaxTree.plainLines, plain_forest, preorder_eq, List.map_cons, List.flatMap_map,
        List.map_flatMap]
      refine congrArg (tree.line id :: ·) (List.flatMap_congr fun child known => ?_)
      rw [← level_of_child tree hung id child known]
      exact ih child known

theorem plain_lines_nested (hung : tree.Hung) :
    tree.nested.plainLines 0 = (tree.preorder 0).map tree.line := by
  rw [← plain_lines_subtree tree hung 0, tree.level_of_root]
  rfl

theorem leaves_from_preorder (pending : List Nat) :
    tree.leavesFrom pending = (pending.flatMap tree.preorder).filterMap fun id => (tree.symbol id).terminal? := by
  induction pending using leavesFrom.induct tree with
  | case1 => simp [leavesFrom]
  | case2 id pending ih =>
      rw [leavesFrom, ih, List.flatMap_cons, tree.preorder_eq id, List.flatMap_append, List.cons_append,
        List.filterMap_cons]
      cases (tree.symbol id).terminal? <;> rfl

theorem leaves_preorder : tree.leaves = (tree.preorder 0).filterMap fun id => (tree.symbol id).terminal? := by
  rw [leaves, leaves_from_preorder, List.flatMap_singleton]

end Tree

end TopDown
