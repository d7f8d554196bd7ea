import TopDown.Trail
/-!
How a tree changes when one of its nodes is expanded: the node is marked with an input position and
a form of childless nodes is hung below it. Everything else about the old nodes stays as it was, and
every node but the root keeps hanging in one place.
-/

set_option autoImplicit false

namespace TopDown.Tree

theorem children_of_size_le (tree : Tree) (id : Nat) (outside : tree.size ≤ id) : tree.children id = [] := by
  rw [children, node_of_size_le tree id outside]
  rfl

theorem expanded_of_size_le (tree : Tree) (id : Nat) (outside : tree.size ≤ id) : tree.expandedAt id = none := by
  rw [expandedAt, node_of_size_le tree id outside]
  rfl

theorem symbol_add_child (tree : Tree) (parent : Nat) (added : Symbol) (inside : parent < tree.size) (id : Nat) :
    (tree.addChild parent added).symbol id = if id = tree.size then added else tree.symbol id := by
  rw [symbol, node_add_child tree parent added inside]
  by_cases new : id = tree.size
  · rw [if_pos new, if_pos new]
    rfl
  · rw [if_neg new, if_neg new]
    split <;> rfl

theorem children_add_child (tree : Tree) (parent : Nat) (added : Symbol) (inside : parent < tree.size) (id : Nat) :
    (tree.addChild parent added).children id =
      if id = parent then tree.children parent ++ [tree.size] else tree.children id := by
  rw [children, node_add_child tree parent added inside]
  by_cases new : id = tree.size
  · have different : id ≠ parent := by omega
    rw [if_pos new, if_neg different, children_of_size_le tree id (by omega)]
    rfl
  · rw [if_neg new]
    by_cases same : id = parent
    · rw [if_pos same, if_pos same, same]
      rfl
    · rw [if_neg same, if_neg same]
      rfl

theorem expanded_add_child (tree : Tree) (parent : Nat) (added : Symbol) (inside : parent < tree.size) (id : Nat) :
    (tree.addChild parent added).expandedAt id = tree.expandedAt id := by
  by_cases old : id < tree.size
  · exact (add_child_agrees tree parent added id old).2.2
  · rw [expanded_of_size_le tree id (by omega), expandedAt, node_add_child tree parent added inside]
    by_cases new : id = tree.size
    · rw [if_pos new]
      rfl
    · rw [if_neg new, if_neg (by omega), node_of_size_le tree id (by omega)]
      rfl

theorem parent_add_child (tree : Tree) (parent : Nat) (added : Symbol) (inside : parent < tree.size) (id : Nat) :
    ((tree.addChild parent added).node id).parent =
      if id = tree.size then some parent else (tree.node id).parent := by
  rw [node_add_child tree parent added inside]
  by_cases new : id = tree.size
  · rw [if_pos new, if_pos new]
    rfl
  · rw [if_neg new, if_neg new]
    split <;> rfl

theorem add_children_cons (tree : Tree) (parent : Nat) (first : Symbol) (rest : Form) :
    tree.addChildren parent (first :: rest) = (tree.addChild parent first).addChildren parent rest := rfl

section Children

variable (tree : Tree) (parent : Nat) (form : Form) (inside : parent < tree.size)

include inside

theorem symbol_add_children (id : Nat) (old : id < tree.size) :
    (tree.addChildren parent form).symbol id = tree.symbol id := by
  induction form generalizing tree with
  | nil => rfl
  | cons first rest ih =>
      have grown := size_add_child tree parent first inside
      rw [add_children_cons, ih (tree.addChild parent first) (by omega) (by omega),
        symbol_add_child tree parent first inside, if_neg (by omega)]

theorem symbols_add_children :
    (List.range' tree.size form.length).map (tree.addChildren parent form).symbol = form := by
  induction form generalizing tree with
  | nil => rfl
  | cons first rest ih =>
      have grown := size_add_child tree parent first inside
      have others := ih (tree.addChild parent first) (by omega)
      rw [grown] at others
      rw [add_children_cons, List.length_cons, List.range'_succ, List.map_cons, others,
        symbol_add_children (tree.addChild parent first) parent rest (by omega) tree.size (by omega),
        symbol_add_child tree parent first inside, if_pos rfl]

theorem children_add_children (id : Nat) :
    (tree.addChildren parent form).children id =
      if id = parent then tree.children parent ++ List.range' tree.size form.length else tree.children id := by
  induction form generalizing tree with
  | nil =>
      by_cases same : id = parent
      · simp [addChildren, same]
      · simp [addChildren, same]
  | cons first rest ih =>
      have grown := size_add_child tree parent first inside
      rw [add_children_cons, ih (tree.addChild parent first) (by omega), grown,
        children_add_child tree parent first inside, children_add_child tree parent first inside, if_pos rfl]
      by_cases same : id = parent
      · rw [if_pos same, if_pos same, List.length_cons, List.range'_succ, List.append_assoc]
        rfl
      · rw [if_neg same, if_neg same, if_neg same]

theorem expanded_add_children (id : Nat) :
    (tree.addChildren parent form).expandedAt id = tree.expandedAt id := by
  induction form generalizing tree with
  | nil => rfl
  | cons first rest ih =>
      have grown := size_add_child tree parent first inside
      rw [add_children_cons, ih (tree.addChild parent first) (by omega), expanded_add_child tree parent first inside]

theorem parent_add_children (id : Nat) :
    ((tree.addChildren parent form).node id).parent =
      if tree.size ≤ id ∧ id < tree.size + form.length then some parent else (tree.node id).parent := by
  induction form generalizing tree with
  | nil => rw [if_neg (by simp)]; rfl
  | cons first rest ih =>
      have grown := size_add_child tree parent first inside
      rw [add_children_cons, ih (tree.addChild parent first) (by omega), grown,
        parent_add_child tree parent first inside, List.length_cons]
      by_cases new : id = tree.size
      · rw [if_neg (by omega), if_pos new, if_pos (by omega)]
      · by_cases later : tree.size + 1 ≤ id ∧ id < tree.size + 1 + rest.length
        · rw [if_pos later, if_pos (by omega)]
        · rw [if_neg later, if_neg new, if_neg (by omega)]

end Children

-- What each added child leaves as it is, all of them do.
theorem add_children_keeps (kept : Tree → Prop) (parent : Nat)
    (hands : ∀ (tree : Tree) (symbol : Symbol), parent < tree.size → kept tree → kept (tree.addChild parent symbol))
    (tree : Tree) (form : Form) (inside : parent < tree.size) (start : kept tree) :
    kept (tree.addChildren parent form) := by
  induction form generalizing tree with
  | nil => exact start
  | cons first rest ih =>
      have grown := size_add_child tree parent first inside
      rw [add_children_cons]
      exact ih (tree.addChild parent first) (by omega) (hands tree first inside start)

-- A trail depends on the marks and the symbols of the ancestors alone.
theorem trail_congr (small large : Tree) (position id : Nat) (ancestors : large.ancestors id = small.ancestors id)
    (agree : ∀ above ∈ small.ancestors id,
      large.expandedAt above = small.expandedAt above ∧ large.symbol above = small.symbol above) :
    large.trail position id = small.trail position id := by
  rw [trail, trail, ancestors]
  generalize small.ancestors id = nodes at agree
  induction nodes with
  | nil => rfl
  | cons above rest ih =>
      obtain ⟨mark, symbol⟩ := agree above (by simp)
      have others := ih fun further member => agree further (by simp [member])
      rw [List.takeWhile_cons, List.takeWhile_cons, mark]
      by_cases marked : small.expandedAt above = some position <;> simp [marked, symbol, others]

-- Marks a node as expanded at a position and gives it the form as its last children.
def grow (tree : Tree) (target position : Nat) (form : Form) : Tree :=
  (tree.markExpanded target position).addChildren target form

section Grow

variable (tree : Tree) (target position : Nat) (form : Form) (inside : target < tree.size)

theorem children_mark_expanded (id : Nat) :
    (tree.markExpanded target position).children id = tree.children id := by
  rw [children, node_mark_expanded]
  split <;> rfl

include inside

theorem marked_inside : target < (tree.markExpanded target position).size := by
  rw [size_mark_expanded]
  exact inside

theorem size_grow : (tree.grow target position form).size = tree.size + form.length := by
  rw [grow, size_add_children _ target form (marked_inside tree target position inside), size_mark_expanded]

theorem symbol_grow (id : Nat) (old : id < tree.size) :
    (tree.grow target position form).symbol id = tree.symbol id := by
  rw [grow, symbol_add_children _ target form (marked_inside tree target position inside) id
    (by rw [size_mark_expanded]; exact old), mark_expanded_symbol]

theorem symbols_grow :
    (List.range' tree.size form.length).map (tree.grow target position form).symbol = form := by
  have symbols := symbols_add_children (tree.markExpanded target position) target form
    (marked_inside tree target position inside)
  rwa [size_mark_expanded] at symbols

theorem children_grow (id : Nat) :
    (tree.grow target position form).children id =
      if id = target then tree.children target ++ List.range' tree.size form.length else tree.children id := by
  rw [grow, children_add_children _ target form (marked_inside tree target position inside), size_mark_expanded,
    children_mark_expanded, children_mark_expanded]

theorem expanded_grow (id : Nat) :
    (tree.grow target position form).expandedAt id =
      if id = target then some position else tree.expandedAt id := by
  rw [grow, expanded_add_children _ target form (marked_inside tree target position inside), expandedAt,
    node_mark_expanded]
  by_cases same : id = target
  · rw [if_pos same, if_pos ⟨same.symm, same ▸ inside⟩]
    rfl
  · rw [if_neg same, if_neg (fun both => same both.1.symm)]
    rfl

theorem parent_grow (id : Nat) :
    ((tree.grow target position form).node id).parent =
      if tree.size ≤ id ∧ id < tree.size + form.length then some target else (tree.node id).parent := by
  rw [grow, parent_add_children _ target form (marked_inside tree target position inside), size_mark_expanded,
    mark_expanded_parent]

theorem ancestors_grow (id : Nat) (old : id < tree.size) :
    (tree.grow target position form).ancestors id = tree.ancestors id := by
  induction id using Nat.strongRecOn with
  | ind id ih =>
      have kept := parent_grow tree target position form inside id
      rw [if_neg (by omega)] at kept
      cases link : (tree.node id).parent with
      | none => rw [ancestors_of_root _ id (kept.trans link), ancestors_of_root tree id link]
      | some above =>
          have lower := tree.parent_lt id above link
          rw [ancestors_of_parent _ id above (kept.trans link), ancestors_of_parent tree id above link,
            ih above lower (by omega)]

theorem ancestors_grow_new (id : Nat) (new : id ∈ List.range' tree.size form.length) :
    (tree.grow target position form).ancestors id = target :: tree.ancestors target := by
  have link := parent_grow tree target position form inside id
  rw [if_pos (List.mem_range'_1.mp new)] at link
  rw [ancestors_of_parent _ id target link, ancestors_grow tree target position form inside target inside]

-- A node that is not below the grown one keeps its trail; the new children get the symbol of their parent in front.
theorem trail_grow (id cursor : Nat) (old : id < tree.size) (apart : target ∉ tree.ancestors id) :
    (tree.grow target position form).trail cursor id = tree.trail cursor id := by
  refine trail_congr tree _ cursor id (ancestors_grow tree target position form inside id old) fun above member => ?_
  have lower := tree.ancestors_lt id above member
  have different : above ≠ target := fun same => apart (same ▸ member)
  have mark := expanded_grow tree target position form inside above
  rw [if_neg different] at mark
  exact ⟨mark, symbol_grow tree target position form inside above (by omega)⟩

theorem trail_grow_new (id : Nat) (new : id ∈ List.range' tree.size form.length) :
    (tree.grow target position form).trail position id = tree.symbol target :: tree.trail position target := by
  have link := parent_grow tree target position form inside id
  have mark := expanded_grow tree target position form inside target
  rw [if_pos (List.mem_range'_1.mp new)] at link
  rw [if_pos rfl] at mark
  rw [trail_of_parent _ position id target link, if_pos mark,
    symbol_grow tree target position form inside target inside,
    trail_grow tree target position form inside target position inside
      fun member => Nat.lt_irrefl target (tree.ancestors_lt target target member)]

end Grow

-- Every node but the root is the child of one node, which stands before it, and once only.
structure Hung (tree : Tree) : Prop where
  rooted : 0 < tree.size
  linked : ∀ id, 0 < id → id < tree.size → ∃ parent, parent < id ∧ (tree.node id).parent = some parent ∧
    ∀ other, (tree.children other).count id = if other = parent then 1 else 0

section Hung

variable (tree : Tree) (hung : tree.Hung)

theorem hung_leaf (symbol : Symbol) : (leaf symbol).Hung where
  rooted := Nat.one_pos
  linked id positive inside := by
    have single : id < 1 := inside
    omega

include hung

-- The new node hangs in one place, and no other node is hung anew.
theorem hung_add_child (parent : Nat) (symbol : Symbol) (inside : parent < tree.size) :
    (tree.addChild parent symbol).Hung where
  rooted := by
    rw [size_add_child tree parent symbol inside]
    exact Nat.succ_pos tree.size
  linked id positive known := by
    have children := children_add_child tree parent symbol inside
    have link := parent_add_child tree parent symbol inside id
    rw [size_add_child tree parent symbol inside] at known
    by_cases new : id = tree.size
    · rw [if_pos new] at link
      refine ⟨parent, by omega, link, fun other => ?_⟩
      have absent : (tree.children other).count id = 0 :=
        List.count_eq_zero_of_not_mem fun member => Nat.ne_of_lt (tree.child_bounds other id member).2 new
      rw [children other]
      by_cases same : other = parent
      · rw [if_pos same, if_pos same, ← same, List.count_append, absent, new, List.count_singleton_self]
      · rw [if_neg same, if_neg same, absent]
    · rw [if_neg new] at link
      obtain ⟨above, lower, hangs, alone⟩ := hung.linked id positive (by omega)
      refine ⟨above, lower, link.trans hangs, fun other => ?_⟩
      rw [children other, ← alone other]
      by_cases same : other = parent
      · rw [if_pos same, ← same, List.count_append, List.count_singleton, beq_false_of_ne (Ne.symm new)]
        rfl
      · rw [if_neg same]

theorem hung_mark_expanded (target position : Nat) : (tree.markExpanded target position).Hung where
  rooted := by
    rw [size_mark_expanded]
    exact hung.rooted
  linked id positive known := by
    rw [size_mark_expanded] at known
    obtain ⟨parent, lower, link, alone⟩ := hung.linked id positive known
    refine ⟨parent, lower, (mark_expanded_parent tree target position id).trans link, fun other => ?_⟩
    rw [children_mark_expanded]
    exact alone other

theorem hung_grow (target position : Nat) (form : Form) (inside : target < tree.size) :
    (tree.grow target position form).Hung :=
  add_children_keeps Hung target
    (fun tree symbol inside kept => hung_add_child tree kept target symbol inside) _ form
    (marked_inside tree target position inside) (hung_mark_expanded tree hung target position)

end Hung

end TopDown.Tree
