import TopDown.Symbol
import TopDown.Total
/-!
Parse trees under construction: an array of nodes, the root first, each with its parent and its
children from left to right. A parent always stands before its children, so both the way up and the
way down end. A node also keeps the input position at which it was expanded, if it was.
-/

set_option autoImplicit false

namespace TopDown

structure Node where
  symbol : Symbol
  parent : Option Nat
  children : List Nat
  expandedAt : Option Nat
deriving DecidableEq, Repr

namespace Node

def fresh (symbol : Symbol) (parent : Option Nat) : Node := ⟨symbol, parent, [], none⟩

-- What is read where there is no node.
def missing : Node := fresh .epsilon none

def withChild (node : Node) (child : Nat) : Node := { node with children := node.children ++ [child] }

def expanded (node : Node) (position : Nat) : Node := { node with expandedAt := some position }

end Node

structure Tree where
  nodes : Array Node
  parent_lt : ∀ id parent, (nodes.getD id .missing).parent = some parent → parent < id
  child_bounds : ∀ id child, child ∈ (nodes.getD id .missing).children → id < child ∧ child < nodes.size

namespace Tree

def size (tree : Tree) : Nat := tree.nodes.size

def node (tree : Tree) (id : Nat) : Node := tree.nodes.getD id .missing

def symbol (tree : Tree) (id : Nat) : Symbol := (tree.node id).symbol

def children (tree : Tree) (id : Nat) : List Nat := (tree.node id).children

def expandedAt (tree : Tree) (id : Nat) : Option Nat := (tree.node id).expandedAt

theorem node_of_size_le (tree : Tree) (id : Nat) (outside : tree.size ≤ id) : tree.node id = .missing := by
  have absent : ¬ id < tree.nodes.size := Nat.not_lt.mpr outside
  simp [node, Array.getD, absent]

-- A tree of one node.
def leaf (symbol : Symbol) : Tree where
  nodes := #[.fresh symbol none]
  parent_lt id parent link := by
    cases id <;> simp [Array.getD, Node.missing, Node.fresh] at link
  child_bounds id child member := by
    cases id <;> simp [Array.getD, Node.missing, Node.fresh] at member

theorem get_modify (nodes : Array Node) (target id : Nat) (change : Node → Node) :
    (nodes.modify target change).getD id .missing =
      if target = id ∧ id < nodes.size then change (nodes.getD id .missing)
      else nodes.getD id .missing := by
  simp only [Array.getD_eq_getD_getElem?, Array.getElem?_modify]
  by_cases same : target = id
  · by_cases inside : id < nodes.size
    · simp [same, inside]
    · simp [same, inside]
  · simp [same]

theorem get_push (nodes : Array Node) (new : Node) (id : Nat) :
    (nodes.push new).getD id .missing = if id = nodes.size then new else nodes.getD id .missing := by
  simp only [Array.getD_eq_getD_getElem?, Array.getElem?_push]
  by_cases same : id = nodes.size <;> simp [same]

-- Notes that a node was expanded at an input position.
def markExpanded (tree : Tree) (target position : Nat) : Tree where
  nodes := tree.nodes.modify target (·.expanded position)
  parent_lt id parent link := by
    rw [get_modify] at link
    split at link
    · exact tree.parent_lt id parent link
    · exact tree.parent_lt id parent link
  child_bounds id child member := by
    rw [get_modify] at member
    rw [Array.size_modify]
    split at member
    · exact tree.child_bounds id child member
    · exact tree.child_bounds id child member

theorem grown_node (nodes : Array Node) (parent : Nat) (symbol : Symbol) (inside : parent < nodes.size)
    (id : Nat) :
    ((nodes.push (.fresh symbol (some parent))).modify parent (·.withChild nodes.size)).getD id .missing =
      if id = nodes.size then .fresh symbol (some parent)
      else if id = parent then (nodes.getD id .missing).withChild nodes.size
      else nodes.getD id .missing := by
  rw [get_modify, get_push, Array.size_push]
  by_cases new : id = nodes.size
  · simp [new, Nat.ne_of_lt inside]
  · by_cases same : parent = id
    · have known : id < nodes.size + 1 := by omega
      simp [new, same, known]
    · simp [new, same, Ne.symm same]

-- Adds a childless node as the last child of `parent`; its id is the size of the tree before.
def addChild (tree : Tree) (parent : Nat) (symbol : Symbol) : Tree :=
  if inside : parent < tree.nodes.size then
    { nodes := (tree.nodes.push (.fresh symbol (some parent))).modify parent (·.withChild tree.nodes.size)
      parent_lt := by
        intro id above link
        rw [grown_node tree.nodes parent symbol inside] at link
        split at link
        · cases link
          omega
        · split at link
          · exact tree.parent_lt id above link
          · exact tree.parent_lt id above link
      child_bounds := by
        intro id child member
        rw [grown_node tree.nodes parent symbol inside] at member
        rw [Array.size_modify, Array.size_push]
        split at member
        · cases member
        · split at member
          · rcases List.mem_append.mp member with old | new
            · have bounds := tree.child_bounds id child old
              omega
            · have last := List.mem_singleton.mp new
              omega
          · have bounds := tree.child_bounds id child member
            omega }
  else tree

-- Adds children for a whole form, left to right.
def addChildren (tree : Tree) (parent : Nat) (form : Form) : Tree :=
  form.foldl (addChild · parent) tree

-- The nodes above a node, nearest first.
def ancestors (tree : Tree) (id : Nat) : List Nat :=
  match _ : (tree.node id).parent with
  | none => []
  | some parent => parent :: tree.ancestors parent
termination_by id
decreasing_by exact tree.parent_lt id _ (by assumption)

-- How many nodes lie on the longest way up.
def depth (tree : Tree) : Nat :=
  (List.range tree.size).foldl (fun deepest id => max deepest (tree.ancestors id).length) 0

-- How many nodes are met on the way down from a node, itself included.
def extent (tree : Tree) (id : Nat) : Nat :=
  1 + total (fun child => tree.extent child.1) (tree.children id).attach
termination_by tree.size - id
decreasing_by
  have bounds := tree.child_bounds id child.1 child.2
  have inside : tree.size = tree.nodes.size := rfl
  omega

theorem extent_eq (tree : Tree) (id : Nat) :
    tree.extent id = 1 + total tree.extent (tree.children id) := by
  rw [extent, total_attach]

-- The terminals met when the pending nodes are visited, each before its children.
def leavesFrom (tree : Tree) : List Nat → List Char
  | [] => []
  | id :: pending =>
      (tree.symbol id).terminal?.toList ++ tree.leavesFrom (tree.children id ++ pending)
termination_by pending => total tree.extent pending
decreasing_by
  rw [total_append, total, extent_eq tree id]
  omega

-- The terminals of the tree from left to right.
def leaves (tree : Tree) : List Char := tree.leavesFrom [0]

theorem size_mark_expanded (tree : Tree) (target position : Nat) :
    (tree.markExpanded target position).size = tree.size := Array.size_modify ..

theorem node_mark_expanded (tree : Tree) (target position id : Nat) :
    (tree.markExpanded target position).node id =
      if target = id ∧ id < tree.size then (tree.node id).expanded position else tree.node id :=
  get_modify ..

theorem size_add_child (tree : Tree) (parent : Nat) (symbol : Symbol) (inside : parent < tree.size) :
    (tree.addChild parent symbol).size = tree.size + 1 := by
  have bound : parent < tree.nodes.size := inside
  simp [addChild, bound, size]

theorem node_add_child (tree : Tree) (parent : Nat) (symbol : Symbol) (inside : parent < tree.size)
    (id : Nat) :
    (tree.addChild parent symbol).node id =
      if id = tree.size then .fresh symbol (some parent)
      else if id = parent then (tree.node id).withChild tree.size
      else tree.node id := by
  have bound : parent < tree.nodes.size := inside
  simp only [node, addChild, dif_pos bound]
  exact grown_node tree.nodes parent symbol bound id

theorem ancestors_of_parent (tree : Tree) (id parent : Nat) (link : (tree.node id).parent = some parent) :
    tree.ancestors id = parent :: tree.ancestors parent := by
  rw [ancestors]
  split
  · rename_i root
    rw [root] at link
    cases link
  · rename_i above found
    rw [found] at link
    cases link
    rfl

theorem ancestors_of_root (tree : Tree) (id : Nat) (link : (tree.node id).parent = none) :
    tree.ancestors id = [] := by
  rw [ancestors]
  split
  · rfl
  · rename_i above found
    rw [found] at link
    cases link

theorem ancestors_lt (tree : Tree) (id other : Nat) (member : other ∈ tree.ancestors id) : other < id := by
  induction id using Nat.strongRecOn with
  | ind id ih =>
      cases link : (tree.node id).parent with
      | none =>
          rw [ancestors_of_root tree id link] at member
          cases member
      | some parent =>
          rw [ancestors_of_parent tree id parent link] at member
          have below := tree.parent_lt id parent link
          rcases List.mem_cons.mp member with same | further
          · omega
          · have nearer := ih parent below further
            omega

end Tree

end TopDown
