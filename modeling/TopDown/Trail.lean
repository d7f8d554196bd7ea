import TopDown.Tree
/-!
The trail of a node: the symbols above it that were expanded at one input position without a break.
A trail only lengthens while the position stays, and an expanded node hands its own trail down to
its children with its symbol in front.
-/

set_option autoImplicit false

namespace TopDown.Tree

def trail (tree : Tree) (position id : Nat) : List Symbol :=
  ((tree.ancestors id).takeWhile (tree.expandedAt · = some position)).map tree.symbol

theorem trail_of_parent (tree : Tree) (position id parent : Nat)
    (link : (tree.node id).parent = some parent) :
    tree.trail position id =
      if tree.expandedAt parent = some position then tree.symbol parent :: tree.trail position parent
      else [] := by
  rw [trail, ancestors_of_parent tree id parent link, List.takeWhile_cons]
  by_cases marked : tree.expandedAt parent = some position <;> simp [marked, trail]

theorem trail_of_root (tree : Tree) (position id : Nat) (link : (tree.node id).parent = none) :
    tree.trail position id = [] := by
  rw [trail, ancestors_of_root tree id link]
  rfl

-- Trails that agree on links, marks and symbols below an id agree there.
theorem trail_subset (small large : Tree) (position bound : Nat)
    (links : ∀ id, id < bound → (large.node id).parent = (small.node id).parent)
    (symbols : ∀ id, id < bound → large.symbol id = small.symbol id)
    (marks : ∀ id, id < bound → small.expandedAt id = some position → large.expandedAt id = some position)
    (id : Nat) (inside : id < bound) :
    ∀ symbol ∈ small.trail position id, symbol ∈ large.trail position id := by
  induction id using Nat.strongRecOn with
  | ind id ih =>
      intro symbol member
      cases link : (small.node id).parent with
      | none =>
          rw [trail_of_root small position id link] at member
          cases member
      | some parent =>
          have below := small.parent_lt id parent link
          have known : parent < bound := Nat.lt_trans below inside
          have largeLink := (links id inside).trans link
          rw [trail_of_parent small position id parent link] at member
          rw [trail_of_parent large position id parent largeLink]
          by_cases marked : small.expandedAt parent = some position
          · rw [if_pos marked] at member
            rw [if_pos (marks parent known marked), symbols parent known]
            rcases List.mem_cons.mp member with same | further
            · exact List.mem_cons.mpr (Or.inl same)
            · exact List.mem_cons.mpr (Or.inr (ih parent below known symbol further))
          · rw [if_neg marked] at member
            cases member

theorem mark_expanded_parent (tree : Tree) (target position id : Nat) :
    ((tree.markExpanded target position).node id).parent = (tree.node id).parent := by
  rw [node_mark_expanded]
  split <;> rfl

theorem mark_expanded_symbol (tree : Tree) (target position id : Nat) :
    (tree.markExpanded target position).symbol id = tree.symbol id := by
  rw [symbol, node_mark_expanded]
  split <;> rfl

theorem mark_expanded_mark (tree : Tree) (target position id : Nat)
    (marked : tree.expandedAt id = some position) :
    (tree.markExpanded target position).expandedAt id = some position := by
  rw [expandedAt, node_mark_expanded]
  split
  · rfl
  · exact marked

theorem trail_mark_expanded (tree : Tree) (target position id : Nat) :
    ∀ symbol ∈ tree.trail position id, symbol ∈ (tree.markExpanded target position).trail position id :=
  trail_subset tree (tree.markExpanded target position) position (id + 1)
    (fun other _ => mark_expanded_parent tree target position other)
    (fun other _ => mark_expanded_symbol tree target position other)
    (fun other _ => mark_expanded_mark tree target position other) id (Nat.lt_succ_self id)

theorem add_child_agrees (tree : Tree) (parent : Nat) (symbol : Symbol) (id : Nat) (inside : id < tree.size) :
    ((tree.addChild parent symbol).node id).parent = (tree.node id).parent ∧
      (tree.addChild parent symbol).symbol id = tree.symbol id ∧
      (tree.addChild parent symbol).expandedAt id = tree.expandedAt id := by
  by_cases known : parent < tree.size
  · have different : ¬ id = tree.size := Nat.ne_of_lt inside
    simp only [Tree.symbol, expandedAt, node_add_child tree parent symbol known id, if_neg different]
    split <;> exact ⟨rfl, rfl, rfl⟩
  · have bound : ¬ parent < tree.nodes.size := known
    simp only [addChild, dif_neg bound, and_self]

theorem trail_add_child (tree : Tree) (parent : Nat) (added : Symbol) (position id : Nat)
    (inside : id < tree.size) :
    ∀ symbol ∈ tree.trail position id, symbol ∈ (tree.addChild parent added).trail position id :=
  trail_subset tree (tree.addChild parent added) position tree.size
    (fun other known => (add_child_agrees tree parent added other known).1)
    (fun other known => (add_child_agrees tree parent added other known).2.1)
    (fun other known marked => (add_child_agrees tree parent added other known).2.2.trans marked) id inside

theorem trail_new_child (tree : Tree) (parent : Nat) (added : Symbol) (position : Nat)
    (inside : parent < tree.size) (marked : tree.expandedAt parent = some position) :
    ∀ symbol ∈ tree.symbol parent :: tree.trail position parent,
      symbol ∈ (tree.addChild parent added).trail position tree.size := by
  intro symbol member
  have link : ((tree.addChild parent added).node tree.size).parent = some parent := by
    rw [node_add_child tree parent added inside, if_pos rfl]
    rfl
  obtain ⟨_, sameSymbol, sameMark⟩ := add_child_agrees tree parent added parent inside
  rw [trail_of_parent _ position _ parent link, if_pos (sameMark.trans marked), sameSymbol]
  rcases List.mem_cons.mp member with same | further
  · exact List.mem_cons.mpr (Or.inl same)
  · exact List.mem_cons.mpr (Or.inr (trail_add_child tree parent added position parent inside symbol further))

theorem size_add_children (tree : Tree) (parent : Nat) (form : Form) (inside : parent < tree.size) :
    (tree.addChildren parent form).size = tree.size + form.length := by
  induction form generalizing tree with
  | nil => rfl
  | cons first rest ih =>
      have grown := size_add_child tree parent first inside
      have next := ih (tree.addChild parent first) (by omega)
      rw [grown] at next
      rw [addChildren, List.foldl_cons, ← addChildren, next, List.length_cons]
      omega

theorem trail_add_children (tree : Tree) (parent : Nat) (form : Form) (position id : Nat)
    (inside : id < tree.size) (known : parent < tree.size) :
    ∀ symbol ∈ tree.trail position id, symbol ∈ (tree.addChildren parent form).trail position id := by
  induction form generalizing tree with
  | nil => exact fun _ member => member
  | cons first rest ih =>
      intro symbol member
      have grown := size_add_child tree parent first known
      exact ih (tree.addChild parent first) (by omega) (by omega) symbol
        (trail_add_child tree parent first position id inside symbol member)

-- Every new child has the whole trail of its parent and the parent's own symbol above it.
theorem trail_new_children (tree : Tree) (parent : Nat) (form : Form) (position : Nat)
    (inside : parent < tree.size) (marked : tree.expandedAt parent = some position) (id : Nat)
    (old : tree.size ≤ id) (new : id < tree.size + form.length) :
    ∀ symbol ∈ tree.symbol parent :: tree.trail position parent,
      symbol ∈ (tree.addChildren parent form).trail position id := by
  induction form generalizing tree with
  | nil =>
      rw [List.length_nil] at new
      omega
  | cons first rest ih =>
      intro symbol member
      have grown := size_add_child tree parent first inside
      obtain ⟨_, sameSymbol, sameMark⟩ := add_child_agrees tree parent first parent inside
      rw [addChildren, List.foldl_cons, ← addChildren]
      rw [List.length_cons] at new
      by_cases here : id = tree.size
      · subst here
        exact trail_add_children (tree.addChild parent first) parent rest position tree.size (by omega)
          (by omega) symbol (trail_new_child tree parent first position inside marked symbol member)
      · refine ih (tree.addChild parent first) (by omega) (sameMark.trans marked) (by omega) (by omega)
          symbol ?_
        rw [sameSymbol]
        rcases List.mem_cons.mp member with same | further
        · exact List.mem_cons.mpr (Or.inl same)
        · exact List.mem_cons.mpr
            (Or.inr (trail_add_child tree parent first position parent inside symbol further))

end TopDown.Tree
