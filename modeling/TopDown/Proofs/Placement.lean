import TopDown.Proofs.SententialForm
/-!
Where the nodes of the tree come from. A node is expanded at the position that the frontier to its
left has read, and that part of the frontier never changes again; every node but the root carries a
symbol of some alternative.
-/

set_option autoImplicit false

namespace TopDown

namespace Tree

/-- On the left of the node stand finished leaves only, and they read as much text as the position says. -/
structure PlacedAt (tree : Tree) (stacked : List Nat) (id position : Nat) (front back : List Nat) : Prop where
  frontier : tree.frontier 0 = front ++ tree.frontier id ++ back
  length : (tree.reading front).length = position
  finished : ∀ leaf ∈ front, leaf ∉ stacked

end Tree

namespace State

def Placed (state : State) : Prop :=
  ∀ id position, state.tree.expandedAt id = some position →
    ∃ front back, state.tree.PlacedAt state.stacked id position front back

-- Every symbol but the root's stands in some alternative.
def Drawn (grammar : Grammar) (start : Char) (state : State) : Prop :=
  state.tree.symbol 0 = .nonTerminal start ∧
    ∀ id, 0 < id → id < state.tree.size → state.tree.symbol id ∈ grammar.symbols

theorem mem_of_mem_child_form (alternative : Form) (symbol : Symbol) (member : symbol ∈ childForm alternative) :
    symbol ∈ alternative := by
  by_cases empty : alternative = .empty
  · rw [childForm, if_pos empty] at member
    cases member
  · rwa [childForm, if_neg empty] at member

theorem placed_initial (start : Char) (input : List Char) : Placed (initial start input) := by
  intro id position marked
  cases id with
  | zero => cases marked
  | succ id =>
      have outside : (initial start input).tree.size ≤ id + 1 := Nat.le_add_left 1 id
      rw [Tree.expanded_of_size_le _ (id + 1) outside] at marked
      cases marked

theorem drawn_initial (grammar : Grammar) (start : Char) (input : List Char) :
    Drawn grammar start (initial start input) := by
  refine ⟨rfl, fun id positive inside => ?_⟩
  have one : id < 1 := inside
  omega

theorem placed_pop (state next : State) (placed : Placed state) (tree : next.tree = state.tree)
    (part : ∀ id ∈ next.stacked, id ∈ state.stacked) : Placed next := by
  intro id position marked
  rw [tree] at marked
  obtain ⟨front, back, frontier, length, finished⟩ := placed id position marked
  refine ⟨front, back, tree ▸ frontier, tree ▸ length, ?_⟩
  exact fun leaf member again => finished leaf member (part leaf again)

section Expand

variable (input : List Char) (state : State) (done : List Nat) (layout : Layout input state done)
  (id : Nat) (below : List Entry) (alternative : Form) (stack : state.stack = .node id :: below)

include layout stack

theorem free_of_expand (leaf : Nat) (old : leaf < state.tree.size) (free : leaf ∉ state.stacked) :
    leaf ∉ (state.expand id below alternative).stacked := by
  obtain ⟨others, ids, _, same⟩ := stack_of_node input state done layout id below stack
  rw [stacked_of_expand, same, List.mem_append, not_or]
  refine ⟨fun new => ?_, fun member => free (by simp [ids, member])⟩
  have bounds := List.mem_range'_1.mp new
  omega

theorem placed_target (char : Char) (rest : List Char) (left : state.rest = char :: rest) :
    ∃ front back, (state.expand id below alternative).tree.PlacedAt
      (state.expand id below alternative).stacked id state.cursor front back := by
  obtain ⟨others, ids, _, _⟩ := stack_of_node input state done layout id below stack
  have inside := inside_of_stacked input state done layout id (by simp [ids])
  have childless := childless_of_stacked input state done layout id (by simp [ids])
  have split : state.tree.frontier 0 = done ++ id :: others := by rw [layout.frontier, ids]
  refine ⟨done, others, ?_, ?_, fun leaf member => ?_⟩
  · rw [tree_of_expand, Tree.frontier_grow_target _ id _ _ inside childless]
    exact Tree.frontier_grow_split _ id _ _ inside childless 0 layout.rooted done others split layout.nodup
  · rw [tree_of_expand, Tree.reading_congr state.tree _ done fun other member =>
      Tree.symbol_grow state.tree id _ _ inside other (inside_of_done input state done layout other member),
      consumed_of_top input state done layout _ _ stack, List.length_take]
    have remaining := congrArg List.length (layout.rest.symm.trans left)
    rw [List.length_drop, List.length_cons] at remaining
    omega
  · exact free_of_expand input state done layout id below alternative stack leaf
      (inside_of_done input state done layout leaf member) (apart_of_done input state done layout leaf member)

theorem placed_other (other position : Nat) (old : other < state.tree.size) (front back : List Nat)
    (placed : state.tree.PlacedAt state.stacked other position front back) :
    ∃ newBack, (state.expand id below alternative).tree.PlacedAt
      (state.expand id below alternative).stacked other position front newBack := by
  obtain ⟨others, ids, _, _⟩ := stack_of_node input state done layout id below stack
  have top : id ∈ state.stacked := by simp [ids]
  have inside := inside_of_stacked input state done layout id top
  have childless := childless_of_stacked input state done layout id top
  have known : ∀ leaf ∈ front, leaf < state.tree.size := fun leaf member =>
    Tree.inside_of_mem_frontier state.tree 0 leaf layout.rooted (by simp [placed.frontier, member])
  have grown := Tree.frontier_grow state.tree id state.cursor (childForm alternative) inside childless
  refine ⟨back.flatMap (state.tree.sprout id (childForm alternative)), ?_, ?_, fun leaf member => ?_⟩
  · rw [tree_of_expand, grown 0 layout.rooted, grown other old, placed.frontier, List.flatMap_append,
      List.flatMap_append, Tree.sprout_elsewhere _ _ _ front fun member => placed.finished id member top]
  · rw [tree_of_expand, Tree.reading_congr state.tree _ front fun leaf member =>
      Tree.symbol_grow state.tree id _ _ inside leaf (known leaf member)]
    exact placed.length
  · exact free_of_expand input state done layout id below alternative stack leaf (known leaf member)
      (placed.finished leaf member)

theorem placed_expand (char : Char) (rest : List Char) (left : state.rest = char :: rest) (placed : Placed state) :
    Placed (state.expand id below alternative) := by
  obtain ⟨others, ids, _, _⟩ := stack_of_node input state done layout id below stack
  have inside := inside_of_stacked input state done layout id (by simp [ids])
  intro other position marked
  rw [tree_of_expand, Tree.expanded_grow _ _ _ _ inside] at marked
  by_cases same : other = id
  · rw [if_pos same] at marked
    cases marked
    rw [same]
    exact placed_target input state done layout id below alternative stack char rest left
  · rw [if_neg same] at marked
    have old : other < state.tree.size := by
      by_cases known : other < state.tree.size
      · exact known
      · rw [Tree.expanded_of_size_le _ other (Nat.le_of_not_lt known)] at marked
        cases marked
    obtain ⟨front, back, before⟩ := placed other position marked
    exact ⟨front, placed_other input state done layout id below alternative stack other position old front back before⟩

theorem drawn_expand (grammar : Grammar) (start head : Char)
    (member : alternative ∈ grammar.alternativesOf head) (drawn : Drawn grammar start state) :
    Drawn grammar start (state.expand id below alternative) := by
  obtain ⟨others, ids, _, _⟩ := stack_of_node input state done layout id below stack
  have inside := inside_of_stacked input state done layout id (by simp [ids])
  have kept := Tree.symbol_grow state.tree id state.cursor (childForm alternative) inside
  refine ⟨(kept 0 layout.rooted).trans drawn.1, fun node positive known => ?_⟩
  rw [tree_of_expand, Tree.size_grow _ _ _ _ inside] at known
  rw [tree_of_expand]
  by_cases old : node < state.tree.size
  · rw [kept node old]
    exact drawn.2 node positive old
  · have new : node ∈ List.range' state.tree.size (childForm alternative).length :=
      List.mem_range'_1.mpr ⟨Nat.le_of_not_lt old, known⟩
    have present := List.mem_map_of_mem (f := (state.tree.grow id state.cursor (childForm alternative)).symbol) new
    rw [Tree.symbols_grow state.tree id state.cursor (childForm alternative) inside] at present
    exact (grammar.mem_symbols _).mpr ⟨head, alternative, (grammar.mem_alternatives head alternative).mpr member,
      mem_of_mem_child_form alternative _ present⟩

end Expand

theorem placed_moves (table : Table) (input : List Char) (state next : State) (action : Action) (done : List Nat)
    (layout : Layout input state done) (placed : Placed state) (moves : Moves table state action next) :
    Placed next := by
  cases moves with
  | read entry below char rest stack left reads =>
      exact placed_pop state _ placed rfl (stacked_of_pop state entry below stack)
  | skip id below char rest stack left symbol =>
      exact placed_pop state _ placed rfl (stacked_of_pop state _ below stack)
  | expand id below char rest head alternative stack left symbol found =>
      exact placed_expand input state done layout id below alternative stack char rest left placed

theorem drawn_moves (table : Table) (grammar : Grammar) (chooses : table.Chooses grammar) (start : Char)
    (input : List Char) (state next : State) (action : Action) (done : List Nat) (layout : Layout input state done)
    (drawn : Drawn grammar start state) (moves : Moves table state action next) : Drawn grammar start next := by
  cases moves with
  | read entry below char rest stack left reads => exact drawn
  | skip id below char rest stack left symbol => exact drawn
  | expand id below char rest head alternative stack left symbol found =>
      exact drawn_expand input state done layout id below alternative stack grammar start head
        (chooses head char alternative found) drawn

end State

end TopDown
