import TopDown.Proofs.Guard
import TopDown.Proofs.Runs
/-!
The order in which the nodes of a tree are expanded. Only non-terminals are, and none before the
nodes above it, so that of the nodes on a way up those expanded at the present position come first:
the trail misses none of them, though it stops at the first node of another position.
-/

set_option autoImplicit false

namespace TopDown

namespace Tree

/-- Only non-terminals are expanded, and every node above an expanded one was expanded no later. -/
structure Chronological (tree : Tree) : Prop where
  heads : ∀ id position, tree.expandedAt id = some position → ∃ head, tree.symbol id = .nonTerminal head
  earlier : ∀ id position, tree.expandedAt id = some position → ∀ above ∈ tree.ancestors id,
    ∃ before, tree.expandedAt above = some before ∧ before ≤ position

-- On every way up, the nodes expanded at one position carry different non-terminals.
def Varied (tree : Tree) : Prop :=
  ∀ id above position, above ∈ tree.ancestors id → tree.expandedAt id = some position →
    tree.expandedAt above = some position → ∃ lower upper, tree.symbol id = .nonTerminal lower ∧
      tree.symbol above = .nonTerminal upper ∧ lower ≠ upper

theorem inside_of_expanded (tree : Tree) (id position : Nat) (marked : tree.expandedAt id = some position) :
    id < tree.size := by
  by_cases inside : id < tree.size
  · exact inside
  · rw [expanded_of_size_le tree id (Nat.le_of_not_lt inside)] at marked
    cases marked

theorem unmarked_leaf (symbol : Symbol) (id : Nat) : (leaf symbol).expandedAt id = none := by
  cases id with
  | zero => rfl
  | succ id => exact expanded_of_size_le _ (id + 1) (Nat.le_add_left 1 id)

theorem chronological_leaf (symbol : Symbol) : (leaf symbol).Chronological := by
  refine ⟨fun id position marked => ?_, fun id position marked => ?_⟩
  · rw [unmarked_leaf symbol id] at marked
    cases marked
  · rw [unmarked_leaf symbol id] at marked
    cases marked

theorem varied_leaf (symbol : Symbol) : (leaf symbol).Varied := by
  intro id above position _ marked
  rw [unmarked_leaf symbol id] at marked
  cases marked

-- Where the whole way up is expanded in this order, the trail reaches every node of the position.
theorem mem_trail_of_marked (tree : Tree) (chronological : tree.Chronological) (position id above : Nat)
    (grown : ∀ other ∈ tree.ancestors id, tree.expandedAt other ≠ none)
    (past : ∀ other marked, tree.expandedAt other = some marked → marked ≤ position)
    (member : above ∈ tree.ancestors id) (marked : tree.expandedAt above = some position) :
    tree.symbol above ∈ tree.trail position id := by
  induction id using Nat.strongRecOn with
  | ind id ih =>
      cases link : (tree.node id).parent with
      | none =>
          rw [ancestors_of_root tree id link] at member
          cases member
      | some parent =>
          rw [ancestors_of_parent tree id parent link] at grown member
          obtain ⟨own, parentMarked⟩ := Option.ne_none_iff_exists'.mp (grown parent (by simp))
          have bound := past parent own parentMarked
          rcases List.mem_cons.mp member with rfl | further
          · rw [trail_of_parent tree position id above link, if_pos marked]
            exact List.mem_cons_self
          · obtain ⟨before, aboveMarked, earlier⟩ := chronological.earlier parent own parentMarked above further
            cases marked.symm.trans aboveMarked
            have here : tree.expandedAt parent = some position :=
              parentMarked.trans (congrArg some (Nat.le_antisymm bound earlier))
            rw [trail_of_parent tree position id parent link, if_pos here]
            exact List.mem_cons_of_mem _ (ih parent (tree.parent_lt id parent link)
              (fun other known => grown other (List.mem_cons_of_mem _ known)) further)

section Grow

variable (tree : Tree) (target position : Nat) (form : Form) (head : Char)
  (symbol : tree.symbol target = .nonTerminal head) (fresh : tree.expandedAt target = none)
  (chronological : tree.Chronological)

include fresh chronological

theorem apart_of_expanded (id before : Nat) (marked : tree.expandedAt id = some before) :
    target ∉ tree.ancestors id := by
  intro above
  obtain ⟨_, expanded, _⟩ := chronological.earlier id before marked target above
  rw [fresh] at expanded
  cases expanded

include symbol

theorem chronological_grow (grown : ∀ above ∈ tree.ancestors target, tree.expandedAt above ≠ none)
    (past : ∀ id marked, tree.expandedAt id = some marked → marked ≤ position) :
    (tree.grow target position form).Chronological := by
  have inside := State.in_range_of_non_terminal tree target head symbol
  have marks := expanded_grow tree target position form inside
  have kept := symbol_grow tree target position form inside
  refine ⟨fun id before marked => ?_, fun id before marked above member => ?_⟩
  · rw [marks] at marked
    by_cases same : id = target
    · exact ⟨head, by rw [same, kept target inside, symbol]⟩
    · rw [if_neg same] at marked
      rw [kept id (inside_of_expanded tree id before marked)]
      exact chronological.heads id before marked
  · rw [marks] at marked
    by_cases same : id = target
    · subst same
      rw [if_pos rfl] at marked
      cases marked
      rw [ancestors_grow tree id position form inside id inside] at member
      have lower := tree.ancestors_lt id above member
      obtain ⟨own, expanded⟩ := Option.ne_none_iff_exists'.mp (grown above member)
      exact ⟨own, by rw [marks, if_neg (by omega), expanded], past above own expanded⟩
    · rw [if_neg same] at marked
      have old := inside_of_expanded tree id before marked
      rw [ancestors_grow tree target position form inside id old] at member
      have different : above ≠ target := fun top =>
        apart_of_expanded tree target fresh chronological id before marked (top ▸ member)
      obtain ⟨own, expanded, earlier⟩ := chronological.earlier id before marked above member
      exact ⟨own, by rw [marks, if_neg different, expanded], earlier⟩

-- A non-terminal that is not on the trail of its node is new to all nodes above of the same position.
theorem varied_grow (grown : ∀ above ∈ tree.ancestors target, tree.expandedAt above ≠ none)
    (past : ∀ id marked, tree.expandedAt id = some marked → marked ≤ position) (varied : tree.Varied)
    (free : Symbol.nonTerminal head ∉ tree.trail position target) : (tree.grow target position form).Varied := by
  have inside := State.in_range_of_non_terminal tree target head symbol
  have marks := expanded_grow tree target position form inside
  have kept := symbol_grow tree target position form inside
  intro id above before member marked aboveMarked
  rw [marks] at marked aboveMarked
  by_cases same : id = target
  · subst same
    rw [if_pos rfl] at marked
    cases marked
    rw [ancestors_grow tree id position form inside id inside] at member
    have lower := tree.ancestors_lt id above member
    rw [if_neg (by omega)] at aboveMarked
    obtain ⟨other, named⟩ := chronological.heads above position aboveMarked
    have trailed := mem_trail_of_marked tree chronological position id above grown past member aboveMarked
    refine ⟨head, other, (kept id inside).trans symbol, (kept above (by omega)).trans named, fun equal => ?_⟩
    rw [equal, ← named] at free
    exact free trailed
  · rw [if_neg same] at marked
    have old := inside_of_expanded tree id before marked
    rw [ancestors_grow tree target position form inside id old] at member
    have lower := tree.ancestors_lt id above member
    have different : above ≠ target := fun top =>
      apart_of_expanded tree target fresh chronological id before marked (top ▸ member)
    rw [if_neg different] at aboveMarked
    rw [kept id old, kept above (by omega)]
    exact varied id above before member marked aboveMarked

end Grow

end Tree

namespace State

/-- What holds all along a run, with the guard or without it. -/
structure Tracked (table : Table) (input : List Char) (state : State) : Prop where
  laid : ∃ done, Layout input state done
  guarded : Guarded table state
  chronological : state.tree.Chronological

theorem tracked_initial (table : Table) (start : Char) (input : List Char) :
    Tracked table input (initial start input) :=
  ⟨⟨[], layout_initial start input⟩, guarded_initial table start input, Tree.chronological_leaf _⟩

section Moves

variable (table : Table) (input : List Char) (state next : State) (action : Action)
  (tracked : Tracked table input state)

include tracked

theorem tracked_moves (moves : Moves table state action next) : Tracked table input next := by
  obtain ⟨⟨done, layout⟩, guarded, chronological⟩ := tracked
  refine ⟨layout_moves table input state next action done layout moves,
    guarded_moves table state guarded input done layout next action moves, ?_⟩
  cases moves with
  | read entry below char rest stack left reads => exact chronological
  | skip id below char rest stack left symbol => exact chronological
  | expand id below char rest head alternative stack left symbol found =>
      have stacked : id ∈ state.stacked := by simp [stacked_of_stack state _ below stack, Entry.id?]
      exact Tree.chronological_grow state.tree id state.cursor (childForm alternative) head symbol
        (guarded.fresh id stacked) chronological (guarded.grown id stacked) guarded.past

end Moves

-- Both ways of moving make moves by the table.
theorem tracked_goes (table : Table) (input : List Char) (move : State → Move)
    (within : ∀ state action next, move state = .proceed action next → Moves table state action next)
    (state final : State) (trace : List TraceStep) (goes : Goes move state trace final)
    (tracked : Tracked table input state) : Tracked table input final :=
  goes_keeps move (Tracked table input)
    (fun state action next moved kept =>
      tracked_moves table input state next action kept (within state action next moved))
    state final trace goes tracked

end State

end TopDown
