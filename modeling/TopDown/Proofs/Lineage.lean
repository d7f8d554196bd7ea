import Mathlib.Data.List.TakeWhile
import TopDown.Analysis
import TopDown.Proofs.Chronology
/-!
What the guard against repetition misses of the nodes above a node: nothing. They have all been expanded, the nearer
ones no earlier than those further up, and none ahead of the cursor. The ones expanded at the cursor are therefore the
nearest, and a trail that breaks off at the first other node holds them all.
-/

set_option autoImplicit false

namespace TopDown

namespace Tree

-- A node has children only from its expansion on.
def Descended (tree : Tree) : Prop :=
  ∀ id parent, (tree.node id).parent = some parent → tree.expandedAt parent ≠ none

/-- The positions at which the nodes above a node were expanded, the nearest first. None is missing, none is greater
than a nearer one, and none is beyond the given position. -/
structure Dated (tree : Tree) (position id : Nat) (marks : List Nat) : Prop where
  whole : (tree.ancestors id).map tree.expandedAt = marks.map some
  falling : marks.Pairwise (· ≥ ·)
  past : ∀ mark ∈ marks, mark ≤ position

-- Somewhere above the node, at whatever distance, its symbol was expanded at the position.
def Repeats (tree : Tree) (position id : Nat) : Prop :=
  ∃ above ∈ tree.ancestors id, tree.symbol above = tree.symbol id ∧ tree.expandedAt above = some position

theorem descended_leaf (symbol : Symbol) : (leaf symbol).Descended := by
  intro id parent link
  have inside := (leaf symbol).parent_lt id parent link
  cases id with
  | zero => exact absurd inside (Nat.not_lt_zero parent)
  | succ id =>
      rw [node_of_size_le (leaf symbol) (id + 1) (Nat.le_add_left 1 id)] at link
      cases link

theorem descended_grow (tree : Tree) (target position : Nat) (form : Form) (inside : target < tree.size)
    (descended : tree.Descended) : (tree.grow target position form).Descended := by
  intro id parent link
  rw [expanded_grow tree target position form inside parent]
  by_cases same : parent = target
  · rw [if_pos same]
    exact Option.some_ne_none position
  · rw [if_neg same]
    rw [parent_grow tree target position form inside id] at link
    by_cases new : tree.size ≤ id ∧ id < tree.size + form.length
    · rw [if_pos new] at link
      exact absurd (Option.some.inj link).symm same
    · rw [if_neg new] at link
      exact descended id parent link

theorem marked_of_dated (tree : Tree) (position id : Nat) (marks : List Nat) (dated : tree.Dated position id marks)
    (above : Nat) (member : above ∈ tree.ancestors id) : ∃ mark, tree.expandedAt above = some mark := by
  have listed : tree.expandedAt above ∈ marks.map some := by
    rw [← dated.whole]
    exact List.mem_map_of_mem member
  obtain ⟨mark, _, found⟩ := List.mem_map.mp listed
  exact ⟨mark, found.symm⟩

section Dates

variable (tree : Tree) (descended : tree.Descended) (chronological : tree.Chronological) (position : Nat)
  (past : ∀ id mark, tree.expandedAt id = some mark → mark ≤ position)

include descended chronological past

theorem dated_of_chronological (id : Nat) : ∃ marks, tree.Dated position id marks := by
  induction id using Nat.strongRecOn with
  | ind id ih =>
      cases link : (tree.node id).parent with
      | none =>
          refine ⟨[], ?_, List.Pairwise.nil, fun mark member => nomatch member⟩
          rw [ancestors_of_root tree id link]
          rfl
      | some parent =>
          obtain ⟨marks, dated⟩ := ih parent (tree.parent_lt id parent link)
          obtain ⟨own, marked⟩ := Option.ne_none_iff_exists'.mp (descended id parent link)
          have later : ∀ mark ∈ marks, own ≥ mark := by
            intro mark member
            have listed : some mark ∈ (tree.ancestors parent).map tree.expandedAt := by
              rw [dated.whole]
              exact List.mem_map_of_mem member
            obtain ⟨above, known, same⟩ := List.mem_map.mp listed
            obtain ⟨before, expanded, earlier⟩ := chronological.earlier parent own marked above known
            cases expanded.symm.trans same
            exact earlier
          refine ⟨own :: marks, ?_, List.pairwise_cons.mpr ⟨later, dated.falling⟩, ?_⟩
          · rw [ancestors_of_parent tree id parent link, List.map_cons, marked, dated.whole, List.map_cons]
          · exact List.forall_mem_cons.mpr ⟨past parent own marked, dated.past⟩

-- The trail stops early, but only behind the last node of the position.
theorem trail_iff_repeats (id : Nat) : tree.symbol id ∈ tree.trail position id ↔ tree.Repeats position id := by
  constructor
  · intro member
    obtain ⟨above, known, same⟩ := List.mem_map.mp member
    have marked := List.mem_takeWhile_imp known
    exact ⟨above, (List.takeWhile_prefix _).subset known, same, of_decide_eq_true marked⟩
  · rintro ⟨above, known, same, marked⟩
    obtain ⟨marks, dated⟩ := dated_of_chronological tree descended chronological position past id
    rw [← same]
    exact mem_trail_of_marked tree chronological position id above
      (fun other member => Option.ne_none_iff_exists'.mpr (marked_of_dated tree position id marks dated other member))
      past known marked

end Dates

end Tree

namespace State

theorem descended_moves (table : Table) (state next : State) (action : Action) (descended : state.tree.Descended)
    (moves : Moves table state action next) : next.tree.Descended := by
  cases moves with
  | read entry below char rest stack left reads => exact descended
  | skip id below char rest stack left symbol => exact descended
  | expand id below char rest head alternative stack left symbol found =>
      exact Tree.descended_grow state.tree id state.cursor (childForm alternative)
        (in_range_of_non_terminal state.tree id head symbol) descended

-- The guard fires over a filled cell and a non-terminal on its own trail.
theorem repetition_iff (table : Table) (state : State) : (state.repetition? table).isSome ↔
    ∃ id below char rest left, state.stack = .node id :: below ∧ state.rest = char :: rest ∧
      state.tree.symbol id = .nonTerminal left ∧ (table.get? left char).isSome ∧
      state.tree.symbol id ∈ state.tree.trail state.cursor id := by
  constructor
  · intro fires
    obtain ⟨failure, blocked⟩ := Option.isSome_iff_exists.mp fires
    obtain ⟨id, below, char, rest, left, stack, next, symbol, again, _⟩ := repetition_cases table state failure blocked
    refine ⟨id, below, char, rest, left, stack, next, symbol, ?_, symbol ▸ again⟩
    simp only [repetition?, stack, next, symbol] at blocked
    by_cases filled : (table.get? left char).isSome
    · exact filled
    · simp [filled] at blocked
  · rintro ⟨id, below, char, rest, left, stack, next, symbol, filled, again⟩
    obtain ⟨alternative, found⟩ := Option.isSome_iff_exists.mp filled
    rw [symbol] at again
    rw [repetition_of_trail table state id below rest left char alternative stack next symbol found again]
    rfl

end State

namespace Grammar

-- A non-terminal that comes back by way of another one, as the second alternative keeps the cell: S -> A, A -> a | S.
def roundabout : Grammar where
  rules := [⟨'S', [[.nonTerminal 'A']]⟩, ⟨'A', [[.terminal 'a'], [.nonTerminal 'S']]⟩]

end Grammar

namespace Table

/-- In every state of a run all nodes above a node are dated, so that breaking off the trail early loses no repetition,
and the guard fires exactly where a non-terminal with a filled cell stands above itself since the last character. -/
theorem guard_misses_nothing (table : Table) (start : Char) (input : List Char) (trace : List TraceStep) (state : State)
    (goes : State.Goes (State.step table) (State.initial start input) trace state) :
    (∀ id, ∃ marks, state.tree.Dated state.cursor id marks) ∧
    (∀ id, state.tree.symbol id ∈ state.tree.trail state.cursor id ↔ state.tree.Repeats state.cursor id) ∧
    ((state.repetition? table).isSome ↔ ∃ id below char rest left, state.stack = .node id :: below ∧
      state.rest = char :: rest ∧ state.tree.symbol id = .nonTerminal left ∧ (table.get? left char).isSome ∧
      state.tree.Repeats state.cursor id) := by
  have descended := State.run_keeps table (fun state => state.tree.Descended) (State.descended_moves table) _ state
    trace goes (Tree.descended_leaf _)
  obtain ⟨_, guarded, chronological⟩ := State.tracked_goes table input (State.step table)
    (State.moves_of_step table) _ state trace goes (State.tracked_initial table start input)
  have trail := Tree.trail_iff_repeats state.tree descended chronological state.cursor guarded.past
  refine ⟨Tree.dated_of_chronological state.tree descended chronological state.cursor guarded.past, trail, ?_⟩
  rw [State.repetition_iff]
  simp only [trail]

-- The repetition stands two nodes above, and the nodes above were expanded where the cursor still is.
theorem guard_misses_nothing_roundabout : ∃ trace state,
    State.Goes (State.step Grammar.roundabout.analyze.table) (.initial 'S' ['a']) trace state ∧
      state.tree.ancestors 2 = [1, 0] ∧ (∃ marks, state.tree.Dated state.cursor 2 marks) ∧
      state.tree.Repeats state.cursor 2 ∧ (state.repetition? Grammar.roundabout.analyze.table).isSome := by
  have forth : State.Moves Grammar.roundabout.analyze.table (.initial 'S' ['a']) _ _ :=
    .expand 0 [.bottom] 'a' ['$'] 'S' [.nonTerminal 'A'] rfl rfl rfl (by decide +kernel)
  have back : State.Moves Grammar.roundabout.analyze.table
      ((State.initial 'S' ['a']).expand 0 [.bottom] [.nonTerminal 'A']) _ _ :=
    .expand 1 [.bottom] 'a' ['$'] 'A' [.nonTerminal 'S'] rfl rfl rfl (by decide +kernel)
  have goes := State.Goes.step _ _ _ _ _ (State.step_of_moves _ _ _ _ (by decide +kernel) forth)
    (.step _ _ _ _ [] (State.step_of_moves _ _ _ _ (by decide +kernel) back) (.stay _))
  obtain ⟨dated, trail, fires⟩ := guard_misses_nothing _ 'S' ['a'] _ _ goes
  refine ⟨_, _, goes, by decide +kernel, dated 2, (trail 2).mp (by decide +kernel), fires.mpr ?_⟩
  exact ⟨2, [.bottom], 'a', ['$'], 'S', rfl, rfl, rfl, by decide +kernel, (trail 2).mp (by decide +kernel)⟩

end Table

end TopDown
