import TopDown.Proofs.Leftmost
import TopDown.Proofs.Placement
import TopDown.Proofs.RuleSymbols
import TopDown.Proofs.Runs
/-!
The tree of an accepted input. Nodes that have left the stack are finished: a non-terminal has the
symbols of the alternative in its cell as children, any other node has none. When nothing is left on
the stack, all nodes are finished and the frontier reads the input.
-/

set_option autoImplicit false

namespace TopDown

namespace Tree

/-- The node has its final children: those of the cell under the character at which it was expanded. -/
structure Finished (tree : Tree) (grammar : Grammar) (table : Table) (input : List Char) (id : Nat) : Prop where
  expanded : ∀ left, tree.symbol id = .nonTerminal left → ∃ position char alternative,
    tree.expandedAt id = some position ∧ (input ++ [endMark])[position]? = some char ∧
      table.get? left char = some alternative ∧ alternative ∈ grammar.alternativesOf left ∧
      (tree.children id).map tree.symbol = State.childForm alternative
  childless : (∀ left, tree.symbol id ≠ .nonTerminal left) → tree.children id = []

theorem finished_grow (tree : Tree) (grammar : Grammar) (table : Table) (input : List Char)
    (target position : Nat) (form : Form) (inside : target < tree.size) (id : Nat) (old : id < tree.size)
    (different : id ≠ target) (finished : tree.Finished grammar table input id) :
    (tree.grow target position form).Finished grammar table input id := by
  have symbol := symbol_grow tree target position form inside id old
  have children := children_grow tree target position form inside id
  have mark := expanded_grow tree target position form inside id
  rw [if_neg different] at children mark
  constructor
  · intro left same
    obtain ⟨place, char, alternative, marked, here, found, member, symbols⟩ :=
      finished.expanded left (symbol.symm.trans same)
    refine ⟨place, char, alternative, mark.trans marked, here, found, member, ?_⟩
    rw [children, ← symbols]
    refine List.map_congr_left fun child known => ?_
    exact symbol_grow tree target position form inside child (tree.child_bounds id child known).2
  · intro other
    rw [children]
    exact finished.childless fun left same => other left (symbol.trans same)

end Tree

namespace State

-- All nodes that are not stacked are finished.
def Settled (grammar : Grammar) (table : Table) (input : List Char) (state : State) : Prop :=
  ∀ id, id < state.tree.size → id ∉ state.stacked → state.tree.Finished grammar table input id

theorem settled_initial (grammar : Grammar) (table : Table) (start : Char) (input : List Char) :
    Settled grammar table input (initial start input) := by
  intro id inside free
  have root : id = 0 := Nat.lt_one_iff.mp inside
  exact absurd (by rw [root]; exact List.mem_cons_self) free

section Moves

variable (grammar : Grammar) (table : Table) (input : List Char) (state : State) (done : List Nat)
  (layout : Layout input state done) (settled : Settled grammar table input state)

include layout

-- The expanded node has the symbols of its alternative as children, and will have no others.
theorem finished_of_expand (chooses : table.Chooses grammar) (id : Nat) (below : List Entry) (char : Char)
    (rest : List Char) (head : Char) (alternative : Form) (stack : state.stack = .node id :: below)
    (left : state.rest = char :: rest) (symbol : state.tree.symbol id = .nonTerminal head)
    (found : table.get? head char = some alternative) :
    (state.expand id below alternative).tree.Finished grammar table input id := by
  obtain ⟨others, ids, _, _⟩ := stack_of_node input state done layout id below stack
  have inside := inside_of_stacked input state done layout id (by simp [ids])
  have childless := childless_of_stacked input state done layout id (by simp [ids])
  have kept := Tree.symbol_grow state.tree id state.cursor (childForm alternative) inside id inside
  have mark := Tree.expanded_grow state.tree id state.cursor (childForm alternative) inside id
  have children := Tree.children_grow state.tree id state.cursor (childForm alternative) inside id
  rw [if_pos rfl] at mark children
  rw [childless, List.nil_append] at children
  rw [tree_of_expand]
  constructor
  · intro name named
    cases (named.symm.trans kept).trans symbol
    have here : (input ++ [endMark])[state.cursor]? = some char := by
      rw [← List.head?_drop, ← layout.rest, left]
      rfl
    refine ⟨state.cursor, char, alternative, mark, here, found, chooses _ char alternative found, ?_⟩
    rw [children]
    exact Tree.symbols_grow state.tree id state.cursor (childForm alternative) inside
  · intro different
    exact absurd (kept.trans symbol) (different head)

include settled

theorem settled_pop (id : Nat) (below : List Entry) (stack : state.stack = .node id :: below)
    (other : ∀ left, state.tree.symbol id ≠ .nonTerminal left) (node : Nat) (inside : node < state.tree.size)
    (free : node ∉ below.filterMap Entry.id?) : state.tree.Finished grammar table input node := by
  obtain ⟨others, ids, _, same⟩ := stack_of_node input state done layout id below stack
  by_cases top : node = id
  · subst top
    have childless := childless_of_stacked input state done layout node (by simp [ids])
    exact ⟨fun left symbol => absurd symbol (other left), fun _ => childless⟩
  · refine settled node inside fun member => ?_
    rw [ids] at member
    rcases List.mem_cons.mp member with here | further
    · exact top here
    · exact free (same ▸ further)

theorem settled_expand (chooses : table.Chooses grammar) (id : Nat) (below : List Entry) (char : Char)
    (rest : List Char) (head : Char) (alternative : Form) (stack : state.stack = .node id :: below)
    (left : state.rest = char :: rest) (symbol : state.tree.symbol id = .nonTerminal head)
    (found : table.get? head char = some alternative) :
    Settled grammar table input (state.expand id below alternative) := by
  obtain ⟨others, ids, _, same⟩ := stack_of_node input state done layout id below stack
  have inside := inside_of_stacked input state done layout id (by simp [ids])
  intro node known free
  rw [stacked_of_expand, same, List.mem_append, not_or] at free
  rw [tree_of_expand, Tree.size_grow _ _ _ _ inside] at known
  have old : node < state.tree.size := by
    have new : ¬ (state.tree.size ≤ node ∧ node < state.tree.size + (childForm alternative).length) :=
      fun bounds => free.1 (List.mem_range'_1.mpr bounds)
    omega
  by_cases top : node = id
  · rw [top]
    exact finished_of_expand grammar table input state done layout chooses id below char rest head alternative stack
      left symbol found
  · rw [tree_of_expand]
    refine Tree.finished_grow state.tree grammar table input id state.cursor _ inside node old top ?_
    refine settled node old fun member => ?_
    rw [ids] at member
    rcases List.mem_cons.mp member with here | further
    · exact top here
    · exact free.2 further

theorem settled_moves (chooses : table.Chooses grammar) (next : State) (action : Action)
    (moves : Moves table state action next) : Settled grammar table input next := by
  cases moves with
  | expand id below char rest head alternative stack left symbol found =>
      exact settled_expand grammar table input state done layout settled chooses id below char rest head
        alternative stack left symbol found
  | skip id below char rest stack left symbol =>
      exact settled_pop grammar table input state done layout settled id below stack
        (fun name same => by rw [symbol] at same; cases same)
  | read entry below char rest stack left reads =>
      cases entry with
      | bottom =>
          obtain ⟨none, rfl⟩ := stack_of_bottom input state done layout below stack
          exact fun id inside _ => settled id inside (by simp [none])
      | node id =>
          refine settled_pop grammar table input state done layout settled id below stack fun name same => ?_
          rw [Tree.entrySymbol, same] at reads
          cases reads

end Moves

-- All that is known about the states of a run.
structure Coherent (grammar : Grammar) (table : Table) (start : Char) (input : List Char) (state : State)
    (done : List Nat) : Prop where
  layout : Layout input state done
  settled : Settled grammar table input state
  derived : Derived grammar start input state
  placed : Placed state
  drawn : Drawn grammar start state

theorem coherent_initial (grammar : Grammar) (table : Table) (start : Char) (input : List Char) :
    Coherent grammar table start input (initial start input) [] :=
  ⟨layout_initial start input, settled_initial grammar table start input, derived_initial grammar start input,
    placed_initial start input, drawn_initial grammar start input⟩

theorem coherent_moves (grammar : Grammar) (table : Table) (chooses : table.Chooses grammar) (start : Char)
    (input : List Char) (state next : State) (action : Action) (done : List Nat)
    (coherent : Coherent grammar table start input state done) (moves : Moves table state action next) :
    ∃ more, Coherent grammar table start input next more := by
  obtain ⟨layout, settled, derived, placed, drawn⟩ := coherent
  obtain ⟨more, nextLayout⟩ := layout_moves table input state next action done layout moves
  exact ⟨more, nextLayout, settled_moves grammar table input state done layout settled chooses next action moves,
    derived_moves table grammar chooses start input state next action done layout derived moves,
    placed_moves table input state next action done layout placed moves,
    drawn_moves table grammar chooses start input state next action done layout drawn moves⟩

theorem coherent_reaches (grammar : Grammar) (table : Table) (chooses : table.Chooses grammar) (start : Char)
    (input : List Char) (state : State) (reaches : Reaches table (initial start input) state) :
    ∃ done, Coherent grammar table start input state done := by
  induction reaches with
  | refl => exact ⟨[], coherent_initial grammar table start input⟩
  | tail _ moved ih =>
      obtain ⟨done, coherent⟩ := ih
      obtain ⟨action, step⟩ := moved
      exact coherent_moves grammar table chooses start input _ _ action done coherent
        (moves_of_step table _ action _ step)

end State

namespace Parse

theorem verdict_of_accepted (parse : Parse) (accepted : parse.isAccepted = true) :
    ∃ tree, parse.verdict = .accepted tree ∧ parse.tree? = some tree := by
  cases verdict : parse.verdict with
  | accepted tree => exact ⟨tree, rfl, by rw [tree?, verdict]⟩
  | rejected failure => simp [isAccepted, failure?, verdict] at accepted

end Parse

namespace Table

theorem final_of_accepted (table : Table) (input : List Char) (accepted : (table.parse input).isAccepted = true) :
    ∃ start final, table.start? = some start ∧ State.Reaches table (State.initial start input) final ∧
      final.stack = [] ∧ final.rest = [] ∧ (table.parse input).tree? = some final.tree := by
  obtain ⟨tree, verdict, result⟩ := Parse.verdict_of_accepted _ accepted
  cases start : table.start? with
  | none => simp [parse, start] at verdict
  | some first =>
      simp only [parse, start] at verdict
      obtain ⟨final, reaches, stack, rest, rfl⟩ := State.reached_of_accepted table _ tree verdict
      exact ⟨first, final, rfl, reaches, stack, rest, result⟩

-- An accepted parse ends in a coherent state with nothing left, and its tree is the one there.
theorem coherent_of_accepted (grammar : Grammar) (first : FirstSets) (follow : FollowSets) (input : List Char)
    (accepted : ((build grammar first follow).parse input).isAccepted = true) :
    ∃ start final done, grammar.start? = some start ∧
      State.Coherent grammar (build grammar first follow) start input final done ∧
      final.stack = [] ∧ final.rest = [] ∧ ((build grammar first follow).parse input).tree? = some final.tree := by
  obtain ⟨start, final, begins, reaches, stack, rest, result⟩ := final_of_accepted _ input accepted
  rw [start_build] at begins
  obtain ⟨done, coherent⟩ :=
    State.coherent_reaches grammar _ (chooses_build grammar first follow) start input final reaches
  exact ⟨start, final, done, begins, coherent, stack, rest, result⟩

end Table

namespace State

section Final

variable (grammar : Grammar) (table : Table) (start : Char) (input : List Char) (state : State) (done : List Nat)
  (coherent : Coherent grammar table start input state done) (stack : state.stack = []) (rest : state.rest = [])

include coherent stack in
theorem finished_of_final (id : Nat) (inside : id < state.tree.size) :
    state.tree.Finished grammar table input id := by
  have none : state.stacked = [] := by rw [stacked, stack]; rfl
  exact coherent.settled id inside (by simp [none])

include coherent rest

theorem consumed_all : (input ++ [endMark]).take state.cursor = input ++ [endMark] := by
  have whole := List.take_append_drop state.cursor (input ++ [endMark])
  rwa [← coherent.layout.rest, rest, List.append_nil] at whole

include stack

theorem generates_of_final (first : grammar.start? = some start) : grammar.Generates input := by
  obtain ⟨front, reads, derives⟩ := coherent.derived
  rw [consumed_all grammar table start input state done coherent rest] at reads
  rw [form, stack, List.map_nil, List.append_nil] at derives
  obtain ⟨steps, unfolds⟩ := grammar.unfolds_of_derives _ front _ derives reads
  obtain ⟨before, word, same, inner⟩ := grammar.unfolds_end steps [.nonTerminal start] _ unfolds
  rw [List.append_cancel_right same]
  exact (grammar.generates_iff_unfolds word).mpr ⟨start, before, first, inner⟩

theorem reading_of_final : state.tree.reading (state.tree.frontier 0) = input := by
  have none : state.stacked = [] := by rw [stacked, stack]; rfl
  have read := coherent.layout.consumed
  rw [if_pos stack, consumed_all grammar table start input state done coherent rest] at read
  rw [coherent.layout.frontier, none, List.append_nil]
  exact List.append_cancel_right read

-- The leaves are the terminals of the frontier; only an end mark in some alternative reads more.
theorem leaves_of_final (unended : .endOfInput ∉ grammar.symbols) : state.tree.leaves = input := by
  have finished := finished_of_final grammar table start input state done coherent stack
  rw [Tree.leaves_of_reading state.tree coherent.layout.rooted,
    reading_of_final grammar table start input state done coherent stack rest]
  · intro id char symbol
    by_cases inside : id < state.tree.size
    · exact (finished id inside).childless (by simp [symbol])
    · exact Tree.children_of_size_le state.tree id (Nat.le_of_not_lt inside)
  · intro id inside marked
    by_cases root : id = 0
    · rw [root, coherent.drawn.1] at marked
      cases marked
    · exact unended (marked ▸ coherent.drawn.2 id (Nat.pos_of_ne_zero root) inside)

end Final

end State

namespace Tree

/-- What the tree of an accepted input is: it stands on the start symbol, all its nodes are finished,
each node was expanded at the position to which the text on its left reaches, and its frontier reads
the input. -/
structure Spells (tree : Tree) (grammar : Grammar) (table : Table) (start : Char) (input : List Char) : Prop where
  root : 0 < tree.size ∧ tree.symbol 0 = .nonTerminal start
  finished : ∀ id, id < tree.size → tree.Finished grammar table input id
  placed : ∀ id position, tree.expandedAt id = some position → ∃ front back,
    tree.frontier 0 = front ++ tree.frontier id ++ back ∧ (tree.reading front).length = position
  reading : tree.reading (tree.frontier 0) = input

end Tree

namespace Grammar

-- Equally many of two characters, the first ones before the second ones: S -> a S b | ε.
def nested : Grammar where
  rules := [⟨'S', [[.terminal 'a', .nonTerminal 'S', .terminal 'b'], .empty]⟩]

end Grammar

namespace Table

theorem spells_of_accepted (grammar : Grammar) (first : FirstSets) (follow : FollowSets) (input : List Char)
    (accepted : ((build grammar first follow).parse input).isAccepted = true) :
    ∃ start tree, grammar.start? = some start ∧ ((build grammar first follow).parse input).tree? = some tree ∧
      tree.Spells grammar (build grammar first follow) start input ∧ grammar.Generates input ∧
      (.endOfInput ∉ grammar.symbols → tree.leaves = input) ∧
      ∀ text, Grammar.ofText text = .ok grammar → .endOfInput ∉ grammar.symbols := by
  obtain ⟨start, final, done, begins, coherent, stack, rest, result⟩ :=
    coherent_of_accepted grammar first follow input accepted
  have generates := State.generates_of_final grammar _ start input final done coherent stack rest begins
  have leaves := State.leaves_of_final grammar _ start input final done coherent stack rest
  refine ⟨start, final.tree, begins, result, ⟨⟨coherent.layout.rooted, coherent.drawn.1⟩, ?_, ?_, ?_⟩,
    generates, leaves, ?_⟩
  · exact State.finished_of_final grammar _ start input final done coherent stack
  · intro id position marked
    obtain ⟨front, back, frontier, length, _⟩ := coherent.placed id position marked
    exact ⟨front, back, frontier, length⟩
  · exact State.reading_of_final grammar _ start input final done coherent stack rest
  · intro text read marked
    exact Grammar.unmarked_of_text text grammar read _ marked rfl

theorem spells_of_accepted_nested :
    ((build .nested (FirstSets.compute .nested).1 (FollowSets.compute .nested (FirstSets.compute .nested).1).1).parse
      ['a', 'b']).isAccepted = true ∧ Grammar.nested.Generates ['a', 'b'] := by
  have accepted : ((build .nested (FirstSets.compute .nested).1
      (FollowSets.compute .nested (FirstSets.compute .nested).1).1).parse ['a', 'b']).isAccepted = true := by
    decide +kernel
  obtain ⟨_, _, _, _, _, generates, _⟩ := spells_of_accepted .nested _ _ ['a', 'b'] accepted
  exact ⟨accepted, generates⟩

end Table

end TopDown
