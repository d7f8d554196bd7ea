import TopDown.Proofs.Frontier
import TopDown.Proofs.Moves
/-!
How stack, tree and input hang together in a run. The stacked nodes are the right end of the
frontier, the nodes before them read the input consumed so far, and the bottom entry stays below
them until the end mark that was put behind the input is read.
-/

set_option autoImplicit false

namespace TopDown

namespace State

structure Layout (input : List Char) (state : State) (done : List Nat) : Prop where
  rooted : 0 < state.tree.size
  bottomed : state.stack = [] ∨ state.stack = state.stacked.map .node ++ [.bottom]
  frontier : state.tree.frontier 0 = done ++ state.stacked
  nodup : (state.tree.frontier 0).Nodup
  rest : state.rest = (input ++ [endMark]).drop state.cursor
  consumed : state.tree.reading done ++ (if state.stack = [] then [endMark] else []) =
    (input ++ [endMark]).take state.cursor

theorem layout_initial (start : Char) (input : List Char) : Layout input (initial start input) [] where
  rooted := Nat.one_pos
  bottomed := Or.inr rfl
  frontier := Tree.frontier_of_childless _ 0 rfl
  nodup := by
    rw [Tree.frontier_of_childless _ 0 rfl]
    simp
  rest := rfl
  consumed := rfl

theorem ids_of_nodes (ids : List Nat) : (ids.map Entry.node).filterMap Entry.id? = ids := by
  induction ids with
  | nil => rfl
  | cons id rest ih => exact congrArg (id :: ·) ih

theorem stacked_of_stack (state : State) (entry : Entry) (below : List Entry) (stack : state.stack = entry :: below) :
    state.stacked = entry.id?.toList ++ below.filterMap Entry.id? := by
  rw [stacked, stack, List.filterMap_cons]
  cases entry <;> rfl

theorem stacked_of_pop (state : State) (entry : Entry) (below : List Entry) (stack : state.stack = entry :: below) :
    ∀ id ∈ below.filterMap Entry.id?, id ∈ state.stacked := by
  intro id member
  rw [stacked_of_stack state entry below stack]
  exact List.mem_append_right _ member

-- The tree after an expansion, and the stacked nodes: the new children in the place of their parent.
theorem tree_of_expand (state : State) (id : Nat) (below : List Entry) (alternative : Form) :
    (state.expand id below alternative).tree = state.tree.grow id state.cursor (childForm alternative) := rfl

theorem stacked_of_expand (state : State) (id : Nat) (below : List Entry) (alternative : Form) :
    (state.expand id below alternative).stacked =
      List.range' state.tree.size (childForm alternative).length ++ below.filterMap Entry.id? := by
  rw [stacked, expand, List.filterMap_append, ids_of_nodes]

section Facts

variable (input : List Char) (state : State) (done : List Nat) (layout : Layout input state done)

include layout

theorem childless_of_stacked (id : Nat) (member : id ∈ state.stacked) : state.tree.children id = [] :=
  Tree.childless_of_mem_frontier state.tree 0 id (layout.frontier ▸ List.mem_append_right done member)

theorem inside_of_stacked (id : Nat) (member : id ∈ state.stacked) : id < state.tree.size :=
  Tree.inside_of_mem_frontier state.tree 0 id layout.rooted (layout.frontier ▸ List.mem_append_right done member)

theorem inside_of_done (id : Nat) (member : id ∈ done) : id < state.tree.size :=
  Tree.inside_of_mem_frontier state.tree 0 id layout.rooted
    (layout.frontier ▸ List.mem_append_left state.stacked member)

theorem nodup_stacked : state.stacked.Nodup := by
  have nodup := layout.nodup
  rw [layout.frontier] at nodup
  exact (List.nodup_append.mp nodup).2.1

theorem apart_of_done (id : Nat) (member : id ∈ done) : id ∉ state.stacked := by
  intro stacked
  have nodup := layout.nodup
  rw [layout.frontier] at nodup
  exact (List.nodup_append.mp nodup).2.2 id member id stacked rfl

-- Below a stacked node stand the other stacked nodes and the bottom entry.
theorem stack_of_node (id : Nat) (below : List Entry) (stack : state.stack = .node id :: below) :
    ∃ others, state.stacked = id :: others ∧ below = others.map .node ++ [.bottom] ∧
      below.filterMap Entry.id? = others := by
  have split : state.stacked = id :: below.filterMap Entry.id? := stacked_of_stack state (.node id) below stack
  rcases layout.bottomed with empty | whole
  · rw [empty] at stack
    cases stack
  · rw [stack, split] at whole
    exact ⟨_, split, (List.cons.inj whole).2, rfl⟩

theorem stack_of_bottom (below : List Entry) (stack : state.stack = .bottom :: below) :
    state.stacked = [] ∧ below = [] := by
  rcases layout.bottomed with empty | whole
  · rw [empty] at stack
    cases stack
  · rw [stack] at whole
    cases ids : state.stacked with
    | nil =>
        rw [ids] at whole
        exact ⟨rfl, (List.cons.inj whole).2⟩
    | cons id others =>
        rw [ids] at whole
        cases (List.cons.inj whole).1

theorem cursor_advances (char : Char) (rest : List Char) (left : state.rest = char :: rest) :
    (input ++ [endMark]).take (state.cursor + 1) = (input ++ [endMark]).take state.cursor ++ [char] ∧
      rest = (input ++ [endMark]).drop (state.cursor + 1) := by
  have split := layout.rest.symm.trans left
  have here : (input ++ [endMark])[state.cursor]? = some char := by
    rw [← List.head?_drop, split]
    rfl
  refine ⟨by rw [List.take_add_one, here]; rfl, ?_⟩
  rw [← List.drop_drop, split]
  rfl

theorem consumed_of_top (entry : Entry) (below : List Entry) (stack : state.stack = entry :: below) :
    state.tree.reading done = (input ++ [endMark]).take state.cursor := by
  have read := layout.consumed
  rwa [if_neg (by simp [stack]), List.append_nil] at read

theorem layout_close (below : List Entry) (char : Char) (rest : List Char)
    (stack : state.stack = .bottom :: below) (left : state.rest = char :: rest) (reads : endMark = char) :
    Layout input (state.consume below rest) done := by
  obtain ⟨longer, further⟩ := cursor_advances input state done layout char rest left
  obtain ⟨none, rfl⟩ := stack_of_bottom input state done layout below stack
  have frontier := layout.frontier
  rw [none] at frontier
  refine ⟨layout.rooted, Or.inl rfl, frontier, layout.nodup, further, ?_⟩
  have before := consumed_of_top input state done layout _ _ stack
  change state.tree.reading done ++ [endMark] = (input ++ [endMark]).take (state.cursor + 1)
  rw [before, longer, reads]

-- The top node is taken off the stack; whether a character is read with it or not, it reads as such.
theorem frontier_of_pop (id : Nat) (others : List Nat) (ids : state.stacked = id :: others) :
    state.tree.frontier 0 = (done ++ [id]) ++ others := by
  rw [layout.frontier, ids, List.append_assoc]
  rfl

theorem layout_match (id : Nat) (below : List Entry) (char : Char) (rest : List Char)
    (stack : state.stack = .node id :: below) (left : state.rest = char :: rest)
    (reads : (state.tree.symbol id).read? = some char) :
    Layout input (state.consume below rest) (done ++ [id]) := by
  obtain ⟨longer, further⟩ := cursor_advances input state done layout char rest left
  obtain ⟨others, ids, shape, same⟩ := stack_of_node input state done layout id below stack
  have stacked : (state.consume below rest).stacked = others := same
  refine ⟨layout.rooted, Or.inr ?_, ?_, layout.nodup, further, ?_⟩
  · rw [stacked]
    exact shape
  · rw [stacked]
    exact frontier_of_pop input state done layout id others ids
  · have before := consumed_of_top input state done layout _ _ stack
    have filled : (state.consume below rest).stack ≠ [] := by simp [consume, shape]
    rw [if_neg filled, List.append_nil]
    change state.tree.reading (done ++ [id]) = (input ++ [endMark]).take (state.cursor + 1)
    rw [Tree.reading_append, Tree.reading_singleton, before, longer, reads]
    rfl

theorem layout_skip (id : Nat) (below : List Entry) (stack : state.stack = .node id :: below)
    (symbol : state.tree.symbol id = .epsilon) : Layout input (state.drop below) (done ++ [id]) := by
  obtain ⟨others, ids, shape, same⟩ := stack_of_node input state done layout id below stack
  have stacked : (state.drop below).stacked = others := same
  refine ⟨layout.rooted, Or.inr ?_, ?_, layout.nodup, layout.rest, ?_⟩
  · rw [stacked]
    exact shape
  · rw [stacked]
    exact frontier_of_pop input state done layout id others ids
  · have before := consumed_of_top input state done layout _ _ stack
    have filled : (state.drop below).stack ≠ [] := by simp [drop, shape]
    rw [if_neg filled, List.append_nil]
    change state.tree.reading (done ++ [id]) = (input ++ [endMark]).take state.cursor
    rw [Tree.reading_append, Tree.reading_singleton, before, symbol]
    exact List.append_nil _

theorem nodup_of_expand (id : Nat) (others : List Nat) (ids : state.stacked = id :: others) (count : Nat) :
    (done ++ List.range' state.tree.size count ++ others).Nodup := by
  have before := layout.nodup
  rw [layout.frontier, ids] at before
  obtain ⟨front, back, apart⟩ := List.nodup_append.mp before
  have old : ∀ other ∈ others, other < state.tree.size := fun other member =>
    inside_of_stacked input state done layout other (by simp [ids, member])
  refine List.nodup_append.mpr ⟨List.nodup_append.mpr ⟨front, List.nodup_range', ?_⟩, (List.nodup_cons.mp back).2, ?_⟩
  · intro left leftMember right rightMember same
    have bound := inside_of_done input state done layout left leftMember
    have new := List.mem_range'_1.mp rightMember
    omega
  · intro left leftMember right rightMember
    rcases List.mem_append.mp leftMember with read | new
    · exact apart left read right (by simp [rightMember])
    · have bound := old right rightMember
      have bounds := List.mem_range'_1.mp new
      omega

theorem bottomed_of_expand (id : Nat) (below : List Entry) (alternative : Form)
    (stack : state.stack = .node id :: below) :
    (state.expand id below alternative).stack =
      (state.expand id below alternative).stacked.map .node ++ [.bottom] := by
  obtain ⟨others, _, shape, same⟩ := stack_of_node input state done layout id below stack
  rw [stacked_of_expand, same, List.map_append, List.append_assoc, ← shape]
  rfl

theorem reading_of_expand (id : Nat) (below : List Entry) (alternative : Form)
    (stack : state.stack = .node id :: below) :
    (state.expand id below alternative).tree.reading done = (input ++ [endMark]).take state.cursor := by
  obtain ⟨others, ids, _, _⟩ := stack_of_node input state done layout id below stack
  have inside := inside_of_stacked input state done layout id (by simp [ids])
  rw [← consumed_of_top input state done layout _ below stack, tree_of_expand]
  refine Tree.reading_congr _ _ done fun other member => ?_
  exact Tree.symbol_grow state.tree id state.cursor _ inside other (inside_of_done input state done layout other member)

-- Without new children the expanded node itself is finished; otherwise they take its place.
theorem layout_expand (id : Nat) (below : List Entry) (head : Char) (alternative : Form)
    (stack : state.stack = .node id :: below) (symbol : state.tree.symbol id = .nonTerminal head) :
    ∃ more, Layout input (state.expand id below alternative) more := by
  obtain ⟨others, ids, _, same⟩ := stack_of_node input state done layout id below stack
  have inside := inside_of_stacked input state done layout id (by simp [ids])
  have childless := childless_of_stacked input state done layout id (by simp [ids])
  have stacked := stacked_of_expand state id below alternative
  have frontier := Tree.frontier_grow_split state.tree id state.cursor (childForm alternative) inside childless 0
    layout.rooted done others (by rw [layout.frontier, ids]) layout.nodup
  have bottomed := bottomed_of_expand input state done layout id below alternative stack
  have read := reading_of_expand input state done layout id below alternative stack
  have filled : (state.expand id below alternative).stack ≠ [] := by simp [bottomed]
  have rooted : 0 < (state.expand id below alternative).tree.size := by
    rw [tree_of_expand, Tree.size_grow _ _ _ _ inside]
    exact Nat.add_pos_left layout.rooted _
  rw [same] at stacked
  by_cases empty : childForm alternative = []
  · refine ⟨done ++ [id], rooted, Or.inr bottomed, ?_, ?_, layout.rest, ?_⟩
    · rw [tree_of_expand, frontier, stacked, Tree.sprout, if_neg (fun both => both.2 empty), empty]
      rfl
    · rw [tree_of_expand, frontier, Tree.sprout, if_neg (fun both => both.2 empty),
        ← frontier_of_pop input state done layout id others ids]
      exact layout.nodup
    · rw [if_neg filled, List.append_nil, Tree.reading_append, Tree.reading_singleton, read, tree_of_expand,
        Tree.symbol_grow state.tree id state.cursor _ inside id inside, symbol]
      exact List.append_nil _
  · refine ⟨done, rooted, Or.inr bottomed, ?_, ?_, layout.rest, ?_⟩
    · rw [tree_of_expand, frontier, stacked, Tree.sprout, if_pos ⟨rfl, empty⟩, List.append_assoc]
    · rw [tree_of_expand, frontier, Tree.sprout, if_pos ⟨rfl, empty⟩]
      exact nodup_of_expand input state done layout id others ids _
    · rw [if_neg filled, List.append_nil]
      exact read

end Facts

theorem layout_moves (table : Table) (input : List Char) (state next : State) (action : Action) (done : List Nat)
    (layout : Layout input state done) (moves : Moves table state action next) :
    ∃ more, Layout input next more := by
  cases moves with
  | read entry below char rest stack left reads =>
      cases entry with
      | bottom =>
          exact ⟨done, layout_close input state done layout below char rest stack left (Option.some.inj reads)⟩
      | node id => exact ⟨_, layout_match input state done layout id below char rest stack left reads⟩
  | skip id below char rest stack left symbol =>
      exact ⟨_, layout_skip input state done layout id below stack symbol⟩
  | expand id below char rest head alternative stack left symbol found =>
      exact layout_expand input state done layout id below head alternative stack symbol

end State

end TopDown
