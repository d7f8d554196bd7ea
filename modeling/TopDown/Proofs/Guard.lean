import TopDown.Proofs.SententialForm
/-!
What the guard against repetition looks at. A symbol on the trail of a stacked node was turned over
into the part of the stack from the top down to that node, all on the character that is still next.
So a non-terminal that the guard finds above itself has come back to the front of its own form.
-/

set_option autoImplicit false

namespace TopDown

namespace Tree

theorem trail_of_past (tree : Tree) (position id : Nat)
    (past : ∀ above marked, tree.expandedAt above = some marked → marked < position) :
    tree.trail position id = [] := by
  cases link : (tree.node id).parent with
  | none => exact trail_of_root tree position id link
  | some parent =>
      rw [trail_of_parent tree position id parent link, if_neg]
      exact fun marked => Nat.lt_irrefl position (past parent position marked)

end Tree

namespace State

-- The symbol was turned over on the next character into what is stacked from the top to the node.
def Traced (table : Table) (state : State) (char : Char) (front : List Nat) (id : Nat) (symbol : Symbol) : Prop :=
  ∃ behind : Form, Relation.TransGen (table.Turns char) [symbol]
    (front.map state.tree.symbol ++ state.tree.symbol id :: behind)

/-- Stacked nodes are not yet expanded but all their ancestors are, none of them ahead of the cursor,
and the trails of the stacked nodes are traced on the stack. -/
structure Guarded (table : Table) (state : State) : Prop where
  fresh : ∀ id ∈ state.stacked, state.tree.expandedAt id = none
  grown : ∀ id ∈ state.stacked, ∀ above ∈ state.tree.ancestors id, state.tree.expandedAt above ≠ none
  past : ∀ id position, state.tree.expandedAt id = some position → position ≤ state.cursor
  traced : ∀ front id back char rest, state.stacked = front ++ id :: back → state.rest = char :: rest →
    ∀ symbol ∈ state.tree.trail state.cursor id, Traced table state char front id symbol

theorem guarded_initial (table : Table) (start : Char) (input : List Char) :
    Guarded table (initial start input) := by
  have root : ∀ id ∈ (initial start input).stacked, id = 0 := fun id member => List.mem_singleton.mp member
  have unmarked : ∀ id, (initial start input).tree.expandedAt id = none := by
    intro id
    cases id with
    | zero => rfl
    | succ id => exact Tree.expanded_of_size_le _ (id + 1) (Nat.le_add_left 1 id)
  refine ⟨fun id _ => unmarked id, ?_, ?_, ?_⟩
  · intro id member above further
    rw [root id member, Tree.ancestors_of_root _ 0 rfl] at further
    cases further
  · intro id position marked
    rw [unmarked id] at marked
    cases marked
  · intro front id back char rest split left symbol member
    rw [root id (by simp [split]), Tree.trail_of_root _ _ 0 rfl] at member
    cases member

section Moves

variable (table : Table) (state : State) (guarded : Guarded table state)

include guarded

-- After a character is read every mark lies behind the cursor, so that all trails are empty.
theorem guarded_read (entry : Entry) (below : List Entry) (rest : List Char) (stack : state.stack = entry :: below) :
    Guarded table (state.consume below rest) := by
  have part : ∀ id ∈ (state.consume below rest).stacked, id ∈ state.stacked :=
    stacked_of_pop state entry below stack
  refine ⟨fun id member => guarded.fresh id (part id member), fun id member => guarded.grown id (part id member),
    fun id position marked => Nat.le_succ_of_le (guarded.past id position marked), ?_⟩
  intro front id back char others split left symbol member
  have none := Tree.trail_of_past state.tree (state.cursor + 1) id
    fun above marked known => Nat.lt_succ_of_le (guarded.past above marked known)
  have found : symbol ∈ state.tree.trail (state.cursor + 1) id := member
  rw [none] at found
  cases found

theorem guarded_skip (id : Nat) (below : List Entry) (stack : state.stack = .node id :: below)
    (symbol : state.tree.symbol id = .epsilon) : Guarded table (state.drop below) := by
  have ids : state.stacked = id :: (state.drop below).stacked := stacked_of_stack state (.node id) below stack
  have part : ∀ node ∈ (state.drop below).stacked, node ∈ state.stacked :=
    stacked_of_pop state (.node id) below stack
  refine ⟨fun node member => guarded.fresh node (part node member),
    fun node member => guarded.grown node (part node member), guarded.past, ?_⟩
  intro front node back char rest split left other member
  have whole : state.stacked = (id :: front) ++ node :: back := by rw [ids, split]; rfl
  obtain ⟨behind, turning⟩ := guarded.traced (id :: front) node back char rest whole left other member
  rw [List.map_cons, symbol] at turning
  exact ⟨behind, turning.tail (.skip _)⟩

section Expand

variable (input : List Char) (done : List Nat) (layout : Layout input state done)
  (id : Nat) (below : List Entry) (alternative : Form) (stack : state.stack = .node id :: below)

include stack

theorem apart_of_stacked (node : Nat) (member : node ∈ state.stacked) : id ∉ state.tree.ancestors node := by
  intro above
  have ids := stacked_of_stack state (.node id) below stack
  exact guarded.grown node member id above (guarded.fresh id (by simp [ids, Entry.id?]))

include layout

theorem traced_new (head char : Char) (rest : List Char) (left : state.rest = char :: rest)
    (symbol : state.tree.symbol id = .nonTerminal head) (found : table.get? head char = some alternative)
    (front middle : List Nat) (node : Nat)
    (split : List.range' state.tree.size (childForm alternative).length = front ++ node :: middle) :
    ∀ above ∈ (state.expand id below alternative).tree.trail state.cursor node,
      Traced table (state.expand id below alternative) char front node above := by
  obtain ⟨others, ids, _, _⟩ := stack_of_node input state done layout id below stack
  have inside := inside_of_stacked input state done layout id (by simp [ids])
  have symbols := Tree.symbols_grow state.tree id state.cursor (childForm alternative) inside
  rw [split, List.map_append, List.map_cons] at symbols
  intro above member
  rw [tree_of_expand, Tree.trail_grow_new state.tree id state.cursor (childForm alternative) inside node
    (by simp [split])] at member
  have turning : ∃ behind : Form, Relation.TransGen (table.Turns char) [above] (childForm alternative ++ behind) := by
    rcases List.mem_cons.mp member with rfl | further
    · rw [symbol]
      exact ⟨[], .single (.expand head alternative [] found)⟩
    · obtain ⟨behind, turning⟩ := guarded.traced [] id others char rest ids left above further
      rw [symbol] at turning
      exact ⟨behind, turning.tail (.expand head alternative behind found)⟩
  obtain ⟨behind, turned⟩ := turning
  refine ⟨middle.map (state.expand id below alternative).tree.symbol ++ behind, ?_⟩
  rw [← symbols, List.append_assoc] at turned
  exact turned

theorem traced_old (head char : Char) (rest : List Char) (left : state.rest = char :: rest)
    (symbol : state.tree.symbol id = .nonTerminal head) (found : table.get? head char = some alternative)
    (middle back : List Nat) (node : Nat) (split : state.stacked = id :: (middle ++ node :: back)) :
    ∀ above ∈ (state.expand id below alternative).tree.trail state.cursor node,
      Traced table (state.expand id below alternative) char
        (List.range' state.tree.size (childForm alternative).length ++ middle) node above := by
  have inside := inside_of_stacked input state done layout id (by simp [split])
  have stacked : node ∈ state.stacked := by simp [split]
  have old := inside_of_stacked input state done layout node stacked
  have kept := Tree.symbol_grow state.tree id state.cursor (childForm alternative) inside
  have symbols := Tree.symbols_grow state.tree id state.cursor (childForm alternative) inside
  have others : middle.map (state.expand id below alternative).tree.symbol = middle.map state.tree.symbol :=
    List.map_congr_left fun other member =>
      kept other (inside_of_stacked input state done layout other (by simp [split, member]))
  intro above member
  rw [tree_of_expand, Tree.trail_grow state.tree id state.cursor _ inside node state.cursor old
    (apart_of_stacked table state guarded id below stack node stacked)] at member
  obtain ⟨behind, turning⟩ := guarded.traced (id :: middle) node back char rest split left above member
  rw [List.map_cons, symbol] at turning
  refine ⟨behind, ?_⟩
  rw [List.map_append, others, List.append_assoc, tree_of_expand, symbols, kept node old]
  exact turning.tail (.expand head alternative _ found)

theorem fresh_of_expand (node : Nat) (member : node ∈ (state.expand id below alternative).stacked) :
    (state.expand id below alternative).tree.expandedAt node = none := by
  obtain ⟨others, ids, _, same⟩ := stack_of_node input state done layout id below stack
  have inside := inside_of_stacked input state done layout id (by simp [ids])
  have alone := (List.nodup_cons.mp (ids ▸ nodup_stacked input state done layout)).1
  rw [stacked_of_expand, same] at member
  rw [tree_of_expand, Tree.expanded_grow state.tree id state.cursor _ inside node]
  rcases List.mem_append.mp member with new | other
  · have bounds := List.mem_range'_1.mp new
    rw [if_neg (by omega), Tree.expanded_of_size_le state.tree node bounds.1]
  · have different : node ≠ id := fun top => alone (top ▸ other)
    rw [if_neg different]
    exact guarded.fresh node (by simp [ids, other])

-- The new children stand below the expanded node, every other node where it stood before.
theorem grown_of_expand (node : Nat) (member : node ∈ (state.expand id below alternative).stacked) (above : Nat)
    (known : above ∈ (state.expand id below alternative).tree.ancestors node) :
    (state.expand id below alternative).tree.expandedAt above ≠ none := by
  obtain ⟨others, ids, _, same⟩ := stack_of_node input state done layout id below stack
  have inside := inside_of_stacked input state done layout id (by simp [ids])
  rw [stacked_of_expand, same] at member
  rw [tree_of_expand] at known
  rw [tree_of_expand, Tree.expanded_grow state.tree id state.cursor _ inside above]
  by_cases top : above = id
  · simp [top]
  · rw [if_neg top]
    rcases List.mem_append.mp member with new | other
    · rw [Tree.ancestors_grow_new state.tree id state.cursor _ inside node new] at known
      rcases List.mem_cons.mp known with here | further
      · exact absurd here top
      · exact guarded.grown id (by simp [ids]) above further
    · have stacked : node ∈ state.stacked := by simp [ids, other]
      rw [Tree.ancestors_grow state.tree id state.cursor _ inside node
        (inside_of_stacked input state done layout node stacked)] at known
      exact guarded.grown node stacked above known

theorem past_of_expand (node position : Nat)
    (marked : (state.expand id below alternative).tree.expandedAt node = some position) : position ≤ state.cursor := by
  obtain ⟨others, ids, _, _⟩ := stack_of_node input state done layout id below stack
  have inside := inside_of_stacked input state done layout id (by simp [ids])
  rw [tree_of_expand, Tree.expanded_grow state.tree id state.cursor _ inside node] at marked
  by_cases top : node = id
  · rw [if_pos top] at marked
    exact Nat.le_of_eq (Option.some.inj marked).symm
  · rw [if_neg top] at marked
    exact guarded.past node position marked

theorem guarded_expand (head char : Char) (rest : List Char) (left : state.rest = char :: rest)
    (symbol : state.tree.symbol id = .nonTerminal head) (found : table.get? head char = some alternative) :
    Guarded table (state.expand id below alternative) := by
  refine ⟨fresh_of_expand table state guarded input done layout id below alternative stack,
    grown_of_expand table state guarded input done layout id below alternative stack,
    past_of_expand table state guarded input done layout id below alternative stack, ?_⟩
  intro front node back next more split here above member
  cases left.symm.trans here
  obtain ⟨others, ids, _, same⟩ := stack_of_node input state done layout id below stack
  rw [stacked_of_expand, same] at split
  rcases split_at_symbol front back _ _ node split with ⟨middle, new, _⟩ | ⟨middle, old, rfl⟩
  · exact traced_new table state guarded input done layout id below alternative stack head char rest left symbol
      found front middle node new above member
  · exact traced_old table state guarded input done layout id below alternative stack head char rest left symbol
      found middle back node (by rw [ids, old]) above member

end Expand

theorem guarded_moves (input : List Char) (done : List Nat) (layout : Layout input state done) (next : State)
    (action : Action) (moves : Moves table state action next) : Guarded table next := by
  cases moves with
  | read entry below char rest stack left reads => exact guarded_read table state guarded entry below rest stack
  | skip id below char rest stack left symbol => exact guarded_skip table state guarded id below stack symbol
  | expand id below char rest head alternative stack left symbol found =>
      exact guarded_expand table state guarded input done layout id below alternative stack head char rest left
        symbol found

-- The guard only refuses a non-terminal that has come back to the front of its own form.
theorem returns_of_repetition (failure : Failure) (blocked : state.repetition? table = some failure) :
    ∃ id below char rest left behind, state.stack = .node id :: below ∧ state.rest = char :: rest ∧
      state.tree.symbol id = .nonTerminal left ∧
      Relation.TransGen (table.Turns char) [.nonTerminal left] (.nonTerminal left :: behind) := by
  obtain ⟨id, below, char, rest, head, stack, left, symbol, again, _⟩ := repetition_cases table state failure blocked
  have ids : state.stacked = [] ++ id :: below.filterMap Entry.id? := stacked_of_stack state (.node id) below stack
  obtain ⟨behind, turning⟩ := guarded.traced [] id _ char rest ids left _ again
  rw [symbol] at turning
  exact ⟨id, below, char, rest, head, behind, stack, left, symbol, turning⟩

end Moves

end State

end TopDown
