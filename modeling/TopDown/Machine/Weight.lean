import TopDown.Machine
/-!
Why the machine halts. While the input position stays, a stack entry can only be expanded into
non-terminals that are not on its trail yet, so what grows out of it is bounded by a geometric sum.
Every move either consumes a character or lowers the sum of these weights over the stack.
-/

set_option autoImplicit false

namespace TopDown

namespace Table

-- The non-terminals that own a filled cell.
def heads (table : Table) : OrderedSet Char := .ofList (table.cells.map (·.1.1))

-- The length of the longest alternative in a cell.
def width (table : Table) : Nat := (table.cells.map (·.2.length)).foldr max 0

theorem get_mem (table : Table) (nonTerminal terminal : Char) (alternative : Form)
    (found : table.get? nonTerminal terminal = some alternative) :
    ((nonTerminal, terminal), alternative) ∈ table.cells := by
  obtain ⟨front, back, split, _⟩ := List.lookup_eq_some_iff.mp found
  rw [split]
  exact List.mem_append.mpr (Or.inr (List.mem_cons_self))

theorem head_of_get (table : Table) (nonTerminal terminal : Char) (alternative : Form)
    (found : table.get? nonTerminal terminal = some alternative) : nonTerminal ∈ table.heads :=
  (OrderedSet.mem_of_list _ _).mpr (List.mem_map.mpr ⟨_, get_mem table _ _ _ found, rfl⟩)

theorem le_foldr_max (values : List Nat) (value : Nat) (member : value ∈ values) :
    value ≤ values.foldr max 0 := by
  induction values with
  | nil => cases member
  | cons first rest ih =>
      rw [List.foldr_cons]
      rcases List.mem_cons.mp member with same | further
      · omega
      · have bound := ih further
        omega

theorem length_le_width (table : Table) (nonTerminal terminal : Char) (alternative : Form)
    (found : table.get? nonTerminal terminal = some alternative) : alternative.length ≤ table.width :=
  le_foldr_max _ _ (List.mem_map.mpr ⟨_, get_mem table _ _ _ found, rfl⟩)

end Table

-- The sum 1 + width + ... + width ^ depth: the nodes of a full tree.
def geometric (width : Nat) : Nat → Nat
  | 0 => 1
  | depth + 1 => 1 + width * geometric width depth

theorem geometric_step (width depth : Nat) : geometric width depth ≤ geometric width (depth + 1) := by
  induction depth with
  | zero => simp [geometric]
  | succ depth ih =>
      have scaled := Nat.mul_le_mul_left width ih
      rw [geometric, geometric]
      omega

theorem geometric_mono (width small large : Nat) (ordered : small ≤ large) :
    geometric width small ≤ geometric width large := by
  induction large with
  | zero =>
      have zero : small = 0 := by omega
      exact Nat.le_of_eq (congrArg (geometric width) zero)
  | succ large ih =>
      by_cases same : small = large + 1
      · exact Nat.le_of_eq (congrArg (geometric width) same)
      · exact Nat.le_trans (ih (by omega)) (geometric_step width large)

theorem geometric_pos (width depth : Nat) : 0 < geometric width depth := by
  cases depth with
  | zero => exact Nat.one_pos
  | succ depth =>
      rw [geometric]
      omega

theorem length_filter_le {α : Type} (values : List α) (small large : α → Bool)
    (ordered : ∀ value ∈ values, small value = true → large value = true) :
    (values.filter small).length ≤ (values.filter large).length := by
  induction values with
  | nil => exact Nat.le_refl _
  | cons first rest ih =>
      have tail := ih (fun value member => ordered value (by simp [member]))
      cases kept : small first with
      | false => cases wider : large first <;> simp [kept, wider] <;> omega
      | true => simp [kept, ordered first (by simp) kept, tail]

theorem length_filter_lt {α : Type} (values : List α) (small large : α → Bool)
    (ordered : ∀ value ∈ values, small value = true → large value = true) (lost : α)
    (member : lost ∈ values) (outside : small lost = false) (inside : large lost = true) :
    (values.filter small).length < (values.filter large).length := by
  induction values with
  | nil => cases member
  | cons first rest ih =>
      have tailOrdered : ∀ value ∈ rest, small value = true → large value = true :=
        fun value known => ordered value (by simp [known])
      rcases List.mem_cons.mp member with same | further
      · have shorter := length_filter_le rest small large tailOrdered
        subst same
        simp [outside, inside]
        omega
      · have shorter := ih tailOrdered further
        cases kept : small first with
        | false => cases wider : large first <;> simp [kept, wider] <;> omega
        | true => simp [kept, ordered first (by simp) kept, shorter]

namespace State

-- How many heads are not on the trail of an entry yet.
def room (table : Table) (tree : Tree) (cursor : Nat) : Entry → Nat
  | .bottom => table.heads.size
  | .node id =>
      if id < tree.size then
        (table.heads.toList.filter fun head => .nonTerminal head ∉ tree.trail cursor id).length
      else table.heads.size

def entryWeight (table : Table) (tree : Tree) (cursor : Nat) (entry : Entry) : Nat :=
  geometric table.width (room table tree cursor entry)

def weight (table : Table) (state : State) : Nat :=
  total (entryWeight table state.tree state.cursor) state.stack

theorem room_le_heads (table : Table) (tree : Tree) (cursor : Nat) (entry : Entry) :
    room table tree cursor entry ≤ table.heads.size := by
  cases entry with
  | bottom => exact Nat.le_refl _
  | node id =>
      rw [room]
      split
      · exact List.length_filter_le _ _
      · exact Nat.le_refl _

theorem room_expanded (table : Table) (tree : Tree) (cursor id : Nat) (form : Form)
    (inside : id < tree.size) (entry : Entry) :
    room table ((tree.markExpanded id cursor).addChildren id form) cursor entry ≤
      room table tree cursor entry := by
  cases entry with
  | bottom => exact Nat.le_refl _
  | node other =>
      by_cases old : other < tree.size
      · have marked : other < (tree.markExpanded id cursor).size := by
          rw [Tree.size_mark_expanded]
          exact old
        have parent : id < (tree.markExpanded id cursor).size := by
          rw [Tree.size_mark_expanded]
          exact inside
        have still : other < ((tree.markExpanded id cursor).addChildren id form).size := by
          rw [Tree.size_add_children _ _ _ parent]
          omega
        rw [room, room, if_pos old, if_pos still]
        refine length_filter_le _ _ _ ?_
        intro head _ free
        simp only [decide_eq_true_eq] at free ⊢
        intro blocked
        exact free (Tree.trail_add_children _ id form cursor other marked parent _
          (Tree.trail_mark_expanded tree id cursor other _ blocked))
      · have full : room table tree cursor (.node other) = table.heads.size := by rw [room, if_neg old]
        rw [full]
        exact room_le_heads _ _ _ _

theorem room_new_child (table : Table) (tree : Tree) (cursor id left : Nat) (form : Form) (head : Char)
    (inside : id < tree.size) (symbol : tree.symbol id = .nonTerminal head) (owns : head ∈ table.heads)
    (free : Symbol.nonTerminal head ∉ tree.trail cursor id)
    (old : tree.size ≤ left) (new : left < tree.size + form.length) :
    room table ((tree.markExpanded id cursor).addChildren id form) cursor (.node left) <
      room table tree cursor (.node id) := by
  have parent : id < (tree.markExpanded id cursor).size := by
    rw [Tree.size_mark_expanded]
    exact inside
  have grown := Tree.size_add_children (tree.markExpanded id cursor) id form parent
  rw [Tree.size_mark_expanded] at grown
  have marked : (tree.markExpanded id cursor).expandedAt id = some cursor := by
    rw [Tree.expandedAt, Tree.node_mark_expanded, if_pos ⟨rfl, inside⟩]
    rfl
  have handed := Tree.trail_new_children (tree.markExpanded id cursor) id form cursor parent marked left
    (by rw [Tree.size_mark_expanded]; exact old) (by rw [Tree.size_mark_expanded]; exact new)
  rw [Tree.mark_expanded_symbol, symbol] at handed
  rw [room, room, if_pos inside, if_pos (by omega)]
  refine length_filter_lt _ _ _ ?_ head owns ?_ (decide_eq_true free)
  · intro other _ otherFree
    simp only [decide_eq_true_eq] at otherFree ⊢
    intro blocked
    exact otherFree (handed _ (List.mem_cons.mpr
      (Or.inr (Tree.trail_mark_expanded tree id cursor id _ blocked))))
  · exact decide_eq_false (fun absent => absent (handed _ (List.mem_cons.mpr (Or.inl rfl))))

theorem child_form_length (alternative : Form) : (childForm alternative).length ≤ alternative.length := by
  unfold childForm
  split
  · exact Nat.zero_le _
  · exact Nat.le_refl _

theorem in_range_of_non_terminal (tree : Tree) (id : Nat) (head : Char)
    (symbol : tree.symbol id = .nonTerminal head) : id < tree.size := by
  by_cases inside : id < tree.size
  · exact inside
  · rw [Tree.symbol, Tree.node_of_size_le tree id (Nat.le_of_not_lt inside)] at symbol
    cases symbol

theorem weight_expand (table : Table) (state : State) (id : Nat) (below : List Entry) (head current : Char)
    (alternative : Form) (stacked : state.stack = .node id :: below)
    (symbol : state.tree.symbol id = .nonTerminal head)
    (found : table.get? head current = some alternative)
    (free : Symbol.nonTerminal head ∉ state.tree.trail state.cursor id) :
    (state.expand id below alternative).weight table < state.weight table := by
  have inside := in_range_of_non_terminal state.tree id head symbol
  have owns := table.head_of_get head current alternative found
  have short := table.length_le_width head current alternative found
  have shorter := child_form_length alternative
  generalize roomEq : room table state.tree state.cursor (.node id) = freeHeads
  have children : total (fun child => entryWeight table
      ((state.tree.markExpanded id state.cursor).addChildren id (childForm alternative)) state.cursor (.node child))
        (List.range' state.tree.size (childForm alternative).length) ≤
          (childForm alternative).length * geometric table.width (freeHeads - 1) := by
    have counted := total_le_of_bound (fun child => entryWeight table
      ((state.tree.markExpanded id state.cursor).addChildren id (childForm alternative)) state.cursor (.node child))
      (geometric table.width (freeHeads - 1)) (List.range' state.tree.size (childForm alternative).length) ?_
    · rwa [List.length_range'] at counted
    · intro child member
      have bounds := List.mem_range'_1.mp member
      have smaller := room_new_child table state.tree state.cursor id child (childForm alternative) head
        inside symbol owns free bounds.1 bounds.2
      exact geometric_mono _ _ _ (by omega)
  have others : total (entryWeight table
      ((state.tree.markExpanded id state.cursor).addChildren id (childForm alternative)) state.cursor) below ≤
        total (entryWeight table state.tree state.cursor) below :=
    total_mono _ _ _ fun entry _ => geometric_mono _ _ _
      (room_expanded table state.tree state.cursor id (childForm alternative) inside entry)
  have positive : 0 < freeHeads := by
    rw [← roomEq, room, if_pos inside]
    exact List.length_pos_of_mem (List.mem_filter.mpr ⟨owns, decide_eq_true free⟩)
  have parent : entryWeight table state.tree state.cursor (.node id) =
      1 + table.width * geometric table.width (freeHeads - 1) := by
    rw [entryWeight, roomEq]
    cases freeHeads with
    | zero => omega
    | succ depth => rfl
  have product : (childForm alternative).length * geometric table.width (freeHeads - 1) ≤
      table.width * geometric table.width (freeHeads - 1) :=
    Nat.mul_le_mul_right _ (Nat.le_trans shorter short)
  simp only [weight, expand, stacked, total_append, total_map, total, parent]
  omega

theorem weight_drop (table : Table) (state : State) (entry : Entry) (below : List Entry)
    (stacked : state.stack = entry :: below) : (state.drop below).weight table < state.weight table := by
  have positive := geometric_pos table.width (room table state.tree state.cursor entry)
  simp only [weight, drop, stacked, total, entryWeight]
  omega

-- What an entry weighs at most, whatever its trail.
def ceiling (table : Table) : Nat := geometric table.width table.heads.size

theorem weight_consume (table : Table) (state : State) (entry : Entry) (below : List Entry) (rest : List Char)
    (stacked : state.stack = entry :: below) :
    (state.consume below rest).weight table ≤ state.weight table * ceiling table := by
  have bounded : ∀ position, ∀ other ∈ below,
      entryWeight table state.tree position other ≤ ceiling table := fun position other _ =>
    geometric_mono _ _ _ (room_le_heads table state.tree position other)
  have after := total_le_of_bound _ _ _ (bounded (state.cursor + 1))
  have before : below.length ≤ state.weight table := by
    have counted := length_le_total (entryWeight table state.tree state.cursor) below
      (fun other _ => geometric_pos _ _)
    rw [weight, stacked, total]
    omega
  exact Nat.le_trans after (Nat.mul_le_mul_right _ before)

-- How many moves a weight allows when each of the characters left may multiply it by a factor.
def budget (factor : Nat) : Nat → Nat → Nat
  | 0, weight => weight
  | left + 1, weight => budget factor left (weight * factor) + 1

theorem budget_mono (factor left small large : Nat) (ordered : small ≤ large) :
    budget factor left small ≤ budget factor left large := by
  induction left generalizing small large with
  | zero => exact ordered
  | succ left ih => exact Nat.succ_le_succ (ih _ _ (Nat.mul_le_mul_right factor ordered))

theorem budget_lt (factor left small large : Nat) (positive : 0 < factor) (ordered : small < large) :
    budget factor left small < budget factor left large := by
  induction left generalizing small large with
  | zero => exact ordered
  | succ left ih => exact Nat.succ_lt_succ (ih _ _ (Nat.mul_lt_mul_of_pos_right ordered positive))

-- A bound on the moves that are left: a stack may grow by the ceiling with each character.
def potential (table : Table) (state : State) : Nat :=
  budget (ceiling table) state.rest.length (state.weight table)

theorem potential_lighter (table : Table) (state next : State) (same : next.rest = state.rest)
    (lighter : next.weight table < state.weight table) : next.potential table < state.potential table := by
  rw [potential, potential, same]
  exact budget_lt _ _ _ _ (geometric_pos _ _) lighter

theorem potential_shorter (table : Table) (state next : State) (shorter : state.rest.length = next.rest.length + 1)
    (bounded : next.weight table ≤ state.weight table * ceiling table) :
    next.potential table < state.potential table := by
  rw [potential, potential, shorter, budget]
  exact Nat.lt_succ_of_le (budget_mono _ _ _ _ bounded)

theorem repetition_of_trail (table : Table) (state : State) (id : Nat) (below : List Entry) (rest : List Char)
    (head current : Char) (alternative : Form) (stacked : state.stack = .node id :: below)
    (left : state.rest = current :: rest) (symbol : state.tree.symbol id = .nonTerminal head)
    (found : table.get? head current = some alternative)
    (blocked : Symbol.nonTerminal head ∈ state.tree.trail state.cursor id) :
    state.repetition? table = some (.leftRecursion head state.cursor) := by
  simp only [repetition?, stacked, left, symbol, found, blocked, Option.isSome_some, and_self, if_true]

theorem consume_decreases (table : Table) (state : State) (entry : Entry) (below : List Entry) (current : Char)
    (rest : List Char) (stacked : state.stack = entry :: below) (left : state.rest = current :: rest) :
    (state.consume below rest).potential table < state.potential table :=
  potential_shorter table state _ (congrArg List.length left)
    (weight_consume table state entry below rest stacked)

theorem match_decreases (table : Table) (state next : State) (action accepted : Action) (entry : Entry)
    (below : List Entry) (current : Char) (rest : List Char) (expected : Char) (failure : Failure)
    (stacked : state.stack = entry :: below) (left : state.rest = current :: rest)
    (moved : (if expected = current then Move.proceed accepted (state.consume below rest) else .refuse failure) =
      .proceed action next) : next.potential table < state.potential table := by
  by_cases same : expected = current
  · rw [if_pos same] at moved
    cases moved
    exact consume_decreases table state entry below current rest stacked left
  · rw [if_neg same] at moved
    cases moved

theorem node_decreases (table : Table) (state next : State) (action : Action) (id : Nat) (below : List Entry)
    (current : Char) (rest : List Char) (stacked : state.stack = .node id :: below)
    (left : state.rest = current :: rest) (unblocked : state.repetition? table = none)
    (moved : state.advance table = .proceed action next) : next.potential table < state.potential table := by
  cases symbol : state.tree.symbol id with
  | terminal char =>
      simp only [advance, stacked, left, symbol] at moved
      exact match_decreases table state next action _ _ below current rest _ _ stacked left moved
  | endOfInput =>
      simp only [advance, stacked, left, symbol] at moved
      exact match_decreases table state next action _ _ below current rest _ _ stacked left moved
  | epsilon =>
      simp only [advance, stacked, left, symbol] at moved
      cases moved
      exact potential_lighter table state _ rfl (weight_drop table state (.node id) below stacked)
  | nonTerminal head =>
      cases found : table.get? head current with
      | none =>
          simp only [advance, stacked, left, symbol, found] at moved
          cases moved
      | some alternative =>
          simp only [advance, stacked, left, symbol, found] at moved
          cases moved
          refine potential_lighter table state _ rfl
            (weight_expand table state id below head current alternative stacked symbol found ?_)
          intro blocked
          rw [repetition_of_trail table state id below rest head current alternative stacked left symbol found
            blocked] at unblocked
          cases unblocked

/-- Every move that goes on lowers the potential: it consumes a character or lightens the stack. -/
theorem step_decreases (table : Table) (state next : State) (action : Action)
    (moved : state.step table = .proceed action next) : next.potential table < state.potential table := by
  cases unblocked : state.repetition? table with
  | some failure =>
      simp only [step, unblocked] at moved
      cases moved
  | none =>
      simp only [step, unblocked] at moved
      cases stacked : state.stack with
      | nil =>
          simp only [advance, stacked] at moved
          cases moved
      | cons entry below =>
          cases left : state.rest with
          | nil =>
              cases entry <;> (simp only [advance, stacked, left] at moved; cases moved)
          | cons current rest =>
              cases entry with
              | node id =>
                  exact node_decreases table state next action id below current rest stacked left unblocked moved
              | bottom =>
                  simp only [advance, stacked, left] at moved
                  exact match_decreases table state next action _ _ below current rest _ _ stacked left moved

-- A step together with the reason why it does not go on for ever.
def boundedStep (table : Table) (state : State) :
    { move : Move // ∀ action next, move = .proceed action next → next.potential table < state.potential table } :=
  ⟨state.step table, fun action next moved => step_decreases table state next action moved⟩

end State

end TopDown
