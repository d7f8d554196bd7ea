import Mathlib.Data.List.Nodup
import TopDown.Proofs.ParseTree
import TopDown.Proofs.TraceSteps
/-!
The stack and the tree of a run side by side. A run is told here with the work it has done: which entry each move took
off the stack, and what it did with it. The nodes on the stack are what the work has left of the frontier.
-/

set_option autoImplicit false

namespace TopDown

namespace Tree

/-- Every node but the root is the child of one node, which stands before it, and once only; the children of a node
come in a row. -/
structure Threaded (tree : Tree) : Prop where
  rooted : 0 < tree.size
  linked : ∀ id, 0 < id → id < tree.size → ∃ parent, parent < id ∧ (tree.node id).parent = some parent ∧
    ∀ other, (tree.children other).count id = if other = parent then 1 else 0
  consecutive : ∀ id, ∃ first, tree.children id = List.range' first (tree.children id).length
  bounded : ∀ id child, child ∈ tree.children id → child < tree.size

theorem children_leaf (symbol : Symbol) (id : Nat) : (leaf symbol).children id = [] := by
  cases id with
  | zero => rfl
  | succ id => exact children_of_size_le _ (id + 1) (Nat.le_add_left 1 id)

theorem hung_of_threaded (tree : Tree) (threaded : tree.Threaded) : tree.Hung := ⟨threaded.rooted, threaded.linked⟩

theorem threaded_leaf (symbol : Symbol) : (leaf symbol).Threaded where
  rooted := (hung_leaf symbol).rooted
  linked := (hung_leaf symbol).linked
  consecutive id := ⟨0, by rw [children_leaf]; rfl⟩
  bounded id child member := by
    rw [children_leaf] at member
    cases member

theorem threaded_grow (tree : Tree) (target position : Nat) (form : Form) (inside : target < tree.size)
    (childless : tree.children target = []) (threaded : tree.Threaded) :
    (tree.grow target position form).Threaded where
  rooted := (hung_grow tree (hung_of_threaded tree threaded) target position form inside).rooted
  linked := (hung_grow tree (hung_of_threaded tree threaded) target position form inside).linked
  consecutive id := by
    rw [children_grow tree target position form inside id]
    by_cases same : id = target
    · refine ⟨tree.size, ?_⟩
      rw [if_pos same, childless, List.nil_append, List.length_range']
    · rw [if_neg same]
      exact threaded.consecutive id
  bounded id child member := ((tree.grow target position form).child_bounds id child member).2

end Tree

/-- What a move did with the entry that it took off the stack. -/
structure Deed where
  entry : Entry
  action : Action

namespace Deed

def matched? : Deed → Option Nat
  | ⟨.node id, .accept _⟩ => some id
  | _ => none

def expanded? : Deed → Option Nat
  | ⟨.node id, .expand _ _⟩ => some id
  | _ => none

-- A stack of symbols after the move, for a stack that has its own symbols and no nodes.
def restack (form : Form) (deed : Deed) : Form :=
  match deed.action with
  | .expand _ alternative => State.childForm alternative ++ form.tail
  | .accept _ => form.tail
  | .reject => form

-- The nodes that were taken off the stack.
def dealt (work : List Deed) : List Nat := work.filterMap (·.entry.id?)

theorem node_of_deed (deed : Deed) (goes : deed.action ≠ .reject) (id : Nat) :
    deed.entry.id? = some id ↔ deed.matched? = some id ∨ deed.expanded? = some id := by
  obtain ⟨entry, action⟩ := deed
  cases entry with
  | bottom => simp [Entry.id?, matched?, expanded?]
  | node other =>
      cases action with
      | accept symbol => simp [Entry.id?, matched?, expanded?]
      | expand left alternative => simp [Entry.id?, matched?, expanded?]
      | reject => exact absurd rfl goes

theorem dealt_append (work : List Deed) (deed : Deed) : dealt (work ++ [deed]) = dealt work ++ deed.entry.id?.toList := by
  rw [dealt, dealt, List.filterMap_append, List.filterMap_cons]
  cases deed.entry.id? <;> rfl

theorem mem_dealt_append (work : List Deed) (id : Nat) (action : Action) (node : Nat) :
    node ∈ dealt (work ++ [⟨.node id, action⟩]) ↔ node ∈ dealt work ∨ node = id := by
  rw [dealt_append, List.mem_append]
  exact or_congr_right (by simp [Entry.id?, eq_comm])

end Deed

namespace State

/-- The moves of a run so far, as what they did. -/
inductive Works (table : Table) (origin : State) : List Deed → State → Prop where
  | rest : Works table origin [] origin
  | move (work : List Deed) (state next : State) (entry : Entry) (below : List Entry) (action : Action)
      (before : Works table origin work state) (stack : state.stack = entry :: below)
      (moved : state.step table = .proceed action next) : Works table origin (work ++ [⟨entry, action⟩]) next

/-- How the stack, the tree and the work done so far fit together. -/
structure Aligned (start : Char) (work : List Deed) (state : State) : Prop where
  threaded : state.tree.Threaded
  bottomed : state.stack = [] ∨ state.stack = state.stacked.map .node ++ [.bottom]
  childless : ∀ id ∈ state.stacked, id < state.tree.size ∧ state.tree.children id = []
  nodup : state.stacked.Nodup
  labelled : state.form = work.foldl Deed.restack [.nonTerminal start, .endOfInput]
  left : state.stacked = (state.tree.frontier 0).filter fun id =>
    id ∉ work.filterMap Deed.matched? ∧ id ∉ work.filterMap Deed.expanded?
  counted : work.length + state.stack.length = state.tree.size + 1

-- Whatever has left the frontier of the stack has been dealt with, and nothing else has.
structure Tended (work : List Deed) (state : State) : Prop where
  cleared : ∀ leaf ∈ state.tree.frontier 0, leaf ∉ state.stacked → leaf ∈ Deed.dealt work
  untouched : ∀ id ∈ state.stacked, id ∉ Deed.dealt work
  known : ∀ id ∈ Deed.dealt work, id < state.tree.size

theorem tended_initial (start : Char) (input : List Char) : Tended [] (initial start input) where
  cleared leaf member free := by
    have root : (initial start input).tree.frontier 0 = [0] := Tree.frontier_of_childless _ 0 rfl
    rw [root] at member
    exact absurd member free
  untouched id member := List.not_mem_nil
  known id member := nomatch member

section Moves

variable (input : List Char) (state : State) (done : List Nat) (layout : Layout input state done) (work : List Deed)
  (tended : Tended work state)

include layout tended

theorem tended_pop (entry : Entry) (below : List Entry) (action : Action) (next : State)
    (stack : state.stack = entry :: below) (tree : next.tree = state.tree) (popped : next.stack = below) :
    Tended (work ++ [⟨entry, action⟩]) next := by
  have split : state.stacked = entry.id?.toList ++ next.stacked := by
    rw [stacked_of_stack state entry below stack, stacked, popped]
  have apart := (List.nodup_append.mp (split ▸ nodup_stacked input state done layout)).2.2
  refine ⟨fun leaf member free => ?_, fun id member dealt => ?_, fun id dealt => ?_⟩
  · rw [tree] at member
    rw [Deed.dealt_append, List.mem_append]
    by_cases top : leaf ∈ entry.id?.toList
    · exact Or.inr top
    · refine Or.inl (tended.cleared leaf member fun inside => ?_)
      rw [split] at inside
      exact (List.mem_append.mp inside).elim top free
  · rw [Deed.dealt_append, List.mem_append] at dealt
    rcases dealt with before | top
    · exact tended.untouched id (by simp [split, member]) before
    · exact apart id top id member rfl
  · rw [Deed.dealt_append, List.mem_append] at dealt
    rw [tree]
    rcases dealt with before | top
    · exact tended.known id before
    · exact inside_of_stacked input state done layout id (by simp only [split, List.mem_append, top, true_or])

section Expand

variable (id : Nat) (below : List Entry) (alternative : Form) (action : Action) (stack : state.stack = .node id :: below)

include stack

-- The expanded node either has children now, and they are stacked, or is a leaf that was dealt with.
theorem cleared_expand (leaf : Nat) (member : leaf ∈ (state.expand id below alternative).tree.frontier 0)
    (free : leaf ∉ (state.expand id below alternative).stacked) :
    leaf ∈ Deed.dealt (work ++ [⟨.node id, action⟩]) := by
  obtain ⟨others, ids, _, same⟩ := stack_of_node input state done layout id below stack
  have inside := inside_of_stacked input state done layout id (by simp [ids])
  have childless := childless_of_stacked input state done layout id (by simp [ids])
  rw [tree_of_expand, Tree.frontier_grow state.tree id state.cursor _ inside childless 0 layout.rooted] at member
  rw [stacked_of_expand, same, List.mem_append, not_or] at free
  rw [Deed.mem_dealt_append]
  obtain ⟨old, known, sprouted⟩ := List.mem_flatMap.mp member
  rw [Tree.sprout] at sprouted
  by_cases grown : old = id ∧ childForm alternative ≠ []
  · rw [if_pos grown] at sprouted
    exact absurd sprouted free.1
  · rw [if_neg grown] at sprouted
    cases List.mem_singleton.mp sprouted
    by_cases top : leaf = id
    · exact Or.inr top
    · refine Or.inl (tended.cleared leaf known fun stacked => ?_)
      rw [ids] at stacked
      exact (List.mem_cons.mp stacked).elim top free.2

theorem tended_expand : Tended (work ++ [⟨.node id, action⟩]) (state.expand id below alternative) := by
  obtain ⟨others, ids, _, same⟩ := stack_of_node input state done layout id below stack
  have inside := inside_of_stacked input state done layout id (by simp [ids])
  have alone := (List.nodup_cons.mp (ids ▸ nodup_stacked input state done layout)).1
  refine ⟨cleared_expand input state done layout work tended id below alternative action stack,
    fun node member dealt => ?_, fun node dealt => ?_⟩
  · rw [stacked_of_expand, same, List.mem_append] at member
    rcases (Deed.mem_dealt_append work id action node).mp dealt with before | rfl
    · rcases member with new | old
      · have lower := tended.known node before
        have bounds := List.mem_range'_1.mp new
        omega
      · exact tended.untouched node (by simp [ids, old]) before
    · rcases member with new | old
      · have bounds := List.mem_range'_1.mp new
        omega
      · exact alone old
  · rw [tree_of_expand, Tree.size_grow _ _ _ _ inside]
    rcases (Deed.mem_dealt_append work id action node).mp dealt with before | rfl
    · exact Nat.lt_add_right _ (tended.known node before)
    · exact Nat.lt_add_right _ inside

end Expand

theorem tended_moves (table : Table) (next : State) (entry : Entry) (below : List Entry) (action : Action)
    (stack : state.stack = entry :: below) (moves : Moves table state action next) :
    Tended (work ++ [⟨entry, action⟩]) next := by
  cases moves with
  | read top others char rest shape left reads =>
      cases stack.symm.trans shape
      exact tended_pop input state done layout work tended entry below _ _ stack rfl rfl
  | skip id others char rest shape left symbol =>
      cases stack.symm.trans shape
      exact tended_pop input state done layout work tended _ below _ _ stack rfl rfl
  | expand id others char rest head alternative shape left symbol found =>
      cases stack.symm.trans shape
      exact tended_expand input state done layout work tended id below alternative _ stack

end Moves

theorem threaded_moves (table : Table) (input : List Char) (state next : State) (action : Action) (done : List Nat)
    (layout : Layout input state done) (threaded : state.tree.Threaded) (moves : Moves table state action next) :
    next.tree.Threaded := by
  cases moves with
  | read entry below char rest stack left reads => exact threaded
  | skip id below char rest stack left symbol => exact threaded
  | expand id below char rest head alternative stack left symbol found =>
      have stacked : id ∈ state.stacked := by simp [stacked_of_stack state _ below stack, Entry.id?]
      exact Tree.threaded_grow state.tree id state.cursor (childForm alternative)
        (inside_of_stacked input state done layout id stacked)
        (childless_of_stacked input state done layout id stacked) threaded

-- The labels of the stacked nodes change as a stack of bare symbols would.
theorem labelled_moves (table : Table) (input : List Char) (state next : State) (entry : Entry) (action : Action)
    (done : List Nat) (layout : Layout input state done) (moves : Moves table state action next) :
    next.form = Deed.restack state.form ⟨entry, action⟩ := by
  cases moves with
  | read entry below char rest stack left reads =>
      rw [form_of_stack state entry below stack]
      rfl
  | skip id below char rest stack left symbol =>
      rw [form_of_stack state _ below stack]
      rfl
  | expand id below char rest head alternative stack left symbol found =>
      rw [form_of_stack state _ below stack, form_of_expand input state done layout id below alternative stack]
      rfl

-- Every move takes one entry off the stack, and what it puts on is new to the tree.
theorem counted_moves (table : Table) (input : List Char) (state next : State) (action : Action) (done : List Nat)
    (layout : Layout input state done) (moves : Moves table state action next) :
    next.stack.length + state.tree.size + 1 = state.stack.length + next.tree.size := by
  cases moves with
  | read entry below char rest stack left reads =>
      rw [stack, List.length_cons, consume]
      dsimp only
      omega
  | skip id below char rest stack left symbol =>
      rw [stack, List.length_cons, drop]
      dsimp only
      omega
  | expand id below char rest head alternative stack left symbol found =>
      have stacked : id ∈ state.stacked := by simp [stacked_of_stack state _ below stack, Entry.id?]
      have size := Tree.size_grow state.tree id state.cursor (childForm alternative)
        (inside_of_stacked input state done layout id stacked)
      rw [tree_of_expand, size, stack, List.length_cons, expand, List.length_append, List.length_map, List.length_range']
      omega

theorem left_of_tended (input : List Char) (state : State) (done : List Nat) (layout : Layout input state done)
    (work : List Deed) (tended : Tended work state) :
    state.stacked = (state.tree.frontier 0).filter fun id => id ∉ Deed.dealt work := by
  have front : done.filter (fun id => id ∉ Deed.dealt work) = [] := by
    refine List.filter_eq_nil_iff.mpr fun leaf member => ?_
    have cleared := tended.cleared leaf (by simp [layout.frontier, member])
      (apart_of_done input state done layout leaf member)
    simp [cleared]
  have back : state.stacked.filter (fun id => id ∉ Deed.dealt work) = state.stacked := by
    refine List.filter_eq_self.mpr fun id member => ?_
    simp [tended.untouched id member]
  rw [layout.frontier, List.filter_append, front, back, List.nil_append]

theorem mem_dealt_iff (table : Table) (origin state : State) (work : List Deed) (works : Works table origin work state)
    (id : Nat) : id ∈ Deed.dealt work ↔ id ∈ work.filterMap Deed.matched? ∨ id ∈ work.filterMap Deed.expanded? := by
  have goes : ∀ deed ∈ work, deed.action ≠ .reject := by
    induction works with
    | rest => exact fun _ member => nomatch member
    | move work state next entry below action before stack moved ih =>
        intro deed member
        rcases List.mem_append.mp member with old | new
        · exact ih deed old
        · have moves := moves_of_step table state action next moved
          rw [List.mem_singleton.mp new]
          cases moves <;> simp
  simp only [Deed.dealt, List.mem_filterMap]
  constructor
  · rintro ⟨deed, member, same⟩
    exact ((deed.node_of_deed (goes deed member) id).mp same).imp (⟨deed, member, ·⟩) (⟨deed, member, ·⟩)
  · rintro (⟨deed, member, same⟩ | ⟨deed, member, same⟩)
    · exact ⟨deed, member, (deed.node_of_deed (goes deed member) id).mpr (Or.inl same)⟩
    · exact ⟨deed, member, (deed.node_of_deed (goes deed member) id).mpr (Or.inr same)⟩

section Run

variable (table : Table) (start : Char) (input : List Char)

theorem laid_of_works (work : List Deed) (state : State) (works : Works table (initial start input) work state) :
    ∃ done, Layout input state done := by
  induction works with
  | rest => exact ⟨[], layout_initial start input⟩
  | move work state next entry below action before stack moved ih =>
      obtain ⟨done, layout⟩ := ih
      exact layout_moves table input state next action done layout (moves_of_step table state action next moved)

-- What each move hands on, whatever it did, holds all along the work.
theorem works_keeps (kept : List Deed → State → Prop) (first : kept [] (initial start input))
    (hands : ∀ work state next entry below action done, Layout input state done → state.stack = entry :: below →
      Moves table state action next → kept work state → kept (work ++ [⟨entry, action⟩]) next)
    (work : List Deed) (state : State) (works : Works table (initial start input) work state) : kept work state := by
  induction works with
  | rest => exact first
  | move work state next entry below action before stack moved ih =>
      obtain ⟨done, layout⟩ := laid_of_works table start input work state before
      exact hands work state next entry below action done layout stack (moves_of_step table state action next moved) ih

section Kept

variable (work : List Deed) (state : State) (works : Works table (initial start input) work state)

include works

theorem tended_of_works : Tended work state :=
  works_keeps table start input Tended (tended_initial start input)
    (fun work state next entry below action done layout stack moves tended =>
      tended_moves input state done layout work tended table next entry below action stack moves) work state works

theorem threaded_of_works : state.tree.Threaded :=
  works_keeps table start input (fun _ state => state.tree.Threaded) (Tree.threaded_leaf _)
    (fun _ state next _ _ action done layout _ moves threaded =>
      threaded_moves table input state next action done layout threaded moves) work state works

theorem labelled_of_works : state.form = work.foldl Deed.restack [.nonTerminal start, .endOfInput] := by
  refine works_keeps table start input
    (fun work state => state.form = work.foldl Deed.restack [.nonTerminal start, .endOfInput]) rfl ?_ work state works
  intro work state next entry below action done layout stack moves labelled
  rw [List.foldl_append, ← labelled]
  exact labelled_moves table input state next entry action done layout moves

theorem counted_of_works : work.length + state.stack.length = state.tree.size + 1 := by
  refine works_keeps table start input
    (fun work state => work.length + state.stack.length = state.tree.size + 1) rfl ?_ work state works
  intro work state next entry below action done layout stack moves counted
  have further := counted_moves table input state next action done layout moves
  rw [List.length_append, List.length_singleton]
  omega

theorem aligned_of_works : Aligned start work state := by
  obtain ⟨done, layout⟩ := laid_of_works table start input work state works
  refine ⟨threaded_of_works table start input work state works, layout.bottomed, fun id member => ?_,
    nodup_stacked input state done layout, labelled_of_works table start input work state works, ?_,
    counted_of_works table start input work state works⟩
  · exact ⟨inside_of_stacked input state done layout id member, childless_of_stacked input state done layout id member⟩
  · rw [left_of_tended input state done layout work (tended_of_works table start input work state works)]
    refine List.filter_congr fun id _ => ?_
    rw [decide_eq_decide, mem_dealt_iff table _ state work works id, not_or]

end Kept

end Run

-- Every run is work: a move that goes on has taken something off the stack.
theorem works_of_goes (table : Table) (origin state final : State) (work : List Deed) (trace : List TraceStep)
    (works : Works table origin work state) (goes : Goes (step table) state trace final) :
    ∃ more, Works table origin (work ++ more) final ∧ more.map (·.action) = trace.map (·.action) := by
  induction goes generalizing work with
  | stay state => exact ⟨[], by rwa [List.append_nil], rfl⟩
  | step state next final action trace moved _ ih =>
      obtain ⟨entry, below, stack⟩ : ∃ entry below, state.stack = entry :: below := by
        cases moves_of_step table state action next moved with
        | read entry below char rest stack left reads => exact ⟨entry, below, stack⟩
        | skip id below char rest stack left symbol => exact ⟨_, below, stack⟩
        | expand id below char rest head alternative stack left symbol found => exact ⟨_, below, stack⟩
      obtain ⟨more, further, actions⟩ := ih _ (.move work state next entry below action works stack moved)
      refine ⟨⟨entry, action⟩ :: more, ?_, by rw [List.map_cons, actions, List.map_cons]⟩
      rw [List.append_assoc] at further
      exact further

end State

namespace Table

-- Each step of a trace is made in a state that fits the work of the steps before it. The last conjunct is the count of
-- that work where nothing is left on the stack.
theorem stack_fits_tree (table : Table) (start : Char) (input : List Char) (begins : table.start? = some start) :
    (∀ before step after, (table.parse input).trace = before ++ step :: after → ∃ work state,
      State.Works table (State.initial start input) work state ∧ work.map (·.action) = before.map (·.action) ∧
        step.stack = state.symbols ∧ step.input = state.rest) ∧
    (∀ work state, State.Works table (State.initial start input) work state → state.Aligned start work) ∧
    ∀ tree, (table.parse input).tree? = some tree → (table.parse input).trace.length = tree.size + 1 := by
  rw [parse_of_start table start input begins]
  refine ⟨fun before step after trace => ?_, State.aligned_of_works table start input, fun tree accepted => ?_⟩
  · obtain ⟨state, goes, further⟩ := State.reached_of_trace table _ before after step trace
    obtain ⟨work, works, actions⟩ := State.works_of_goes table _ _ state [] before .rest goes
    exact ⟨work, state, works, actions, State.head_of_run table state step after further⟩
  · have verdict : ((State.initial start input).run table).verdict = .accepted tree := by
      cases ended : ((State.initial start input).run table).verdict with
      | accepted other =>
          rw [Parse.tree?, ended] at accepted
          exact congrArg Verdict.accepted (Option.some.inj accepted)
      | rejected failure => simp [Parse.tree?, ended] at accepted
    obtain ⟨final, goes, empty, _, rfl⟩ := State.goes_of_accepted table _ tree verdict
    obtain ⟨work, works, actions⟩ := State.works_of_goes table _ _ final [] _ .rest goes
    have counted := State.counted_of_works table start input work final works
    have length := congrArg List.length actions
    rw [List.length_map, List.length_map] at length
    rw [← length, ← counted, empty]
    rfl

theorem stack_fits_tree_nested : Grammar.nested.analyze.table.start? = some 'S' ∧
    (∃ state, State.Works Grammar.nested.analyze.table (State.initial 'S' ['a', 'b'])
      [⟨.node 0, .expand 'S' [.terminal 'a', .nonTerminal 'S', .terminal 'b']⟩] state ∧
        state.Aligned 'S' [⟨.node 0, .expand 'S' [.terminal 'a', .nonTerminal 'S', .terminal 'b']⟩]) ∧
    ∃ tree, (Grammar.nested.analyze.table.parse ['a', 'b']).tree? = some tree ∧
      (Grammar.nested.analyze.table.parse ['a', 'b']).trace.length = tree.size + 1 := by
  have begins : Grammar.nested.analyze.table.start? = some 'S' := by decide +kernel
  have found : Grammar.nested.analyze.table.get? 'S' 'a' =
      some [.terminal 'a', .nonTerminal 'S', .terminal 'b'] := by decide +kernel
  have unblocked : (State.initial 'S' ['a', 'b']).repetition? Grammar.nested.analyze.table = none := by decide +kernel
  have accepted : (Grammar.nested.analyze.table.parse ['a', 'b']).isAccepted = true := by decide +kernel
  have moved := State.step_of_moves _ _ _ _ unblocked
    (.expand 0 [.bottom] 'a' ['b', endMark] 'S' _ rfl rfl rfl found)
  obtain ⟨tree, _, result⟩ := Parse.verdict_of_accepted _ accepted
  obtain ⟨_, aligned, length⟩ := stack_fits_tree _ 'S' ['a', 'b'] begins
  have works := State.Works.move [] _ _ (.node 0) [.bottom] _ .rest rfl moved
  exact ⟨begins, ⟨_, works, aligned _ _ works⟩, tree, result, length tree result⟩

end Table

end TopDown
