import TopDown.Proofs.Cells
import TopDown.Proofs.Layout
/-!
The stack of the machine as a form. A move takes a symbol off the front that reads the next
character, or it turns the form over without reading. What was consumed, with the form of the stack
behind it, stays a form that derives from the start symbol before the end of the input.
-/

set_option autoImplicit false

namespace TopDown

namespace Table

-- The table names alternatives of the grammar only.
def Chooses (table : Table) (grammar : Grammar) : Prop :=
  ∀ left char alternative, table.get? left char = some alternative → alternative ∈ grammar.alternativesOf left

theorem chooses_build (grammar : Grammar) (first : FirstSets) (follow : FollowSets) :
    (build grammar first follow).Chooses grammar :=
  fun left char alternative found => (get_build grammar first follow left char alternative found).1

/-- The front of a form changes on a character without reading it. -/
inductive Turns (table : Table) (char : Char) : Form → Form → Prop where
  | skip (rest : Form) : Turns table char (.epsilon :: rest) rest
  | expand (head : Char) (alternative rest : Form) (found : table.get? head char = some alternative) :
      Turns table char (.nonTerminal head :: rest) (State.childForm alternative ++ rest)

theorem turns_append (table : Table) (char : Char) (form target back : Form)
    (turns : table.Turns char form target) : table.Turns char (form ++ back) (target ++ back) := by
  cases turns with
  | skip rest => exact .skip (target ++ back)
  | expand head alternative rest found =>
      rw [List.append_assoc]
      exact .expand head alternative (rest ++ back) found

end Table

namespace Grammar

theorem derives_child_form (grammar : Grammar) (alternative : Form) :
    grammar.Derives alternative (State.childForm alternative) := by
  by_cases empty : alternative = .empty
  · rw [State.childForm, if_pos empty, empty]
    exact grammar.derives_mark
  · rw [State.childForm, if_neg empty]
    exact grammar.derives_refl alternative

theorem derives_of_turns (grammar : Grammar) (table : Table) (chooses : table.Chooses grammar) (char : Char)
    (form target : Form) (turns : table.Turns char form target) : grammar.Derives form target := by
  cases turns with
  | skip rest => exact grammar.derives_append [.epsilon] target [] target grammar.derives_mark (grammar.derives_refl _)
  | expand head alternative rest found =>
      have unfolds := grammar.derives_alternative head alternative (chooses head char alternative found)
      exact grammar.derives_append [.nonTerminal head] rest _ rest
        (grammar.derives_trans unfolds (grammar.derives_child_form alternative)) (grammar.derives_refl rest)

end Grammar

namespace State

theorem form_of_stack (state : State) (entry : Entry) (below : List Entry) (stack : state.stack = entry :: below) :
    state.form = state.tree.entrySymbol entry :: below.map state.tree.entrySymbol := by
  rw [form, stack]
  rfl

theorem form_of_expand (input : List Char) (state : State) (done : List Nat) (layout : Layout input state done)
    (id : Nat) (below : List Entry) (alternative : Form) (stack : state.stack = .node id :: below) :
    (state.expand id below alternative).form =
      childForm alternative ++ below.map state.tree.entrySymbol := by
  obtain ⟨others, ids, shape, _⟩ := stack_of_node input state done layout id below stack
  have inside := inside_of_stacked input state done layout id (by simp [ids])
  have new : (List.range' state.tree.size (childForm alternative).length).map
      (fun child => (state.tree.grow id state.cursor (childForm alternative)).entrySymbol (.node child)) =
        childForm alternative := Tree.symbols_grow state.tree id state.cursor (childForm alternative) inside
  rw [form, tree_of_expand, expand, List.map_append, List.map_map]
  refine congr (congrArg List.append new) (List.map_congr_left ?_)
  intro entry member
  cases entry with
  | bottom => rfl
  | node other =>
      have known : other ∈ others := by simpa [shape] using member
      exact Tree.symbol_grow state.tree id state.cursor _ inside other
        (inside_of_stacked input state done layout other (by simp [ids, known]))

/-- What a move does to the form of the stack and to the input. -/
inductive Passes (table : Table) (state next : State) : Prop where
  | read (symbol : Symbol) (char : Char) (reads : symbol.read? = some char)
      (form : state.form = symbol :: next.form) (rest : state.rest = char :: next.rest)
      (cursor : next.cursor = state.cursor + 1)
  | turn (char : Char) (rest : List Char) (left : state.rest = char :: rest) (kept : next.rest = state.rest)
      (cursor : next.cursor = state.cursor) (turns : table.Turns char state.form next.form)

theorem passes_of_moves (table : Table) (input : List Char) (state next : State) (action : Action) (done : List Nat)
    (layout : Layout input state done) (moves : Moves table state action next) : Passes table state next := by
  cases moves with
  | read entry below char rest stack left reads =>
      exact .read _ char reads (form_of_stack state entry below stack) left rfl
  | skip id below char rest stack left symbol =>
      refine .turn char rest left rfl rfl ?_
      rw [form_of_stack state _ below stack, Tree.entrySymbol, symbol]
      exact .skip _
  | expand id below char rest head alternative stack left symbol found =>
      refine .turn char rest left rfl rfl ?_
      rw [form_of_stack state _ below stack, form_of_expand input state done layout id below alternative stack,
        Tree.entrySymbol, symbol]
      exact .expand head alternative _ found

-- What was consumed and the form of the stack derive from the start symbol before the end of the input.
def Derived (grammar : Grammar) (start : Char) (input : List Char) (state : State) : Prop :=
  ∃ front : Form, front.Reads ((input ++ [endMark]).take state.cursor) ∧
    grammar.Derives [.nonTerminal start, .endOfInput] (front ++ state.form)

theorem derived_initial (grammar : Grammar) (start : Char) (input : List Char) :
    Derived grammar start input (initial start input) := ⟨[], rfl, grammar.derives_refl _⟩

theorem derived_moves (table : Table) (grammar : Grammar) (chooses : table.Chooses grammar) (start : Char)
    (input : List Char) (state next : State) (action : Action) (done : List Nat)
    (layout : Layout input state done) (derived : Derived grammar start input state)
    (moves : Moves table state action next) : Derived grammar start input next := by
  obtain ⟨front, reads, derives⟩ := derived
  cases passes_of_moves table input state next action done layout moves with
  | read symbol char read form rest cursor =>
      refine ⟨front ++ [symbol], ?_, ?_⟩
      · rw [cursor, (cursor_advances input state done layout char _ rest).1]
        exact Form.reads_append front [symbol] _ [char] reads (congrArg (fun value => [value]) read)
      · rw [form] at derives
        rw [List.append_assoc]
        exact derives
  | turn char rest left kept cursor turns =>
      refine ⟨front, cursor ▸ reads, grammar.derives_trans derives ?_⟩
      exact grammar.derives_append front _ front _ (grammar.derives_refl front)
        (grammar.derives_of_turns table chooses char _ _ turns)

end State

end TopDown
