import Mathlib.Logic.Relation
import TopDown.Parse
import TopDown.Proofs.Derivation
/-!
The moves of the machine as a relation, one constructor for each thing that can happen to the top of
the stack, the equations of a run, and the states that it goes through.
-/

set_option autoImplicit false

namespace TopDown

namespace Entry

def id? : Entry → Option Nat
  | bottom => none
  | node id => some id

end Entry

namespace State

-- The nodes on the stack and the form that the stack stands for, the top first.
def stacked (state : State) : List Nat := state.stack.filterMap Entry.id?

def form (state : State) : Form := state.stack.map state.tree.entrySymbol

/-- A move that goes on, the guard against repetition left aside. -/
inductive Moves (table : Table) (state : State) : Action → State → Prop where
  | read (entry : Entry) (below : List Entry) (char : Char) (rest : List Char)
      (stack : state.stack = entry :: below) (left : state.rest = char :: rest)
      (reads : (state.tree.entrySymbol entry).read? = some char) :
      Moves table state (.accept (state.tree.entrySymbol entry)) (state.consume below rest)
  | skip (id : Nat) (below : List Entry) (char : Char) (rest : List Char)
      (stack : state.stack = .node id :: below) (left : state.rest = char :: rest)
      (symbol : state.tree.symbol id = .epsilon) : Moves table state (.accept .epsilon) (state.drop below)
  | expand (id : Nat) (below : List Entry) (char : Char) (rest : List Char) (head : Char) (alternative : Form)
      (stack : state.stack = .node id :: below) (left : state.rest = char :: rest)
      (symbol : state.tree.symbol id = .nonTerminal head) (found : table.get? head char = some alternative) :
      Moves table state (.expand head alternative) (state.expand id below alternative)

variable (table : Table) (state : State)

theorem advance_of_moves (action : Action) (next : State) (moves : Moves table state action next) :
    state.advance table = .proceed action next := by
  cases moves with
  | skip id below char rest stack left symbol => simp only [advance, stack, left, symbol]
  | expand id below char rest head alternative stack left symbol found =>
      simp only [advance, stack, left, symbol, found]
  | read entry below char rest stack left reads =>
      cases entry with
      | bottom =>
          have same : endMark = char := Option.some.inj reads
          simp only [advance, stack, left, if_pos same]
          rfl
      | node id =>
          have symbolReads : (state.tree.symbol id).read? = some char := reads
          cases symbol : state.tree.symbol id with
          | nonTerminal head => rw [symbol] at symbolReads; cases symbolReads
          | epsilon => rw [symbol] at symbolReads; cases symbolReads
          | terminal other =>
              rw [symbol] at symbolReads
              have same : (Symbol.terminal other).char = char := Option.some.inj symbolReads
              simp only [advance, stack, left, symbol, if_pos same, Tree.entrySymbol]
          | endOfInput =>
              rw [symbol] at symbolReads
              have same : Symbol.endOfInput.char = char := Option.some.inj symbolReads
              simp only [advance, stack, left, symbol, if_pos same, Tree.entrySymbol]

theorem moves_of_match (entry : Entry) (below : List Entry) (char : Char) (rest : List Char) (symbol : Symbol)
    (expected : Char) (action : Action) (next : State) (failure : Failure)
    (stack : state.stack = entry :: below) (left : state.rest = char :: rest)
    (top : state.tree.entrySymbol entry = symbol) (reads : symbol.read? = some expected)
    (moved : (if expected = char then Move.proceed (.accept symbol) (state.consume below rest)
      else .refuse failure) = .proceed action next) : Moves table state action next := by
  subst top
  by_cases same : expected = char
  · rw [if_pos same] at moved
    cases moved
    exact .read entry below char rest stack left (same ▸ reads)
  · rw [if_neg same] at moved
    cases moved

theorem moves_of_node (id : Nat) (below : List Entry) (char : Char) (rest : List Char) (action : Action)
    (next : State) (stack : state.stack = .node id :: below) (left : state.rest = char :: rest)
    (moved : state.advance table = .proceed action next) : Moves table state action next := by
  cases symbol : state.tree.symbol id with
  | epsilon =>
      simp only [advance, stack, left, symbol] at moved
      cases moved
      exact .skip id below char rest stack left symbol
  | nonTerminal head =>
      cases found : table.get? head char with
      | none =>
          simp only [advance, stack, left, symbol, found] at moved
          cases moved
      | some alternative =>
          simp only [advance, stack, left, symbol, found] at moved
          cases moved
          exact .expand id below char rest head alternative stack left symbol found
  | terminal other =>
      simp only [advance, stack, left, symbol] at moved
      exact moves_of_match table state _ below char rest _ other action next _ stack left symbol rfl moved
  | endOfInput =>
      simp only [advance, stack, left, symbol] at moved
      exact moves_of_match table state _ below char rest _ endMark action next _ stack left symbol rfl moved

theorem moves_of_advance (action : Action) (next : State) (moved : state.advance table = .proceed action next) :
    Moves table state action next := by
  cases stack : state.stack with
  | nil =>
      simp only [advance, stack] at moved
      cases moved
  | cons entry below =>
      cases left : state.rest with
      | nil => cases entry <;> (simp only [advance, stack, left] at moved; cases moved)
      | cons char rest =>
          cases entry with
          | node id => exact moves_of_node table state id below char rest action next stack left moved
          | bottom =>
              simp only [advance, stack, left] at moved
              exact moves_of_match table state _ below char rest _ endMark action next _ stack left rfl rfl moved

theorem cursor_of_moves (next : State) (action : Action) (moves : Moves table state action next) :
    state.cursor ≤ next.cursor := by
  cases moves with
  | read entry below char rest stack left reads => exact Nat.le_succ _
  | skip id below char rest stack left symbol => exact Nat.le_refl _
  | expand id below char rest head alternative stack left symbol found => exact Nat.le_refl _

-- The cursor goes on with the input, so that together they always measure the same.
theorem span_of_moves (next : State) (action : Action) (moves : Moves table state action next) :
    next.cursor + next.rest.length = state.cursor + state.rest.length := by
  cases moves with
  | read entry below char rest stack left reads =>
      rw [left, List.length_cons]
      exact Nat.succ_add_eq_add_succ _ _
  | skip id below char rest stack left symbol => rfl
  | expand id below char rest head alternative stack left symbol found => rfl

theorem finish_of_done (done : state.stack = [] ∨ state.rest = []) :
    state.advance table = .finish state.verdict ∧ state.repetition? table = none := by
  rcases done with empty | empty
  · exact ⟨by simp only [advance, empty], by simp only [repetition?, empty]⟩
  · cases stack : state.stack with
    | nil => exact ⟨by simp only [advance, stack], by simp only [repetition?, stack]⟩
    | cons entry below =>
        cases entry with
        | bottom => exact ⟨by simp only [advance, stack, empty], by simp only [repetition?, stack]⟩
        | node id => exact ⟨by simp only [advance, stack, empty], by simp only [repetition?, stack, empty]⟩

theorem moves_of_step (action : Action) (next : State) (moved : state.step table = .proceed action next) :
    Moves table state action next := by
  cases unblocked : state.repetition? table with
  | some failure =>
      simp only [step, unblocked] at moved
      cases moved
  | none =>
      simp only [step, unblocked] at moved
      exact moves_of_advance table state action next moved

theorem step_of_moves (action : Action) (next : State) (unblocked : state.repetition? table = none)
    (moves : Moves table state action next) : state.step table = .proceed action next := by
  simp only [step, unblocked]
  exact advance_of_moves table state action next moves

-- What it takes for the guard to fire.
theorem repetition_cases (failure : Failure) (blocked : state.repetition? table = some failure) :
    ∃ id below char rest head, state.stack = .node id :: below ∧ state.rest = char :: rest ∧
      state.tree.symbol id = .nonTerminal head ∧ .nonTerminal head ∈ state.tree.trail state.cursor id ∧
      failure = .leftRecursion head state.cursor := by
  cases stack : state.stack with
  | nil => simp [repetition?, stack] at blocked
  | cons entry below =>
      cases left : state.rest with
      | nil => cases entry <;> simp [repetition?, stack, left] at blocked
      | cons char rest =>
          cases entry with
          | bottom => simp [repetition?, stack] at blocked
          | node id =>
              cases symbol : state.tree.symbol id with
              | nonTerminal head =>
                  simp only [repetition?, stack, left, symbol] at blocked
                  by_cases again :
                      (table.get? head char).isSome ∧ .nonTerminal head ∈ state.tree.trail state.cursor id
                  · rw [if_pos again] at blocked
                    cases blocked
                    exact ⟨id, below, char, rest, head, rfl, rfl, symbol, again.2, rfl⟩
                  · rw [if_neg again] at blocked
                    cases blocked
              | terminal other => simp [repetition?, stack, left, symbol] at blocked
              | endOfInput => simp [repetition?, stack, left, symbol] at blocked
              | epsilon => simp [repetition?, stack, left, symbol] at blocked

-- The equations of a run, one for each kind of move.
theorem run_of_proceed (action : Action) (next : State) (moved : state.step table = .proceed action next) :
    state.run table =
      { next.run table with trace := ⟨state.symbols, state.rest, action⟩ :: (next.run table).trace } := by
  rw [run]
  split
  · rename_i action' next' lower bounded
    have same := (congrArg Subtype.val bounded).symm.trans moved
    cases same
    rfl
  · rename_i failure lower bounded
    cases (congrArg Subtype.val bounded).symm.trans moved
  · rename_i verdict lower bounded
    cases (congrArg Subtype.val bounded).symm.trans moved

theorem run_of_refuse (failure : Failure) (refused : state.step table = .refuse failure) :
    state.run table = ⟨[⟨state.symbols, state.rest, .reject⟩], .rejected failure⟩ := by
  rw [run]
  split
  · rename_i action next lower bounded
    cases (congrArg Subtype.val bounded).symm.trans refused
  · rename_i other lower bounded
    cases (congrArg Subtype.val bounded).symm.trans refused
    rfl
  · rename_i verdict lower bounded
    cases (congrArg Subtype.val bounded).symm.trans refused

theorem run_of_finish (verdict : Verdict) (finished : state.step table = .finish verdict) :
    state.run table = ⟨[], verdict⟩ := by
  rw [run]
  split
  · rename_i action next lower bounded
    cases (congrArg Subtype.val bounded).symm.trans finished
  · rename_i failure lower bounded
    cases (congrArg Subtype.val bounded).symm.trans finished
  · rename_i other lower bounded
    cases (congrArg Subtype.val bounded).symm.trans finished
    rfl

-- Every move lowers the potential, so what each state inherits from the next one holds everywhere.
theorem run_induction (table : Table) (state : State) (motive : State → Prop)
    (inherit : ∀ state, (∀ action next, state.step table = .proceed action next → motive next) → motive state) :
    motive state :=
  inherit state fun _ next _ => run_induction table next motive inherit
termination_by state.potential table
decreasing_by exact step_decreases table state next _ (by assumption)

theorem unfinished_of_top (entry : Entry) (below : List Entry) (char : Char) (rest : List Char) (verdict : Verdict)
    (stack : state.stack = entry :: below) (left : state.rest = char :: rest) :
    state.advance table ≠ .finish verdict := by
  cases entry with
  | bottom =>
      simp only [advance, stack, left]
      split <;> simp
  | node id =>
      cases symbol : state.tree.symbol id with
      | epsilon => simp [advance, stack, left, symbol]
      | nonTerminal head => cases found : table.get? head char <;> simp [advance, stack, left, symbol, found]
      | terminal other =>
          simp only [advance, stack, left, symbol]
          split <;> simp
      | endOfInput =>
          simp only [advance, stack, left, symbol]
          split <;> simp

theorem done_of_advance (verdict : Verdict) (finished : state.advance table = .finish verdict) :
    verdict = state.verdict ∧ (state.stack = [] ∨ state.rest = []) := by
  by_cases done : state.stack = [] ∨ state.rest = []
  · rw [(finish_of_done table state done).1] at finished
    cases finished
    exact ⟨rfl, done⟩
  · cases stack : state.stack with
    | nil => exact absurd (Or.inl stack) done
    | cons entry below =>
        cases left : state.rest with
        | nil => exact absurd (Or.inr left) done
        | cons char rest =>
            exact absurd finished (unfinished_of_top table state entry below char rest verdict stack left)

theorem done_of_finish (verdict : Verdict) (finished : state.step table = .finish verdict) :
    verdict = state.verdict ∧ (state.stack = [] ∨ state.rest = []) := by
  cases unblocked : state.repetition? table with
  | some failure => simp [step, unblocked] at finished
  | none =>
      simp only [step, unblocked] at finished
      exact done_of_advance table state verdict finished

-- The states that a run goes through.
def Reaches (table : Table) : State → State → Prop :=
  Relation.ReflTransGen fun state next => ∃ action, state.step table = .proceed action next

end State

end TopDown
