import TopDown.Proofs.Moves
/-!
Runs as finite sequences of moves. They are described for any way of moving, so that the machine and
the machine without its guard make runs of one kind. A run either comes to a move that does not go
on, and with it to a parse, or it has moves without end.
-/

set_option autoImplicit false

namespace TopDown

namespace Failure

-- The failure is told at the cursor and is not a repetition.
def StandsAt (failure : Failure) (cursor : Nat) : Prop :=
  failure.position? = some cursor ∧ ∀ left position, failure ≠ .leftRecursion left position

end Failure

namespace State

/-- Moves that go on, one after another, with the trace steps they leave. -/
inductive Goes (move : State → Move) : State → List TraceStep → State → Prop where
  | stay (state : State) : Goes move state [] state
  | step (state next final : State) (action : Action) (trace : List TraceStep)
      (moved : move state = .proceed action next) (further : Goes move next trace final) :
      Goes move state (⟨state.symbols, state.rest, action⟩ :: trace) final

-- What a move adds to a parse when it does not go on.
def close? (state : State) : Move → Option Parse
  | .proceed _ _ => none
  | .refuse failure => some ⟨[⟨state.symbols, state.rest, .reject⟩], .rejected failure⟩
  | .finish verdict => some ⟨[], verdict⟩

-- The run is finite, and this is the parse it gives.
def Ends (move : State → Move) (state : State) (parse : Parse) : Prop :=
  ∃ trace final last, Goes move state trace final ∧ final.close? (move final) = some last ∧
    parse = ⟨trace ++ last.trace, last.verdict⟩

-- The run is infinite: however many moves are asked for, there are as many.
def Endless (move : State → Move) (state : State) : Prop :=
  ∀ count, ∃ trace final, Goes move state trace final ∧ trace.length = count

section Runs

variable (move : State → Move)

theorem goes_append (state middle final : State) (front back : List TraceStep)
    (first : Goes move state front middle) (second : Goes move middle back final) :
    Goes move state (front ++ back) final := by
  induction first with
  | stay state => exact second
  | step state next middle action trace moved _ ih => exact .step state next final action _ moved (ih second)

-- There is one way to go on, so the shorter of two runs is where the longer one begins.
theorem goes_prefix (state left right : State) (short long : List TraceStep) (first : Goes move state short left)
    (second : Goes move state long right) (shorter : short.length ≤ long.length) :
    ∃ more, long = short ++ more ∧ Goes move left more right := by
  induction first generalizing long with
  | stay state => exact ⟨long, rfl, second⟩
  | step state next left action trace moved _ ih =>
      cases second with
      | stay state => cases shorter
      | step _ other _ otherAction rest otherMoved further =>
          cases moved.symm.trans otherMoved
          obtain ⟨more, same, goes⟩ := ih rest further (Nat.le_of_succ_le_succ shorter)
          exact ⟨more, by rw [same]; rfl, goes⟩

theorem stays_of_close (state final : State) (trace : List TraceStep) (last : Parse)
    (closed : state.close? (move state) = some last) (goes : Goes move state trace final) :
    trace = [] ∧ final = state := by
  cases goes with
  | stay state => exact ⟨rfl, rfl⟩
  | step _ next _ action trace moved further =>
      rw [moved] at closed
      cases closed

-- What every move hands on from a state to the next one holds all along a run.
theorem goes_keeps (kept : State → Prop)
    (hands : ∀ state action next, move state = .proceed action next → kept state → kept next)
    (state final : State) (trace : List TraceStep) (goes : Goes move state trace final) (start : kept state) :
    kept final := by
  induction goes with
  | stay state => exact start
  | step state next final action trace moved _ ih => exact ih (hands state action next moved start)

theorem goes_mono (other : State → Move)
    (within : ∀ state action next, move state = .proceed action next → other state = .proceed action next)
    (state final : State) (trace : List TraceStep) (goes : Goes move state trace final) :
    Goes other state trace final := by
  induction goes with
  | stay state => exact .stay state
  | step state next final action trace moved _ ih =>
      exact .step state next final action trace (within state action next moved) ih

theorem ends_step (state next : State) (action : Action) (parse : Parse)
    (moved : move state = .proceed action next) (ends : Ends move next parse) :
    Ends move state ⟨⟨state.symbols, state.rest, action⟩ :: parse.trace, parse.verdict⟩ := by
  obtain ⟨trace, final, last, goes, closed, rfl⟩ := ends
  exact ⟨_, final, last, .step state next final action trace moved goes, closed, rfl⟩

theorem ends_unique (state : State) (left right : Parse) (first : Ends move state left)
    (second : Ends move state right) : left = right := by
  obtain ⟨short, final, last, goes, closed, rfl⟩ := first
  obtain ⟨long, other, otherLast, otherGoes, otherClosed, rfl⟩ := second
  have same : long = short ∧ other = final := by
    rcases Nat.le_total short.length long.length with shorter | longer
    · obtain ⟨more, rfl, further⟩ := goes_prefix move state final other short long goes otherGoes shorter
      obtain ⟨rfl, rfl⟩ := stays_of_close move final other more last closed further
      exact ⟨List.append_nil short, rfl⟩
    · obtain ⟨more, rfl, further⟩ := goes_prefix move state other final long short otherGoes goes longer
      obtain ⟨rfl, rfl⟩ := stays_of_close move other final more otherLast otherClosed further
      exact ⟨(List.append_nil long).symm, rfl⟩
  obtain ⟨rfl, rfl⟩ := same
  cases closed.symm.trans otherClosed
  rfl

theorem not_endless_of_ends (state : State) (parse : Parse) (ends : Ends move state parse) :
    ¬ Endless move state := by
  intro endless
  obtain ⟨trace, final, last, goes, closed, _⟩ := ends
  obtain ⟨long, other, further, length⟩ := endless (trace.length + 1)
  obtain ⟨more, rfl, beyond⟩ := goes_prefix move state final other trace long goes further (by omega)
  obtain ⟨rfl, _⟩ := stays_of_close move final other more last closed beyond
  simp at length

theorem goes_or_ends (state : State) (count : Nat) :
    (∃ trace final, Goes move state trace final ∧ trace.length = count) ∨ ∃ parse, Ends move state parse := by
  induction count with
  | zero => exact Or.inl ⟨[], state, .stay state, rfl⟩
  | succ count ih =>
      rcases ih with ⟨trace, final, goes, length⟩ | ends
      · cases moved : move final with
        | proceed action next =>
            refine Or.inl ⟨_, next, goes_append move state final next trace _ goes
              (.step final next next action [] moved (.stay next)), ?_⟩
            rw [List.length_append, length]
            rfl
        | refuse failure => exact Or.inr ⟨_, trace, final, _, goes, by rw [moved]; rfl, rfl⟩
        | finish verdict => exact Or.inr ⟨_, trace, final, _, goes, by rw [moved]; rfl, rfl⟩
      · exact Or.inr ends

theorem ends_or_endless (state : State) : (∃ parse, Ends move state parse) ∨ Endless move state := by
  by_cases finite : ∃ parse, Ends move state parse
  · exact Or.inl finite
  · exact Or.inr fun count => (goes_or_ends move state count).resolve_right finite

-- Where one more move is always possible, moves never come to an end.
theorem endless_of_progress (kept : State → Prop)
    (progress : ∀ state, kept state → ∃ action next, move state = .proceed action next ∧ kept next)
    (state : State) (start : kept state) : Endless move state := by
  intro count
  induction count generalizing state with
  | zero => exact ⟨[], state, .stay state, rfl⟩
  | succ count ih =>
      obtain ⟨action, next, moved, further⟩ := progress state start
      obtain ⟨trace, final, goes, length⟩ := ih next further
      exact ⟨_, final, .step state next final action trace moved goes, congrArg (· + 1) length⟩

theorem endless_of_goes (state final : State) (trace : List TraceStep) (goes : Goes move state trace final)
    (endless : Endless move final) : Endless move state := by
  rcases ends_or_endless move state with ⟨parse, short, other, last, further, closed, _⟩ | found
  · obtain ⟨long, beyond, more, length⟩ := endless (short.length + 1)
    have whole := goes_append move state final beyond trace long goes more
    obtain ⟨rest, same, ahead⟩ := goes_prefix move state other beyond short _ further whole
      (by rw [List.length_append]; omega)
    obtain ⟨rfl, _⟩ := stays_of_close move other beyond rest last closed ahead
    have lengths := congrArg List.length same
    simp only [List.length_append, List.length_nil] at lengths
    omega
  · exact found

end Runs

-- Under the guard it is enough that every move by the table hands it on.
theorem run_keeps (table : Table) (kept : State → Prop)
    (hands : ∀ state next action, kept state → Moves table state action next → kept next) (state final : State)
    (trace : List TraceStep) (goes : Goes (step table) state trace final) (start : kept state) : kept final :=
  goes_keeps (step table) kept (fun state action next moved before =>
    hands state next action before (moves_of_step table state action next moved)) state final trace goes start

section Stops

variable (table : Table) (state : State)

theorem unblocked_of_step (action : Action) (next : State) (moved : state.step table = .proceed action next) :
    state.repetition? table = none := by
  cases blocked : state.repetition? table with
  | none => rfl
  | some failure =>
      simp only [step, blocked] at moved
      cases moved

theorem advance_of_step (action : Action) (next : State) (moved : state.step table = .proceed action next) :
    state.advance table = .proceed action next :=
  advance_of_moves table state action next (moves_of_step table state action next moved)

theorem mismatch_of_refusal (expected char : Char) (action : Action) (next : State) (symbol : Symbol)
    (failure : Failure)
    (refused : (if expected = char then Move.proceed action next
      else .refuse (.terminalMismatch symbol char state.cursor)) = .refuse failure) :
    failure = .terminalMismatch symbol char state.cursor := by
  by_cases same : expected = char
  · rw [if_pos same] at refused
    cases refused
  · rw [if_neg same] at refused
    cases refused
    rfl

-- What the table alone refuses: a character that is not the expected one, or an empty cell.
theorem refusal_cases (failure : Failure) (refused : state.advance table = .refuse failure) :
    (∃ expected found, failure = .terminalMismatch expected found state.cursor) ∨
      ∃ left found, failure = .noTableEntry left found state.cursor := by
  cases stack : state.stack with
  | nil =>
      simp only [advance, stack] at refused
      cases refused
  | cons entry below =>
      cases left : state.rest with
      | nil => cases entry <;> (simp only [advance, stack, left] at refused; cases refused)
      | cons char rest =>
          cases entry with
          | bottom =>
              simp only [advance, stack, left] at refused
              exact Or.inl ⟨_, _, mismatch_of_refusal state _ char _ _ _ failure refused⟩
          | node id =>
              cases symbol : state.tree.symbol id with
              | epsilon =>
                  simp only [advance, stack, left, symbol] at refused
                  cases refused
              | nonTerminal head =>
                  cases found : table.get? head char with
                  | none =>
                      simp only [advance, stack, left, symbol, found] at refused
                      cases refused
                      exact Or.inr ⟨head, char, rfl⟩
                  | some alternative =>
                      simp only [advance, stack, left, symbol, found] at refused
                      cases refused
              | terminal other =>
                  simp only [advance, stack, left, symbol] at refused
                  exact Or.inl ⟨_, _, mismatch_of_refusal state _ char _ _ _ failure refused⟩
              | endOfInput =>
                  simp only [advance, stack, left, symbol] at refused
                  exact Or.inl ⟨_, _, mismatch_of_refusal state _ char _ _ _ failure refused⟩

theorem stands_of_refusal (failure : Failure) (refused : state.advance table = .refuse failure) :
    failure.StandsAt state.cursor := by
  rcases refusal_cases table state failure refused with ⟨expected, found, rfl⟩ | ⟨left, found, rfl⟩
  · exact ⟨rfl, fun left position again => by cases again⟩
  · exact ⟨rfl, fun left position again => by cases again⟩

-- What is found wrong once the stack or the input is used up: that the other one is not.
theorem rejection_cases (failure : Failure) (rejected : state.verdict = .rejected failure) :
    failure = .unconsumedInput state.cursor ∨ failure = .leftoverStack state.stack.length state.cursor := by
  cases stack : state.stack with
  | nil =>
      cases left : state.rest with
      | nil => simp [verdict, stack, left] at rejected
      | cons char rest =>
          simp only [verdict, stack, left] at rejected
          cases rejected
          exact Or.inl rfl
  | cons entry below =>
      simp only [verdict, stack] at rejected
      cases rejected
      exact Or.inr rfl

theorem stands_of_verdict (failure : Failure) (rejected : state.verdict = .rejected failure) :
    failure.StandsAt state.cursor := by
  rcases rejection_cases state failure rejected with rfl | rfl
  · exact ⟨rfl, fun left position again => by cases again⟩
  · exact ⟨rfl, fun left position again => by cases again⟩

-- The table alone rejects at the cursor, and never for a repetition.
theorem stands_of_close (last : Parse) (failure : Failure)
    (closed : state.close? (state.advance table) = some last) (rejected : last.failure? = some failure) :
    failure.StandsAt state.cursor := by
  cases moved : state.advance table with
  | proceed action next =>
      rw [moved] at closed
      cases closed
  | refuse other =>
      rw [moved] at closed
      cases closed
      cases rejected
      exact stands_of_refusal table state failure moved
  | finish verdict =>
      rw [moved] at closed
      cases closed
      obtain ⟨rfl, _⟩ := done_of_advance table state verdict moved
      refine stands_of_verdict state failure ?_
      cases ended : state.verdict with
      | accepted tree => simp [Parse.failure?, ended] at rejected
      | rejected other =>
          simp only [Parse.failure?, ended] at rejected
          cases rejected
          rfl

end Stops

-- The run that the parse is made of.
theorem ends_run (table : Table) (state : State) : Ends (step table) state (state.run table) := by
  induction state using run_induction table with
  | inherit state ih =>
      cases moved : state.step table with
      | proceed action next =>
          rw [run_of_proceed table state action next moved]
          exact ends_step (step table) state next action _ moved (ih action next moved)
      | refuse failure =>
          rw [run_of_refuse table state failure moved]
          exact ⟨[], state, _, .stay state, by rw [moved]; rfl, rfl⟩
      | finish verdict =>
          rw [run_of_finish table state verdict moved]
          exact ⟨[], state, _, .stay state, by rw [moved]; rfl, rfl⟩

section Parts

variable (table : Table) (state final : State) (trace : List TraceStep) (goes : Goes (step table) state trace final)

include goes

-- Where a run has come to so far, the rest of it is the run from there.
theorem run_of_goes : state.run table = ⟨trace ++ (final.run table).trace, (final.run table).verdict⟩ := by
  induction goes with
  | stay state => rfl
  | step state next final action trace moved _ ih =>
      rw [run_of_proceed table state action next moved, ih]
      rfl

theorem cursor_of_goes : state.cursor ≤ final.cursor := by
  induction goes with
  | stay state => exact Nat.le_refl _
  | step state next final action trace moved _ ih =>
      exact Nat.le_trans (cursor_of_moves table state next action (moves_of_step table state action next moved)) ih

theorem span_kept : final.cursor + final.rest.length = state.cursor + state.rest.length := by
  induction goes with
  | stay state => rfl
  | step state next final action trace moved _ ih =>
      exact ih.trans (span_of_moves table state next action (moves_of_step table state action next moved))

end Parts

theorem reaches_of_goes (table : Table) (state final : State) (trace : List TraceStep)
    (goes : Goes (step table) state trace final) : Reaches table state final := by
  induction goes with
  | stay state => exact .refl
  | step state next final action trace moved _ ih => exact .head ⟨action, moved⟩ ih

theorem nothing_of_accepted (state : State) (tree : Tree) (accepted : state.verdict = .accepted tree) :
    state.stack = [] ∧ state.rest = [] ∧ state.tree = tree := by
  cases stack : state.stack with
  | cons entry below => simp [verdict, stack] at accepted
  | nil =>
      cases left : state.rest with
      | cons char rest => simp [verdict, stack, left] at accepted
      | nil =>
          simp only [verdict, stack, left] at accepted
          cases accepted
          exact ⟨rfl, rfl, rfl⟩

-- An accepted run has come to a state with nothing left, and its trace is that of its moves.
theorem goes_of_accepted (table : Table) (state : State) (tree : Tree)
    (accepted : (state.run table).verdict = .accepted tree) :
    ∃ final, Goes (step table) state (state.run table).trace final ∧
      final.stack = [] ∧ final.rest = [] ∧ final.tree = tree := by
  obtain ⟨trace, final, last, goes, closed, parse⟩ := ends_run table state
  rw [parse] at accepted
  cases moved : final.step table with
  | proceed action next =>
      rw [moved] at closed
      cases closed
  | refuse failure =>
      rw [moved] at closed
      cases closed
      cases accepted
  | finish verdict =>
      rw [moved] at closed
      cases closed
      obtain ⟨rfl, _⟩ := done_of_finish table final verdict moved
      refine ⟨final, ?_, nothing_of_accepted final tree accepted⟩
      rw [parse, List.append_nil]
      exact goes

theorem reached_of_accepted (table : Table) (state : State) (tree : Tree)
    (accepted : (state.run table).verdict = .accepted tree) :
    ∃ final, Reaches table state final ∧ final.stack = [] ∧ final.rest = [] ∧ final.tree = tree := by
  obtain ⟨final, goes, empty⟩ := goes_of_accepted table state tree accepted
  exact ⟨final, reaches_of_goes table state final _ goes, empty⟩

end State

namespace Table

theorem parse_of_start (table : Table) (start : Char) (input : List Char) (begins : table.start? = some start) :
    table.parse input = (State.initial start input).run table := by
  simp only [parse, begins]

theorem parse_of_no_start (table : Table) (input : List Char) (begins : table.start? = none) :
    table.parse input = ⟨[], .rejected .noStartSymbol⟩ := by
  simp only [parse, begins]

end Table

end TopDown
