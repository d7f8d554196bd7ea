import TopDown.Proofs.TraceSteps
/-!
Two runs side by side. A move looks at one character of the input, so two runs on one table stay alike as long
as their inputs do: they have the same stack, the same tree and the same cursor, and make the same moves. They
part no earlier than at the first character in which the inputs differ.
-/

set_option autoImplicit false

namespace TopDown

namespace TraceStep

-- How much of a text of some length had been read when the step was taken.
def position (length : Nat) (step : TraceStep) : Nat := length - step.input.length

-- What a step tells apart from the input that is left.
def shown (step : TraceStep) : List Symbol × Action := (step.stack, step.action)

end TraceStep

namespace Parse

-- Stack and action of the steps taken before a position was reached.
def stepsBelow (parse : Parse) (length bound : Nat) : List (List Symbol × Action) :=
  (parse.trace.filter (·.position length < bound)).map TraceStep.shown

-- The parse fails by a step taken before the position was reached.
def RejectsBelow (parse : Parse) (length bound : Nat) (failure : Failure) : Prop :=
  parse.failure? = some failure ∧ ∃ step ∈ parse.trace, step.action = .reject ∧ step.position length < bound

end Parse

namespace State

def span (state : State) : Nat := state.cursor + state.rest.length

-- Two states that differ at most in what is left of their inputs from a position on.
structure Alike (bound : Nat) (one other : State) : Prop where
  stack : one.stack = other.stack
  cursor : one.cursor = other.cursor
  tree : one.tree = other.tree
  rest : one.rest.take (bound - one.cursor) = other.rest.take (bound - one.cursor)

end State

-- Moves that differ at most in the states to which they lead.
inductive Move.Alike (bound : Nat) : Move → Move → Prop where
  | proceed (action : Action) (next further : State) (alike : next.Alike bound further) :
      Alike bound (.proceed action next) (.proceed action further)
  | refuse (failure : Failure) : Alike bound (.refuse failure) (.refuse failure)
  | finish (verdict : Verdict) : Alike bound (.finish verdict) (.finish verdict)

namespace State

section Moves

variable (table : Table) (bound : Nat) (one other : State) (alike : one.Alike bound other)

include alike

-- Before the position both inputs are used up, or both go on with the same character.
theorem rest_of_alike (before : one.cursor < bound) : (one.rest = [] ∧ other.rest = []) ∨
    ∃ char rest more, one.rest = char :: rest ∧ other.rest = char :: more ∧
      rest.take (bound - (one.cursor + 1)) = more.take (bound - (one.cursor + 1)) := by
  have same := alike.rest
  rw [show bound - one.cursor = bound - (one.cursor + 1) + 1 by omega] at same
  cases left : one.rest with
  | nil =>
      cases otherLeft : other.rest with
      | nil => exact Or.inl ⟨rfl, rfl⟩
      | cons char more => simp [left, otherLeft] at same
  | cons char rest =>
      cases otherLeft : other.rest with
      | nil => simp [left, otherLeft] at same
      | cons head more =>
          rw [left, otherLeft, List.take_succ_cons, List.take_succ_cons] at same
          obtain ⟨rfl, further⟩ := List.cons.inj same
          exact Or.inr ⟨char, rest, more, rfl, rfl, further⟩

theorem verdict_of_alike (before : one.cursor < bound) : one.verdict = other.verdict := by
  rw [verdict, verdict, alike.stack, alike.cursor, alike.tree]
  rcases rest_of_alike bound one other alike before with ⟨left, otherLeft⟩ | ⟨char, rest, more, left, otherLeft, _⟩
  · rw [left, otherLeft]
  · rw [left, otherLeft]
    cases other.stack <;> rfl

theorem consume_of_alike (below : List Entry) (rest more : List Char)
    (further : rest.take (bound - (one.cursor + 1)) = more.take (bound - (one.cursor + 1))) :
    (one.consume below rest).Alike bound (other.consume below more) :=
  ⟨rfl, congrArg (· + 1) alike.cursor, alike.tree, further⟩

theorem drop_of_alike (below : List Entry) : (one.drop below).Alike bound (other.drop below) :=
  ⟨rfl, alike.cursor, alike.tree, alike.rest⟩

theorem expand_of_alike (id : Nat) (below : List Entry) (alternative : Form) :
    (one.expand id below alternative).Alike bound (other.expand id below alternative) := by
  refine ⟨?_, alike.cursor, ?_, alike.rest⟩
  · simp only [expand, alike.tree]
  · simp only [expand, alike.tree, alike.cursor]

omit alike in
theorem match_alike (expected char : Char) (action : Action) (failure : Failure)
    (moved : one.Alike bound other) : Move.Alike bound
      (if expected = char then .proceed action one else .refuse failure)
      (if expected = char then .proceed action other else .refuse failure) := by
  by_cases same : expected = char
  · rw [if_pos same, if_pos same]
    exact .proceed action one other moved
  · rw [if_neg same, if_neg same]
    exact .refuse failure

-- The cases are those of `advance`; what is left of the input shows only behind the character that is read.
theorem advance_alike (before : one.cursor < bound) : (one.advance table).Alike bound (other.advance table) := by
  have verdicts := verdict_of_alike bound one other alike before
  have finished : one.stack = [] ∨ one.rest = [] → other.stack = [] ∨ other.rest = [] →
      (one.advance table).Alike bound (other.advance table) := by
    intro done otherDone
    rw [(finish_of_done table one done).1, (finish_of_done table other otherDone).1, verdicts]
    exact .finish other.verdict
  rcases rest_of_alike bound one other alike before with ⟨left, otherLeft⟩ | ⟨char, rest, more, left, otherLeft, further⟩
  · exact finished (Or.inr left) (Or.inr otherLeft)
  · cases otherStack : other.stack with
    | nil => exact finished (Or.inl (alike.stack.trans otherStack)) (Or.inl otherStack)
    | cons entry below =>
        have stack := alike.stack.trans otherStack
        have consumed := consume_of_alike bound one other alike below rest more further
        cases entry with
        | bottom =>
            simp only [advance, stack, otherStack, left, otherLeft, alike.cursor]
            exact match_alike bound _ _ _ char _ _ consumed
        | node id =>
            cases symbol : other.tree.symbol id with
            | terminal expected =>
                simp only [advance, stack, otherStack, left, otherLeft, alike.cursor, alike.tree, symbol]
                exact match_alike bound _ _ _ char _ _ consumed
            | endOfInput =>
                simp only [advance, stack, otherStack, left, otherLeft, alike.cursor, alike.tree, symbol]
                exact match_alike bound _ _ _ char _ _ consumed
            | epsilon =>
                simp only [advance, stack, otherStack, left, otherLeft, alike.tree, symbol]
                exact .proceed _ _ _ (drop_of_alike bound one other alike below)
            | nonTerminal head =>
                cases found : table.get? head char with
                | none =>
                    simp only [advance, stack, otherStack, left, otherLeft, alike.cursor, alike.tree, symbol, found]
                    exact .refuse _
                | some alternative =>
                    simp only [advance, stack, otherStack, left, otherLeft, alike.tree, symbol, found]
                    exact .proceed _ _ _ (expand_of_alike bound one other alike id below alternative)

theorem repetition_alike (before : one.cursor < bound) : one.repetition? table = other.repetition? table := by
  rw [repetition?, repetition?, alike.stack, alike.tree, alike.cursor]
  rcases rest_of_alike bound one other alike before with ⟨left, otherLeft⟩ | ⟨char, rest, more, left, otherLeft, _⟩
  · rw [left, otherLeft]
  · rw [left, otherLeft]
    cases other.stack with
    | nil => rfl
    | cons entry below => cases entry <;> rfl

theorem step_alike (before : one.cursor < bound) : (one.step table).Alike bound (other.step table) := by
  have blocked := repetition_alike table bound one other alike before
  cases guard : other.repetition? table with
  | some failure =>
      simp only [step, blocked, guard]
      exact .refuse failure
  | none =>
      simp only [step, blocked, guard]
      exact advance_alike table bound one other alike before

end Moves

section Runs

variable (table : Table) (bound : Nat)

-- Two runs that have made the same steps, all of them before the position.
structure Together (one other middle final : State) (front behind : List TraceStep) : Prop where
  first : Goes (step table) one front middle
  second : Goes (step table) other behind final
  alike : middle.Alike bound final
  shown : front.map TraceStep.shown = behind.map TraceStep.shown
  firstBefore : ∀ step ∈ front, step.position one.span < bound
  secondBefore : ∀ step ∈ behind, step.position other.span < bound

theorem position_of_state (state : State) (stack : List Symbol) (action : Action) :
    TraceStep.position state.span ⟨stack, state.rest, action⟩ = state.cursor :=
  Nat.add_sub_cancel _ _

theorem span_of_step (state next : State) (action : Action) (moved : state.step table = .proceed action next) :
    next.span = state.span :=
  span_of_moves table state next action (moves_of_step table state action next moved)

theorem together_step (one other next further middle final : State) (action : Action) (front behind : List TraceStep)
    (alike : one.Alike bound other) (before : one.cursor < bound) (moved : one.step table = .proceed action next)
    (otherMoved : other.step table = .proceed action further)
    (together : Together table bound next further middle final front behind) :
    Together table bound one other middle final (⟨one.symbols, one.rest, action⟩ :: front)
      (⟨other.symbols, other.rest, action⟩ :: behind) := by
  have symbols : one.symbols = other.symbols := by rw [State.symbols, State.symbols, alike.stack, alike.tree]
  have otherBefore : other.cursor < bound := alike.cursor ▸ before
  refine ⟨.step one next middle action front moved together.first,
    .step other further final action behind otherMoved together.second, together.alike, ?_, ?_, ?_⟩
  · rw [List.map_cons, List.map_cons, together.shown, TraceStep.shown, TraceStep.shown, symbols]
  · intro step member
    rcases List.mem_cons.mp member with rfl | later
    · rw [position_of_state]
      exact before
    · exact span_of_step table one next action moved ▸ together.firstBefore step later
  · intro step member
    rcases List.mem_cons.mp member with rfl | later
    · rw [position_of_state]
      exact otherBefore
    · exact span_of_step table other further action otherMoved ▸ together.secondBefore step later

-- Both runs go on alike until they have come to the position, or until one move stops them both.
theorem goes_alike (one other : State) (alike : one.Alike bound other) : ∃ front behind middle final,
    Together table bound one other middle final front behind ∧
      (bound ≤ middle.cursor ∨ (middle.cursor < bound ∧ middle.step table = final.step table ∧
        ∀ action next, middle.step table ≠ .proceed action next)) := by
  induction one using run_induction table generalizing other with
  | inherit one ih =>
      have here : Together table bound one other one other [] [] :=
        ⟨.stay one, .stay other, alike, rfl, by simp, by simp⟩
      by_cases reached : bound ≤ one.cursor
      · exact ⟨[], [], one, other, here, Or.inl reached⟩
      · have before := Nat.lt_of_not_le reached
        have moves := step_alike table bound one other alike before
        generalize moved : one.step table = move at moves
        generalize otherMoved : other.step table = otherMove at moves
        cases moves with
        | proceed action next further nextAlike =>
            obtain ⟨front, behind, middle, final, together, stops⟩ := ih action next moved further nextAlike
            exact ⟨_, _, middle, final, together_step table bound one other next further middle final action front
              behind alike before moved otherMoved together, stops⟩
        | refuse failure =>
            refine ⟨[], [], one, other, here, Or.inr ⟨before, moved.trans otherMoved.symm, ?_⟩⟩
            simp [moved]
        | finish verdict =>
            refine ⟨[], [], one, other, here, Or.inr ⟨before, moved.trans otherMoved.symm, ?_⟩⟩
            simp [moved]

-- A step is recorded with what the state before it has left of the input, so its position is the cursor there.
theorem state_of_trace (state : State) (step : TraceStep) (member : step ∈ (state.run table).trace) :
    ∃ before middle, Goes (State.step table) state before middle ∧ step.input = middle.rest ∧
      step.position state.span = middle.cursor := by
  obtain ⟨before, after, trace⟩ := List.append_of_mem member
  obtain ⟨middle, goes, run⟩ := reached_of_trace table state before after step trace
  obtain ⟨_, input⟩ := head_of_run table middle step after run
  refine ⟨before, middle, goes, input, ?_⟩
  have kept : middle.span = state.span := span_kept table state middle before goes
  rw [TraceStep.position, input, ← kept]
  exact Nat.add_sub_cancel _ _

theorem later_of_run (state : State) (step : TraceStep) (member : step ∈ (state.run table).trace) :
    state.cursor ≤ step.position state.span := by
  obtain ⟨before, middle, goes, _, position⟩ := state_of_trace table state step member
  rw [position]
  exact cursor_of_goes table state middle before goes

theorem ordered_of_run (state : State) :
    (state.run table).trace.Pairwise fun earlier later =>
      earlier.position state.span ≤ later.position state.span := by
  induction state using run_induction table with
  | inherit state ih =>
      cases moved : state.step table with
      | proceed action next =>
          have others := ih action next moved
          rw [span_of_step table state next action moved] at others
          rw [run_of_proceed table state action next moved]
          refine List.pairwise_cons.mpr ⟨fun later member => ?_, others⟩
          rw [position_of_state, ← span_of_step table state next action moved]
          have onward := cursor_of_moves table state next action (moves_of_step table state action next moved)
          exact Nat.le_trans onward (later_of_run table next later member)
      | refuse failure =>
          rw [run_of_refuse table state failure moved]
          exact List.pairwise_singleton _ _
      | finish verdict =>
          rw [run_of_finish table state verdict moved]
          exact .nil

theorem not_reject_of_goes (state final : State) (trace : List TraceStep) (goes : Goes (step table) state trace final) :
    ∀ step ∈ trace, step.action ≠ .reject := by
  induction goes with
  | stay state => simp
  | step state next final action trace moved _ ih =>
      have here := not_reject_of_moves table state next action (moves_of_step table state action next moved)
      simpa [here] using ih

theorem steps_of_goes (state final : State) (trace : List TraceStep) (goes : Goes (step table) state trace final)
    (before : ∀ step ∈ trace, step.position state.span < bound) :
    (state.run table).stepsBelow state.span bound =
      trace.map TraceStep.shown ++ (final.run table).stepsBelow final.span bound := by
  have kept : final.span = state.span := span_kept table state final trace goes
  have all : trace.filter (fun step => step.position state.span < bound) = trace :=
    List.filter_eq_self.mpr fun step member => decide_eq_true (before step member)
  rw [run_of_goes table state final trace goes, kept, Parse.stepsBelow, List.filter_append, List.map_append, all]
  rfl

theorem rejects_of_goes (state final : State) (trace : List TraceStep) (goes : Goes (step table) state trace final)
    (failure : Failure) : (state.run table).RejectsBelow state.span bound failure ↔
      (final.run table).RejectsBelow final.span bound failure := by
  have kept : final.span = state.span := span_kept table state final trace goes
  have moved := not_reject_of_goes table state final trace goes
  rw [run_of_goes table state final trace goes, kept, Parse.RejectsBelow, Parse.RejectsBelow]
  refine and_congr_right fun _ => ⟨?_, ?_⟩
  · rintro ⟨step, member, rejects, below⟩
    rcases List.mem_append.mp member with early | late
    · exact absurd rejects (moved step early)
    · exact ⟨step, late, rejects, below⟩
  · rintro ⟨step, member, rejects, below⟩
    exact ⟨step, List.mem_append_right trace member, rejects, below⟩

-- A run that has come to the position takes no step below it.
theorem none_below (state : State) (reached : bound ≤ state.cursor) :
    (state.run table).stepsBelow state.span bound = [] ∧
      ∀ failure, ¬ (state.run table).RejectsBelow state.span bound failure := by
  have later := fun step member => Nat.le_trans reached (later_of_run table state step member)
  constructor
  · rw [Parse.stepsBelow, List.map_eq_nil_iff, List.filter_eq_nil_iff]
    intro step member
    simpa using later step member
  · rintro failure ⟨_, step, member, _, below⟩
    exact absurd below (Nat.not_lt_of_le (later step member))

theorem below_of_refuse (state : State) (failure : Failure) (before : state.cursor < bound)
    (refused : state.step table = .refuse failure) :
    (state.run table).stepsBelow state.span bound = [(state.symbols, .reject)] ∧
      ∀ other, (state.run table).RejectsBelow state.span bound other ↔ other = failure := by
  rw [run_of_refuse table state failure refused]
  have here : TraceStep.position state.span ⟨state.symbols, state.rest, .reject⟩ < bound := by
    rw [position_of_state]
    exact before
  refine ⟨by simp [Parse.stepsBelow, here, TraceStep.shown], fun other => ⟨?_, ?_⟩⟩
  · rintro ⟨failed, _⟩
    exact (Option.some.inj failed).symm
  · rintro rfl
    exact ⟨rfl, _, List.mem_singleton.mpr rfl, rfl, here⟩

theorem below_of_finish (state : State) (verdict : Verdict) (finished : state.step table = .finish verdict) :
    (state.run table).stepsBelow state.span bound = [] ∧
      ∀ failure, ¬ (state.run table).RejectsBelow state.span bound failure := by
  rw [run_of_finish table state verdict finished]
  refine ⟨rfl, ?_⟩
  rintro failure ⟨_, step, member, _⟩
  cases member

theorem below_of_alike (one other : State) (alike : one.Alike bound other) :
    (one.run table).stepsBelow one.span bound = (other.run table).stepsBelow other.span bound ∧
      ∀ failure, (one.run table).RejectsBelow one.span bound failure ↔
        (other.run table).RejectsBelow other.span bound failure := by
  obtain ⟨front, behind, middle, final, together, stops⟩ := goes_alike table bound one other alike
  have cursor := together.alike.cursor
  simp only [rejects_of_goes table bound one middle front together.first,
    rejects_of_goes table bound other final behind together.second,
    steps_of_goes table bound one middle front together.first together.firstBefore,
    steps_of_goes table bound other final behind together.second together.secondBefore, together.shown]
  rcases stops with reached | ⟨before, same, stopped⟩
  · have first := none_below table bound middle reached
    have second := none_below table bound final (cursor ▸ reached)
    simp only [first, second, true_and, iff_self, implies_true]
  · cases moved : middle.step table with
    | proceed action next => exact absurd moved (stopped action next)
    | refuse failure =>
        have first := below_of_refuse table bound middle failure before moved
        have second := below_of_refuse table bound final failure (cursor ▸ before) (same ▸ moved)
        have symbols : middle.symbols = final.symbols := by
          rw [State.symbols, State.symbols, together.alike.stack, together.alike.tree]
        simp only [first, second, symbols, true_and, iff_self, implies_true]
    | finish verdict =>
        have first := below_of_finish table bound middle verdict moved
        have second := below_of_finish table bound final verdict (same ▸ moved)
        simp only [first, second, true_and, iff_self, implies_true]

end Runs

theorem alike_initial (start : Char) (one other : List Char) (bound : Nat)
    (agree : (one ++ [endMark]).take bound = (other ++ [endMark]).take bound) :
    (initial start one).Alike bound (initial start other) :=
  ⟨rfl, rfl, rfl, agree⟩

theorem span_initial (start : Char) (input : List Char) :
    (initial start input).span = (input ++ [endMark]).length := Nat.zero_add _

end State

namespace Table

-- Steps stand in the order of their positions, each with the input behind its own. Two inputs that agree up to a
-- position have the same steps before it on any table, and where one of them is rejected by such a step, so is
-- the other, with the same failure.
theorem steps_agree_below (table : Table) (one other : List Char) (bound : Nat)
    (agree : (one ++ [endMark]).take bound = (other ++ [endMark]).take bound) :
    (table.parse one).stepsBelow (one ++ [endMark]).length bound =
      (table.parse other).stepsBelow (other ++ [endMark]).length bound ∧
    (∀ failure, (table.parse one).RejectsBelow (one ++ [endMark]).length bound failure ↔
      (table.parse other).RejectsBelow (other ++ [endMark]).length bound failure) ∧
    (table.parse one).trace.Pairwise (fun earlier later =>
      earlier.position (one ++ [endMark]).length ≤ later.position (one ++ [endMark]).length) ∧
    ∀ step ∈ (table.parse one).trace,
      step.input = (one ++ [endMark]).drop (step.position (one ++ [endMark]).length) := by
  cases begins : table.start? with
  | none =>
      rw [parse_of_no_start table one begins, parse_of_no_start table other begins]
      refine ⟨rfl, fun failure => ?_, .nil, fun step member => nomatch member⟩
      simp [Parse.RejectsBelow]
  | some start =>
      rw [parse_of_start table start one begins, parse_of_start table start other begins]
      have alike := State.alike_initial start one other bound agree
      obtain ⟨steps, rejects⟩ := State.below_of_alike table bound _ _ alike
      have ordered := State.ordered_of_run table (.initial start one)
      simp only [State.span_initial] at steps rejects ordered
      refine ⟨steps, rejects, ordered, fun step member => ?_⟩
      obtain ⟨before, middle, goes, input, position⟩ := State.state_of_trace table _ step member
      obtain ⟨done, layout⟩ := State.laid_of_goes table one start before middle goes
      rw [input, ← State.span_initial start one, position]
      exact layout.rest

-- The end mark is expected, and the first character decides, whatever comes behind it.
theorem steps_agree_below_nested :
    (['b', 'a'] ++ [endMark]).take 1 = (['b', 'b', 'b'] ++ [endMark]).take 1 ∧
      (Grammar.nested.analyze.table.parse ['b', 'b', 'b']).RejectsBelow 4 1 (.terminalMismatch .endOfInput 'b' 0) := by
  have rejects : (Grammar.nested.analyze.table.parse ['b', 'a']).RejectsBelow 3 1
      (.terminalMismatch .endOfInput 'b' 0) := by
    constructor
    · decide +kernel
    · decide +kernel
  obtain ⟨_, alike, _⟩ := steps_agree_below Grammar.nested.analyze.table ['b', 'a'] ['b', 'b', 'b'] 1 rfl
  exact ⟨rfl, (alike _).mp rejects⟩

end Table

end TopDown
