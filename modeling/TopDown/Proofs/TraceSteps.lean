import TopDown.Analysis
import TopDown.Proofs.ParseTree
/-!
What a trace tells. The symbols read before a step, with the stack of the step behind them, are a form that
derives from the start symbol before the end of the input, and the action of the step carries out the next
rewrite of its first non-terminal. So a trace spells out a leftmost derivation, as far as the parse came.
-/

set_option autoImplicit false

namespace TopDown

namespace Failure

-- What a move can meet, apart from what is found wrong when the stack or the input is used up.
def IsRefusal : Failure → Prop
  | terminalMismatch _ _ _ | noTableEntry _ _ _ | leftRecursion _ _ => True
  | unconsumedInput _ | leftoverStack _ _ | noStartSymbol => False

end Failure

namespace Symbol

theorem matched_of_reads (symbol : Symbol) (char : Char) (reads : symbol.read? = some char) :
    symbol.isMatched = true := by
  cases symbol with
  | terminal other => rfl
  | nonTerminal left => cases reads
  | epsilon => cases reads
  | endOfInput => rfl

end Symbol

namespace TraceStep

-- The symbol that a step takes off the input.
def read? (step : TraceStep) : Option Symbol :=
  match step.action with
  | .accept symbol => if symbol.isMatched then some symbol else none
  | _ => none

-- All that some steps take off the input.
def readBy (steps : List TraceStep) : Form := steps.filterMap read?

-- What was read before the step, and the stack from its top down.
def form (before : List TraceStep) (step : TraceStep) : Form := readBy before ++ step.stack.reverse

-- What the action of a step makes of the stack and of the input that it is recorded with.
inductive Gives (grammar : Grammar) : TraceStep → List Symbol → List Char → Prop where
  | read (stack : List Symbol) (symbol : Symbol) (char : Char) (input : List Char)
      (reads : symbol.read? = some char) :
      Gives grammar ⟨stack ++ [symbol], char :: input, .accept symbol⟩ stack input
  | skip (stack : List Symbol) (input : List Char) :
      Gives grammar ⟨stack ++ [.epsilon], input, .accept .epsilon⟩ stack input
  | expand (stack : List Symbol) (left : Char) (alternative : Form) (input : List Char)
      (member : alternative ∈ grammar.alternativesOf left) :
      Gives grammar ⟨stack ++ [.nonTerminal left], input, .expand left alternative⟩
        (stack ++ (State.childForm alternative).reverse) input

theorem read_by_append (before after : List TraceStep) : readBy (before ++ after) = readBy before ++ readBy after :=
  List.filterMap_append

theorem read_by_cons (step : TraceStep) (steps : List TraceStep) :
    readBy (step :: steps) = readBy [step] ++ readBy steps :=
  read_by_append [step] steps

theorem read_by_accept (stack : List Symbol) (input : List Char) (symbol : Symbol) (matched : symbol.isMatched = true) :
    readBy [⟨stack, input, .accept symbol⟩] = [symbol] := by
  simp [readBy, read?, matched]

theorem matched_of_read_by (steps : List TraceStep) (symbol : Symbol) (member : symbol ∈ readBy steps) :
    symbol.isMatched = true := by
  obtain ⟨step, _, read⟩ := List.mem_filterMap.mp member
  rw [read?] at read
  split at read
  · rename_i other _
    by_cases matched : other.isMatched = true
    · rw [if_pos matched] at read
      cases read
      exact matched
    · simp [matched] at read
  · cases read

end TraceStep

namespace Grammar

-- What an action does to a form: what it reads stays, the empty mark is struck out, and a non-terminal
-- with nothing but read symbols before it is rewritten, at once to nothing where its alternative is the mark.
inductive ActsOn (grammar : Grammar) : Action → Form → Form → Prop where
  | keep (symbol : Symbol) (form : Form) (matched : symbol.isMatched = true) :
      ActsOn grammar (.accept symbol) form form
  | erase (front back : Form) (read : ∀ symbol ∈ front, symbol.isMatched = true) :
      ActsOn grammar (.accept .epsilon) (front ++ .epsilon :: back) (front ++ back)
  | rewrite (front back : Form) (left : Char) (alternative : Form)
      (read : ∀ symbol ∈ front, symbol.isMatched = true) (member : alternative ∈ grammar.alternativesOf left) :
      ActsOn grammar (.expand left alternative) (front ++ .nonTerminal left :: back)
        (front ++ State.childForm alternative ++ back)

variable (grammar : Grammar)

theorem derives_of_acts (action : Action) (form target : Form) (acts : grammar.ActsOn action form target) :
    grammar.Derives form target := by
  cases acts with
  | keep symbol form matched => exact grammar.derives_refl form
  | erase front back read => exact .single (.erase front back)
  | rewrite front back left alternative read member =>
      refine .head (.replace front back left alternative member) ?_
      exact grammar.derives_in_context front back alternative _ (grammar.derives_child_form alternative)

-- Behind read symbols the action of a step acts on the form that its stack is.
theorem acts_of_gives (step : TraceStep) (stack : List Symbol) (input : List Char)
    (gives : step.Gives grammar stack input) (front : Form) (read : ∀ symbol ∈ front, symbol.isMatched = true) :
    grammar.ActsOn step.action (front ++ step.stack.reverse) (front ++ TraceStep.readBy [step] ++ stack.reverse) := by
  cases gives with
  | read stack symbol char input reads =>
      have matched := symbol.matched_of_reads char reads
      rw [TraceStep.read_by_accept _ _ symbol matched, List.reverse_append, List.append_assoc]
      exact .keep symbol _ matched
  | skip stack input =>
      have none : TraceStep.readBy [⟨stack ++ [.epsilon], input, .accept .epsilon⟩] = [] := rfl
      rw [none, List.append_nil, List.reverse_append]
      exact .erase front stack.reverse read
  | expand stack left alternative input member =>
      have none : TraceStep.readBy [⟨stack ++ [.nonTerminal left], input, .expand left alternative⟩] = [] := rfl
      have acts : grammar.ActsOn (.expand left alternative) _ _ :=
        .rewrite front stack.reverse left alternative read member
      rw [List.append_assoc] at acts
      rw [none, List.append_nil, List.reverse_append, List.reverse_append, List.reverse_reverse]
      exact acts

theorem reads_of_gives (step : TraceStep) (stack : List Symbol) (input : List Char)
    (gives : step.Gives grammar stack input) :
    ∃ consumed, step.input = consumed ++ input ∧ Form.Reads (TraceStep.readBy [step]) consumed := by
  cases gives with
  | read stack symbol char input reads =>
      refine ⟨[char], rfl, ?_⟩
      rw [TraceStep.read_by_accept _ _ symbol (symbol.matched_of_reads char reads)]
      exact congrArg (fun value => [value]) reads
  | skip stack input => exact ⟨[], rfl, rfl⟩
  | expand stack left alternative input member => exact ⟨[], rfl, rfl⟩

end Grammar

namespace State

theorem gives_of_moves (table : Table) (grammar : Grammar) (chooses : table.Chooses grammar) (input : List Char)
    (state next : State) (action : Action) (done : List Nat) (layout : Layout input state done)
    (moves : Moves table state action next) :
    TraceStep.Gives grammar ⟨state.symbols, state.rest, action⟩ next.symbols next.rest := by
  have symbols : ∀ entry below, state.stack = entry :: below →
      state.symbols = (below.map state.tree.entrySymbol).reverse ++ [state.tree.entrySymbol entry] := by
    intro entry below stack
    rw [State.symbols, stack, List.map_cons, List.reverse_cons]
  cases moves with
  | read entry below char rest stack left reads =>
      rw [symbols entry below stack, left]
      exact .read _ _ char rest reads
  | skip id below char rest stack left symbol =>
      rw [symbols _ below stack, Tree.entrySymbol, symbol]
      exact .skip _ state.rest
  | expand id below char rest head alternative stack left symbol found =>
      have grown : (state.expand id below alternative).symbols =
          (below.map state.tree.entrySymbol).reverse ++ (childForm alternative).reverse := by
        rw [← List.reverse_append]
        exact congrArg List.reverse (form_of_expand input state done layout id below alternative stack)
      rw [symbols _ below stack, grown, Tree.entrySymbol, symbol]
      exact .expand _ head alternative state.rest (chooses head char alternative found)

section Traces

variable (table : Table)

theorem head_of_run (state : State) (step : TraceStep) (rest : List TraceStep)
    (trace : (state.run table).trace = step :: rest) : step.stack = state.symbols ∧ step.input = state.rest := by
  cases moved : state.step table with
  | proceed action next =>
      rw [run_of_proceed table state action next moved] at trace
      cases trace
      exact ⟨rfl, rfl⟩
  | refuse failure =>
      rw [run_of_refuse table state failure moved] at trace
      cases trace
      exact ⟨rfl, rfl⟩
  | finish verdict =>
      rw [run_of_finish table state verdict moved] at trace
      cases trace

-- Each step of a trace begins the trace of a state that the run comes to.
theorem reached_of_trace (state : State) (before after : List TraceStep) (step : TraceStep)
    (trace : (state.run table).trace = before ++ step :: after) :
    ∃ middle, Goes (State.step table) state before middle ∧ (middle.run table).trace = step :: after := by
  induction before generalizing state with
  | nil => exact ⟨state, .stay state, trace⟩
  | cons first before ih =>
      cases moved : state.step table with
      | proceed action next =>
          rw [run_of_proceed table state action next moved] at trace
          obtain ⟨rfl, further⟩ := List.cons.inj trace
          obtain ⟨middle, goes, rest⟩ := ih next further
          exact ⟨middle, .step state next middle action before moved goes, rest⟩
      | refuse failure =>
          rw [run_of_refuse table state failure moved] at trace
          simp at trace
      | finish verdict =>
          rw [run_of_finish table state verdict moved] at trace
          cases trace

-- A first step is the last one as well, or the trace goes on with the state after its move.
theorem next_of_run (state : State) (step : TraceStep) (after : List TraceStep)
    (trace : (state.run table).trace = step :: after) :
    (step.action = .reject ∧ after = []) ∨
      ∃ next, Moves table state step.action next ∧ (next.run table).trace = after := by
  cases moved : state.step table with
  | proceed action next =>
      rw [run_of_proceed table state action next moved] at trace
      cases trace
      exact Or.inr ⟨next, moves_of_step table state action next moved, rfl⟩
  | refuse failure =>
      rw [run_of_refuse table state failure moved] at trace
      cases trace
      exact Or.inl ⟨rfl, rfl⟩
  | finish verdict =>
      rw [run_of_finish table state verdict moved] at trace
      cases trace

theorem not_reject_of_moves (state next : State) (action : Action) (moves : Moves table state action next) :
    action ≠ .reject := by
  cases moves <;> simp

-- A run that has anything on its stack and before its end records at least one step.
theorem first_of_run (state : State) (entry : Entry) (below : List Entry) (char : Char) (rest : List Char)
    (stack : state.stack = entry :: below) (left : state.rest = char :: rest) :
    ∃ step after, (state.run table).trace = step :: after := by
  cases moved : state.step table with
  | proceed action next =>
      rw [run_of_proceed table state action next moved]
      exact ⟨_, _, rfl⟩
  | refuse failure =>
      rw [run_of_refuse table state failure moved]
      exact ⟨_, _, rfl⟩
  | finish verdict =>
      obtain ⟨_, empty⟩ := done_of_finish table state verdict moved
      simp [stack, left] at empty

-- All that is read on the way is read off the input, and the rewrites on the way are a derivation.
theorem derives_of_goes (grammar : Grammar) (chooses : table.Chooses grammar) (input : List Char)
    (state final : State) (trace : List TraceStep) (goes : Goes (State.step table) state trace final)
    (laid : ∃ done, Layout input state done) :
    (∃ consumed, state.rest = consumed ++ final.rest ∧ (TraceStep.readBy trace).Reads consumed) ∧
      grammar.Derives state.form (TraceStep.readBy trace ++ final.form) := by
  induction goes with
  | stay state => exact ⟨⟨[], rfl, rfl⟩, grammar.derives_refl state.form⟩
  | step state next final action trace moved _ ih =>
      obtain ⟨done, layout⟩ := laid
      have moves := moves_of_step table state action next moved
      have gives := gives_of_moves table grammar chooses input state next action done layout moves
      obtain ⟨⟨rest, restEq, restReads⟩, further⟩ := ih (layout_moves table input state next action done layout moves)
      obtain ⟨consumed, inputEq, reads⟩ := grammar.reads_of_gives _ _ _ gives
      have acts := grammar.acts_of_gives _ _ _ gives [] (by simp)
      rw [TraceStep.read_by_cons]
      refine ⟨⟨consumed ++ rest, ?_, Form.reads_append _ _ _ _ reads restReads⟩, ?_⟩
      · rw [List.append_assoc, ← restEq]
        exact inputEq
      · have turned := grammar.derives_of_acts _ _ _ acts
        rw [State.symbols, State.symbols, List.reverse_reverse, List.reverse_reverse] at turned
        rw [List.append_assoc]
        exact grammar.derives_trans turned (grammar.derives_append _ _ _ _ (grammar.derives_refl _) further)

theorem laid_of_goes (input : List Char) (start : Char) (trace : List TraceStep) (final : State)
    (goes : Goes (State.step table) (.initial start input) trace final) : ∃ done, Layout input final done := by
  refine run_keeps table (fun state => ∃ done, Layout input state done) ?_ _ final trace goes
    ⟨[], layout_initial start input⟩
  intro state next action ⟨done, layout⟩ moves
  exact layout_moves table input state next action done layout moves

theorem refusal_of_step (state : State) (failure : Failure) (refused : state.step table = .refuse failure) :
    failure.IsRefusal := by
  cases blocked : state.repetition? table with
  | some other =>
      obtain ⟨_, _, _, _, _, _, _, _, _, rfl⟩ := repetition_cases table state other blocked
      simp only [State.step, blocked] at refused
      cases refused
      trivial
  | none =>
      simp only [State.step, blocked] at refused
      rcases refusal_cases table state failure refused with ⟨expected, found, rfl⟩ | ⟨left, found, rfl⟩
      · trivial
      · trivial

theorem not_refusal_of_verdict (state : State) (failure : Failure) (rejected : state.verdict = .rejected failure) :
    ¬ failure.IsRefusal := by
  intro refusal
  rcases rejection_cases state failure rejected with rfl | rfl
  · exact refusal
  · exact refusal

theorem reject_iff_refused (state : State) :
    (∃ step ∈ (state.run table).trace, step.action = .reject) ↔
      ∃ failure, (state.run table).failure? = some failure ∧ failure.IsRefusal := by
  induction state using run_induction table with
  | inherit state ih =>
      cases moved : state.step table with
      | proceed action next =>
          have other := not_reject_of_moves table state next action (moves_of_step table state action next moved)
          rw [run_of_proceed table state action next moved]
          simp only [List.mem_cons, exists_eq_or_imp, other, false_or]
          exact ih action next moved
      | refuse failure =>
          rw [run_of_refuse table state failure moved]
          constructor
          · intro _
            exact ⟨failure, rfl, refusal_of_step table state failure moved⟩
          · intro _
            exact ⟨⟨state.symbols, state.rest, .reject⟩, List.mem_singleton.mpr rfl, rfl⟩
      | finish verdict =>
          obtain ⟨rfl, _⟩ := done_of_finish table state verdict moved
          rw [run_of_finish table state _ moved]
          constructor
          · rintro ⟨step, member, _⟩
            cases member
          · rintro ⟨failure, failed, refusal⟩
            cases ended : state.verdict with
            | accepted tree => simp [Parse.failure?, ended] at failed
            | rejected other =>
                simp only [Parse.failure?, ended, Option.some.injEq] at failed
                exact absurd (failed ▸ refusal) (not_refusal_of_verdict state other ended)

end Traces

end State

namespace Table

-- The trace of a parse on any table begins with the start symbol before the whole input. Every step stands for a
-- form derived from there, and either rejects and comes last or hands on what its action makes of the stack and
-- the input, by a leftmost rewrite of the form. Steps reject exactly for the failures that a move meets.
theorem trace_derives_leftmost (grammar : Grammar) (first : FirstSets) (follow : FollowSets) (start : Char)
    (begins : grammar.start? = some start) (input : List Char) :
    (∃ action rest, ((build grammar first follow).parse input).trace =
      ⟨[.endOfInput, .nonTerminal start], input ++ [endMark], action⟩ :: rest) ∧
    (∀ before step after, ((build grammar first follow).parse input).trace = before ++ step :: after →
      (∃ consumed, input ++ [endMark] = consumed ++ step.input ∧ (TraceStep.readBy before).Reads consumed) ∧
      grammar.Derives [.nonTerminal start, .endOfInput] (step.form before) ∧
      (step.action = .reject ∧ after = [] ∨
        ∃ stack remaining, step.Gives grammar stack remaining ∧
          grammar.ActsOn step.action (step.form before) (TraceStep.readBy (before ++ [step]) ++ stack.reverse) ∧
          ∀ next, after.head? = some next → next.stack = stack ∧ next.input = remaining)) ∧
    ((∃ step ∈ ((build grammar first follow).parse input).trace, step.action = .reject) ↔
      ∃ failure, ((build grammar first follow).parse input).failure? = some failure ∧ failure.IsRefusal) := by
  have chooses := chooses_build grammar first follow
  have same : (build grammar first follow).start? = some start := (start_build grammar first follow).trans begins
  generalize build grammar first follow = table at chooses same
  rw [parse_of_start table start input same]
  refine ⟨?_, fun before step after trace => ?_, State.reject_iff_refused table (.initial start input)⟩
  · obtain ⟨char, rest, left⟩ : ∃ char rest, (State.initial start input).rest = char :: rest := by
      cases input <;> exact ⟨_, _, rfl⟩
    obtain ⟨step, after, trace⟩ := State.first_of_run table _ _ _ char rest rfl left
    obtain ⟨stack, remaining⟩ := State.head_of_run table _ step after trace
    cases step
    cases stack
    cases remaining
    exact ⟨_, after, trace⟩
  · obtain ⟨middle, goes, run⟩ := State.reached_of_trace table _ before after step trace
    obtain ⟨stack, remaining⟩ := State.head_of_run table middle step after run
    obtain ⟨consumed, derives⟩ := State.derives_of_goes table grammar chooses input _ middle before goes
      ⟨[], State.layout_initial start input⟩
    refine ⟨remaining ▸ consumed, ?_, ?_⟩
    · rw [TraceStep.form, stack, State.symbols, List.reverse_reverse]
      exact derives
    rcases State.next_of_run table middle step after run with rejects | ⟨next, moves, further⟩
    · exact Or.inl rejects
    · obtain ⟨done, layout⟩ := State.laid_of_goes table input start before middle goes
      have gives := State.gives_of_moves table grammar chooses input middle next step.action done layout moves
      rw [← stack, ← remaining] at gives
      have acts := grammar.acts_of_gives step _ _ gives (TraceStep.readBy before) (TraceStep.matched_of_read_by before)
      refine Or.inr ⟨next.symbols, next.rest, gives, ?_, fun following first => ?_⟩
      · rw [TraceStep.form, TraceStep.read_by_append]
        exact acts
      · cases after with
        | nil => cases first
        | cons other after =>
            cases first
            exact State.head_of_run table next following after further

theorem trace_derives_leftmost_nested :
    Grammar.nested.start? = some 'S' ∧
      Grammar.nested.Derives [.nonTerminal 'S', .endOfInput]
        [.terminal 'a', .nonTerminal 'S', .terminal 'b', .endOfInput] ∧
      ∃ target, Grammar.nested.ActsOn (.expand 'S' .empty)
        [.terminal 'a', .nonTerminal 'S', .terminal 'b', .endOfInput] target := by
  have trace : (Grammar.nested.analyze.table.parse ['a', 'b']).trace =
      [⟨[.endOfInput, .nonTerminal 'S'], ['a', 'b', '$'],
          .expand 'S' [.terminal 'a', .nonTerminal 'S', .terminal 'b']⟩,
        ⟨[.endOfInput, .terminal 'b', .nonTerminal 'S', .terminal 'a'], ['a', 'b', '$'], .accept (.terminal 'a')⟩] ++
      ⟨[.endOfInput, .terminal 'b', .nonTerminal 'S'], ['b', '$'], .expand 'S' .empty⟩ ::
      [⟨[.endOfInput, .terminal 'b'], ['b', '$'], .accept (.terminal 'b')⟩,
        ⟨[.endOfInput], ['$'], .accept .endOfInput⟩] := by
    decide +kernel
  obtain ⟨_, told, _⟩ := trace_derives_leftmost .nested Grammar.nested.analyze.first Grammar.nested.analyze.follow 'S'
    rfl ['a', 'b']
  obtain ⟨_, derives, rejects | ⟨_, _, _, acts, _⟩⟩ := told _ _ _ trace
  · cases rejects.1
  · exact ⟨rfl, derives, _, acts⟩

end Table

end TopDown
