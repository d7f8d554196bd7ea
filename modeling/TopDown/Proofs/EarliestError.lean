import TopDown.Proofs.Chronology
import TopDown.Proofs.Language
/-!
Where a table without conflicts rejects an input. What was read up to there begins some form that
derives from the start symbol, and with one more character it would not: as long as the form of the
stack can be taken apart on the next character, the machine moves, and the guard is never in its way.
-/

set_option autoImplicit false

namespace TopDown

namespace Grammar

-- The text begins a form that derives from the start symbol before the end of the input.
def Viable (grammar : Grammar) (text : List Char) : Prop :=
  ∃ start front back, grammar.start? = some start ∧ Form.Reads front text ∧
    grammar.Derives [.nonTerminal start, .endOfInput] (front ++ back)

theorem viable_take (grammar : Grammar) (text : List Char) (count : Nat) (viable : grammar.Viable text) :
    grammar.Viable (text.take count) := by
  obtain ⟨start, front, back, first, reads, derives⟩ := viable
  refine ⟨start, front.take count, front.drop count ++ back, first, ?_, ?_⟩
  · rw [Form.Reads, List.map_take, reads, List.map_take]
  · rw [← List.append_assoc, List.take_append_drop]
    exact derives

end Grammar

namespace State

-- The form of the stack can be taken apart on the input from the cursor to the position.
def Foresees (grammar : Grammar) (position : Nat) (state : State) : Prop :=
  ∃ steps ahead beyond remains, state.rest = ahead ++ beyond ∧ state.cursor + ahead.length = position ∧
    grammar.Leads steps state.form ahead remains

theorem foresees_initial (grammar : Grammar) (start : Char) (first : grammar.start? = some start) (input : List Char)
    (position : Nat) (within : position ≤ (input ++ [endMark]).length)
    (viable : grammar.Viable ((input ++ [endMark]).take position)) :
    Foresees grammar position (initial start input) := by
  obtain ⟨other, front, back, begins, reads, derives⟩ := viable
  cases first.symm.trans begins
  obtain ⟨steps, remains, _, leads⟩ := grammar.leads_of_derives _ front back _ derives reads
  have span : ((input ++ [endMark]).take position).length = position := by
    rw [List.length_take, Nat.min_eq_left within]
  exact ⟨steps, _, (input ++ [endMark]).drop position, remains, (List.take_append_drop _ _).symm,
    (Nat.zero_add _).trans span, leads⟩

-- What is foreseen ahead of the cursor begins with the next character.
theorem leads_of_foresees (grammar : Grammar) (position : Nat) (state : State)
    (foresees : Foresees grammar position state) (ahead : state.cursor < position) :
    ∃ steps char word beyond remains, state.rest = char :: word ++ beyond ∧
      state.cursor + (char :: word).length = position ∧ grammar.Leads steps state.form (char :: word) remains := by
  obtain ⟨steps, word, beyond, remains, left, span, leads⟩ := foresees
  cases word with
  | nil => exact absurd ahead (span ▸ Nat.lt_irrefl _)
  | cons char word => exact ⟨steps, char, word, beyond, remains, left, span, leads⟩

section Directed

variable (grammar : Grammar) (free : grammar.analyze.table.isConflictFree = true) (start : Char)
  (first : grammar.start? = some start) (input : List Char) (position : Nat) (state : State)

include free first

theorem foresees_moves (done : List Nat) (coherent : Coherent grammar grammar.analyze.table start input state done)
    (foresees : Foresees grammar position state) (ahead : state.cursor < position) (action : Action) (next : State)
    (moves : Moves grammar.analyze.table state action next) : Foresees grammar position next := by
  have rooted := rooted_of_derived grammar start input state first coherent.derived
  obtain ⟨steps, char, word, beyond, remains, left, span, leads⟩ :=
    leads_of_foresees grammar position state foresees ahead
  obtain ⟨fewer, further, _, rest, kept, shorter⟩ := leads_of_moves grammar free state steps char word beyond remains
    left rooted leads input done coherent.layout action next moves
  exact ⟨fewer, further, beyond, remains, rest, kept.trans span, shorter⟩

theorem step_of_foresees (done : List Nat) (coherent : Coherent grammar grammar.analyze.table start input state done)
    (guarded : Guarded grammar.analyze.table state) (foresees : Foresees grammar position state)
    (ahead : state.cursor < position) : ∃ action next, state.step grammar.analyze.table = .proceed action next := by
  have rooted := rooted_of_derived grammar start input state first coherent.derived
  obtain ⟨steps, char, word, beyond, remains, left, _, leads⟩ :=
    leads_of_foresees grammar position state foresees ahead
  obtain ⟨action, next, moves⟩ := moves_of_leads grammar free state steps char word beyond remains left rooted leads
  have unblocked := unblocked_of_conflict_free grammar free state guarded
  exact ⟨action, next, step_of_moves _ state action next unblocked moves⟩

-- A run passes over every position up to which the input is viable.
theorem foresees_goes (within : position ≤ (input ++ [endMark]).length)
    (viable : grammar.Viable ((input ++ [endMark]).take position)) (trace : List TraceStep)
    (goes : Goes (step grammar.analyze.table) (initial start input) trace state) :
    position ≤ state.cursor ∨ Foresees grammar position state := by
  have chooses := Table.chooses_build grammar (FirstSets.compute grammar).1
    (FollowSets.compute grammar (FirstSets.compute grammar).1).1
  refine (run_keeps grammar.analyze.table (fun state =>
    (∃ done, Coherent grammar grammar.analyze.table start input state done) ∧
      (position ≤ state.cursor ∨ Foresees grammar position state)) ?_ _ state trace goes
    ⟨⟨[], coherent_initial grammar _ start input⟩,
      Or.inr (foresees_initial grammar start first input position within viable)⟩).2
  intro state next action ⟨⟨done, coherent⟩, either⟩ moves
  have forward := cursor_of_moves _ state next action moves
  refine ⟨coherent_moves grammar _ chooses start input state next action done coherent moves, ?_⟩
  rcases either with past | foresees
  · exact Or.inl (Nat.le_trans past forward)
  · by_cases ahead : state.cursor < position
    · exact Or.inr (foresees_moves grammar free start first input position state done coherent foresees ahead
        action next moves)
    · exact Or.inl (Nat.le_trans (Nat.le_of_not_lt ahead) forward)

-- Where the machine stops, nothing viable lies ahead.
theorem stops_of_viable (within : position ≤ (input ++ [endMark]).length)
    (viable : grammar.Viable ((input ++ [endMark]).take position)) (trace : List TraceStep)
    (goes : Goes (step grammar.analyze.table) (initial start input) trace state)
    (stopped : ∀ action next, state.step grammar.analyze.table ≠ .proceed action next) :
    position ≤ state.cursor := by
  obtain ⟨done, coherent⟩ := coherent_reaches grammar _ (Table.chooses_build grammar _ _) start input state
    (reaches_of_goes _ _ state trace goes)
  have tracked := tracked_goes grammar.analyze.table input _ (moves_of_step _) _ state trace goes
    (tracked_initial _ start input)
  rcases foresees_goes grammar free start first input position state within viable trace goes with past | foresees
  · exact past
  · by_cases ahead : state.cursor < position
    · obtain ⟨action, next, moved⟩ := step_of_foresees grammar free start first input position state done coherent
        tracked.guarded foresees ahead
      exact absurd moved (stopped action next)
    · exact Nat.le_of_not_lt ahead

end Directed

-- A rejected run stops at the cursor that its failure tells, and never for a repetition.
theorem stops_of_rejected (grammar : Grammar) (free : grammar.analyze.table.isConflictFree = true)
    (input : List Char) (state : State) (failure : Failure)
    (rejected : (state.run grammar.analyze.table).failure? = some failure)
    (tracked : Tracked grammar.analyze.table input state) :
    ∃ trace final, Goes (step grammar.analyze.table) state trace final ∧
      (∀ action next, final.step grammar.analyze.table ≠ .proceed action next) ∧ failure.StandsAt final.cursor := by
  obtain ⟨trace, final, last, goes, closed, parse⟩ := ends_run grammar.analyze.table state
  have further := tracked_goes grammar.analyze.table input _ (moves_of_step _) state final trace goes tracked
  have unblocked := unblocked_of_conflict_free grammar free final further.guarded
  have plain : final.step grammar.analyze.table = final.advance grammar.analyze.table := by simp only [step, unblocked]
  refine ⟨trace, final, goes, fun action next moved => ?_, ?_⟩
  · rw [moved] at closed
    cases closed
  · rw [parse] at rejected
    exact stands_of_close _ final last failure (plain ▸ closed) rejected

theorem span_of_goes (table : Table) (input : List Char) (start : Char) (state : State) (trace : List TraceStep)
    (goes : Goes (step table) (initial start input) trace state) :
    state.cursor + state.rest.length = (input ++ [endMark]).length := by
  exact (span_kept table _ state trace goes).trans (Nat.zero_add _)

theorem viable_of_derived (grammar : Grammar) (start : Char) (first : grammar.start? = some start)
    (input : List Char) (state : State) (derived : Derived grammar start input state) :
    grammar.Viable ((input ++ [endMark]).take state.cursor) := by
  obtain ⟨front, reads, derives⟩ := derived
  exact ⟨start, front, state.form, first, reads, derives⟩

end State

namespace Grammar

/-- The failure is told at the end of the longest viable prefix of the input and its end mark, whatever
kind of failure it is, and it is never a repetition. -/
theorem rejects_at_longest_viable (grammar : Grammar) (free : grammar.analyze.table.isConflictFree = true)
    (start : Char) (first : grammar.start? = some start) (input : List Char) (failure : Failure)
    (rejected : (grammar.analyze.table.parse input).failure? = some failure) :
    (∀ left position, failure ≠ .leftRecursion left position) ∧
    ∃ position, failure.position? = some position ∧ position ≤ (input ++ [endMark]).length ∧
      grammar.Viable ((input ++ [endMark]).take position) ∧
      (position < (input ++ [endMark]).length → ¬ grammar.Viable ((input ++ [endMark]).take (position + 1))) ∧
      ∀ count, count ≤ (input ++ [endMark]).length →
        (grammar.Viable ((input ++ [endMark]).take count) ↔ count ≤ position) := by
  have begins : grammar.analyze.table.start? = some start := (Table.start_build grammar _ _).trans first
  rw [Table.parse_of_start _ start input begins] at rejected
  obtain ⟨trace, final, goes, stopped, told, plain⟩ := State.stops_of_rejected grammar free input (.initial start input)
    failure rejected (State.tracked_initial _ start input)
  obtain ⟨done, coherent⟩ := State.coherent_reaches grammar _ (Table.chooses_build grammar _ _) start input final
    (State.reaches_of_goes _ _ final trace goes)
  have span := State.span_of_goes _ input start final trace goes
  have viable := State.viable_of_derived grammar start first input final coherent.derived
  have furthest : ∀ count, count ≤ (input ++ [endMark]).length →
      grammar.Viable ((input ++ [endMark]).take count) → count ≤ final.cursor := fun count within begun =>
    State.stops_of_viable grammar free start first input count final within begun trace goes stopped
  refine ⟨plain, final.cursor, told, span ▸ Nat.le_add_right _ _, viable, fun ahead longer => ?_, fun count within =>
    ⟨furthest count within, fun before => ?_⟩⟩
  · exact absurd (furthest _ ahead longer) (Nat.not_succ_le_self _)
  · have shorter := grammar.viable_take _ count viable
    rwa [List.take_take, Nat.min_eq_left before] at shorter

theorem rejects_at_longest_viable_nested :
    nested.Viable ['a', 'b'] ∧ ¬ nested.Viable ['a', 'b', 'b'] := by
  have free : nested.analyze.table.isConflictFree = true := by decide +kernel
  have rejected : (nested.analyze.table.parse ['a', 'b', 'b']).failure? =
      some (.terminalMismatch .endOfInput 'b' 2) := by decide +kernel
  obtain ⟨_, position, told, _, viable, dead, _⟩ :=
    rejects_at_longest_viable nested free 'S' rfl ['a', 'b', 'b'] _ rejected
  cases told
  exact ⟨viable, dead (by decide)⟩

end Grammar

end TopDown
