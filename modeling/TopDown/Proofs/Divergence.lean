import TopDown.Proofs.Halting
/-!
What the guard against repetition changes. Where it fires, a non-terminal has come back to the front
of its own form, and the table alone would bring it back again and again above the untouched rest of
the stack. Where it never fires, the guarded run is the run by the table alone, and it is finite.
-/

set_option autoImplicit false

namespace TopDown

namespace Table

-- The form turns over into one whose front comes back to the front, and so it turns over for ever.
def Recurs (table : Table) (char : Char) (form : Form) : Prop :=
  ∃ left rest behind, Relation.ReflTransGen (table.Turns char) form (.nonTerminal left :: rest) ∧
    Relation.TransGen (table.Turns char) [.nonTerminal left] (.nonTerminal left :: behind)

theorem recurs_turns (table : Table) (char : Char) (form : Form) (recurs : table.Recurs char form) :
    ∃ target, table.Turns char form target ∧ table.Recurs char target := by
  obtain ⟨left, rest, behind, reaches, returns⟩ := recurs
  have around := returns.lift (· ++ rest) fun form target turns => turns_append table char form target rest turns
  obtain ⟨target, turns, further⟩ := Relation.TransGen.head'_iff.mp (Relation.TransGen.trans_right reaches around)
  exact ⟨target, turns, left, behind ++ rest, behind, further, returns⟩

end Table

namespace State

section Turns

variable (table : Table) (input : List Char) (state : State) (done : List Nat)
  (layout : Layout input state done) (char : Char) (rest : List Char) (left : state.rest = char :: rest)

include layout left

-- Whatever the form of the stack turns over into, one move of the machine brings it about.
theorem moves_of_turns (target : Form) (turns : table.Turns char state.form target) :
    ∃ action next, Moves table state action next ∧ next.form = target ∧ next.rest = state.rest := by
  cases stack : state.stack with
  | nil =>
      rw [form, stack] at turns
      cases turns
  | cons entry below =>
      rw [form_of_stack state entry below stack] at turns
      generalize top : state.tree.entrySymbol entry = symbol at turns
      cases turns with
      | skip others =>
          cases entry with
          | bottom => cases top
          | node id => exact ⟨_, _, .skip id below char rest stack left top, rfl, rfl⟩
      | expand head alternative others found =>
          cases entry with
          | bottom => cases top
          | node id =>
              exact ⟨_, _, .expand id below char rest head alternative stack left top found,
                form_of_expand input state done layout id below alternative stack, rfl⟩

theorem endless_of_recurs (recurs : table.Recurs char state.form) : Endless (advance table) state := by
  refine endless_of_progress (advance table)
    (fun state => (∃ done, Layout input state done) ∧ state.rest = char :: rest ∧ table.Recurs char state.form)
    ?_ state ⟨⟨done, layout⟩, left, recurs⟩
  rintro state ⟨⟨done, layout⟩, left, recurs⟩
  obtain ⟨target, turns, again⟩ := table.recurs_turns char state.form recurs
  obtain ⟨action, next, moves, form, kept⟩ := moves_of_turns table input state done layout char rest left target turns
  exact ⟨action, next, advance_of_moves table state action next moves,
    layout_moves table input state next action done layout moves, kept.trans left, form ▸ again⟩

end Turns

-- No alarm is false: where the guard fires, the table alone goes on for ever.
theorem endless_of_repetition (table : Table) (input : List Char) (state : State)
    (tracked : Tracked table input state) (failure : Failure) (blocked : state.repetition? table = some failure) :
    Endless (advance table) state := by
  obtain ⟨done, layout⟩ := tracked.laid
  obtain ⟨id, below, char, rest, left, behind, stack, next, symbol, returns⟩ :=
    returns_of_repetition table state tracked.guarded failure blocked
  refine endless_of_recurs table input state done layout char rest next
    ⟨left, below.map state.tree.entrySymbol, behind, ?_, returns⟩
  rw [form_of_stack state _ below stack, Tree.entrySymbol, symbol]

-- The guarded run is the run by the table alone, or the beginning of it up to where the guard fires.
theorem ends_or_blocked (table : Table) (state : State) :
    Ends (advance table) state (state.run table) ∨ ∃ trace final failure, Goes (advance table) state trace final ∧
      final.repetition? table = some failure ∧
      state.run table = ⟨trace ++ [⟨final.symbols, final.rest, .reject⟩], .rejected failure⟩ := by
  obtain ⟨trace, final, last, goes, closed, parse⟩ := ends_run table state
  have plain := goes_mono (step table) (advance table) (advance_of_step table) state final trace goes
  cases blocked : final.repetition? table with
  | none =>
      refine Or.inl ⟨trace, final, last, plain, ?_, parse⟩
      simp only [step, blocked] at closed
      exact closed
  | some failure =>
      simp only [step, blocked] at closed
      cases closed
      exact Or.inr ⟨trace, final, failure, plain, blocked, parse⟩

theorem no_repetition_of_ends (table : Table) (state : State) (parse : Parse)
    (ends : Ends (advance table) state parse) (left : Char) (position : Nat) :
    parse.failure? ≠ some (.leftRecursion left position) := by
  obtain ⟨trace, final, last, _, closed, rfl⟩ := ends
  intro repeated
  exact (stands_of_close table final last _ closed repeated).2 left position rfl

end State

namespace Table

-- What the loop without its guard gives, if it ends.
def EndsUnguarded (table : Table) (input : List Char) (parse : Parse) : Prop :=
  match table.start? with
  | none => parse = ⟨[], .rejected .noStartSymbol⟩
  | some start => State.Ends (State.advance table) (.initial start input) parse

def LoopsUnguarded (table : Table) (input : List Char) : Prop :=
  ∃ start, table.start? = some start ∧ State.Endless (State.advance table) (.initial start input)

-- The parse stops where the guard fires, at a state that the loop without it would have left again.
def StopsLoop (table : Table) (input : List Char) : Prop :=
  ∃ start trace final left, table.start? = some start ∧
    State.Goes (State.advance table) (.initial start input) trace final ∧
    table.parse input = ⟨trace ++ [⟨final.symbols, final.rest, .reject⟩], .rejected (.leftRecursion left final.cursor)⟩

variable (table : Table) (input : List Char)

theorem ends_or_loops_unguarded :
    (∃ parse, table.EndsUnguarded input parse) ∨ table.LoopsUnguarded input := by
  cases begins : table.start? with
  | none => exact Or.inl ⟨_, by rw [EndsUnguarded, begins]⟩
  | some start =>
      rcases State.ends_or_endless (State.advance table) (.initial start input) with ⟨parse, ends⟩ | endless
      · exact Or.inl ⟨parse, by rw [EndsUnguarded, begins]; exact ends⟩
      · exact Or.inr ⟨start, begins, endless⟩

-- The two cases of the guarded parse, each with what the loop without the guard does there.
theorem parse_unguarded_or_stopped :
    (table.EndsUnguarded input (table.parse input) ∧
        ∀ left position, (table.parse input).failure? ≠ some (.leftRecursion left position)) ∨
      (table.LoopsUnguarded input ∧ table.StopsLoop input) := by
  cases begins : table.start? with
  | none =>
      rw [parse_of_no_start table input begins]
      exact Or.inl ⟨by rw [EndsUnguarded, begins], fun left position repeated => by cases repeated⟩
  | some start =>
      rcases State.ends_or_blocked table (.initial start input) with ends | ⟨trace, final, failure, goes, blocked, run⟩
      · rw [← parse_of_start table start input begins] at ends
        exact Or.inl ⟨by rw [EndsUnguarded, begins]; exact ends, State.no_repetition_of_ends table _ _ ends⟩
      · have tracked := State.tracked_goes table input (State.advance table) (State.moves_of_advance table)
          _ final trace goes (State.tracked_initial table start input)
        have endless := State.endless_of_repetition table input final tracked failure blocked
        obtain ⟨_, _, _, _, left, _, _, _, _, rfl⟩ := State.repetition_cases table final failure blocked
        refine Or.inr ⟨⟨start, begins, State.endless_of_goes (State.advance table) _ final trace goes endless⟩,
          start, trace, final, left, begins, goes, ?_⟩
        rw [parse_of_start table start input begins, run]

theorem not_loops_of_ends (parse : Parse) (ends : table.EndsUnguarded input parse) : ¬ table.LoopsUnguarded input := by
  rintro ⟨start, begins, endless⟩
  rw [EndsUnguarded, begins] at ends
  exact State.not_endless_of_ends (State.advance table) _ parse ends endless

theorem ends_unguarded_unique (left right : Parse) (first : table.EndsUnguarded input left)
    (second : table.EndsUnguarded input right) : left = right := by
  cases begins : table.start? with
  | none =>
      rw [EndsUnguarded, begins] at first second
      exact first.trans second.symm
  | some start =>
      rw [EndsUnguarded, begins] at first second
      exact State.ends_unique (State.advance table) _ left right first second

/-- The guard changes nothing but divergence: a finite loop is parsed to its own end, an infinite one is
stopped on its way, and a repetition is reported exactly for the infinite ones. -/
theorem guard_stops_loops_only :
    (∀ parse, table.EndsUnguarded input parse → table.parse input = parse) ∧
      (table.LoopsUnguarded input → table.StopsLoop input) ∧
      ((∃ parse, table.EndsUnguarded input parse) ∨ table.LoopsUnguarded input) ∧
      ((∃ left position, (table.parse input).failure? = some (.leftRecursion left position)) ↔
        table.LoopsUnguarded input) := by
  refine ⟨fun parse ends => ?_, fun loops => ?_, ends_or_loops_unguarded table input, ?_⟩
  · rcases parse_unguarded_or_stopped table input with ⟨own, _⟩ | ⟨loops, _⟩
    · exact ends_unguarded_unique table input _ parse own ends
    · exact absurd loops (not_loops_of_ends table input parse ends)
  · rcases parse_unguarded_or_stopped table input with ⟨own, _⟩ | ⟨_, stops⟩
    · exact absurd loops (not_loops_of_ends table input _ own)
    · exact stops
  · rcases parse_unguarded_or_stopped table input with ⟨own, plain⟩ | ⟨loops, stops⟩
    · exact ⟨fun ⟨left, position, repeated⟩ => absurd repeated (plain left position),
        fun loops => absurd loops (not_loops_of_ends table input _ own)⟩
    · obtain ⟨_, _, final, left, _, _, parse⟩ := stops
      exact ⟨fun _ => loops, fun _ => ⟨left, final.cursor, by rw [parse]; rfl⟩⟩

theorem guard_stops_loops_only_circular :
    Grammar.circular.analyze.table.LoopsUnguarded ['b'] ∧ Grammar.circular.analyze.table.StopsLoop ['b'] := by
  have reported : (Grammar.circular.analyze.table.parse ['b']).failure? = some (.leftRecursion 'S' 0) := by
    decide +kernel
  obtain ⟨_, stops, _, exactly⟩ := guard_stops_loops_only Grammar.circular.analyze.table ['b']
  have loops := exactly.mp ⟨'S', 0, reported⟩
  exact ⟨loops, stops loops⟩

end Table

end TopDown
