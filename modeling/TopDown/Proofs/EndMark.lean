import TopDown.Proofs.Lockstep
/-!
The end mark inside an input. In a grammar whose alternatives hold nothing that reads the end mark, only the
bottom of the stack can: when the mark is read the stack is empty, and when the input is used up it is empty as
well. So an input is judged by what stands before its first end mark.
-/

set_option autoImplicit false

namespace TopDown

namespace Symbol

theorem mark_of_read (symbol : Symbol) (reads : symbol.read? = some endMark) :
    symbol = .endOfInput ∨ symbol = .terminal endMark := by
  cases symbol with
  | endOfInput => exact Or.inl rfl
  | terminal char =>
      cases reads
      exact Or.inr rfl
  | nonTerminal char => cases reads
  | epsilon => cases reads

end Symbol

namespace Grammar

-- No alternative holds a symbol that reads the end mark.
structure EndFree (grammar : Grammar) : Prop where
  unended : .endOfInput ∉ grammar.symbols
  unmarked : .terminal endMark ∉ grammar.symbols

theorem end_free_of_text (text : String) (grammar : Grammar) (read : ofText text = .ok grammar) :
    grammar.EndFree := by
  have written := unmarked_of_text text grammar read
  exact ⟨fun member => written _ member rfl, fun member => written _ member rfl⟩

end Grammar

namespace State

section Used

variable (grammar : Grammar) (free : grammar.EndFree) (table : Table) (start : Char) (input : List Char)

include free

-- No node reads the end mark, and it is the last character of all that was read.
theorem emptied_of_used (state : State) (done : List Nat) (coherent : Coherent grammar table start input state done)
    (used : state.rest = []) : state.stack = [] := by
  by_contra filled
  have read := coherent.layout.consumed
  rw [if_neg filled, List.append_nil, consumed_all grammar table start input state done coherent used] at read
  have marked : endMark ∈ state.tree.reading done := by simp [read]
  obtain ⟨id, member, reads⟩ := List.mem_filterMap.mp marked
  by_cases root : id = 0
  · rw [root, coherent.drawn.1] at reads
    cases reads
  · have inside := inside_of_done input state done coherent.layout id member
    have drawn := coherent.drawn.2 id (Nat.pos_of_ne_zero root) inside
    rcases Symbol.mark_of_read _ reads with ended | mark
    · exact free.unended (ended ▸ drawn)
    · exact free.unmarked (mark ▸ drawn)

variable (chooses : table.Chooses grammar)

include chooses

theorem emptied_of_goes (trace : List TraceStep) (final : State)
    (goes : Goes (step table) (initial start input) trace final) (used : final.rest = []) : final.stack = [] := by
  obtain ⟨done, coherent⟩ :=
    coherent_reaches grammar table chooses start input final (reaches_of_goes table _ final trace goes)
  exact emptied_of_used grammar free table start input final done coherent used

theorem not_leftover (remaining position : Nat) :
    ((initial start input).run table).failure? ≠ some (.leftoverStack remaining position) := by
  intro failed
  obtain ⟨trace, final, last, goes, closed, parse⟩ := ends_run table (initial start input)
  rw [parse] at failed
  cases moved : final.step table with
  | proceed action next =>
      rw [moved] at closed
      cases closed
  | refuse failure =>
      rw [moved] at closed
      cases closed
      cases failed
      exact refusal_of_step table final _ moved
  | finish verdict =>
      rw [moved] at closed
      cases closed
      obtain ⟨rfl, done⟩ := done_of_finish table final verdict moved
      have empty : final.stack = [] :=
        done.elim id (emptied_of_goes grammar free table start input chooses trace final goes)
      cases left : final.rest <;> simp [Parse.failure?, verdict, empty, left] at failed

end Used

section Emptied

variable (table : Table) (state : State) (empty : state.stack = [])

include empty

-- With an empty stack all that counts is whether there is input left.
theorem run_of_emptied : state.run table = ⟨[], state.verdict⟩ := by
  obtain ⟨finished, unblocked⟩ := finish_of_done table state (Or.inl empty)
  exact run_of_finish table state _ (by simp only [step, unblocked, finished])

theorem accepted_of_emptied (used : state.rest = []) : (state.run table).isAccepted = true := by
  rw [run_of_emptied table state empty]
  simp only [Parse.isAccepted, Parse.failure?, verdict, empty, used, Option.isNone_none]

theorem unread_of_emptied (left : state.rest ≠ []) :
    (state.run table).failure? = some (.unconsumedInput state.cursor) := by
  rw [run_of_emptied table state empty]
  cases more : state.rest with
  | nil => exact absurd more left
  | cons char rest => simp only [Parse.failure?, verdict, empty, more]

end Emptied

-- A run that stops with input left has failed, and so has any other that stops by the same move.
theorem fails_of_stopped (table : Table) (one other : State) (same : one.step table = other.step table)
    (stopped : ∀ action next, one.step table ≠ .proceed action next) (left : one.rest ≠ []) :
    ∃ failure, (one.run table).failure? = some failure ∧ (other.run table).failure? = some failure := by
  cases moved : one.step table with
  | proceed action next => exact absurd moved (stopped action next)
  | refuse failure =>
      rw [run_of_refuse table one failure moved, run_of_refuse table other failure (same ▸ moved)]
      exact ⟨failure, rfl, rfl⟩
  | finish verdict =>
      obtain ⟨rfl, done⟩ := done_of_finish table one verdict moved
      have unread := unread_of_emptied table one (done.resolve_right left) left
      rw [run_of_finish table one _ moved] at unread ⊢
      rw [run_of_finish table other _ (same ▸ moved)]
      exact ⟨_, unread, unread⟩

end State

namespace Table

-- An end mark inside the input is judged like the one behind it, and what follows it is never looked at.
structure StopsAtMark (table : Table) (front back : List Char) : Prop where
  fails : (table.parse (front ++ endMark :: back)).isAccepted = false
  alike : ∀ failure, (table.parse front).failure? = some failure →
    (table.parse (front ++ endMark :: back)).failure? = some failure
  unread : (table.parse front).isAccepted = true →
    (table.parse (front ++ endMark :: back)).failure? = some (.unconsumedInput (front.length + 1))

section Marked

variable (grammar : Grammar) (free : grammar.EndFree) (table : Table) (chooses : table.Chooses grammar)
  (start : Char) (front back : List Char)

include free chooses

-- The two runs go on alike up to the end mark. There the run on the front alone has nothing left at all, and the
-- other one has something left to read.
theorem runs_to_mark :
    (((State.initial start front).run table).isAccepted = true ∧
      ((State.initial start (front ++ endMark :: back)).run table).failure? =
        some (.unconsumedInput (front.length + 1))) ∨
    ∃ failure, ((State.initial start front).run table).failure? = some failure ∧
      ((State.initial start (front ++ endMark :: back)).run table).failure? = some failure := by
  have agree : (front ++ [endMark]).take (front.length + 1) =
      (front ++ endMark :: back ++ [endMark]).take (front.length + 1) := by
    simp [List.take_append]
  have alike := State.alike_initial start front _ _ agree
  obtain ⟨trace, more, middle, final, together, stops⟩ := State.goes_alike table _ _ _ alike
  have span := State.span_kept table _ middle trace together.first
  have further := State.span_kept table _ final more together.second
  simp only [State.initial, List.length_append, List.length_cons, List.length_nil] at span further
  rw [State.run_of_goes table _ middle trace together.first, State.run_of_goes table _ final more together.second]
  rcases stops with reached | ⟨before, same, stopped⟩
  · have cursor : middle.cursor = front.length + 1 := by omega
    have used : middle.rest = [] := List.eq_nil_of_length_eq_zero (by omega)
    have empty := State.emptied_of_goes grammar free table start front chooses trace middle together.first used
    have left : final.rest ≠ [] := by
      intro ended
      rw [ended, ← together.alike.cursor, cursor] at further
      simp at further
    have unread := State.unread_of_emptied table final (together.alike.stack.symm.trans empty) left
    rw [← together.alike.cursor, cursor] at unread
    exact Or.inl ⟨State.accepted_of_emptied table middle empty used, unread⟩
  · have left : middle.rest ≠ [] := by
      intro ended
      rw [ended] at span
      simp only [List.length_nil] at span
      omega
    exact Or.inr (State.fails_of_stopped table middle final same stopped left)

theorem stops_at_mark : table.StopsAtMark front back := by
  have cases : ((table.parse front).isAccepted = true ∧ (table.parse (front ++ endMark :: back)).failure? =
      some (.unconsumedInput (front.length + 1))) ∨ ∃ failure, (table.parse front).failure? = some failure ∧
        (table.parse (front ++ endMark :: back)).failure? = some failure := by
    cases begins : table.start? with
    | none =>
        rw [parse_of_no_start table front begins, parse_of_no_start table _ begins]
        exact Or.inr ⟨.noStartSymbol, rfl, rfl⟩
    | some first =>
        rw [parse_of_start table first front begins, parse_of_start table first _ begins]
        exact runs_to_mark grammar free table chooses first front back
  rcases cases with ⟨accepted, unread⟩ | ⟨failure, failed, again⟩
  · refine ⟨by simp [Parse.isAccepted, unread], fun failure failed => ?_, fun _ => unread⟩
    simp [Parse.isAccepted, failed] at accepted
  · refine ⟨by simp [Parse.isAccepted, again], fun other otherFailed => ?_, fun accepted => ?_⟩
    · rw [again, ← failed, otherFailed]
    · simp [Parse.isAccepted, failed] at accepted

end Marked

-- No grammar that is read from text has the end mark in an alternative. On a table for such a grammar an end mark
-- inside the input always makes it fail, as the front alone fails or else behind the mark, and the input is
-- never used up before the stack.
theorem end_mark_ends (grammar : Grammar) (unended : .endOfInput ∉ grammar.symbols)
    (unmarked : .terminal endMark ∉ grammar.symbols) (first : FirstSets) (follow : FollowSets) :
    (∀ front back, (build grammar first follow).StopsAtMark front back) ∧
    (∀ input remaining position,
      ((build grammar first follow).parse input).failure? ≠ some (.leftoverStack remaining position)) ∧
    ∀ text other, Grammar.ofText text = .ok other →
      .endOfInput ∉ other.symbols ∧ .terminal endMark ∉ other.symbols := by
  have free : grammar.EndFree := ⟨unended, unmarked⟩
  have chooses := chooses_build grammar first follow
  refine ⟨stops_at_mark grammar free _ chooses, fun input remaining position => ?_, fun text other read => ?_⟩
  · cases begins : (build grammar first follow).start? with
    | none =>
        rw [parse_of_no_start _ input begins]
        simp [Parse.failure?]
    | some start =>
        rw [parse_of_start _ start input begins]
        exact State.not_leftover grammar free _ start input chooses remaining position
  · have plain := Grammar.end_free_of_text text other read
    exact ⟨plain.unended, plain.unmarked⟩

theorem end_mark_ends_nested : .endOfInput ∉ Grammar.nested.symbols ∧ .terminal endMark ∉ Grammar.nested.symbols ∧
    (Grammar.nested.analyze.table.parse ['a', 'b', '$', 'b']).failure? = some (.unconsumedInput 3) := by
  have unended : .endOfInput ∉ Grammar.nested.symbols := by decide
  have unmarked : .terminal endMark ∉ Grammar.nested.symbols := by decide
  have accepted : (Grammar.nested.analyze.table.parse ['a', 'b']).isAccepted = true := by decide +kernel
  obtain ⟨stops, _⟩ := end_mark_ends .nested unended unmarked Grammar.nested.analyze.first Grammar.nested.analyze.follow
  exact ⟨unended, unmarked, (stops ['a', 'b'] ['b']).unread accepted⟩

end Table

end TopDown
