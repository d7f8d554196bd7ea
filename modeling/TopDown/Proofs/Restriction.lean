import Mathlib.Data.List.Perm.Subperm
import TopDown.Proofs.Reordering
/-!
Fewer alternatives. A grammar that has each of its alternatives no more often than another one has no more
claimants in any cell, so without conflicts in the larger table there are none in the smaller one. What a run
on the smaller table comes to without being refused, the run on the larger one comes to by the same moves.
-/

set_option autoImplicit false

namespace TopDown

namespace State

variable (small large : Table)

-- The guard looks at a table only to see that the cell is filled, and where a move was made it is.
theorem unblocked_of_moves (state next : State) (action : Action) (unblocked : state.repetition? small = none)
    (moves : Moves small state action next) : state.repetition? large = none := by
  cases blocked : state.repetition? large with
  | none => rfl
  | some failure =>
      obtain ⟨id, below, char, rest, head, stack, left, symbol, again, _⟩ :=
        repetition_cases large state failure blocked
      cases moves with
      | read entry _ _ _ otherStack _ reads =>
          cases otherStack.symm.trans stack
          rw [Tree.entrySymbol, symbol] at reads
          cases reads
      | skip other _ _ _ otherStack _ mark =>
          cases otherStack.symm.trans stack
          cases mark.symm.trans symbol
      | expand other _ here _ name alternative otherStack otherLeft named found =>
          cases otherStack.symm.trans stack
          cases named.symm.trans symbol
          rw [repetition_of_trail small state id below _ head here alternative stack otherLeft symbol found again]
            at unblocked
          cases unblocked

section Cells

variable (cells : ∀ left char alternative, small.get? left char = some alternative →
  large.get? left char = some alternative)

include cells

theorem moves_within (state next : State) (action : Action) (moves : Moves small state action next) :
    Moves large state action next := by
  cases moves with
  | read entry below char rest stack left reads => exact .read entry below char rest stack left reads
  | skip id below char rest stack left symbol => exact .skip id below char rest stack left symbol
  | expand id below char rest head alternative stack left symbol found =>
      exact .expand id below char rest head alternative stack left symbol (cells head char alternative found)

theorem step_within (state : State) (action : Action) (next : State)
    (moved : state.step small = .proceed action next) : state.step large = .proceed action next := by
  have moves := moves_of_step small state action next moved
  have unblocked := unblocked_of_step small state action next moved
  exact step_of_moves large state action next (unblocked_of_moves small large state next action unblocked moves)
    (moves_within small large cells state next action moves)

-- Only an empty cell of the smaller table can part the two runs, and an accepted run meets none.
theorem run_within (state : State) (accepted : (state.run small).isAccepted = true) :
    state.run large = state.run small := by
  obtain ⟨trace, final, last, goes, closed, parse⟩ := ends_run small state
  have further : Goes (step large) state trace final :=
    goes_mono (step small) (step large) (step_within small large cells) state final trace goes
  refine ends_unique (step large) state _ _ (ends_run large state) ⟨trace, final, last, further, ?_, parse⟩
  cases moved : final.step small with
  | proceed action next =>
      rw [moved] at closed
      cases closed
  | refuse failure =>
      rw [moved] at closed
      cases closed
      rw [parse] at accepted
      cases accepted
  | finish verdict =>
      obtain ⟨rfl, done⟩ := done_of_finish small final verdict moved
      obtain ⟨finished, unblocked⟩ := finish_of_done large final done
      rw [moved] at closed
      simp only [step, unblocked, finished]
      exact closed

end Cells

end State

namespace Table

theorem parse_within (small large : Table) (start : small.start? = large.start?)
    (cells : ∀ left char alternative, small.get? left char = some alternative →
      large.get? left char = some alternative)
    (input : List Char) (accepted : (small.parse input).isAccepted = true) :
    large.parse input = small.parse input := by
  cases begins : small.start? with
  | none => rw [parse_of_no_start small input begins, parse_of_no_start large input (start ▸ begins)]
  | some first =>
      rw [parse_of_start small first input begins] at accepted ⊢
      rw [parse_of_start large first input (start ▸ begins)]
      exact State.run_within small large cells _ accepted

end Table

namespace Grammar

section Part

variable (small large : Grammar) (start : small.start? = large.start?)
  (part : ∀ pair, small.alternatives.count pair ≤ large.alternatives.count pair)

include start part

theorem within_of_part : small.Within large := by
  refine within_of_subset small large start fun pair member => ?_
  exact List.count_pos_iff.mp (Nat.lt_of_lt_of_le (List.count_pos_iff.mpr member) (part pair))

-- Each alternative is there often enough, and it directs on more characters.
theorem conflicts_at_of_part (nonTerminal terminal : Char) :
    (small.analyze.table.conflictsAt nonTerminal terminal).length ≤
      (large.analyze.table.conflictsAt nonTerminal terminal).length := by
  have within := within_of_part small large start part
  have fewer : small.alternatives.Subperm large.alternatives := List.subperm_ext_iff.mpr fun pair _ => part pair
  change ((Table.build small _ _).conflictsAt nonTerminal terminal).length ≤
    ((Table.build large _ _).conflictsAt nonTerminal terminal).length
  rw [Table.count_conflicts_at, Table.count_conflicts_at, Table.count_claimants, Table.count_claimants]
  refine Nat.sub_le_sub_right (Nat.le_trans ?_ (fewer.countP_le _)) 1
  refine List.countP_mono_left fun pair _ claims => ?_
  rw [decide_eq_true_eq] at claims ⊢
  exact ⟨claims.1, directing_within small large within pair.1 pair.2 terminal claims.2⟩

theorem free_of_part (free : large.analyze.table.isConflictFree = true) :
    small.analyze.table.isConflictFree = true := by
  rw [Table.free_iff_none_at] at free ⊢
  intro nonTerminal terminal
  have fewer := conflicts_at_of_part small large start part nonTerminal terminal
  rw [free nonTerminal terminal] at fewer
  exact Nat.eq_zero_of_le_zero fewer

end Part

-- Taking rules away makes no set larger. If the larger grammar has a table without conflicts, so has the smaller
-- one; its filled cells are filled alike in the larger table, and what it accepts has the same parse there.
theorem analysis_of_part (small large : Grammar) (start : small.start? = large.start?)
    (part : ∀ pair, small.alternatives.count pair ≤ large.alternatives.count pair) :
    (∀ nonTerminal,
      (∀ char, char ∈ small.analyze.first.terminals nonTerminal → char ∈ large.analyze.first.terminals nonTerminal) ∧
      (small.analyze.first.nullable nonTerminal = true → large.analyze.first.nullable nonTerminal = true) ∧
      ∀ char, char ∈ small.analyze.follow.row nonTerminal → char ∈ large.analyze.follow.row nonTerminal) ∧
    (large.analyze.table.isConflictFree = true →
      small.analyze.table.isConflictFree = true ∧
      (∀ nonTerminal terminal alternative, small.analyze.table.get? nonTerminal terminal = some alternative →
        large.analyze.table.get? nonTerminal terminal = some alternative) ∧
      ∀ input, (small.analyze.table.parse input).isAccepted = true →
        large.analyze.table.parse input = small.analyze.table.parse input) := by
  have within := within_of_part small large start part
  refine ⟨fun nonTerminal => ⟨fun char member => ?_, fun vanishes => ?_, fun char member => ?_⟩, fun free => ?_⟩
  · rw [FirstSets.mem_terminals] at member ⊢
    exact first_within small large within nonTerminal (some char) member
  · rw [FirstSets.nullable_iff] at vanishes ⊢
    exact first_within small large within nonTerminal none vanishes
  · exact follow_within small large within nonTerminal char member
  · have cells := get_within small large within free
    have begins : small.analyze.table.start? = large.analyze.table.start? :=
      (Table.start_build small _ _).trans (start.trans (Table.start_build large _ _).symm)
    exact ⟨free_of_part small large start part free, cells, Table.parse_within _ _ begins cells⟩

-- Two kinds of brackets: S -> a S b | c S d | ε.
def bracketed : Grammar where
  rules := [⟨'S', [[.terminal 'a', .nonTerminal 'S', .terminal 'b'],
    [.terminal 'c', .nonTerminal 'S', .terminal 'd'], .empty]⟩]

theorem analysis_of_part_nested : (∀ pair, nested.alternatives.count pair ≤ bracketed.alternatives.count pair) ∧
    bracketed.analyze.table.isConflictFree = true ∧
    (nested.analyze.table.parse ['a', 'b']).isAccepted = true ∧
    bracketed.analyze.table.parse ['a', 'b'] = nested.analyze.table.parse ['a', 'b'] := by
  have shorter : nested.alternatives.Sublist bracketed.alternatives := by decide
  have part : ∀ pair, nested.alternatives.count pair ≤ bracketed.alternatives.count pair :=
    fun pair => shorter.count_le pair
  have free : bracketed.analyze.table.isConflictFree = true := by decide +kernel
  have accepted : (nested.analyze.table.parse ['a', 'b']).isAccepted = true := by decide +kernel
  obtain ⟨_, alike⟩ := analysis_of_part nested bracketed rfl part
  exact ⟨part, free, accepted, (alike free).2.2 _ accepted⟩

end Grammar

end TopDown
