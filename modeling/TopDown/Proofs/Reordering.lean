import TopDown.Proofs.Alphabet
import TopDown.Proofs.Extension
import TopDown.Proofs.ParseTree
/-!
The order of the rules. Two grammars with the same alternatives, however often each is repeated, have the
same FIRST and FOLLOW sets, so every cell has as many claimants in one table as in the other. Without
conflicts the cells hold the same alternatives, and a parse looks at nothing else.
-/

set_option autoImplicit false

namespace TopDown

namespace State

variable (one other : Table) (cells : ∀ left char, one.get? left char = other.get? left char)

include cells

theorem step_congr (state : State) : state.step one = state.step other := by
  have same : one.get? = other.get? := funext fun left => funext (cells left)
  have blocked : state.repetition? one = state.repetition? other := by rw [repetition?, repetition?, same]
  have advances : state.advance one = state.advance other := by rw [advance, advance, same]
  rw [step, step, blocked, advances]

theorem run_congr (state : State) : state.run one = state.run other := by
  induction state using run_induction one with
  | inherit state ih =>
      have same := step_congr one other cells state
      cases moved : state.step one with
      | proceed action next =>
          rw [run_of_proceed one state action next moved, run_of_proceed other state action next (same ▸ moved),
            ih action next moved]
      | refuse failure => rw [run_of_refuse one state failure moved, run_of_refuse other state failure (same ▸ moved)]
      | finish verdict => rw [run_of_finish one state verdict moved, run_of_finish other state verdict (same ▸ moved)]

end State

namespace Table

theorem parse_congr (one other : Table) (start : one.start? = other.start?)
    (cells : ∀ left char, one.get? left char = other.get? left char) (input : List Char) :
    one.parse input = other.parse input := by
  cases begins : one.start? with
  | none => rw [parse_of_no_start one input begins, parse_of_no_start other input (start ▸ begins)]
  | some first =>
      rw [parse_of_start one first input begins, parse_of_start other first input (start ▸ begins)]
      exact State.run_congr one other cells _

theorem free_iff_none_at (table : Table) :
    table.isConflictFree = true ↔ ∀ nonTerminal terminal, (table.conflictsAt nonTerminal terminal).length = 0 := by
  simp only [isConflictFree, List.isEmpty_iff, conflictsAt, List.length_eq_zero_iff, List.filter_eq_nil_iff,
    decide_eq_true_eq]
  constructor
  · intro none nonTerminal terminal conflict member
    simp [none] at member
  · intro none
    refine List.eq_nil_iff_forall_not_mem.mpr fun conflict member => ?_
    exact none conflict.nonTerminal conflict.terminal conflict member ⟨rfl, rfl⟩

end Table

namespace Grammar

section Reordered

variable (one other : Grammar) (start : one.start? = other.start?) (same : one.alternatives.Perm other.alternatives)

include start same

theorem within_of_perm : one.Within other :=
  within_of_subset one other start fun _ member => same.mem_iff.mp member

theorem mem_directing_of_perm (left : Char) (alternative : Form) (char : Char) :
    char ∈ Table.directing (FirstSets.compute one).1 (FollowSets.compute one (FirstSets.compute one).1).1 left alternative ↔
      char ∈ Table.directing (FirstSets.compute other).1
        (FollowSets.compute other (FirstSets.compute other).1).1 left alternative :=
  ⟨directing_within one other (within_of_perm one other start same) left alternative char,
    directing_within other one (within_of_perm other one start.symm same.symm) left alternative char⟩

theorem conflicts_at_of_perm (nonTerminal terminal : Char) :
    (one.analyze.table.conflictsAt nonTerminal terminal).length =
      (other.analyze.table.conflictsAt nonTerminal terminal).length := by
  refine (Table.count_conflicts_at one _ _ nonTerminal terminal).trans
    (Eq.trans ?_ (Table.count_conflicts_at other _ _ nonTerminal terminal).symm)
  rw [Table.count_claimants, Table.count_claimants, same.countP_eq]
  refine congrArg (· - 1) (List.countP_congr fun pair _ => ?_)
  rw [decide_eq_true_eq, decide_eq_true_eq]
  exact and_congr_right fun _ => mem_directing_of_perm one other start same pair.1 pair.2 terminal

theorem free_of_perm : one.analyze.table.isConflictFree = true ↔ other.analyze.table.isConflictFree = true := by
  simp only [Table.free_iff_none_at, conflicts_at_of_perm one other start same]

end Reordered

-- Grammars with the same alternatives in any order, however they are shared out among rules, have the same
-- sets and as many conflicts in every cell; without conflicts they have the same cells and the same parses.
theorem analysis_of_reordered (one other : Grammar) (start : one.start? = other.start?)
    (names : ∀ nonTerminal, nonTerminal ∈ one.nonTerminals ↔ nonTerminal ∈ other.nonTerminals)
    (same : one.alternatives.Perm other.alternatives) :
    (∀ nonTerminal,
      (nonTerminal ∈ one.analyze.first.index ↔ nonTerminal ∈ other.analyze.first.index) ∧
      (∀ char, char ∈ one.analyze.first.terminals nonTerminal ↔ char ∈ other.analyze.first.terminals nonTerminal) ∧
      one.analyze.first.nullable nonTerminal = other.analyze.first.nullable nonTerminal ∧
      (nonTerminal ∈ one.analyze.follow.index ↔ nonTerminal ∈ other.analyze.follow.index) ∧
      ∀ char, char ∈ one.analyze.follow.row nonTerminal ↔ char ∈ other.analyze.follow.row nonTerminal) ∧
    (∀ nonTerminal terminal, (one.analyze.table.conflictsAt nonTerminal terminal).length =
      (other.analyze.table.conflictsAt nonTerminal terminal).length) ∧
    one.analyze.table.isConflictFree = other.analyze.table.isConflictFree ∧
    (one.analyze.table.isConflictFree = true →
      (∀ nonTerminal terminal, one.analyze.table.get? nonTerminal terminal =
        other.analyze.table.get? nonTerminal terminal) ∧
      ∀ input, one.analyze.table.parse input = other.analyze.table.parse input) := by
  have forth := within_of_perm one other start same
  have back := within_of_perm other one start.symm same.symm
  have free := free_of_perm one other start same
  have rows : ∀ nonTerminal value, value ∈ one.analyze.first.row nonTerminal ↔
      value ∈ other.analyze.first.row nonTerminal := fun nonTerminal value =>
    ⟨first_within one other forth nonTerminal value, first_within other one back nonTerminal value⟩
  refine ⟨fun nonTerminal => ⟨?_, fun char => ?_, ?_, ?_, fun char => ?_⟩,
    conflicts_at_of_perm one other start same, Bool.eq_iff_iff.mpr free, fun conflictFree => ?_⟩
  · exact (one.mem_first_index nonTerminal).trans ((names nonTerminal).trans (other.mem_first_index nonTerminal).symm)
  · rw [FirstSets.mem_terminals, FirstSets.mem_terminals]
    exact rows nonTerminal (some char)
  · rw [Bool.eq_iff_iff, FirstSets.nullable_iff, FirstSets.nullable_iff]
    exact rows nonTerminal none
  · exact (one.mem_follow_index _ nonTerminal).trans
      ((names nonTerminal).trans (other.mem_follow_index _ nonTerminal).symm)
  · exact ⟨follow_within one other forth nonTerminal char, follow_within other one back nonTerminal char⟩
  · have cells : ∀ nonTerminal terminal, one.analyze.table.get? nonTerminal terminal =
        other.analyze.table.get? nonTerminal terminal := by
      intro nonTerminal terminal
      apply Option.ext
      intro alternative
      exact ⟨get_within one other forth (free.mp conflictFree) nonTerminal terminal alternative,
        get_within other one back conflictFree nonTerminal terminal alternative⟩
    have begins : one.analyze.table.start? = other.analyze.table.start? :=
      (Table.start_build one _ _).trans (start.trans (Table.start_build other _ _).symm)
    exact ⟨cells, Table.parse_congr _ _ begins cells⟩

-- The alternatives of the nested grammar as two rules, the later one first: S -> ε and S -> a S b.
def split : Grammar where
  rules := [⟨'S', [.empty]⟩, ⟨'S', [[.terminal 'a', .nonTerminal 'S', .terminal 'b']]⟩]

theorem analysis_of_reordered_split : nested.alternatives.Perm split.alternatives ∧
    nested.analyze.table.isConflictFree = true ∧
    ∀ input, nested.analyze.table.parse input = split.analyze.table.parse input := by
  have same : nested.alternatives.Perm split.alternatives := by decide
  have free : nested.analyze.table.isConflictFree = true := by decide +kernel
  have names : nested.nonTerminals = split.nonTerminals := OrderedSet.ext_list _ _ (by decide)
  obtain ⟨_, _, _, alike⟩ := analysis_of_reordered nested split rfl (fun _ => names ▸ Iff.rfl) same
  exact ⟨same, free, (alike free).2⟩

end Grammar

end TopDown
