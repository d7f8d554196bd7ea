import Mathlib.Algebra.BigOperators.Ring.Finset
import TopDown.Analysis
import TopDown.Proofs.Chronology
/-!
How long the machine can stay at one input position. On a way up no non-terminal is expanded twice
at a position, so what grows out of a stack entry is a tree that is no deeper than there are
non-terminals with filled cells and no wider than the longest alternative.
-/

set_option autoImplicit false

namespace TopDown

namespace TraceStep

def isExpansion (step : TraceStep) : Bool :=
  match step.action with
  | .expand _ _ => true
  | _ => false

end TraceStep

-- How many non-terminals were expanded in a part of a trace.
def expansions (trace : List TraceStep) : Nat := trace.countP TraceStep.isExpansion

namespace Grammar

-- The length of the longest alternative.
def longest (grammar : Grammar) : Nat := (grammar.alternatives.map (·.2.length)).foldr max 0

-- A non-terminal whose cell leads back to it, as the second alternative keeps the cell: S -> b | S a.
def circular : Grammar where
  rules := [⟨'S', [[.terminal 'b'], [.nonTerminal 'S', .terminal 'a']]⟩]

end Grammar

theorem foldr_max_le (values : List Nat) (bound : Nat) (bounded : ∀ value ∈ values, value ≤ bound) :
    values.foldr max 0 ≤ bound := by
  induction values with
  | nil => exact Nat.zero_le _
  | cons first rest ih =>
      have head := bounded first (by simp)
      have tail := ih (fun value member => bounded value (by simp [member]))
      rw [List.foldr_cons]
      omega

theorem geometric_eq_sum (width depth : Nat) :
    geometric width depth = ∑ level ∈ Finset.range (depth + 1), width ^ level := by
  induction depth with
  | zero => simp [geometric]
  | succ depth ih =>
      rw [geometric, ih, Finset.mul_sum, Finset.sum_range_succ' _ (depth + 1), pow_zero, Nat.add_comm]
      exact congrArg (· + 1) (Finset.sum_congr rfl fun level _ => (pow_succ' width level).symm)

theorem geometric_width_mono (small large depth : Nat) (ordered : small ≤ large) :
    geometric small depth ≤ geometric large depth := by
  induction depth with
  | zero => exact Nat.le_refl _
  | succ depth ih => exact Nat.add_le_add_left (Nat.mul_le_mul ordered ih) 1

namespace Table

-- Every claim is written once, the latest in front, whether it keeps its cell or not.
theorem cells_claims (claims : List Claim) (table : Table) :
    (claims.foldl claim table).cells =
      (claims.map fun entry => ((entry.nonTerminal, entry.terminal), entry.alternative)).reverse ++ table.cells := by
  induction claims generalizing table with
  | nil => rfl
  | cons entry rest ih =>
      rw [List.foldl_cons, ih, List.map_cons, List.reverse_cons, List.append_assoc]
      rfl

theorem width_build (grammar : Grammar) (first : FirstSets) (follow : FollowSets) :
    (build grammar first follow).width ≤ grammar.longest := by
  refine foldr_max_le _ _ fun length member => ?_
  obtain ⟨⟨cell, alternative⟩, known, rfl⟩ := List.mem_map.mp member
  rw [build, cells_claims] at known
  simp only [empty, List.append_nil, List.mem_reverse, List.mem_map] at known
  obtain ⟨entry, claimed, same⟩ := known
  cases same
  have written := (mem_claims grammar first follow entry).mp claimed
  have listed := (grammar.mem_alternatives _ _).mpr written.1
  exact le_foldr_max _ _ (List.mem_map.mpr ⟨_, listed, rfl⟩)

end Table

namespace State

variable (table : Table)

theorem free_of_unblocked (state : State) (id : Nat) (below : List Entry) (char : Char) (rest : List Char)
    (head : Char) (alternative : Form) (stack : state.stack = .node id :: below) (left : state.rest = char :: rest)
    (symbol : state.tree.symbol id = .nonTerminal head) (found : table.get? head char = some alternative)
    (unblocked : state.repetition? table = none) : Symbol.nonTerminal head ∉ state.tree.trail state.cursor id := by
  intro blocked
  rw [repetition_of_trail table state id below rest head char alternative stack left symbol found blocked] at unblocked
  cases unblocked

theorem varied_moves (input : List Char) (state next : State) (action : Action) (tracked : Tracked table input state)
    (unblocked : state.repetition? table = none) (moves : Moves table state action next)
    (varied : state.tree.Varied) : next.tree.Varied := by
  cases moves with
  | read entry below char rest stack left reads => exact varied
  | skip id below char rest stack left symbol => exact varied
  | expand id below char rest head alternative stack left symbol found =>
      have stacked : id ∈ state.stacked := by simp [stacked_of_stack state _ below stack, Entry.id?]
      have guarded := tracked.guarded
      have free := free_of_unblocked table state id below char rest head alternative stack left symbol found unblocked
      exact Tree.varied_grow state.tree id state.cursor (childForm alternative) head symbol (guarded.fresh id stacked)
        tracked.chronological (guarded.grown id stacked) guarded.past varied free

theorem varied_goes (input : List Char) (state final : State) (trace : List TraceStep)
    (goes : Goes (step table) state trace final) (tracked : Tracked table input state)
    (varied : state.tree.Varied) : final.tree.Varied := by
  refine (goes_keeps (step table) (fun state => Tracked table input state ∧ state.tree.Varied) ?_
    state final trace goes ⟨tracked, varied⟩).2
  intro state action next moved ⟨known, before⟩
  have moves := moves_of_step table state action next moved
  exact ⟨tracked_moves table input state next action known moves,
    varied_moves table input state next action known (unblocked_of_step table state action next moved) moves before⟩

-- At one position every expansion makes the stack lighter, and no other move makes it heavier.
theorem lighter_of_moves (state next : State) (action : Action) (unblocked : state.repetition? table = none)
    (moves : Moves table state action next) (stays : next.cursor = state.cursor) :
    expansions [⟨state.symbols, state.rest, action⟩] + next.weight table ≤ state.weight table := by
  cases moves with
  | read entry below char rest stack left reads => exact absurd stays (Nat.succ_ne_self _)
  | skip id below char rest stack left symbol =>
      have lighter := weight_drop table state (.node id) below stack
      simp [expansions, TraceStep.isExpansion]
      omega
  | expand id below char rest head alternative stack left symbol found =>
      have free := free_of_unblocked table state id below char rest head alternative stack left symbol found unblocked
      have lighter := weight_expand table state id below head char alternative stack symbol found free
      simp [expansions, TraceStep.isExpansion]
      omega

theorem expansions_of_goes (state final : State) (trace : List TraceStep) (goes : Goes (step table) state trace final)
    (stays : final.cursor = state.cursor) :
    expansions trace + final.weight table ≤ state.weight table := by
  induction goes with
  | stay state => simp [expansions]
  | step state next final action trace moved further ih =>
      have moves := moves_of_step table state action next moved
      have before := cursor_of_moves table state next action moves
      have behind := cursor_of_goes table next final trace further
      have here := lighter_of_moves table state next action (unblocked_of_step table state action next moved) moves
        (by omega)
      have later := ih (by omega)
      have split : expansions (⟨state.symbols, state.rest, action⟩ :: trace) =
          expansions [⟨state.symbols, state.rest, action⟩] + expansions trace := by
        rw [expansions, expansions, expansions, ← List.countP_append]
        rfl
      omega

theorem weight_le_height (state : State) : state.weight table ≤ state.stack.length * ceiling table :=
  total_le_of_bound _ _ _ fun entry _ => geometric_mono _ _ _ (room_le_heads table state.tree state.cursor entry)

end State

namespace Table

/-- The loop of a parse ends. At each position it stays no longer than the bound below, which takes the
height of the stack at any moment, the one when the position was reached included. -/
theorem halts_within_expansions (grammar : Grammar) (first : FirstSets) (follow : FollowSets) (input : List Char) :
    (grammar.start? = none → (build grammar first follow).parse input = ⟨[], .rejected .noStartSymbol⟩) ∧
    ∀ start, grammar.start? = some start →
      State.Ends (State.step (build grammar first follow)) (.initial start input)
        ((build grammar first follow).parse input) ∧
      ∀ trace state, State.Goes (State.step (build grammar first follow)) (.initial start input) trace state →
        state.tree.Varied ∧
        ∀ more next, State.Goes (State.step (build grammar first follow)) state more next →
          next.cursor = state.cursor →
            expansions more ≤ state.stack.length *
              ∑ level ∈ Finset.range ((build grammar first follow).heads.size + 1), grammar.longest ^ level := by
  have same : (build grammar first follow).start? = grammar.start? := start_build grammar first follow
  generalize made : build grammar first follow = table at same
  have narrow : table.width ≤ grammar.longest := made ▸ width_build grammar first follow
  refine ⟨fun none => parse_of_no_start table input (same.trans none), fun start begins => ⟨?_, ?_⟩⟩
  · rw [parse_of_start table start input (same.trans begins)]
    exact State.ends_run table (.initial start input)
  · intro trace state goes
    refine ⟨State.varied_goes table input _ state trace goes (State.tracked_initial table start input)
      (Tree.varied_leaf _), fun more next further stays => ?_⟩
    have spent := State.expansions_of_goes table state next more further stays
    have weight := State.weight_le_height table state
    have ceiling : State.ceiling table ≤ ∑ level ∈ Finset.range (table.heads.size + 1), grammar.longest ^ level := by
      rw [← geometric_eq_sum]
      exact geometric_width_mono _ _ _ narrow
    have height := Nat.mul_le_mul_left state.stack.length ceiling
    omega

theorem halts_within_expansions_circular :
    ∃ more next, State.Goes (State.step Grammar.circular.analyze.table) (.initial 'S' ['b']) more next ∧
      expansions more = 1 ∧ 1 ≤ 2 * ∑ level ∈ Finset.range (Grammar.circular.analyze.table.heads.size + 1),
        Grammar.circular.longest ^ level := by
  have moves : State.Moves Grammar.circular.analyze.table (.initial 'S' ['b']) _ _ :=
    .expand 0 [.bottom] 'b' ['$'] 'S' [.nonTerminal 'S', .terminal 'a'] rfl rfl rfl (by decide +kernel)
  have moved := State.step_of_moves Grammar.circular.analyze.table (.initial 'S' ['b']) _ _ (by decide +kernel) moves
  have goes : State.Goes (State.step Grammar.circular.analyze.table) (.initial 'S' ['b']) _ _ :=
    .step _ _ _ _ [] moved (.stay _)
  obtain ⟨_, runs⟩ := halts_within_expansions .circular (FirstSets.compute .circular).1
    (FollowSets.compute .circular (FirstSets.compute .circular).1).1 ['b']
  exact ⟨_, _, goes, rfl, ((runs 'S' rfl).2 [] _ (.stay _)).2 _ _ goes rfl⟩

end Table

end TopDown
