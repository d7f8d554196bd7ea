import TopDown.Analysis
import TopDown.Proofs.Cells
/-!
More alternatives. What a grammar derives a grammar with more alternatives derives as well, so FIRST
and FOLLOW sets only grow and with them the characters on which an alternative may be chosen. Where the
larger table has no conflicts, its cells hold all that the cells of the smaller one hold.
-/

set_option autoImplicit false

namespace TopDown.Grammar

-- Both grammars begin with the same symbol, and what one has as an alternative the other has too.
structure Within (small large : Grammar) : Prop where
  start : small.start? = large.start?
  part : ∀ left alternative, alternative ∈ small.alternativesOf left → alternative ∈ large.alternativesOf left

-- Repeated alternatives and their places do not matter.
theorem within_of_subset (small large : Grammar) (start : small.start? = large.start?)
    (part : ∀ pair ∈ small.alternatives, pair ∈ large.alternatives) : small.Within large := by
  refine ⟨start, fun left alternative member => ?_⟩
  rw [← mem_alternatives] at member ⊢
  exact part _ member

section Within

variable (small large : Grammar) (within : small.Within large)

include within

theorem rewrites_within (form target : Form) (rewrites : small.Rewrites form target) : large.Rewrites form target := by
  cases rewrites with
  | replace front back left alternative member =>
      exact .replace front back left alternative (within.part left alternative member)
  | erase front back => exact .erase front back

theorem derives_within (form target : Form) (derives : small.Derives form target) : large.Derives form target :=
  Relation.ReflTransGen.mono (rewrites_within small large within) form target derives

theorem starts_within (form : Form) (value : Option Char) (starts : small.Starts form value) :
    large.Starts form value := by
  cases value with
  | none => exact derives_within small large within form [] starts
  | some char =>
      obtain ⟨target, derives, begins⟩ := starts
      exact ⟨target, derives_within small large within form target derives, begins⟩

-- A left side without alternatives derives nothing, so it is of no account that it may be missing.
theorem root_within (root target : Form) (rooted : small.Root root) (derives : small.Derives root target)
    (longer : target.length ≠ 1) : large.Root root := by
  cases rooted with
  | start start first => exact .start start (within.start ▸ first)
  | rule rule member =>
      rcases Relation.ReflTransGen.cases_head derives with same | ⟨alternative, rewrites, _⟩
      · exact absurd (congrArg List.length same).symm longer
      · have known := small.alternative_of_rewrites rule.left alternative rewrites
        exact large.left_is_root rule.left alternative (within.part _ _ known)

theorem precedes_within (nonTerminal char : Char) (precedes : small.Precedes nonTerminal char) :
    large.Precedes nonTerminal char := by
  obtain ⟨root, front, symbol, back, rooted, derives, read⟩ := precedes
  refine ⟨root, front, symbol, back, ?_, derives_within small large within root _ derives, read⟩
  apply root_within small large within root _ rooted derives
  simp only [List.length_append, List.length_cons]
  omega

theorem first_within : (FirstSets.compute small).1.Below (FirstSets.compute large).1 := by
  intro nonTerminal value member
  rw [mem_first_row] at member ⊢
  exact starts_within small large within _ value member

theorem follow_within : (FollowSets.compute small (FirstSets.compute small).1).1.Below
    (FollowSets.compute large (FirstSets.compute large).1).1 := by
  intro nonTerminal char member
  have precedes := small.precedes_of_follow nonTerminal char member
  exact large.follow_of_precedes nonTerminal char (precedes_within small large within nonTerminal char precedes)

theorem directing_within (left : Char) (alternative : Form) (char : Char)
    (member : char ∈ Table.directing (FirstSets.compute small).1
      (FollowSets.compute small (FirstSets.compute small).1).1 left alternative) :
    char ∈ Table.directing (FirstSets.compute large).1
      (FollowSets.compute large (FirstSets.compute large).1).1 left alternative := by
  rw [Table.mem_directing, mem_first_terminals, first_nullable] at member ⊢
  rcases member with begins | ⟨vanishes, row⟩
  · exact Or.inl (starts_within small large within alternative (some char) begins)
  · exact Or.inr ⟨derives_within small large within alternative [] vanishes,
      follow_within small large within left char row⟩

theorem get_within (free : large.analyze.table.isConflictFree = true) (left char : Char) (alternative : Form)
    (found : small.analyze.table.get? left char = some alternative) :
    large.analyze.table.get? left char = some alternative := by
  obtain ⟨member, directs⟩ := Table.get_build small _ _ left char alternative found
  exact Table.get_build_of_conflict_free large _ _ (List.isEmpty_iff.mp free) left char alternative
    (within.part left alternative member) (directing_within small large within left alternative char directs)

end Within

end TopDown.Grammar
