import Mathlib.Tactic.ByContra
import TopDown.Proofs.FollowSets
import TopDown.Workbench
/-!
A single pass over sets in any state, whatever grammar they come from. It adds to rows at their ends only, the count
of the pairs tells whether anything came in, and sets that a pass leaves as they are have all that the grammar asks
of them.
-/

set_option autoImplicit false

namespace TopDown

variable {ι β : Type} [DecidableEq ι]

namespace SetFamily

theorem row_prefix_of_pairs (family longer : SetFamily ι β) (pairs : family.pairs.toList <+: longer.pairs.toList)
    (index : ι) : (family.row index).toList <+: (longer.row index).toList :=
  (pairs.filter _).map _

end SetFamily

namespace Inclusion

variable [DecidableEq β]

theorem pairs_prefix_pass (inclusions : List (Inclusion ι β)) (family : SetFamily ι β) :
    family.pairs.toList <+: (pass inclusions family).pairs.toList := by
  induction inclusions generalizing family with
  | nil => exact List.prefix_refl _
  | cons inclusion rest ih => exact (OrderedSet.prefix_insert_all _ _).trans (ih (apply family inclusion))

theorem row_prefix_pass (inclusions : List (Inclusion ι β)) (family : SetFamily ι β) (index : ι) :
    (family.row index).toList <+: ((pass inclusions family).row index).toList :=
  SetFamily.row_prefix_of_pairs _ _ (pairs_prefix_pass inclusions family) index

theorem below_pass (inclusions : List (Inclusion ι β)) (family : SetFamily ι β) :
    family.Below (pass inclusions family) :=
  fun index _ member => (row_prefix_pass inclusions family index).subset member

-- A row may come in without a member, so what counts is the pairs and not the indices.
theorem grown_iff (inclusions : List (Inclusion ι β)) (family : SetFamily ι β) :
    (pass inclusions family).size ≠ family.size ↔
      ∃ index value, value ∈ (pass inclusions family).row index ∧ value ∉ family.row index := by
  constructor
  · intro grown
    by_contra none
    have inside : (pass inclusions family).pairs ⊆ family.pairs := by
      rintro ⟨index, value⟩ member
      by_contra new
      exact none ⟨index, value, (SetFamily.mem_row _ _ _).mpr member, fun old => new ((SetFamily.mem_row _ _ _).mp old)⟩
    exact grown (Nat.le_antisymm (OrderedSet.size_le_of_subset _ _ inside) (size_pass inclusions family))
  · rintro ⟨index, value, new, old⟩ same
    rw [SetFamily.row_of_pairs _ _ (pairs_pass_of_size inclusions family same)] at new
    exact old new

end Inclusion

namespace FirstSets

/-- What a pass over a grammar makes of FIRST sets, and what it tells about it. -/
structure Advances (grammar : Grammar) (first next : FirstSets) (changed : Bool) : Prop where
  extended : ∀ nonTerminal, (first.terminals nonTerminal).toList <+: (next.terminals nonTerminal).toList
  kept : ∀ nonTerminal, first.nullable nonTerminal = true → next.nullable nonTerminal = true
  told : changed = true ↔ ∃ nonTerminal, next.terminals nonTerminal ≠ first.terminals nonTerminal ∨
    next.nullable nonTerminal ≠ first.nullable nonTerminal
  closed : changed = false → ∀ left alternative, (left, alternative) ∈ grammar.alternatives →
    (∀ char ∈ (first.ofForm alternative).terminals, char ∈ first.terminals left) ∧
      ((first.ofForm alternative).nullable = true → first.nullable left = true)

theorem sets_of_row (left right : FirstSets) (nonTerminal : Char) (same : left.row nonTerminal = right.row nonTerminal) :
    left.terminals nonTerminal = right.terminals nonTerminal ∧ left.nullable nonTerminal = right.nullable nonTerminal := by
  constructor
  · exact OrderedSet.ext_list _ _ (congrArg (fun row => row.toList.filterMap id) same)
  · exact congrArg (fun row => decide (none ∈ row)) same

variable (grammar : Grammar) (first : FirstSets)

theorem grown_iff_differs :
    (pass grammar first).size ≠ first.size ↔ ∃ nonTerminal,
      (pass grammar first).terminals nonTerminal ≠ first.terminals nonTerminal ∨
        (pass grammar first).nullable nonTerminal ≠ first.nullable nonTerminal := by
  constructor
  · intro grown
    obtain ⟨nonTerminal, value, new, old⟩ := (Inclusion.grown_iff _ _).mp grown
    refine ⟨nonTerminal, ?_⟩
    cases value with
    | some char =>
        refine Or.inl fun same => old ?_
        rw [← mem_terminals, ← same, mem_terminals]
        exact new
    | none =>
        refine Or.inr fun same => old ?_
        rw [← nullable_iff, ← same, nullable_iff]
        exact new
  · rintro ⟨nonTerminal, differs⟩ same
    have pairs := Inclusion.pairs_pass_of_size (inclusions grammar) first same
    obtain ⟨terminals, nullable⟩ := sets_of_row _ _ nonTerminal (SetFamily.row_of_pairs _ _ pairs nonTerminal)
    exact differs.elim (fun different => different terminals) fun different => different nullable

theorem closed_of_unchanged (same : (pass grammar first).size = first.size) :
    Inclusion.Closed (inclusions grammar) first :=
  Inclusion.closed_of_pass_size _ _ (inclusions_monotone grammar) same

theorem advances_pass :
    Advances grammar first (pass grammar first) (decide ((pass grammar first).size ≠ first.size)) where
  extended nonTerminal := (Inclusion.row_prefix_pass (inclusions grammar) first nonTerminal).filterMap id
  kept nonTerminal vanishes := by
    rw [nullable_iff] at vanishes ⊢
    exact Inclusion.below_pass (inclusions grammar) first nonTerminal none vanishes
  told := decide_eq_true_iff.trans (grown_iff_differs grammar first)
  closed unchanged left alternative member := by
    have same := not_not.mp (of_decide_eq_false unchanged)
    have holds := closed_of_unchanged grammar first same _ (List.mem_map_of_mem member)
    constructor
    · intro char inside
      rw [mem_terminals]
      exact holds (some char) ((FirstSet.mem_members_some _ char).mpr inside)
    · intro vanishes
      rw [nullable_iff]
      exact holds none ((FirstSet.mem_members_none _).mpr vanishes)

end FirstSets

namespace FollowSets

/-- What a pass over a grammar makes of FOLLOW sets, and what it tells about it. -/
structure Advances (grammar : Grammar) (first : FirstSets) (follow next : FollowSets) (changed : Bool) : Prop where
  extended : ∀ nonTerminal, (follow.row nonTerminal).toList <+: (next.row nonTerminal).toList
  told : changed = true ↔ ∃ nonTerminal, next.row nonTerminal ≠ follow.row nonTerminal
  closed : changed = false → ∀ left front nonTerminal behind,
    (left, front ++ .nonTerminal nonTerminal :: behind) ∈ grammar.alternatives →
      (∀ char ∈ (first.ofForm behind).terminals, char ∈ follow.row nonTerminal) ∧
        ((first.ofForm behind).nullable = true → ∀ char ∈ follow.row left, char ∈ follow.row nonTerminal)

variable (grammar : Grammar) (first : FirstSets) (follow : FollowSets)

theorem grown_iff_differs : (pass grammar first follow).size ≠ follow.size ↔
    ∃ nonTerminal, (pass grammar first follow).row nonTerminal ≠ follow.row nonTerminal := by
  constructor
  · intro grown
    obtain ⟨nonTerminal, char, new, old⟩ := (Inclusion.grown_iff _ _).mp grown
    exact ⟨nonTerminal, fun same => old (same ▸ new)⟩
  · rintro ⟨nonTerminal, different⟩ same
    have pairs := Inclusion.pairs_pass_of_size (inclusions grammar first) follow same
    exact different (SetFamily.row_of_pairs _ _ pairs nonTerminal)

theorem closed_of_unchanged (same : (pass grammar first follow).size = follow.size) :
    Inclusion.Closed (inclusions grammar first) follow :=
  Inclusion.closed_of_pass_size _ _ (inclusions_monotone grammar first) same

theorem behind_of_closed (closed : Inclusion.Closed (inclusions grammar first) follow) (left : Char) (front : Form)
    (nonTerminal : Char) (behind : Form) (known : (left, front ++ .nonTerminal nonTerminal :: behind) ∈ grammar.alternatives) :
    (∀ char ∈ (first.ofForm behind).terminals, char ∈ follow.row nonTerminal) ∧
      ((first.ofForm behind).nullable = true → ∀ char ∈ follow.row left, char ∈ follow.row nonTerminal) := by
  have row := row_of_closed grammar first follow closed left nonTerminal front behind
    ((grammar.mem_alternatives _ _).mp known)
  exact ⟨fun char begins => row char (Or.inl begins), fun vanishes char inside => row char (Or.inr ⟨vanishes, inside⟩)⟩

-- The row that the pass leaves out is asked of itself, so the closed sets have it all the same.
theorem advances_pass : Advances grammar first follow (pass grammar first follow)
    (decide ((pass grammar first follow).size ≠ follow.size)) where
  extended := Inclusion.row_prefix_pass (inclusions grammar first) follow
  told := decide_eq_true_iff.trans (grown_iff_differs grammar first follow)
  closed unchanged left front nonTerminal behind member := by
    have same := not_not.mp (of_decide_eq_false unchanged)
    exact behind_of_closed grammar first follow (closed_of_unchanged grammar first follow same) left front nonTerminal
      behind member

end FollowSets

namespace Workbench

/-- A pass is made over sets of any state, of this grammar or of another, an absent row being an empty one. -/
theorem pass_extends_and_tells (grammar : Grammar) (first : FirstSets) (follow : FollowSets) (table? : Option Table) :
    (∃ changed, (⟨some grammar, some first, some follow, table?⟩ : Workbench).passedFirst =
        some (changed, FirstSets.pass grammar first) ∧
      FirstSets.Advances grammar first (FirstSets.pass grammar first) changed) ∧
    ∃ changed, (⟨some grammar, some first, some follow, table?⟩ : Workbench).passedFollow =
        some (changed, FollowSets.pass grammar first follow) ∧
      FollowSets.Advances grammar first follow (FollowSets.pass grammar first follow) changed :=
  ⟨⟨_, rfl, FirstSets.advances_pass grammar first⟩, _, rfl, FollowSets.advances_pass grammar first follow⟩

end Workbench

end TopDown
