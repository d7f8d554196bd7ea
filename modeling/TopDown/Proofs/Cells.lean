import TopDown.Proofs.Claimants
import TopDown.Proofs.FollowSets
/-!
What stands in the cells of a table. Every filled cell holds an alternative of its row that claims
the cell; without conflicts every claim is kept, so a cell holds the only alternative that claims it.
-/

set_option autoImplicit false

namespace TopDown

namespace Grammar

theorem alternative_of_choice (grammar : Grammar) (choice : Choice) (known : choice ∈ grammar.choices) :
    choice.alternative ∈ grammar.alternativesOf choice.left := by
  rw [← grammar.mem_alternatives, grammar.alternatives_of_choices]
  exact List.mem_map_of_mem known

theorem choice_of_alternative (grammar : Grammar) (left : Char) (alternative : Form)
    (member : alternative ∈ grammar.alternativesOf left) :
    ∃ choice ∈ grammar.choices, choice.left = left ∧ choice.alternative = alternative := by
  rw [← grammar.mem_alternatives, grammar.alternatives_of_choices] at member
  obtain ⟨choice, known, same⟩ := List.mem_map.mp member
  exact ⟨choice, known, congrArg Prod.fst same, congrArg Prod.snd same⟩

end Grammar

namespace Table

theorem mem_directing (first : FirstSets) (follow : FollowSets) (left : Char) (alternative : Form) (char : Char) :
    char ∈ directing first follow left alternative ↔ char ∈ (first.ofForm alternative).terminals ∨
      ((first.ofForm alternative).nullable = true ∧ char ∈ follow.row left) := by
  rw [directing]
  by_cases vanishes : (first.ofForm alternative).nullable = true
  · rw [if_pos vanishes, OrderedSet.mem_union]
    exact or_congr_right ⟨fun row => ⟨vanishes, row⟩, fun both => both.2⟩
  · rw [if_neg vanishes]
    exact ⟨Or.inl, fun either => either.elim id fun both => absurd both.1 vanishes⟩

theorem mem_claims (grammar : Grammar) (first : FirstSets) (follow : FollowSets) (entry : Claim) :
    entry ∈ claims grammar first follow ↔ entry.alternative ∈ grammar.alternativesOf entry.nonTerminal ∧
      entry.terminal ∈ directing first follow entry.nonTerminal entry.alternative := by
  simp only [claims, List.mem_flatMap, List.mem_map, Prod.exists, ← grammar.mem_alternatives]
  constructor
  · rintro ⟨left, alternative, known, terminal, member, rfl⟩
    exact ⟨known, member⟩
  · rintro ⟨known, member⟩
    exact ⟨_, _, known, entry.terminal, member, rfl⟩

theorem start_claims (claims : List Claim) (table : Table) : (claims.foldl claim table).start? = table.start? := by
  induction claims generalizing table with
  | nil => rfl
  | cons entry rest ih => exact ih (table.claim entry)

theorem start_build (grammar : Grammar) (first : FirstSets) (follow : FollowSets) :
    (build grammar first follow).start? = grammar.start? := start_claims _ _

theorem get_build (grammar : Grammar) (first : FirstSets) (follow : FollowSets) (nonTerminal terminal : Char)
    (alternative : Form) (found : (build grammar first follow).get? nonTerminal terminal = some alternative) :
    alternative ∈ grammar.alternativesOf nonTerminal ∧ terminal ∈ directing first follow nonTerminal alternative := by
  rw [filled_build first follow grammar nonTerminal terminal] at found
  obtain ⟨choice, last, rfl⟩ := Option.map_eq_some_iff.mp found
  obtain ⟨known, rfl, directs⟩ := (mem_claimants first follow _ nonTerminal terminal choice).mp (List.mem_of_getLast? last)
  exact ⟨grammar.alternative_of_choice choice known, directs⟩

-- The alternatives of a conflict belong to its row, and the later one claims its cell.
theorem alternatives_of_conflict (grammar : Grammar) (first : FirstSets) (follow : FollowSets) (conflict : Conflict)
    (known : conflict ∈ (build grammar first follow).conflicts) :
    conflict.previous ∈ grammar.alternativesOf conflict.nonTerminal ∧
      conflict.replacement ∈ grammar.alternativesOf conflict.nonTerminal ∧
      conflict.terminal ∈ directing first follow conflict.nonTerminal conflict.replacement := by
  rw [conflicts_build] at known
  obtain ⟨clash, member, rfl⟩ := List.mem_map.mp known
  have paired : clash.pair ∈
      consecutive (claimants first follow grammar.choices clash.replacement.left clash.terminal) := by
    rw [← clashes_in_cell]
    exact List.mem_map_of_mem (List.mem_filter.mpr ⟨member, decide_eq_true ⟨rfl, rfl⟩⟩)
  obtain ⟨earlier, later⟩ := List.of_mem_zip paired
  have before := (mem_claimants first follow _ _ _ clash.previous).mp earlier
  have claims := (mem_claimants first follow _ _ _ clash.replacement).mp (List.mem_of_mem_tail later)
  have row := grammar.alternative_of_choice clash.previous before.1
  rw [before.2.1] at row
  exact ⟨row, grammar.alternative_of_choice clash.replacement claims.1, claims.2.2⟩

theorem get_build_of_conflict_free (grammar : Grammar) (first : FirstSets) (follow : FollowSets)
    (free : (build grammar first follow).conflicts = []) (nonTerminal terminal : Char) (alternative : Form)
    (member : alternative ∈ grammar.alternativesOf nonTerminal)
    (directs : terminal ∈ directing first follow nonTerminal alternative) :
    (build grammar first follow).get? nonTerminal terminal = some alternative := by
  obtain ⟨choice, known, rfl, rfl⟩ := grammar.choice_of_alternative nonTerminal alternative member
  have claims := (mem_claimants first follow _ choice.left terminal choice).mpr ⟨known, rfl, directs⟩
  rw [filled_build first follow grammar choice.left terminal]
  cases last : (claimants first follow grammar.choices choice.left terminal).getLast? with
  | none =>
      rw [List.getLast?_eq_none_iff.mp last] at claims
      cases claims
  | some other =>
      have same := (conflict_free_iff first follow grammar).mp free choice.left terminal choice claims other
        (List.mem_of_getLast? last)
      rw [same]
      rfl

end Table

end TopDown
