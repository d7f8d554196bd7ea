import TopDown.Log
import TopDown.Proofs.Alphabet
import TopDown.Proofs.LeastSets
/-!
How many passes it takes. Each pass but the last one adds a pair, and all pairs come from the non-terminals and the
terminals of the grammar, so there is room for only so many. What is counted is what the log tells.
-/

set_option autoImplicit false

namespace TopDown

namespace Inclusion

variable {ι β : Type} [DecidableEq ι] [DecidableEq β]

-- Every pass before the last one makes the family larger.
theorem count_of_settles (inclusions : List (Inclusion ι β)) (family final : SetFamily ι β) (count : Nat)
    (settles : Settles (round inclusions) family count final) : count + family.size ≤ final.size + 1 := by
  induction settles with
  | still start final told =>
      obtain ⟨_, rfl⟩ := Prod.mk.inj told
      have larger := size_pass inclusions start
      omega
  | again start next final count told _ ih =>
      obtain ⟨grown, rfl⟩ := Prod.mk.inj told
      have different := of_decide_eq_true grown
      have larger := size_pass inclusions start
      omega

end Inclusion

namespace Grammar

variable (grammar : Grammar)

theorem first_passes_bounded :
    (FirstSets.compute grammar).2 ≤ grammar.nonTerminals.size * (grammar.terminals.size + 1) + 1 := by
  have counted := Inclusion.count_of_settles _ _ _ _
    (Inclusion.settles_saturate (FirstSets.inclusions grammar) (FirstSets.initial grammar))
  have room := (FirstSets.compute grammar).1.size_le_product grammar.nonTerminals.toList
    (none :: grammar.terminals.toList.map some) fun nonTerminal value member => by
      obtain ⟨row, column⟩ := grammar.first_known nonTerminal value member
      refine ⟨row, ?_⟩
      cases value with
      | none => exact List.mem_cons_self
      | some char => exact List.mem_cons_of_mem _ (List.mem_map_of_mem (column char rfl))
  rw [List.length_cons, List.length_map] at room
  exact Nat.le_trans (Nat.le_of_add_right_le counted) (Nat.succ_le_succ room)

theorem follow_passes_bounded : (FollowSets.compute grammar (FirstSets.compute grammar).1).2 ≤
    grammar.nonTerminals.size * grammar.terminals.size + 1 := by
  have counted := Inclusion.count_of_settles _ _ _ _
    (Inclusion.settles_saturate (FollowSets.inclusions grammar (FirstSets.compute grammar).1) (FollowSets.initial grammar))
  have room := (FollowSets.compute grammar (FirstSets.compute grammar).1).1.size_le_product
    grammar.nonTerminals.toList grammar.terminals.toList grammar.follow_known
  exact Nat.le_trans (Nat.le_of_add_right_le counted) (Nat.succ_le_succ room)

-- No other stage tells records about sets.
theorem set_records : grammar.analyze.records.filter (·.origin = .sets) =
    [Analysis.passRecord "FIRST" grammar.analyze.firstPasses,
      Analysis.passRecord "FOLLOW" grammar.analyze.followPasses] := by
  have conflicts : (grammar.analyze.conflicts.map fun conflict =>
      (⟨.warn, .table, conflict.text⟩ : Log.Record)).filter (·.origin = .sets) = [] := by
    rw [List.filter_eq_nil_iff]
    intro record member
    obtain ⟨conflict, _, rfl⟩ := List.mem_map.mp member
    exact Bool.false_ne_true
  rw [Analysis.records, List.filter_append, List.filter_append, conflicts]
  rfl

/-- The passes that saturation makes, their number, and what is told about it. -/
theorem passes_bounded :
    (Settles (FirstSets.round grammar) (FirstSets.initial grammar) (FirstSets.compute grammar).2
        (FirstSets.compute grammar).1 ∧
      (FirstSets.compute grammar).2 ≤ grammar.nonTerminals.size * (grammar.terminals.size + 1) + 1) ∧
    (∀ first, Settles (FollowSets.round grammar first) (FollowSets.initial grammar) (FollowSets.compute grammar first).2
      (FollowSets.compute grammar first).1) ∧
    (FollowSets.compute grammar (FirstSets.compute grammar).1).2 ≤
      grammar.nonTerminals.size * grammar.terminals.size + 1 ∧
    grammar.analyze.records.filter (·.origin = .sets) =
      [⟨.debug, .sets, "FIRST sets reached a fixed point after " ++ toString (FirstSets.compute grammar).2 ++ " passes"⟩,
        ⟨.debug, .sets, "FOLLOW sets reached a fixed point after " ++
          toString (FollowSets.compute grammar (FirstSets.compute grammar).1).2 ++ " passes"⟩] := by
  refine ⟨⟨Inclusion.settles_saturate _ _, grammar.first_passes_bounded⟩, fun first => Inclusion.settles_saturate _ _,
    grammar.follow_passes_bounded, grammar.set_records.trans ?_⟩
  have first : "FIRST" ++ " sets reached a fixed point after " = "FIRST sets reached a fixed point after " := by decide
  have follow : "FOLLOW" ++ " sets reached a fixed point after " = "FOLLOW sets reached a fixed point after " := by decide
  rw [Analysis.passRecord, Analysis.passRecord, first, follow]
  rfl

end Grammar

end TopDown
