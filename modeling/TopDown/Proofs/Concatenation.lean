import TopDown.Proofs.Appearance
import TopDown.Proofs.LeastSets
/-!
FIRST sets of forms that are put together, from sets in any state. What the second form begins with comes behind what the
first one begins with, if that can vanish, and larger sets make nothing smaller.
-/

set_option autoImplicit false

namespace TopDown

namespace OrderedSet

variable {α : Type} [DecidableEq α]

theorem of_list_of_nodup (values : List α) (nodup : values.Nodup) : (ofList values).toList = values :=
  to_list_insert_all_of_nodup ∅ values nodup fun value _ => not_mem_empty value

theorem to_list_union (left right : OrderedSet α) :
    (left ∪ right).toList = left.toList ++ right.toList.filter (· ∉ left) := by
  have new : (right.toList.filter (· ∉ left)).Nodup := right.nodup.filter _
  have joined := to_list_insert_all left right.toList
  rwa [of_list_of_nodup _ new] at joined

end OrderedSet

namespace FirstSet

-- The members in their order, and whether the form can vanish.
def listed (set : FirstSet) : List Char × Bool := (set.terminals.toList, set.nullable)

theorem listed_followed_by (head tail : FirstSet) : (head.followedBy tail).listed =
    if head.nullable then (head.terminals.toList ++ tail.terminals.toList.filter (· ∉ head.terminals), tail.nullable)
    else (head.terminals.toList, false) := by
  unfold followedBy
  cases vanishes : head.nullable with
  | true =>
      rw [if_pos rfl, if_pos rfl, listed, OrderedSet.to_list_union]
  | false =>
      rw [if_neg Bool.false_ne_true, if_neg Bool.false_ne_true, listed, vanishes]

end FirstSet

namespace FirstSets

-- A form read into the characters seen so far, symbol by symbol up to the first one that cannot vanish.
def scan (first : FirstSets) (seen : OrderedSet Char) : Form → FirstSet
  | [] => ⟨seen, true⟩
  | .terminal char :: _ => ⟨seen.insert char, false⟩
  | .endOfInput :: _ => ⟨seen.insert endMark, false⟩
  | .nonTerminal char :: rest =>
      if first.nullable char then first.scan (seen ∪ first.terminals char) rest
      else ⟨seen ∪ first.terminals char, false⟩
  | .epsilon :: rest => first.scan seen rest

theorem scan_followed_by (first : FirstSets) (seen : OrderedSet Char) (form : Form) :
    first.scan seen form = (⟨seen, true⟩ : FirstSet).followedBy (first.ofForm form) := by
  induction form generalizing seen with
  | nil => exact (FirstSet.followed_by_nothing _).symm
  | cons symbol rest ih =>
      rw [of_form_cons]
      cases symbol with
      | terminal char => rfl
      | endOfInput => rfl
      | epsilon => exact (ih seen).trans (congrArg _ (FirstSet.nothing_followed_by _).symm)
      | nonTerminal char =>
          rw [scan, ← FirstSet.followed_by_assoc]
          cases vanishes : first.nullable char with
          | true =>
              rw [if_pos rfl, ih, ofSymbol, vanishes]
              rfl
          | false =>
              rw [if_neg Bool.false_ne_true, ofSymbol, vanishes]
              rfl

theorem scan_of_form (first : FirstSets) (form : Form) : first.scan ∅ form = first.ofForm form :=
  (first.scan_followed_by ∅ form).trans (FirstSet.nothing_followed_by _)

-- The scan over one growing set, two forms in a row, and two states of the sets.
theorem forms_join_and_grow (first : FirstSets) (front back : Form) :
    first.scan ∅ front = first.ofForm front ∧
    (first.ofForm (front ++ back)).listed =
      (if (first.ofForm front).nullable then
        ((first.ofForm front).terminals.toList ++
          (first.ofForm back).terminals.toList.filter (· ∉ (first.ofForm front).terminals), (first.ofForm back).nullable)
      else ((first.ofForm front).terminals.toList, false)) ∧
    ∀ larger : FirstSets, first.Within larger →
      (∀ char ∈ (first.ofForm front).terminals, char ∈ (larger.ofForm front).terminals) ∧
        ((first.ofForm front).nullable = true → (larger.ofForm front).nullable = true) := by
  refine ⟨first.scan_of_form front, ?_, fun larger within => ?_⟩
  · rw [of_form_append]
    exact FirstSet.listed_followed_by _ _
  · have grown := of_form_mono first larger ((within_iff first larger).mp within) front
    refine ⟨fun char member => ?_, fun vanishes => ?_⟩
    · rw [← FirstSet.mem_members_some] at member ⊢
      exact grown (some char) member
    · rw [← FirstSet.mem_members_none] at vanishes ⊢
      exact grown none vanishes

-- The sets after one pass and after two.
theorem forms_join_and_grow_entwined : ∃ first larger : FirstSets, first.Within larger ∧
    'b' ∉ first.terminals 'S' ∧ 'b' ∈ larger.terminals 'S' ∧
    (first.ofForm ([.nonTerminal 'B'] ++ [.nonTerminal 'S'])).listed = (['b', 'a'], false) ∧
    ∀ char ∈ (first.ofForm [.nonTerminal 'B', .nonTerminal 'S']).terminals,
      char ∈ (larger.ofForm [.nonTerminal 'B', .nonTerminal 'S']).terminals := by
  have within := (within_iff _ _).mpr (Inclusion.below_pass (inclusions .entwined)
    (pass .entwined (initial .entwined)))
  refine ⟨_, _, within, by decide +kernel, by decide +kernel, ?_, ?_⟩
  · refine (forms_join_and_grow _ [.nonTerminal 'B'] [.nonTerminal 'S']).2.1.trans ?_
    decide +kernel
  · exact ((forms_join_and_grow _ [.nonTerminal 'B', .nonTerminal 'S'] []).2.2 _ within).1

end FirstSets

end TopDown
