import TopDown.First
/-!
FOLLOW sets. A row holds the characters that can come right after its non-terminal, the end mark
after the start symbol. Every occurrence of a non-terminal on a right side asks for two things: the
FIRST set of what stands behind it, and, where that can vanish, the FOLLOW set of the left side.
-/

set_option autoImplicit false

namespace TopDown

-- A non-terminal on a right side, with the symbols behind it.
structure Occurrence where
  left : Char
  nonTerminal : Char
  rest : Form

namespace Occurrence

def inForm (left : Char) : Form → List Occurrence
  | [] => []
  | .nonTerminal char :: rest => ⟨left, char, rest⟩ :: inForm left rest
  | _ :: rest => inForm left rest

theorem mem_in_form (left : Char) (form : Form) (occurrence : Occurrence) :
    occurrence ∈ inForm left form ↔ occurrence.left = left ∧
      ∃ front, form = front ++ .nonTerminal occurrence.nonTerminal :: occurrence.rest := by
  induction form with
  | nil => simp [inForm]
  | cons symbol rest ih =>
      have later : (∃ front, symbol :: rest = front ++ .nonTerminal occurrence.nonTerminal :: occurrence.rest) ↔
          (symbol = .nonTerminal occurrence.nonTerminal ∧ rest = occurrence.rest) ∨
            ∃ front, rest = front ++ .nonTerminal occurrence.nonTerminal :: occurrence.rest := by
        constructor
        · intro ⟨front, same⟩
          cases front with
          | nil => exact Or.inl (by simpa using same)
          | cons other front => exact Or.inr ⟨front, (List.cons.inj same).2⟩
        · intro either
          cases either with
          | inl here => exact ⟨[], by simp [here.1, here.2]⟩
          | inr there => exact there.elim fun front same => ⟨symbol :: front, by simp [same]⟩
      rw [later]
      cases symbol with
      | nonTerminal char =>
          rw [inForm, List.mem_cons, ih]
          cases occurrence with
          | mk target other tail =>
              simp only [mk.injEq, Symbol.nonTerminal.injEq]
              constructor
              · intro either
                rcases either with ⟨sameLeft, sameChar, sameRest⟩ | ⟨sameLeft, front⟩
                · exact ⟨sameLeft, Or.inl ⟨sameChar.symm, sameRest.symm⟩⟩
                · exact ⟨sameLeft, Or.inr front⟩
              · intro ⟨sameLeft, either⟩
                rcases either with ⟨sameChar, sameRest⟩ | front
                · exact Or.inl ⟨sameLeft, sameChar.symm, sameRest.symm⟩
                · exact Or.inr ⟨sameLeft, front⟩
      | _ => simp [inForm, ih]

end Occurrence

namespace Grammar

def occurrences (grammar : Grammar) : List Occurrence :=
  grammar.alternatives.flatMap fun alternative => Occurrence.inForm alternative.1 alternative.2

end Grammar

abbrev FollowSets := SetFamily Char Char

namespace FollowSets

-- What an occurrence asks for. The row of the left side is left out where it is the row asked.
def wanted (first : FirstSets) (occurrence : Occurrence) (follow : FollowSets) : OrderedSet Char :=
  let behind := first.ofForm occurrence.rest
  if behind.nullable ∧ occurrence.nonTerminal ≠ occurrence.left then
    behind.terminals ∪ follow.row occurrence.left
  else behind.terminals

def inclusion (first : FirstSets) (occurrence : Occurrence) : Inclusion Char Char where
  target := occurrence.nonTerminal
  source follow := (wanted first occurrence follow).toList
  constants := (first.ofForm occurrence.rest).terminals.toList
  drawn follow value member := by
    rw [OrderedSet.mem_to_list, wanted] at member
    split at member
    · exact ((OrderedSet.mem_union _ _ _).mp member).imp id (fun row => ⟨_, row⟩)
    · exact Or.inl member

def inclusions (grammar : Grammar) (first : FirstSets) : List (Inclusion Char Char) :=
  grammar.occurrences.map (inclusion first)

def initial (grammar : Grammar) : FollowSets :=
  match grammar.start? with
  | none => .ofIndex grammar.nonTerminals
  | some start => SetFamily.insertAll (.ofIndex grammar.nonTerminals) start [endMark]

-- One pass over every occurrence of a non-terminal on a right side.
def pass (grammar : Grammar) (first : FirstSets) (follow : FollowSets) : FollowSets :=
  Inclusion.pass (inclusions grammar first) follow

-- The least FOLLOW sets over the given FIRST sets and the number of passes made.
def compute (grammar : Grammar) (first : FirstSets) : FollowSets × Nat :=
  Inclusion.saturate (inclusions grammar first) (initial grammar)

end FollowSets

end TopDown
