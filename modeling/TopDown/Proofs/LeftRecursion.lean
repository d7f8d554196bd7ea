import TopDown.Proofs.Lookahead
/-!
Left recursion. What a derivation brings to the front of a form can be brought there by steps at the
front alone, and on a table without conflicts the character that it begins with directs all of them.
A non-terminal that comes back to its own front would so come back on one character without end.
-/

set_option autoImplicit false

namespace TopDown.Grammar

variable (grammar : Grammar)

-- The symbol in front of a derived form is found by steps at the front, whatever stays behind it then.
theorem front_of_derives (form behind : Form) (symbol : Symbol) (derives : grammar.Derives form (symbol :: behind)) :
    ∃ steps rest, grammar.Leads steps form [] (symbol :: rest) := by
  obtain ⟨steps, remains, same, leads⟩ := grammar.leads_of_derives form [] (symbol :: behind) [] derives rfl
  cases remains with
  | nil => cases same
  | cons other rest =>
      cases same
      exact ⟨steps, rest, leads⟩

-- Whatever the symbol in front begins with, the form begins with as well.
theorem begins_of_front (steps : Nat) (form rest : Form) (symbol : Symbol) (char : Char)
    (leads : grammar.Leads steps form [] (symbol :: rest)) (begins : grammar.Begins [symbol] char) :
    grammar.Begins form char := by
  obtain ⟨front, reads, derives⟩ := grammar.derives_of_leads steps form [] _ leads
  have none : front = [] := by simpa [Form.Reads] using reads
  subst none
  exact grammar.begins_of_derives form _ char derives (grammar.begins_append_left [symbol] rest char begins)

section ConflictFree

variable (free : grammar.analyze.table.isConflictFree = true) (left char : Char)
  (begins : grammar.Begins [.nonTerminal left] char)

include free begins

-- A step at the front that replaces a non-terminal is the one in its cell.
theorem turns_of_front (steps : Nat) (head : Char) (alternative form rest : Form)
    (member : alternative ∈ grammar.alternativesOf head) (rooted : grammar.Rooted (.nonTerminal head :: form))
    (leads : grammar.Leads steps (alternative ++ form) [] (.nonTerminal left :: rest)) :
    ∃ target fewer, grammar.analyze.table.Turns char (.nonTerminal head :: form) target ∧ fewer ≤ steps ∧
      grammar.Leads fewer target [] (.nonTerminal left :: rest) := by
  have found := get_of_begins grammar free head alternative form char member rooted
    (grammar.begins_of_front steps _ rest _ char leads begins)
  obtain ⟨fewer, less, shorter⟩ := grammar.leads_child_form alternative form steps [] _ (by simp) leads
  exact ⟨_, fewer, .expand head alternative form found, less, shorter⟩

theorem turning_of_front (steps : Nat) (form rest : Form) (rooted : grammar.Rooted form)
    (leads : grammar.Leads steps form [] (.nonTerminal left :: rest)) :
    Relation.ReflTransGen (grammar.analyze.table.Turns char) form (.nonTerminal left :: rest) := by
  induction steps using Nat.strongRecOn generalizing form with
  | ind steps ih =>
      have onward : ∀ target fewer, grammar.analyze.table.Turns char form target → fewer < steps →
          grammar.Leads fewer target [] (.nonTerminal left :: rest) →
          Relation.ReflTransGen (grammar.analyze.table.Turns char) form (.nonTerminal left :: rest) := by
        intro target fewer turns less shorter
        have derives := grammar.derives_of_turns _ (Table.chooses_build grammar _ _) char form target turns
        exact .head turns (ih fewer less target (grammar.rooted_of_derives form target derives rooted) shorter)
      cases leads with
      | nothing form => exact .refl
      | skip steps form _ _ inner => exact onward form steps (.skip form) (Nat.lt_succ_self steps) inner
      | replace steps head alternative form _ _ member inner =>
          obtain ⟨target, fewer, turns, less, shorter⟩ :=
            turns_of_front grammar free left char begins steps head alternative form rest member rooted inner
          exact onward target fewer turns (Nat.lt_succ_of_le less) shorter

end ConflictFree

-- A non-terminal that derives a form with itself in front, by whatever way and whether it is reached
-- or not, makes a conflict as soon as some character is in its FIRST set.
theorem left_recursion_diagnosed (left char : Char) (rest : Form)
    (begins : char ∈ grammar.analyze.first.terminals left)
    (recursive : Relation.TransGen grammar.Rewrites [.nonTerminal left] (.nonTerminal left :: rest)) :
    grammar.analyze.conflicts ≠ [] ∧ grammar.analyze.table.isConflictFree = false := by
  have mixed : ¬ grammar.analyze.table.isConflictFree = true := by
    intro free
    have starts : grammar.Begins [.nonTerminal left] char :=
      (grammar.mem_first_row left (some char)).mp ((FirstSets.mem_terminals _ left char).mp begins)
    obtain ⟨alternative, rewrites, derives⟩ := Relation.TransGen.head'_iff.mp recursive
    have member := grammar.alternative_of_rewrites left alternative rewrites
    have rooted : grammar.Rooted [.nonTerminal left] :=
      ⟨_, [], grammar.left_is_root left alternative member, grammar.derives_refl _⟩
    obtain ⟨steps, behind, leads⟩ := grammar.front_of_derives alternative rest _ derives
    rw [← List.append_nil alternative] at leads
    obtain ⟨target, fewer, turns, _, shorter⟩ :=
      turns_of_front grammar free left char starts steps left alternative [] behind member rooted leads
    have inner := grammar.derives_of_turns _ (Table.chooses_build grammar _ _) char _ target turns
    have onward := turning_of_front grammar free left char starts fewer target behind
      (grammar.rooted_of_derives _ target inner rooted) shorter
    exact not_returns grammar free left behind char (.head' turns onward)
  refine ⟨fun none => mixed ?_, Bool.eq_false_iff.mpr mixed⟩
  rw [Table.isConflictFree, List.isEmpty_iff]
  exact none

-- A left recursion that hides behind a non-terminal without characters: S -> B S a | b and B -> ε.
def hidden : Grammar where
  rules := [⟨'S', [[.nonTerminal 'B', .nonTerminal 'S', .terminal 'a'], [.terminal 'b']]⟩, ⟨'B', [.empty]⟩]

theorem left_recursion_diagnosed_hidden :
    'b' ∈ hidden.analyze.first.terminals 'S' ∧
      Relation.TransGen hidden.Rewrites [.nonTerminal 'S'] [.nonTerminal 'S', .terminal 'a'] ∧
      hidden.analyze.conflicts ≠ [] := by
  have begins : 'b' ∈ hidden.analyze.first.terminals 'S' := by decide +kernel
  have unfolds : hidden.Rewrites [.nonTerminal 'S'] [.nonTerminal 'B', .nonTerminal 'S', .terminal 'a'] :=
    .replace [] [] 'S' [.nonTerminal 'B', .nonTerminal 'S', .terminal 'a'] (by decide)
  have vanishes : hidden.Rewrites [.nonTerminal 'B', .nonTerminal 'S', .terminal 'a']
      [.epsilon, .nonTerminal 'S', .terminal 'a'] := .replace [] [.nonTerminal 'S', .terminal 'a'] 'B' .empty (by decide)
  have recursive := ((Relation.TransGen.single unfolds).tail vanishes).tail
    (.erase [] [.nonTerminal 'S', .terminal 'a'])
  exact ⟨begins, recursive, (left_recursion_diagnosed hidden 'S' 'b' _ begins recursive).1⟩

end TopDown.Grammar
