import TopDown.Analysis
import TopDown.Proofs.Leftmost
import TopDown.Proofs.SententialForm
/-!
One character of lookahead is enough. On a table without conflicts the cell under the next character
holds the only alternative that can still lead to it, so a form is turned over in one way; and as
every turn shortens what is left of the way to the character, no non-terminal can come back to the
front of a form before something is read.
-/

set_option autoImplicit false

namespace TopDown.Grammar

-- The form is the unread back of a form that derives from the start symbol before the end of the input.
def Pending (grammar : Grammar) (form : Form) : Prop :=
  ∃ start front, grammar.start? = some start ∧
    grammar.Derives [.nonTerminal start, .endOfInput] (front ++ form)

-- The form is the back of a form that derives from some left side, reached from the start symbol or not.
def Rooted (grammar : Grammar) (form : Form) : Prop :=
  ∃ root front, grammar.Root root ∧ grammar.Derives root (front ++ form)

variable (grammar : Grammar)

theorem rooted_of_pending (form : Form) (pending : grammar.Pending form) : grammar.Rooted form := by
  obtain ⟨start, front, first, derives⟩ := pending
  exact ⟨_, front, .start start first, derives⟩

theorem rooted_of_derives (form target : Form) (derives : grammar.Derives form target)
    (rooted : grammar.Rooted form) : grammar.Rooted target := by
  obtain ⟨root, front, known, before⟩ := rooted
  have further := grammar.derives_append front form front target (grammar.derives_refl front) derives
  exact ⟨root, front, known, grammar.derives_trans before further⟩

-- A character that an alternative leads to is in its FIRST set, or behind it and so in the FOLLOW set.
theorem directing_of_begins (left : Char) (alternative rest : Form) (char : Char)
    (rooted : grammar.Rooted (.nonTerminal left :: rest)) (begins : grammar.Begins (alternative ++ rest) char) :
    char ∈ Table.directing (FirstSets.compute grammar).1
      (FollowSets.compute grammar (FirstSets.compute grammar).1).1 left alternative := by
  have member := (grammar.mem_first_of_form (alternative ++ rest) (some char)).mpr begins
  rw [FirstSets.of_form_append, FirstSet.mem_followed_by] at member
  rw [Table.mem_directing]
  rcases member with ⟨_, own⟩ | ⟨vanishes, behind⟩
  · exact Or.inl ((FirstSet.mem_members_some _ char).mp own)
  · obtain ⟨root, front, known, derives⟩ := rooted
    have outer := (grammar.mem_first_of_form rest (some char)).mp behind
    have precedes := grammar.precedes_of_begins root front rest left char known derives outer
    exact Or.inr ⟨(FirstSet.mem_members_none _).mp vanishes, grammar.follow_of_precedes left char precedes⟩

-- The mark of the empty word is left out of a way that goes on behind it.
theorem leads_child_form (alternative rest : Form) (steps : Nat) (word : List Char) (remains : Form)
    (beyond : word = [] → remains.head? ≠ some .epsilon)
    (leads : grammar.Leads steps (alternative ++ rest) word remains) :
    ∃ fewer, fewer ≤ steps ∧ grammar.Leads fewer (State.childForm alternative ++ rest) word remains := by
  rw [State.childForm]
  by_cases empty : alternative = .empty
  · rw [if_pos empty]
    rw [empty] at leads
    cases leads with
    | nothing form => exact absurd rfl (beyond rfl)
    | read steps symbol char form word remains reads rest => cases reads
    | skip steps form word remains rest => exact ⟨steps, Nat.le_succ steps, rest⟩
  · rw [if_neg empty]
    exact ⟨steps, Nat.le_refl steps, leads⟩

-- A filled cell leads to its character, out of the non-terminal itself or out of what can follow it.
theorem leads_of_cell (left char : Char) (alternative : Form)
    (found : grammar.analyze.table.get? left char = some alternative) :
    ∃ rest steps remains, grammar.Rooted (.nonTerminal left :: rest) ∧
      grammar.Leads steps (.nonTerminal left :: rest) [char] remains := by
  obtain ⟨member, directs⟩ := Table.get_build grammar _ _ left char alternative found
  have unfolds := grammar.derives_alternative left alternative member
  rcases (Table.mem_directing _ _ left alternative char).mp directs with begins | ⟨vanishes, follows⟩
  · obtain ⟨_, derives, symbol, behind, rfl, read⟩ := (grammar.mem_first_terminals alternative char).mp begins
    obtain ⟨steps, remains, _, leads⟩ := grammar.leads_of_derives [.nonTerminal left] [symbol] behind [char]
      (grammar.derives_trans unfolds derives) (congrArg (fun value => [value]) read)
    exact ⟨[], steps, remains, ⟨_, [], grammar.left_is_root left alternative member, grammar.derives_refl _⟩, leads⟩
  · obtain ⟨root, front, symbol, behind, known, derives, read⟩ := grammar.precedes_of_follow left char follows
    have erased := grammar.derives_trans unfolds ((grammar.first_nullable alternative).mp vanishes)
    obtain ⟨steps, remains, _, leads⟩ := grammar.leads_of_derives (.nonTerminal left :: symbol :: behind) [symbol] behind
      [char] (grammar.derives_append [.nonTerminal left] _ [] _ erased (grammar.derives_refl _))
      (congrArg (fun value => [value]) read)
    exact ⟨symbol :: behind, steps, remains, ⟨root, front, known, derives⟩, leads⟩

section ConflictFree

variable (free : grammar.analyze.table.isConflictFree = true)

include free

theorem get_of_begins (left : Char) (alternative rest : Form) (char : Char)
    (member : alternative ∈ grammar.alternativesOf left) (rooted : grammar.Rooted (.nonTerminal left :: rest))
    (begins : grammar.Begins (alternative ++ rest) char) :
    grammar.analyze.table.get? left char = some alternative := by
  refine Table.get_build_of_conflict_free grammar _ _ (List.isEmpty_iff.mp free) left char alternative member ?_
  exact grammar.directing_of_begins left alternative rest char rooted begins

theorem get_of_leads (left : Char) (alternative rest : Form) (steps : Nat) (char : Char) (word : List Char)
    (remains : Form) (member : alternative ∈ grammar.alternativesOf left)
    (rooted : grammar.Rooted (.nonTerminal left :: rest))
    (leads : grammar.Leads steps (alternative ++ rest) (char :: word) remains) :
    grammar.analyze.table.get? left char = some alternative :=
  get_of_begins grammar free left alternative rest char member rooted
    (grammar.begins_of_leads steps _ char word remains leads)

-- The table never leaves a way to the word: a turn is one of its steps.
theorem leads_of_turns (form target : Form) (steps : Nat) (char : Char) (word : List Char) (remains : Form)
    (turns : grammar.analyze.table.Turns char form target) (rooted : grammar.Rooted form)
    (leads : grammar.Leads steps form (char :: word) remains) :
    ∃ fewer, fewer < steps ∧ grammar.Leads fewer target (char :: word) remains := by
  cases turns with
  | skip rest =>
      cases leads with
      | read steps symbol char form word remains reads rest => cases reads
      | skip steps form word remains rest => exact ⟨steps, Nat.lt_succ_self steps, rest⟩
  | expand head alternative rest found =>
      cases leads with
      | read steps symbol char form word remains reads rest => cases reads
      | replace steps left other form word remains member inner =>
          have chosen := get_of_leads grammar free head other rest steps char word remains member rooted inner
          cases chosen.symm.trans found
          obtain ⟨fewer, less, shorter⟩ :=
            grammar.leads_child_form alternative rest steps _ remains (fun none => by cases none) inner
          exact ⟨fewer, Nat.lt_succ_of_le less, shorter⟩

theorem leads_of_turning (form target : Form) (steps : Nat) (char : Char) (word : List Char) (remains : Form)
    (turning : Relation.TransGen (grammar.analyze.table.Turns char) form target) (rooted : grammar.Rooted form)
    (leads : grammar.Leads steps form (char :: word) remains) :
    grammar.Rooted target ∧ ∃ fewer, fewer < steps ∧ grammar.Leads fewer target (char :: word) remains := by
  have step : ∀ form target, grammar.analyze.table.Turns char form target →
      grammar.Rooted form → grammar.Rooted target := by
    intro form target turns
    have derives := grammar.derives_of_turns _ (Table.chooses_build grammar _ _) char form target turns
    exact grammar.rooted_of_derives form target derives
  induction turning with
  | single turns =>
      exact ⟨step _ _ turns rooted, leads_of_turns grammar free _ _ steps char word remains turns rooted leads⟩
  | tail _ turns ih =>
      obtain ⟨between, fewer, less, inner⟩ := ih
      obtain ⟨least, lower, shorter⟩ := leads_of_turns grammar free _ _ fewer char word remains turns between inner
      exact ⟨step _ _ turns between, least, Nat.lt_trans lower less, shorter⟩

-- A non-terminal that comes back to the front on one character would shorten the way to it for ever.
theorem not_leads_of_return (left : Char) (behind : Form) (char : Char)
    (returns : Relation.TransGen (grammar.analyze.table.Turns char) [.nonTerminal left] (.nonTerminal left :: behind))
    (steps : Nat) (rest : Form) (word : List Char) (remains : Form)
    (rooted : grammar.Rooted (.nonTerminal left :: rest)) :
    ¬ grammar.Leads steps (.nonTerminal left :: rest) (char :: word) remains := by
  induction steps using Nat.strongRecOn generalizing rest with
  | ind steps ih =>
      intro leads
      have around := returns.lift (· ++ rest) (fun form target turns =>
        Table.turns_append _ char form target rest turns)
      obtain ⟨again, fewer, less, shorter⟩ :=
        leads_of_turning grammar free _ _ steps char word remains around rooted leads
      exact ih fewer less (behind ++ rest) again shorter

-- So without conflicts nothing comes back: the cell that begins the circle leads out of it as well.
theorem not_returns (left : Char) (behind : Form) (char : Char) :
    ¬ Relation.TransGen (grammar.analyze.table.Turns char) [.nonTerminal left] (.nonTerminal left :: behind) := by
  intro returns
  obtain ⟨_, turns, _⟩ := Relation.TransGen.head'_iff.mp returns
  cases turns with
  | expand _ alternative _ found =>
      obtain ⟨rest, steps, remains, rooted, leads⟩ := leads_of_cell grammar left char alternative found
      exact not_leads_of_return grammar free left behind char returns steps rest [] remains rooted leads

end ConflictFree

end TopDown.Grammar
