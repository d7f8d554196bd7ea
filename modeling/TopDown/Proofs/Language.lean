import TopDown.Proofs.Guard
import TopDown.Proofs.Lookahead
import TopDown.Proofs.ParseTree
/-!
A table without conflicts decides the language of its grammar. Accepted inputs are words on any
table; for the other way each move of the machine carries out a step of the derivation of the word,
so that the derivation gets shorter until stack and input are used up together.
-/

set_option autoImplicit false

namespace TopDown

namespace State

-- As long as anything is stacked the bottom entry is, and the end mark that it reads is still to come.
theorem left_of_unfolds (grammar : Grammar) (state : State) (steps : Nat)
    (unfolds : grammar.Unfolds steps state.form state.rest) (input : List Char) (done : List Nat)
    (layout : Layout input state done) (entry : Entry) (below : List Entry) (stack : state.stack = entry :: below) :
    ∃ char rest, state.rest = char :: rest := by
  rcases layout.bottomed with empty | whole
  · rw [empty] at stack
    cases stack
  · rw [form, whole, List.map_append] at unfolds
    obtain ⟨_, word, same, _⟩ := grammar.unfolds_end steps _ state.rest unfolds
    rw [same]
    cases word with
    | nil => exact ⟨endMark, [], rfl⟩
    | cons char rest => exact ⟨char, rest ++ [endMark], rfl⟩

section Directed

variable (grammar : Grammar) (free : grammar.analyze.table.isConflictFree = true) (state : State)

include free

theorem unblocked_of_conflict_free (guarded : Guarded grammar.analyze.table state) :
    state.repetition? grammar.analyze.table = none := by
  cases blocked : state.repetition? grammar.analyze.table with
  | none => rfl
  | some failure =>
      obtain ⟨_, _, char, _, left, behind, _, _, _, returns⟩ := returns_of_repetition _ state guarded failure blocked
      exact absurd returns (grammar.not_returns free left behind char)

variable (steps : Nat) (char : Char) (word back : List Char) (remains : Form)
  (left : state.rest = char :: word ++ back) (rooted : grammar.Rooted state.form)
  (leads : grammar.Leads steps state.form (char :: word) remains)

include left rooted leads

-- Where the form can be taken apart on the characters that come next, the machine can move.
theorem moves_of_leads : ∃ action next, Moves grammar.analyze.table state action next := by
  cases stack : state.stack with
  | nil =>
      rw [form, stack] at leads
      cases leads
  | cons entry below =>
      rw [form_of_stack state entry below stack] at rooted leads
      generalize top : state.tree.entrySymbol entry = symbol at rooted leads
      cases leads with
      | read steps symbol char form word remains reads inner =>
          exact ⟨_, _, .read entry below char _ stack left (top ▸ reads)⟩
      | skip steps form word remains inner =>
          cases entry with
          | bottom => cases top
          | node id => exact ⟨_, _, .skip id below char _ stack left top⟩
      | replace steps head alternative form word remains member inner =>
          cases entry with
          | bottom => cases top
          | node id =>
              have found := grammar.get_of_leads free head alternative _ steps char word remains member rooted inner
              exact ⟨_, _, .expand id below char _ head alternative stack left top found⟩

-- Its move carries out a step of that way, or two where an alternative is the empty mark.
theorem leads_of_moves (input : List Char) (done : List Nat) (layout : Layout input state done) (action : Action)
    (next : State) (moves : Moves grammar.analyze.table state action next) :
    ∃ fewer ahead, fewer < steps ∧ next.rest = ahead ++ back ∧
      next.cursor + ahead.length = state.cursor + (char :: word).length ∧
      grammar.Leads fewer next.form ahead remains := by
  cases passes_of_moves _ input state next action done layout moves with
  | read symbol other reads form rest cursor =>
      obtain ⟨rfl, behind⟩ := List.cons.inj (left.symm.trans rest)
      rw [form] at leads
      cases leads with
      | read steps symbol char form word remains _ inner =>
          refine ⟨steps, word, Nat.lt_succ_self steps, behind.symm, ?_, inner⟩
          rw [cursor, List.length_cons]
          omega
      | skip steps form word remains inner => cases reads
      | replace steps head alternative form word remains member inner => cases reads
  | turn other rest here kept cursor turns =>
      obtain ⟨rfl, _⟩ := List.cons.inj (left.symm.trans here)
      obtain ⟨fewer, less, shorter⟩ :=
        grammar.leads_of_turns free state.form next.form steps char word remains turns rooted leads
      exact ⟨fewer, char :: word, less, kept.trans left, by rw [cursor], shorter⟩

end Directed

theorem pending_of_derived (grammar : Grammar) (start : Char) (input : List Char) (state : State)
    (first : grammar.start? = some start) (derived : Derived grammar start input state) :
    grammar.Pending state.form := by
  obtain ⟨front, _, derives⟩ := derived
  exact ⟨start, front, first, derives⟩

theorem rooted_of_derived (grammar : Grammar) (start : Char) (input : List Char) (state : State)
    (first : grammar.start? = some start) (derived : Derived grammar start input state) :
    grammar.Rooted state.form :=
  grammar.rooted_of_pending _ (pending_of_derived grammar start input state first derived)

theorem accepted_of_empty (table : Table) (state : State) (stack : state.stack = []) (rest : state.rest = []) :
    (state.run table).isAccepted = true := by
  obtain ⟨advances, unblocked⟩ := finish_of_done table state (Or.inl stack)
  have finished : state.step table = .finish state.verdict := by simp only [step, unblocked, advances]
  rw [run_of_finish table state _ finished]
  simp [Parse.isAccepted, Parse.failure?, verdict, stack, rest]

-- Each move carries out one step of the derivation, or two where an alternative is the empty mark.
theorem accepted_of_unfolds (grammar : Grammar) (free : grammar.analyze.table.isConflictFree = true) (start : Char)
    (first : grammar.start? = some start) (input : List Char) (steps : Nat) (state : State) (done : List Nat)
    (coherent : Coherent grammar grammar.analyze.table start input state done)
    (guarded : Guarded grammar.analyze.table state) (unfolds : grammar.Unfolds steps state.form state.rest) :
    (state.run grammar.analyze.table).isAccepted = true := by
  induction steps using Nat.strongRecOn generalizing state done with
  | ind steps ih =>
      cases stack : state.stack with
      | nil =>
          rw [form, stack] at unfolds
          cases rest : state.rest with
          | nil => exact accepted_of_empty _ state stack rest
          | cons char word =>
              rw [rest] at unfolds
              cases unfolds
      | cons entry below =>
          have rooted := rooted_of_derived grammar start input state first coherent.derived
          obtain ⟨char, rest, left⟩ :=
            left_of_unfolds grammar state steps unfolds input done coherent.layout entry below stack
          have whole : state.rest = char :: rest ++ [] := left.trans (List.append_nil _).symm
          have leads := grammar.leads_of_unfolds steps state.form _ (left ▸ unfolds)
          obtain ⟨action, next, moves⟩ := moves_of_leads grammar free state steps char rest [] [] whole rooted leads
          have unblocked := unblocked_of_conflict_free grammar free state guarded
          obtain ⟨fewer, ahead, less, same, _, inner⟩ := leads_of_moves grammar free state steps char rest [] [] whole
            rooted leads input done coherent.layout action next moves
          have shorter : grammar.Unfolds fewer next.form next.rest := by
            rw [same, List.append_nil]
            exact grammar.unfolds_of_leads fewer _ ahead inner
          obtain ⟨more, further⟩ := coherent_moves grammar _ (Table.chooses_build grammar _ _) start input state next
            action done coherent moves
          have still := guarded_moves _ state guarded input done coherent.layout next action moves
          rw [run_of_proceed _ state action next (step_of_moves _ state action next unblocked moves)]
          exact ih fewer less next more further still shorter

end State

namespace Grammar

theorem accepted_of_generates (grammar : Grammar) (free : grammar.analyze.table.isConflictFree = true)
    (input : List Char) (generates : grammar.Generates input) :
    (grammar.analyze.table.parse input).isAccepted = true := by
  have begins : grammar.analyze.table.start? = grammar.start? := Table.start_build grammar _ _
  obtain ⟨start, steps, first, unfolds⟩ := (grammar.generates_iff_unfolds input).mp generates
  have closing : grammar.Unfolds 1 [.endOfInput] [endMark] := .read 0 .endOfInput endMark [] [] rfl .nothing
  obtain ⟨total, whole⟩ := grammar.unfolds_append _ _ input [endMark] steps 1 unfolds closing
  rw [Table.parse, begins, first]
  exact State.accepted_of_unfolds grammar free start first input total (.initial start input) []
    (State.coherent_initial grammar _ start input) (State.guarded_initial _ start input) whole

theorem accepts_iff_generates (grammar : Grammar) (free : grammar.analyze.table.isConflictFree = true)
    (input : List Char) :
    (grammar.analyze.table.parse input).isAccepted = true ↔ grammar.Generates input := by
  constructor
  · intro accepted
    obtain ⟨start, final, done, begins, coherent, stack, rest, _⟩ := Table.coherent_of_accepted grammar _ _ input accepted
    exact State.generates_of_final grammar _ start input final done coherent stack rest begins
  · intro generates
    exact accepted_of_generates grammar free input generates

theorem accepts_iff_generates_nested : nested.analyze.table.isConflictFree = true ∧
    nested.Generates ['a', 'a', 'b', 'b'] ∧ ¬ nested.Generates ['a', 'b', 'b'] := by
  have free : nested.analyze.table.isConflictFree = true := by decide +kernel
  refine ⟨free, (accepts_iff_generates nested free _).mp (by decide +kernel), fun generates => ?_⟩
  have accepted := (accepts_iff_generates nested free _).mpr generates
  exact absurd accepted (by decide +kernel)

end Grammar

end TopDown
