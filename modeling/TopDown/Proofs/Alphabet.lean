import TopDown.Analysis
import TopDown.Proofs.Cells
/-!
What an analysis is made of. The rows of FIRST and FOLLOW sets are those of the non-terminals of the grammar, and
members come from its terminals, where the end mark stands for the end of the input as well. A table over these sets
fills cells in such rows and columns only.
-/

set_option autoImplicit false

namespace TopDown

namespace Symbol

theorem matched_cases (symbol : Symbol) (matched : symbol.isMatched = true) :
    symbol = .terminal symbol.char ∨ symbol.char = endMark := by
  cases symbol with
  | terminal char => exact Or.inl rfl
  | endOfInput => exact Or.inr rfl
  | nonTerminal char => cases matched
  | epsilon => cases matched

end Symbol

namespace Grammar

variable (grammar : Grammar)

theorem left_known (left : Char) (alternative : Form) (member : (left, alternative) ∈ grammar.alternatives) :
    left ∈ grammar.nonTerminals := by
  obtain ⟨rule, known, named⟩ := List.mem_flatMap.mp member
  obtain ⟨_, _, same⟩ := List.mem_map.mp named
  exact (grammar.mem_non_terminals left).mpr (Or.inl ⟨rule, known, congrArg Prod.fst same⟩)

theorem occurrence_known (occurrence : Occurrence) (member : occurrence ∈ grammar.occurrences) :
    occurrence.nonTerminal ∈ grammar.nonTerminals := by
  obtain ⟨front, known⟩ := (grammar.mem_occurrences occurrence).mp member
  rw [← mem_alternatives] at known
  exact (grammar.mem_non_terminals _).mpr (Or.inr ((grammar.mem_symbols _).mpr ⟨_, _, known, by simp⟩))

theorem start_known (start : Char) (first : grammar.start? = some start) : start ∈ grammar.nonTerminals := by
  obtain ⟨rule, head, named⟩ := Option.map_eq_some_iff.mp first
  exact (grammar.mem_non_terminals start).mpr (Or.inl ⟨rule, List.mem_of_mem_head? head, named⟩)

-- Both families have the rows of the non-terminals of the grammar and no others.
theorem mem_first_index (nonTerminal : Char) :
    nonTerminal ∈ (FirstSets.compute grammar).1.index ↔ nonTerminal ∈ grammar.nonTerminals := by
  refine Inclusion.mem_index_saturate _ (FirstSets.initial grammar) (fun inclusion known => ?_) nonTerminal
  obtain ⟨⟨left, alternative⟩, member, rfl⟩ := List.mem_map.mp known
  exact grammar.left_known left alternative member

theorem mem_follow_initial (nonTerminal : Char) :
    nonTerminal ∈ (FollowSets.initial grammar).index ↔ nonTerminal ∈ grammar.nonTerminals := by
  rw [FollowSets.initial]
  cases first : grammar.start? with
  | none => exact Iff.rfl
  | some start =>
      refine (OrderedSet.mem_insert _ _ _).trans (or_iff_left_of_imp ?_)
      rintro rfl
      exact grammar.start_known _ first

theorem mem_follow_index (first : FirstSets) (nonTerminal : Char) :
    nonTerminal ∈ (FollowSets.compute grammar first).1.index ↔ nonTerminal ∈ grammar.nonTerminals := by
  rw [← grammar.mem_follow_initial]
  refine Inclusion.mem_index_saturate _ _ (fun inclusion known => ?_) nonTerminal
  obtain ⟨occurrence, member, rfl⟩ := List.mem_map.mp known
  exact (grammar.mem_follow_initial _).mpr (grammar.occurrence_known occurrence member)

theorem end_mark_known : endMark ∈ grammar.terminals := (grammar.mem_terminals endMark).mpr (Or.inr rfl)

-- The form is made of symbols of the grammar.
def Spans (form : Form) : Prop := ∀ symbol ∈ form, symbol ∈ grammar.symbols

theorem spans_alternative (left : Char) (form : Form) (member : (left, form) ∈ grammar.alternatives) :
    grammar.Spans form := fun _ inside => (grammar.mem_symbols _).mpr ⟨left, form, member, inside⟩

theorem constant_known (form : Form) (spans : grammar.Spans form) (char : Char)
    (constant : some char ∈ FirstSets.formConstants form) : char ∈ grammar.terminals := by
  rcases List.mem_cons.mp constant with empty | own
  · cases empty
  · obtain ⟨symbol, kept, same⟩ := List.mem_map.mp own
    obtain ⟨inside, matched⟩ := List.mem_filter.mp kept
    cases Option.some.inj same
    rw [mem_terminals]
    refine (symbol.matched_cases matched).imp_left fun terminal => ?_
    have known := spans symbol inside
    rwa [terminal] at known

-- Sets with terminals of the grammar only give such sets for its forms.
theorem begins_known (first : FirstSets) (rows : ∀ nonTerminal char, some char ∈ first.row nonTerminal → char ∈ grammar.terminals)
    (form : Form) (spans : grammar.Spans form) (char : Char) (begins : char ∈ (first.ofForm form).terminals) :
    char ∈ grammar.terminals := by
  rcases FirstSets.of_form_drawn first form char begins with constant | ⟨nonTerminal, row⟩
  · exact grammar.constant_known form spans char constant
  · exact rows nonTerminal char row

theorem first_known (nonTerminal : Char) (value : Option Char)
    (member : value ∈ (FirstSets.compute grammar).1.row nonTerminal) :
    nonTerminal ∈ grammar.nonTerminals ∧ ∀ char, value = some char → char ∈ grammar.terminals := by
  refine Inclusion.saturate_sound (FirstSets.inclusions grammar) (FirstSets.initial grammar)
    (fun left value => left ∈ grammar.nonTerminals ∧ ∀ char, value = some char → char ∈ grammar.terminals) ?_ ?_
    nonTerminal value member
  · intro inclusion inside first rows value wanted
    obtain ⟨⟨left, alternative⟩, known, rfl⟩ := List.mem_map.mp inside
    refine ⟨grammar.left_known left alternative known, ?_⟩
    rintro char rfl
    exact grammar.begins_known first (fun other char row => (rows other _ row).2 char rfl) alternative
      (grammar.spans_alternative left alternative known) char ((FirstSet.mem_members_some _ char).mp wanted)
  · exact fun left value start => absurd ((SetFamily.mem_row _ _ _).mp start) (OrderedSet.not_mem_empty _)

theorem first_terminals_known (nonTerminal char : Char)
    (member : char ∈ (FirstSets.compute grammar).1.terminals nonTerminal) : char ∈ grammar.terminals :=
  (grammar.first_known nonTerminal (some char) ((FirstSets.mem_terminals _ _ char).mp member)).2 char rfl

theorem form_terminals_known (form : Form) (spans : grammar.Spans form) (char : Char)
    (begins : char ∈ ((FirstSets.compute grammar).1.ofForm form).terminals) : char ∈ grammar.terminals :=
  grammar.begins_known _ (fun nonTerminal char row => (grammar.first_known nonTerminal _ row).2 char rfl) form spans char
    begins

theorem follow_known (nonTerminal char : Char)
    (member : char ∈ (FollowSets.compute grammar (FirstSets.compute grammar).1).1.row nonTerminal) :
    nonTerminal ∈ grammar.nonTerminals ∧ char ∈ grammar.terminals := by
  refine Inclusion.saturate_sound (FollowSets.inclusions grammar (FirstSets.compute grammar).1) (FollowSets.initial grammar)
    (fun nonTerminal char => nonTerminal ∈ grammar.nonTerminals ∧ char ∈ grammar.terminals) ?_ ?_ nonTerminal char member
  · intro inclusion inside follow rows char wanted
    obtain ⟨occurrence, known, rfl⟩ := List.mem_map.mp inside
    obtain ⟨front, within⟩ := (grammar.mem_occurrences occurrence).mp known
    have spans := grammar.spans_alternative _ _ ((grammar.mem_alternatives _ _).mpr within)
    have behind : grammar.Spans occurrence.rest := fun symbol late => spans symbol (by simp [late])
    refine ⟨grammar.occurrence_known occurrence known, ?_⟩
    rcases (FollowSets.mem_wanted _ occurrence follow char).mp wanted with begins | ⟨_, _, row⟩
    · exact grammar.form_terminals_known occurrence.rest behind char begins
    · exact (rows occurrence.left char row).2
  · intro start char begins
    obtain ⟨first, rfl⟩ := (FollowSets.mem_initial grammar start char).mp begins
    exact ⟨grammar.start_known start first, grammar.end_mark_known⟩

theorem directing_known (left terminal : Char) (alternative : Form) (member : alternative ∈ grammar.alternativesOf left)
    (directs : terminal ∈ Table.directing grammar.analyze.first grammar.analyze.follow left alternative) :
    left ∈ grammar.nonTerminals ∧ terminal ∈ grammar.terminals := by
  have known := (grammar.mem_alternatives left alternative).mpr member
  refine ⟨grammar.left_known left alternative known, ?_⟩
  rcases (Table.mem_directing _ _ left alternative terminal).mp directs with begins | ⟨_, follows⟩
  · exact grammar.form_terminals_known alternative (grammar.spans_alternative _ _ known) terminal begins
  · exact (grammar.follow_known left terminal follows).2

theorem cell_known (nonTerminal terminal : Char) (alternative : Form)
    (filled : grammar.analyze.table.get? nonTerminal terminal = some alternative) :
    nonTerminal ∈ grammar.nonTerminals ∧ terminal ∈ grammar.terminals := by
  obtain ⟨member, directs⟩ := Table.get_build grammar _ _ nonTerminal terminal alternative filled
  exact grammar.directing_known nonTerminal terminal alternative member directs

end Grammar

end TopDown
