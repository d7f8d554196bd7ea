import Mathlib.Data.List.Basic
import TopDown.Table
/-!
Who claims a cell. The alternatives of a row whose directing sets hold the character of a column claim
the cell there one after another, in the order of their places in the grammar. The last of them keeps
the cell, and each of them but the first one makes a conflict with the one before it.
-/

set_option autoImplicit false

namespace TopDown

/-- An alternative at its place: the number of its rule, and its own number in the rule. -/
structure Choice where
  rule : Nat
  index : Nat
  left : Char
  alternative : Form
deriving DecidableEq, Repr

namespace Choice

def Before (earlier later : Choice) : Prop :=
  earlier.rule < later.rule ∨ (earlier.rule = later.rule ∧ earlier.index < later.index)

theorem ne_of_before {earlier later : Choice} (before : earlier.Before later) : earlier ≠ later := by
  rintro rfl
  rcases before with less | ⟨_, less⟩ <;> exact Nat.lt_irrefl _ less

def directing (choice : Choice) (first : FirstSets) (follow : FollowSets) : OrderedSet Char :=
  Table.directing first follow choice.left choice.alternative

end Choice

-- The numbers that the members of a list are given go up.
theorem numbered_ordered {item : Type} (items : List item) :
    items.zipIdx.Pairwise fun earlier later => earlier.2 < later.2 := by
  have numbers : (items.zipIdx.map Prod.snd).Pairwise (· < ·) := by
    rw [List.zipIdx_map_snd]
    exact List.pairwise_lt_range'
  exact List.pairwise_map.mp numbers

namespace Rule

def choices (rule : Rule) (number : Nat) : List Choice :=
  rule.alternatives.zipIdx.map fun numbered => ⟨number, numbered.2, rule.left, numbered.1⟩

theorem alternatives_of_choices (rule : Rule) (number : Nat) :
    (rule.choices number).map (fun choice => (choice.left, choice.alternative)) =
      rule.alternatives.map (rule.left, ·) := by
  conv_rhs => rw [← List.zipIdx_map_fst 0 rule.alternatives, List.map_map]
  rw [choices, List.map_map]
  rfl

end Rule

namespace Grammar

-- The alternative stands at its place in the grammar.
def Holds (grammar : Grammar) (choice : Choice) : Prop :=
  ∃ rule, grammar.rules[choice.rule]? = some rule ∧ rule.left = choice.left ∧
    rule.alternatives[choice.index]? = some choice.alternative

def choices (grammar : Grammar) : List Choice :=
  grammar.rules.zipIdx.flatMap fun numbered => numbered.1.choices numbered.2

theorem mem_choices (grammar : Grammar) (choice : Choice) : choice ∈ grammar.choices ↔ grammar.Holds choice := by
  simp only [choices, Rule.choices, List.mem_flatMap, List.mem_map, Prod.exists, List.mem_zipIdx_iff_getElem?]
  constructor
  · rintro ⟨rule, number, ruleKnown, alternative, index, known, rfl⟩
    exact ⟨rule, ruleKnown, rfl, known⟩
  · rintro ⟨rule, ruleKnown, left, known⟩
    refine ⟨rule, choice.rule, ruleKnown, choice.alternative, choice.index, known, ?_⟩
    rw [left]

theorem holds_unique (grammar : Grammar) (one other : Choice) (known : grammar.Holds one)
    (further : grammar.Holds other) (sameRule : one.rule = other.rule) (sameIndex : one.index = other.index) :
    one = other := by
  obtain ⟨rule, ruleKnown, left, alternative⟩ := known
  obtain ⟨otherRule, otherKnown, otherLeft, otherAlternative⟩ := further
  rw [sameRule, otherKnown] at ruleKnown
  cases ruleKnown
  rw [sameIndex, otherAlternative] at alternative
  cases one
  cases other
  cases sameRule
  cases sameIndex
  cases left.symm.trans otherLeft
  cases alternative
  rfl

theorem before_or_same (grammar : Grammar) (one other : Choice) (known : grammar.Holds one)
    (further : grammar.Holds other) : one.Before other ∨ one = other ∨ other.Before one := by
  by_cases place : one.rule = other.rule ∧ one.index = other.index
  · exact Or.inr (Or.inl (grammar.holds_unique one other known further place.1 place.2))
  · have apart : one.Before other ∨ other.Before one := by
      unfold Choice.Before
      omega
    exact apart.imp_right Or.inr

theorem alternatives_of_choices (grammar : Grammar) :
    grammar.alternatives = grammar.choices.map fun choice => (choice.left, choice.alternative) := by
  rw [choices, List.map_flatMap, alternatives]
  conv_lhs => rw [← List.zipIdx_map_fst 0 grammar.rules, List.flatMap_map]
  exact congrArg List.flatten (List.map_congr_left fun numbered _ => (numbered.1.alternatives_of_choices numbered.2).symm)

theorem choices_ordered (grammar : Grammar) : grammar.choices.Pairwise Choice.Before := by
  refine List.pairwise_flatMap.mpr ⟨fun numbered _ => ?_, ?_⟩
  · refine List.pairwise_map.mpr ((numbered_ordered numbered.1.alternatives).imp fun less => ?_)
    exact Or.inr ⟨rfl, less⟩
  · refine (numbered_ordered grammar.rules).imp fun less earlier known later further => ?_
    obtain ⟨_, _, rfl⟩ := List.mem_map.mp known
    obtain ⟨_, _, rfl⟩ := List.mem_map.mp further
    exact Or.inl less

end Grammar

-- The members of a list in pairs of neighbours.
def consecutive {item : Type} (items : List item) : List (item × item) := items.zip items.tail

theorem consecutive_append {item : Type} (items : List item) (last : item) :
    consecutive (items ++ [last]) = consecutive items ++ (items.getLast?.map (·, last)).toList := by
  induction items with
  | nil => rfl
  | cons head rest ih =>
      cases rest with
      | nil => rfl
      | cons next rest =>
          have further : consecutive (head :: next :: rest ++ [last]) =
              (head, next) :: consecutive (next :: rest ++ [last]) := rfl
          rw [further, ih]
          rfl

theorem consecutive_eq_nil {item : Type} (items : List item) (nodup : items.Nodup) :
    consecutive items = [] ↔ ∀ one ∈ items, ∀ other ∈ items, one = other := by
  cases items with
  | nil => exact ⟨fun _ _ known => absurd known List.not_mem_nil, fun _ => rfl⟩
  | cons head rest =>
      cases rest with
      | nil =>
          refine ⟨fun _ one known other further => ?_, fun _ => rfl⟩
          rw [List.mem_singleton.mp known, List.mem_singleton.mp further]
      | cons next rest =>
          refine ⟨fun none => absurd none (List.cons_ne_nil _ _), fun alone => ?_⟩
          have same := alone head (by simp) next (by simp)
          exact absurd (same ▸ List.mem_cons_self) (List.nodup_cons.mp nodup).1

-- Where one member of a list alone gives a value.
theorem filter_map_at {item value : Type} [DecidableEq item] (items : List item) (nodup : items.Nodup) (place : item)
    (pick : item → Option value) (elsewhere : ∀ other, other ≠ place → pick other = none) :
    items.filterMap pick = if place ∈ items then (pick place).toList else [] := by
  induction items with
  | nil => rfl
  | cons head rest ih =>
      obtain ⟨once, others⟩ := List.nodup_cons.mp nodup
      by_cases here : head = place
      · subst here
        rw [List.filterMap_cons, ih others, if_neg once, if_pos List.mem_cons_self]
        cases pick head <;> rfl
      · rw [List.filterMap_cons_none (elsewhere head here), ih others]
        refine if_congr ?_ rfl rfl
        rw [List.mem_cons, or_iff_right (Ne.symm here)]

/-- A conflict with the two alternatives that meet in it. -/
structure Clash where
  terminal : Char
  previous : Choice
  replacement : Choice

namespace Clash

def conflict (clash : Clash) : Conflict :=
  ⟨clash.replacement.left, clash.terminal, clash.previous.alternative, clash.replacement.alternative⟩

def pair (clash : Clash) : Choice × Choice := (clash.previous, clash.replacement)

def IsAt (clash : Clash) (nonTerminal terminal : Char) : Prop :=
  clash.replacement.left = nonTerminal ∧ clash.terminal = terminal

instance (clash : Clash) (nonTerminal terminal : Char) : Decidable (clash.IsAt nonTerminal terminal) :=
  inferInstanceAs (Decidable (_ ∧ _))

end Clash

namespace Table

section Rows

variable (left : Char) (alternative : Form) (terminals : List Char) (table : Table)

theorem get_row_claims (nonTerminal terminal : Char) :
    ((terminals.map (⟨left, ·, alternative⟩)).foldl claim table).get? nonTerminal terminal =
      if nonTerminal = left ∧ terminal ∈ terminals then some alternative else table.get? nonTerminal terminal := by
  induction terminals generalizing table with
  | nil => simp
  | cons first rest ih =>
      rw [List.map_cons, List.foldl_cons, ih, get_claim]
      by_cases later : nonTerminal = left ∧ terminal ∈ rest
      · rw [if_pos later, if_pos ⟨later.1, List.mem_cons_of_mem first later.2⟩]
      · rw [if_neg later]
        refine if_congr ⟨fun here => ⟨here.1, here.2 ▸ List.mem_cons_self⟩, fun either => ⟨either.1, ?_⟩⟩ rfl rfl
        exact (List.mem_cons.mp either.2).resolve_right fun further => later ⟨either.1, further⟩

-- As the claims of one alternative are on different cells, each meets what the cell held before all of them.
theorem conflicts_row_claims (nodup : terminals.Nodup) :
    ((terminals.map (⟨left, ·, alternative⟩)).foldl claim table).conflicts =
      table.conflicts ++ terminals.filterMap fun terminal =>
        (table.get? left terminal).map (⟨left, terminal, ·, alternative⟩) := by
  induction terminals generalizing table with
  | nil => simp
  | cons first rest ih =>
      obtain ⟨once, others⟩ := List.nodup_cons.mp nodup
      have kept : ∀ terminal ∈ rest, (table.claim ⟨left, first, alternative⟩).get? left terminal =
          table.get? left terminal := by
        intro terminal member
        have different : ¬ (left = left ∧ terminal = first) := fun same => once (same.2 ▸ member)
        rw [get_claim, if_neg different]
      rw [List.map_cons, List.foldl_cons, ih _ others,
        List.filterMap_congr fun terminal member => congrArg _ (kept terminal member), List.filterMap_cons]
      cases found : table.get? left first with
      | none => simp [claim, found]
      | some previous => simp [claim, found]

end Rows

section Claimants

variable (first : FirstSets) (follow : FollowSets)

-- Those of some choices that claim a cell.
def claimants (choices : List Choice) (nonTerminal terminal : Char) : List Choice :=
  choices.filter fun choice => choice.left = nonTerminal ∧ terminal ∈ choice.directing first follow

-- What a choice runs into after others have made their claims, and what more choices run into in turn.
def clashesOf (done : List Choice) (choice : Choice) : List Clash :=
  (choice.directing first follow).toList.filterMap fun terminal =>
    (claimants first follow done choice.left terminal).getLast?.map (⟨terminal, ·, choice⟩)

def clashes (done : List Choice) : List Choice → List Clash
  | [] => []
  | choice :: rest => clashesOf first follow done choice ++ clashes (done ++ [choice]) rest

-- Every cell holds the last of its claimants.
def FilledBy (table : Table) (choices : List Choice) : Prop :=
  ∀ nonTerminal terminal, table.get? nonTerminal terminal =
    (claimants first follow choices nonTerminal terminal).getLast?.map (·.alternative)

def claimsOf (choice : Choice) : List Claim :=
  (choice.directing first follow).toList.map (⟨choice.left, ·, choice.alternative⟩)

theorem mem_claimants (choices : List Choice) (nonTerminal terminal : Char) (choice : Choice) :
    choice ∈ claimants first follow choices nonTerminal terminal ↔
      choice ∈ choices ∧ choice.left = nonTerminal ∧ terminal ∈ choice.directing first follow := by
  rw [claimants, List.mem_filter, decide_eq_true_iff]

theorem claimants_append (front back : List Choice) (nonTerminal terminal : Char) :
    claimants first follow (front ++ back) nonTerminal terminal =
      claimants first follow front nonTerminal terminal ++ claimants first follow back nonTerminal terminal :=
  List.filter_append front back

theorem claimants_singleton (choice : Choice) (nonTerminal terminal : Char) :
    claimants first follow [choice] nonTerminal terminal =
      if choice.left = nonTerminal ∧ terminal ∈ choice.directing first follow then [choice] else [] := by
  simp [claimants, List.filter_cons]

theorem filled_claims (done : List Choice) (choice : Choice) (table : Table) (filled : FilledBy first follow table done) :
    FilledBy first follow ((claimsOf first follow choice).foldl claim table) (done ++ [choice]) := by
  intro nonTerminal terminal
  rw [claimsOf, get_row_claims, claimants_append, claimants_singleton]
  by_cases here : choice.left = nonTerminal ∧ terminal ∈ choice.directing first follow
  · rw [if_pos here, if_pos ⟨here.1.symm, here.2⟩, List.getLast?_concat]
    rfl
  · rw [if_neg here, if_neg fun same => here ⟨same.1.symm, same.2⟩, List.append_nil]
    exact filled nonTerminal terminal

theorem conflicts_claims (done : List Choice) (choice : Choice) (table : Table)
    (filled : FilledBy first follow table done) :
    ((claimsOf first follow choice).foldl claim table).conflicts =
      table.conflicts ++ (clashesOf first follow done choice).map Clash.conflict := by
  rw [claimsOf, conflicts_row_claims _ _ _ _ (choice.directing first follow).nodup, clashesOf, List.map_filterMap]
  refine congrArg _ (List.filterMap_congr fun terminal _ => ?_)
  rw [filled, Option.map_map, Option.map_map]
  rfl

-- All choices in a row, by induction on those still to come.
theorem filled_choices (done rest : List Choice) (table : Table) (filled : FilledBy first follow table done) :
    FilledBy first follow ((rest.flatMap (claimsOf first follow)).foldl claim table) (done ++ rest) := by
  induction rest generalizing done table with
  | nil =>
      rw [List.append_nil]
      exact filled
  | cons choice rest ih =>
      have next := ih (done ++ [choice]) _ (filled_claims first follow done choice table filled)
      rw [List.append_assoc] at next
      rw [List.flatMap_cons, List.foldl_append]
      exact next

theorem conflicts_choices (done rest : List Choice) (table : Table) (filled : FilledBy first follow table done) :
    ((rest.flatMap (claimsOf first follow)).foldl claim table).conflicts =
      table.conflicts ++ (clashes first follow done rest).map Clash.conflict := by
  induction rest generalizing done table with
  | nil => exact (List.append_nil _).symm
  | cons choice rest ih =>
      have next := ih (done ++ [choice]) _ (filled_claims first follow done choice table filled)
      rw [List.flatMap_cons, List.foldl_append, next, conflicts_claims first follow done choice table filled, clashes,
        List.map_append, List.append_assoc]

-- The conflicts in one cell are between neighbours among its claimants.
theorem clashes_of_choice (done : List Choice) (choice : Choice) (nonTerminal terminal : Char) :
    ((clashesOf first follow done choice).filter (·.IsAt nonTerminal terminal)).map Clash.pair =
      if choice.left = nonTerminal ∧ terminal ∈ choice.directing first follow then
        ((claimants first follow done nonTerminal terminal).getLast?.map (·, choice)).toList
      else [] := by
  have picked : ∀ other, (((claimants first follow done choice.left other).getLast?.map
      fun previous => (⟨other, previous, choice⟩ : Clash)).filter (·.IsAt nonTerminal terminal)).map Clash.pair =
        if choice.left = nonTerminal ∧ other = terminal then
          (claimants first follow done choice.left other).getLast?.map (·, choice)
        else none := by
    intro other
    by_cases here : choice.left = nonTerminal ∧ other = terminal
    · cases (claimants first follow done choice.left other).getLast? <;> simp [Clash.IsAt, Clash.pair, here]
    · cases (claimants first follow done choice.left other).getLast? <;> simp [Clash.IsAt, here]
  rw [clashesOf, List.filter_filterMap, List.map_filterMap, List.filterMap_congr fun other _ => picked other,
    filter_map_at _ (choice.directing first follow).nodup terminal _ fun other apart =>
      if_neg fun here => apart here.2]
  by_cases row : choice.left = nonTerminal
  · subst row
    simp only [true_and, and_self, if_true]
    rfl
  · simp only [row, false_and, if_false]
    exact ite_self _

theorem clashes_at (done rest : List Choice) (nonTerminal terminal : Char) :
    consecutive (claimants first follow (done ++ rest) nonTerminal terminal) =
      consecutive (claimants first follow done nonTerminal terminal) ++
        ((clashes first follow done rest).filter (·.IsAt nonTerminal terminal)).map Clash.pair := by
  induction rest generalizing done with
  | nil =>
      rw [List.append_nil]
      exact (List.append_nil _).symm
  | cons choice rest ih =>
      have next := ih (done ++ [choice])
      rw [List.append_assoc] at next
      refine next.trans ?_
      rw [clashes, List.filter_append, List.map_append, clashes_of_choice, claimants_append, claimants_singleton,
        ← List.append_assoc]
      refine congrArg (· ++ _) ?_
      by_cases here : choice.left = nonTerminal ∧ terminal ∈ choice.directing first follow
      · rw [if_pos here, if_pos here, consecutive_append]
      · rw [if_neg here, if_neg here, List.append_nil, List.append_nil]

theorem replacement_of_choice (done : List Choice) (choice : Choice) (clash : Clash)
    (member : clash ∈ clashesOf first follow done choice) : clash.replacement = choice := by
  obtain ⟨terminal, _, found⟩ := List.mem_filterMap.mp member
  obtain ⟨previous, _, rfl⟩ := Option.map_eq_some_iff.mp found
  rfl

theorem replacement_of_clash (done rest : List Choice) (clash : Clash)
    (member : clash ∈ clashes first follow done rest) : clash.replacement ∈ rest := by
  induction rest generalizing done with
  | nil => cases member
  | cons choice rest ih =>
      rcases List.mem_append.mp member with here | later
      · rw [replacement_of_choice first follow done choice clash here]
        exact List.mem_cons_self
      · exact List.mem_cons_of_mem choice (ih (done ++ [choice]) later)

theorem clashes_ordered (done rest : List Choice) (ordered : rest.Pairwise Choice.Before) :
    (clashes first follow done rest).Pairwise fun earlier later =>
      earlier.replacement = later.replacement ∨ earlier.replacement.Before later.replacement := by
  induction rest generalizing done with
  | nil => exact .nil
  | cons choice rest ih =>
      obtain ⟨ahead, others⟩ := List.pairwise_cons.mp ordered
      have same := replacement_of_choice first follow done choice
      refine List.pairwise_append.mpr ⟨List.pairwise_of_forall_mem_list fun earlier known later further => ?_,
        ih (done ++ [choice]) others, fun earlier known later further => ?_⟩
      · exact Or.inl ((same earlier known).trans (same later further).symm)
      · rw [same earlier known]
        exact Or.inr (ahead _ (replacement_of_clash first follow (done ++ [choice]) rest later further))

variable (grammar : Grammar)

theorem claims_of_choices : claims grammar first follow = grammar.choices.flatMap (claimsOf first follow) := by
  rw [claims, grammar.alternatives_of_choices, List.flatMap_map]
  rfl

theorem filled_build : FilledBy first follow (build grammar first follow) grammar.choices := by
  rw [build, claims_of_choices]
  exact filled_choices first follow [] grammar.choices (empty grammar) fun _ _ => rfl

theorem conflicts_build :
    (build grammar first follow).conflicts = (clashes first follow [] grammar.choices).map Clash.conflict := by
  rw [build, claims_of_choices]
  exact conflicts_choices first follow [] grammar.choices (empty grammar) fun _ _ => rfl

theorem clashes_in_cell (nonTerminal terminal : Char) :
    ((clashes first follow [] grammar.choices).filter (·.IsAt nonTerminal terminal)).map Clash.pair =
      consecutive (claimants first follow grammar.choices nonTerminal terminal) :=
  (clashes_at first follow [] grammar.choices nonTerminal terminal).symm

theorem claimants_ordered (nonTerminal terminal : Char) :
    (claimants first follow grammar.choices nonTerminal terminal).Pairwise Choice.Before :=
  grammar.choices_ordered.filter _

-- There are no conflicts exactly when every cell has one claimant at most.
theorem conflict_free_iff : (build grammar first follow).conflicts = [] ↔
    ∀ nonTerminal terminal, ∀ one ∈ claimants first follow grammar.choices nonTerminal terminal,
      ∀ other ∈ claimants first follow grammar.choices nonTerminal terminal, one = other := by
  have single := fun nonTerminal terminal => consecutive_eq_nil _
    ((claimants_ordered first follow grammar nonTerminal terminal).imp Choice.ne_of_before)
  simp only [← single, ← clashes_in_cell, conflicts_build, List.map_eq_nil_iff]
  constructor
  · intro none nonTerminal terminal
    rw [none]
    rfl
  · intro none
    refine List.eq_nil_iff_forall_not_mem.mpr fun clash member => ?_
    have kept : clash ∈ (clashes first follow [] grammar.choices).filter
        (·.IsAt clash.replacement.left clash.terminal) :=
      List.mem_filter.mpr ⟨member, decide_eq_true ⟨rfl, rfl⟩⟩
    rw [none] at kept
    cases kept

theorem free_iff_disjoint : (build grammar first follow).isConflictFree = true ↔
    ∀ one other, grammar.Holds one → grammar.Holds other → one.Before other → one.left = other.left →
      ∀ terminal, terminal ∈ one.directing first follow → terminal ∉ other.directing first follow := by
  rw [isConflictFree, List.isEmpty_iff, conflict_free_iff]
  constructor
  · intro alone one other known further before row terminal claims again
    have here := (mem_claimants first follow grammar.choices one.left terminal one).mpr
      ⟨(grammar.mem_choices one).mpr known, rfl, claims⟩
    have there := (mem_claimants first follow grammar.choices one.left terminal other).mpr
      ⟨(grammar.mem_choices other).mpr further, row.symm, again⟩
    exact Choice.ne_of_before before (alone one.left terminal one here other there)
  · intro disjoint nonTerminal terminal one here other there
    obtain ⟨known, row, claims⟩ := (mem_claimants first follow _ nonTerminal terminal one).mp here
    obtain ⟨further, otherRow, again⟩ := (mem_claimants first follow _ nonTerminal terminal other).mp there
    rw [grammar.mem_choices] at known further
    rcases grammar.before_or_same one other known further with before | same | after
    · exact absurd again (disjoint one other known further before (row.trans otherRow.symm) terminal claims)
    · exact same
    · exact absurd claims (disjoint other one further known after (otherRow.trans row.symm) terminal again)

/-- What a table holds and which conflicts it reports, said by the directing sets alone. -/
theorem build_by_claimants :
    (∀ nonTerminal terminal, (build grammar first follow).get? nonTerminal terminal =
      (claimants first follow grammar.choices nonTerminal terminal).getLast?.map (·.alternative)) ∧
    (∀ nonTerminal terminal, (claimants first follow grammar.choices nonTerminal terminal).Pairwise Choice.Before ∧
      ∀ choice, choice ∈ claimants first follow grammar.choices nonTerminal terminal ↔
        grammar.Holds choice ∧ choice.left = nonTerminal ∧ terminal ∈ choice.directing first follow) ∧
    (build grammar first follow).conflicts = (clashes first follow [] grammar.choices).map Clash.conflict ∧
    (∀ nonTerminal terminal,
      ((clashes first follow [] grammar.choices).filter (·.IsAt nonTerminal terminal)).map Clash.pair =
        consecutive (claimants first follow grammar.choices nonTerminal terminal)) ∧
    ((clashes first follow [] grammar.choices).Pairwise fun earlier later =>
      earlier.replacement = later.replacement ∨ earlier.replacement.Before later.replacement) ∧
    ((build grammar first follow).isConflictFree = true ↔
      ∀ one other, grammar.Holds one → grammar.Holds other → one.Before other → one.left = other.left →
        ∀ terminal, terminal ∈ one.directing first follow → terminal ∉ other.directing first follow) := by
  refine ⟨filled_build first follow grammar, fun nonTerminal terminal =>
    ⟨claimants_ordered first follow grammar nonTerminal terminal, fun choice => ?_⟩,
    conflicts_build first follow grammar, clashes_in_cell first follow grammar,
    clashes_ordered first follow [] grammar.choices grammar.choices_ordered, ?_⟩
  · rw [mem_claimants, grammar.mem_choices]
  · exact free_iff_disjoint first follow grammar

end Claimants

def conflictsAt (table : Table) (nonTerminal terminal : Char) : List Conflict :=
  table.conflicts.filter fun conflict => conflict.nonTerminal = nonTerminal ∧ conflict.terminal = terminal

section Counts

variable (grammar : Grammar) (first : FirstSets) (follow : FollowSets) (nonTerminal terminal : Char)

-- Every claimant of a cell but the first makes one conflict there.
theorem count_conflicts_at :
    ((build grammar first follow).conflictsAt nonTerminal terminal).length =
      (claimants first follow grammar.choices nonTerminal terminal).length - 1 := by
  have pairs := congrArg List.length (clashes_in_cell first follow grammar nonTerminal terminal)
  rw [List.length_map] at pairs
  rw [conflictsAt, conflicts_build, List.filter_map, List.length_map]
  refine pairs.trans ?_
  simp [consecutive]

-- Which alternatives claim a cell is told without their places.
theorem count_claimants :
    (claimants first follow grammar.choices nonTerminal terminal).length =
      grammar.alternatives.countP fun pair => pair.1 = nonTerminal ∧ terminal ∈ directing first follow pair.1 pair.2 := by
  rw [grammar.alternatives_of_choices, List.countP_map, List.countP_eq_length_filter]
  rfl

end Counts

end Table

end TopDown
