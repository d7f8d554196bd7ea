import TopDown.Follow
import TopDown.Proofs.FirstSets
/-!
FOLLOW sets hold exactly the characters that derivations put behind a non-terminal. Derivations
begin with the start symbol before the end of the input, or with the left side of any rule. What a
closed family covers in a form it covers in every rewritten form, so a derivation cannot leave it.
-/

set_option autoImplicit false

namespace TopDown

namespace Grammar

/-- The forms that derivations begin with. -/
inductive Root (grammar : Grammar) : Form → Prop where
  | start (start : Char) (first : grammar.start? = some start) :
      Root grammar [.nonTerminal start, .endOfInput]
  | rule (rule : Rule) (member : rule ∈ grammar.rules) : Root grammar [.nonTerminal rule.left]

-- In some derived form the non-terminal stands right before a symbol that reads the character.
def Precedes (grammar : Grammar) (nonTerminal char : Char) : Prop :=
  ∃ root front symbol back, grammar.Root root ∧
    grammar.Derives root (front ++ .nonTerminal nonTerminal :: symbol :: back) ∧ symbol.read? = some char

variable (grammar : Grammar)

theorem precedes_of_begins (root front back : Form) (nonTerminal char : Char) (rooted : grammar.Root root)
    (derives : grammar.Derives root (front ++ .nonTerminal nonTerminal :: back))
    (begins : grammar.Begins back char) : grammar.Precedes nonTerminal char := by
  obtain ⟨_, further, symbol, rest, rfl, read⟩ := begins
  have inside := grammar.derives_append (front ++ [.nonTerminal nonTerminal]) back _ _
    (grammar.derives_refl _) further
  simp only [List.append_assoc, List.cons_append, List.nil_append] at inside
  exact ⟨root, front, symbol, rest, rooted, grammar.derives_trans derives inside, read⟩

theorem left_is_root (left : Char) (alternative : Form) (member : alternative ∈ grammar.alternativesOf left) :
    grammar.Root [.nonTerminal left] := by
  obtain ⟨rule, known, _⟩ := List.mem_flatMap.mp member
  obtain ⟨inside, same⟩ := List.mem_filter.mp known
  have root := Root.rule rule inside
  rwa [of_decide_eq_true same] at root

theorem mem_occurrences (occurrence : Occurrence) :
    occurrence ∈ grammar.occurrences ↔ ∃ front,
      front ++ .nonTerminal occurrence.nonTerminal :: occurrence.rest ∈ grammar.alternativesOf occurrence.left := by
  simp only [occurrences, List.mem_flatMap, Occurrence.mem_in_form, Prod.exists]
  constructor
  · rintro ⟨left, _, member, rfl, front, rfl⟩
    exact ⟨front, (grammar.mem_alternatives _ _).mp member⟩
  · intro ⟨front, member⟩
    exact ⟨_, _, (grammar.mem_alternatives _ _).mpr member, rfl, front, rfl⟩

end Grammar

namespace FollowSets

theorem mem_wanted (first : FirstSets) (occurrence : Occurrence) (follow : FollowSets) (char : Char) :
    char ∈ wanted first occurrence follow ↔ char ∈ (first.ofForm occurrence.rest).terminals ∨
      ((first.ofForm occurrence.rest).nullable = true ∧ occurrence.nonTerminal ≠ occurrence.left ∧
        char ∈ follow.row occurrence.left) := by
  rw [wanted]
  by_cases asks : (first.ofForm occurrence.rest).nullable = true ∧ occurrence.nonTerminal ≠ occurrence.left
  · rw [if_pos asks, OrderedSet.mem_union]
    exact or_congr_right ⟨fun row => ⟨asks.1, asks.2, row⟩, fun all => all.2.2⟩
  · rw [if_neg asks]
    exact ⟨Or.inl, fun either => either.elim id fun all => absurd ⟨all.1, all.2.1⟩ asks⟩

theorem inclusion_monotone (first : FirstSets) (occurrence : Occurrence) :
    (inclusion first occurrence).Monotone := by
  intro small large below char member
  rcases (mem_wanted first occurrence small char).mp member with begins | ⟨vanishes, different, row⟩
  · exact (mem_wanted first occurrence large char).mpr (Or.inl begins)
  · exact (mem_wanted first occurrence large char).mpr (Or.inr ⟨vanishes, different, below _ char row⟩)

theorem inclusions_monotone (grammar : Grammar) (first : FirstSets) :
    ∀ inclusion ∈ inclusions grammar first, inclusion.Monotone := by
  intro inclusion member
  obtain ⟨occurrence, _, rfl⟩ := List.mem_map.mp member
  exact inclusion_monotone first occurrence

theorem compute_closed (grammar : Grammar) (first : FirstSets) :
    Inclusion.Closed (inclusions grammar first) (compute grammar first).1 :=
  Inclusion.saturate_closed _ _ (inclusions_monotone grammar first)

-- The row that is left out of the request is the row that would be asked for itself.
theorem row_of_closed (grammar : Grammar) (first : FirstSets) (follow : FollowSets)
    (closed : Inclusion.Closed (inclusions grammar first) follow) (left nonTerminal : Char) (front rest : Form)
    (member : front ++ .nonTerminal nonTerminal :: rest ∈ grammar.alternativesOf left) (char : Char)
    (asked : char ∈ (first.ofForm rest).terminals ∨
      ((first.ofForm rest).nullable = true ∧ char ∈ follow.row left)) : char ∈ follow.row nonTerminal := by
  have known := (grammar.mem_occurrences ⟨left, nonTerminal, rest⟩).mpr ⟨front, member⟩
  have holds := closed _ (List.mem_map_of_mem known) char
  have wanted := mem_wanted first ⟨left, nonTerminal, rest⟩ follow char
  rcases asked with begins | ⟨vanishes, row⟩
  · exact holds (wanted.mpr (Or.inl begins))
  · by_cases same : nonTerminal = left
    · exact same ▸ row
    · exact holds (wanted.mpr (Or.inr ⟨vanishes, same, row⟩))

-- Behind each non-terminal of a form the rows hold what the rest of the form can begin with.
def Covers (first : FirstSets) (follow : FollowSets) (form : Form) : Prop :=
  ∀ front nonTerminal back, form = front ++ .nonTerminal nonTerminal :: back →
    ∀ char, some char ∈ (first.ofForm back).members → char ∈ follow.row nonTerminal

theorem covers_of_rewrites (grammar : Grammar) (first : FirstSets) (follow : FollowSets)
    (firstClosed : Inclusion.Closed (FirstSets.inclusions grammar) first)
    (followClosed : Inclusion.Closed (inclusions grammar first) follow) (form target : Form)
    (rewrites : grammar.Rewrites form target) (covers : Covers first follow form) :
    Covers first follow target := by
  have lost := Grammar.first_of_rewrites first firstClosed
  intro front nonTerminal back split char begins
  cases rewrites with
  | erase before after =>
      rcases split_at_symbol _ _ _ _ _ split with ⟨middle, rfl, rfl⟩ | ⟨middle, rfl, rfl⟩
      · refine covers front nonTerminal (middle ++ .epsilon :: after) (by simp) char ?_
        exact lost _ _ (.erase middle after) _ begins
      · exact covers (before ++ .epsilon :: middle) nonTerminal back (by simp) char begins
  | replace before after left alternative member =>
      rw [List.append_assoc] at split
      rcases split_at_symbol _ _ _ _ _ split with ⟨middle, rfl, rfl⟩ | ⟨middle, inner, rfl⟩
      · refine covers front nonTerminal (middle ++ .nonTerminal left :: after) (by simp) char ?_
        rw [← List.append_assoc] at begins
        exact lost _ _ (.replace middle after left alternative member) _ begins
      · rcases split_at_symbol _ _ _ _ _ inner with ⟨rest, rfl, rfl⟩ | ⟨rest, rfl, rfl⟩
        -- The non-terminal comes from the alternative: its row is asked for what stands behind it
        -- there and, where that can vanish, for the row of the non-terminal replaced.
        · refine row_of_closed grammar first follow followClosed left nonTerminal middle rest member char ?_
          rw [FirstSets.of_form_append, FirstSet.mem_followed_by] at begins
          rcases begins with ⟨_, own⟩ | ⟨vanishes, outer⟩
          · exact Or.inl ((FirstSet.mem_members_some _ char).mp own)
          · exact Or.inr ⟨(FirstSet.mem_members_none _).mp vanishes, covers before left after rfl char outer⟩
        · exact covers (before ++ .nonTerminal left :: rest) nonTerminal back (by simp) char begins

theorem covers_of_derives (grammar : Grammar) (first : FirstSets) (follow : FollowSets)
    (firstClosed : Inclusion.Closed (FirstSets.inclusions grammar) first)
    (followClosed : Inclusion.Closed (inclusions grammar first) follow) (form target : Form)
    (derives : grammar.Derives form target) (covers : Covers first follow form) :
    Covers first follow target := by
  induction derives with
  | refl => exact covers
  | tail _ rewrites ih =>
      exact covers_of_rewrites grammar first follow firstClosed followClosed _ _ rewrites ih

theorem mem_initial (grammar : Grammar) (nonTerminal char : Char) :
    char ∈ (initial grammar).row nonTerminal ↔ grammar.start? = some nonTerminal ∧ char = endMark := by
  have empty : ∀ target : Char, char ∉ (SetFamily.ofIndex grammar.nonTerminals : FollowSets).row target :=
    fun target member => OrderedSet.not_mem_empty _ ((SetFamily.mem_row _ target char).mp member)
  rw [initial]
  cases first : grammar.start? with
  | none => exact ⟨fun member => absurd member (empty nonTerminal), fun both => nomatch both.1⟩
  | some start =>
      rw [SetFamily.mem_row_insert_all]
      simp only [empty nonTerminal, false_or, List.mem_singleton, Option.some.injEq]
      exact and_congr_left fun _ => eq_comm

end FollowSets

namespace Grammar

variable (grammar : Grammar)

theorem precedes_of_wanted (follow : FollowSets)
    (rows : ∀ nonTerminal char, char ∈ follow.row nonTerminal → grammar.Precedes nonTerminal char)
    (occurrence : Occurrence) (known : occurrence ∈ grammar.occurrences) (char : Char)
    (wanted : char ∈ FollowSets.wanted (FirstSets.compute grammar).1 occurrence follow) :
    grammar.Precedes occurrence.nonTerminal char := by
  obtain ⟨before, member⟩ := (grammar.mem_occurrences occurrence).mp known
  have unfolds := grammar.derives_alternative occurrence.left _ member
  rcases (FollowSets.mem_wanted _ occurrence follow char).mp wanted with begins | ⟨vanishes, _, row⟩
  · exact grammar.precedes_of_begins _ before occurrence.rest _ char
      (grammar.left_is_root occurrence.left _ member) unfolds
      ((grammar.mem_first_terminals occurrence.rest char).mp begins)
  · obtain ⟨root, front, symbol, back, rooted, derives, read⟩ := rows occurrence.left char row
    have inside := grammar.derives_in_context front (symbol :: back) _ _ unfolds
    simp only [List.append_assoc, List.cons_append, List.nil_append] at inside
    rw [← List.append_assoc] at inside
    exact grammar.precedes_of_begins root (front ++ before) (occurrence.rest ++ symbol :: back) _ char rooted
      (grammar.derives_trans derives inside)
      (grammar.begins_append_right occurrence.rest _ char ((grammar.first_nullable occurrence.rest).mp vanishes)
        (grammar.begins_of_read symbol back char read))

theorem precedes_of_follow (nonTerminal char : Char)
    (member : char ∈ (FollowSets.compute grammar (FirstSets.compute grammar).1).1.row nonTerminal) :
    grammar.Precedes nonTerminal char := by
  refine Inclusion.saturate_sound (FollowSets.inclusions grammar (FirstSets.compute grammar).1)
    (FollowSets.initial grammar) grammar.Precedes ?_ ?_ nonTerminal char member
  · intro inclusion known follow rows other wanted
    obtain ⟨occurrence, inside, rfl⟩ := List.mem_map.mp known
    exact grammar.precedes_of_wanted follow rows occurrence inside other wanted
  · intro start other initial
    obtain ⟨first, rfl⟩ := (FollowSets.mem_initial grammar start other).mp initial
    exact ⟨_, [], .endOfInput, [], .start start first, grammar.derives_refl _, rfl⟩

theorem covers_root (root : Form) (rooted : grammar.Root root) :
    FollowSets.Covers (FirstSets.compute grammar).1
      (FollowSets.compute grammar (FirstSets.compute grammar).1).1 root := by
  intro front nonTerminal back split char begins
  cases rooted with
  | rule rule member =>
      cases front with
      | nil =>
          obtain ⟨_, rfl⟩ := List.cons.inj split
          cases (FirstSet.mem_nothing _).mp begins
      | cons symbol front => simp at split
  | start start first =>
      cases front with
      | nil =>
          obtain ⟨same, rfl⟩ := List.cons.inj split
          cases same
          rw [FirstSets.of_form_singleton] at begins
          have mark : char = endMark := Option.some.inj ((FirstSet.mem_only endMark _).mp begins)
          exact Inclusion.below_saturate _ _ nonTerminal char
            ((FollowSets.mem_initial grammar nonTerminal char).mpr ⟨first, mark⟩)
      | cons symbol front =>
          obtain ⟨_, tail⟩ := List.cons.inj split
          cases front with
          | nil => cases tail
          | cons other front => simp at tail

theorem follow_of_precedes (nonTerminal char : Char) (precedes : grammar.Precedes nonTerminal char) :
    char ∈ (FollowSets.compute grammar (FirstSets.compute grammar).1).1.row nonTerminal := by
  obtain ⟨root, front, symbol, back, rooted, derives, read⟩ := precedes
  refine FollowSets.covers_of_derives grammar _ _ grammar.first_closed (FollowSets.compute_closed grammar _)
    root _ derives (grammar.covers_root root rooted) front nonTerminal (symbol :: back) rfl char ?_
  exact (grammar.mem_first_of_form _ (some char)).mpr (grammar.begins_of_read symbol back char read)

/-- A row holds what derivations put right behind its non-terminal, though no left side ever asks for
its own row. -/
theorem follow_sets_exact (nonTerminal char : Char) :
    char ∈ (FollowSets.compute grammar (FirstSets.compute grammar).1).1.row nonTerminal ↔
      grammar.Precedes nonTerminal char :=
  ⟨grammar.precedes_of_follow nonTerminal char, grammar.follow_of_precedes nonTerminal char⟩

end Grammar

end TopDown
