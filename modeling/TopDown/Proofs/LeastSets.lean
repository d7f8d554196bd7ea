import TopDown.Proofs.Passes
/-!
Passes repeated until one tells of no change, from sets in any state. They cannot leave sets that are closed under the
grammar, and they come to rest at closed sets only. So the computed sets are the least closed ones, and passes from
any sets below them end with the same members, whatever order these come in.
-/

set_option autoImplicit false

namespace TopDown

/-- A step that tells whether it changed anything, repeated until it tells that it did not. -/
inductive Settles {state : Type} (step : state → Bool × state) : state → Nat → state → Prop where
  | still (start final : state) (told : step start = (false, final)) : Settles step start 1 final
  | again (start next final : state) (count : Nat) (told : step start = (true, next))
      (later : Settles step next count final) : Settles step start (count + 1) final

variable {ι β : Type} [DecidableEq ι] [DecidableEq β]

namespace Inclusion

section Rounds

variable (inclusions : List (Inclusion ι β))

-- A pass, and whether it added anything.
def round (family : SetFamily ι β) : Bool × SetFamily ι β :=
  (decide ((pass inclusions family).size ≠ family.size), pass inclusions family)

theorem settles_saturate (family : SetFamily ι β) :
    Settles (round inclusions) family (saturate inclusions family).2 (saturate inclusions family).1 := by
  induction family using saturate.induct inclusions with
  | case1 family next same =>
      rw [saturate, if_pos same]
      exact .still family next (Prod.ext (decide_eq_false (not_not_intro same)) rfl)
  | case2 family next grown final passes found ih =>
      rw [saturate, if_neg grown]
      exact .again family next _ _ (Prod.ext (decide_eq_true grown) rfl) ih

-- From anywhere between the start and the end of a saturation passes arrive at its end.
theorem saturate_between (monotone : ∀ inclusion ∈ inclusions, inclusion.Monotone) (start family : SetFamily ι β)
    (above : start.Below family) (below : family.Below (saturate inclusions start).1) :
    (saturate inclusions family).1.Below (saturate inclusions start).1 ∧
      (saturate inclusions start).1.Below (saturate inclusions family).1 := by
  constructor
  · exact saturate_below inclusions family _ monotone (saturate_closed inclusions start monotone) below
  · refine saturate_below inclusions start _ monotone (saturate_closed inclusions family monotone) ?_
    exact SetFamily.below_trans _ _ _ above (below_saturate inclusions family)

end Rounds

end Inclusion

namespace FirstSets

-- Every set and every flag is contained in the other one.
def Within (small large : FirstSets) : Prop :=
  ∀ nonTerminal, (∀ char ∈ small.terminals nonTerminal, char ∈ large.terminals nonTerminal) ∧
    (small.nullable nonTerminal = true → large.nullable nonTerminal = true)

-- The entry of a left side has what each of its alternatives begins with.
def ClosedUnder (grammar : Grammar) (first : FirstSets) : Prop :=
  ∀ left alternative, (left, alternative) ∈ grammar.alternatives →
    (∀ char ∈ (first.ofForm alternative).terminals, char ∈ first.terminals left) ∧
      ((first.ofForm alternative).nullable = true → first.nullable left = true)

def round (grammar : Grammar) : FirstSets → Bool × FirstSets := Inclusion.round (inclusions grammar)

theorem within_iff (small large : FirstSets) : small.Within large ↔ small.Below large := by
  constructor
  · intro within nonTerminal value member
    cases value with
    | some char =>
        rw [← mem_terminals] at member ⊢
        exact (within nonTerminal).1 char member
    | none =>
        rw [← nullable_iff] at member ⊢
        exact (within nonTerminal).2 member
  · intro below nonTerminal
    constructor
    · intro char member
      rw [mem_terminals] at member ⊢
      exact below nonTerminal (some char) member
    · intro vanishes
      rw [nullable_iff] at vanishes ⊢
      exact below nonTerminal none vanishes

theorem closed_under_iff (grammar : Grammar) (first : FirstSets) :
    ClosedUnder grammar first ↔ Inclusion.Closed (inclusions grammar) first := by
  constructor
  · intro closed inclusion member value wanted
    obtain ⟨⟨left, alternative⟩, known, rfl⟩ := List.mem_map.mp member
    cases value with
    | some char =>
        rw [← mem_terminals]
        exact (closed left alternative known).1 char ((FirstSet.mem_members_some _ char).mp wanted)
    | none =>
        rw [← nullable_iff]
        exact (closed left alternative known).2 ((FirstSet.mem_members_none _).mp wanted)
  · intro closed left alternative known
    have holds := closed _ (List.mem_map_of_mem known)
    constructor
    · intro char begins
      rw [mem_terminals]
      exact holds (some char) ((FirstSet.mem_members_some _ char).mpr begins)
    · intro vanishes
      rw [nullable_iff]
      exact holds none ((FirstSet.mem_members_none _).mpr vanishes)

variable (grammar : Grammar)

theorem initial_below (first : FirstSets) : (initial grammar).Below first :=
  fun _ _ member => absurd ((SetFamily.mem_row _ _ _).mp member) (OrderedSet.not_mem_empty _)

theorem compute_least (first : FirstSets) (closed : ClosedUnder grammar first) : (compute grammar).1.Within first :=
  (within_iff _ _).mpr (Inclusion.saturate_below _ _ first (inclusions_monotone grammar)
    ((closed_under_iff grammar first).mp closed) (initial_below grammar first))

theorem settles_from_below (first : FirstSets) (within : first.Within (compute grammar).1) :
    ∃ count final, Settles (round grammar) first count final ∧ final.Within (compute grammar).1 ∧
      (compute grammar).1.Within final := by
  have both := Inclusion.saturate_between (inclusions grammar) (inclusions_monotone grammar) (initial grammar) first
    (initial_below grammar first) ((within_iff _ _).mp within)
  exact ⟨_, _, Inclusion.settles_saturate (inclusions grammar) first, (within_iff _ _).mpr both.1,
    (within_iff _ _).mpr both.2⟩

end FirstSets

namespace FollowSets

-- Every occurrence of a non-terminal has in its entry what comes behind it, by the entry of the left side as well.
def ClosedUnder (grammar : Grammar) (first : FirstSets) (follow : FollowSets) : Prop :=
  ∀ left front nonTerminal behind, (left, front ++ .nonTerminal nonTerminal :: behind) ∈ grammar.alternatives →
    (∀ char ∈ (first.ofForm behind).terminals, char ∈ follow.row nonTerminal) ∧
      ((first.ofForm behind).nullable = true → ∀ char ∈ follow.row left, char ∈ follow.row nonTerminal)

-- The end mark comes behind the start symbol, if there is one.
def Ended (grammar : Grammar) (follow : FollowSets) : Prop :=
  ∀ start, grammar.start? = some start → endMark ∈ follow.row start

def round (grammar : Grammar) (first : FirstSets) : FollowSets → Bool × FollowSets :=
  Inclusion.round (inclusions grammar first)

theorem closed_under_iff (grammar : Grammar) (first : FirstSets) (follow : FollowSets) :
    ClosedUnder grammar first follow ↔ Inclusion.Closed (inclusions grammar first) follow := by
  constructor
  · intro closed inclusion member char wanted
    obtain ⟨occurrence, known, rfl⟩ := List.mem_map.mp member
    obtain ⟨front, inside⟩ := (grammar.mem_occurrences occurrence).mp known
    have holds := closed occurrence.left front _ _ ((grammar.mem_alternatives _ _).mpr inside)
    rcases (mem_wanted first occurrence follow char).mp wanted with begins | ⟨vanishes, _, row⟩
    · exact holds.1 char begins
    · exact holds.2 vanishes char row
  · exact behind_of_closed grammar first follow

variable (grammar : Grammar) (first : FirstSets)

theorem ended_iff (follow : FollowSets) : Ended grammar follow ↔ (initial grammar).Below follow := by
  constructor
  · intro ended nonTerminal char member
    obtain ⟨start, rfl⟩ := (mem_initial grammar nonTerminal char).mp member
    exact ended nonTerminal start
  · exact fun below start known => below start endMark ((mem_initial grammar start endMark).mpr ⟨known, rfl⟩)

theorem compute_least (follow : FollowSets) (closed : ClosedUnder grammar first follow)
    (ended : Ended grammar follow) : (compute grammar first).1.Below follow :=
  Inclusion.saturate_below _ _ follow (inclusions_monotone grammar first)
    ((closed_under_iff grammar first follow).mp closed) ((ended_iff grammar follow).mp ended)

theorem settles_from_between (follow : FollowSets) (above : (initial grammar).Below follow)
    (below : follow.Below (compute grammar first).1) :
    ∃ count final, Settles (round grammar first) follow count final ∧ final.Below (compute grammar first).1 ∧
      (compute grammar first).1.Below final :=
  ⟨_, _, Inclusion.settles_saturate (inclusions grammar first) follow, Inclusion.saturate_between
    (inclusions grammar first) (inclusions_monotone grammar first) (initial grammar) follow above below⟩

end FollowSets

namespace Grammar

/-- The computed sets are closed and the least that are, the FOLLOW sets among those with the end mark behind the start
symbol, and over FIRST sets of any origin. Passes from any sets on the way to them settle with the same members. -/
theorem computed_sets_least (grammar : Grammar) :
    (FirstSets.ClosedUnder grammar (FirstSets.compute grammar).1 ∧
      (∀ first, FirstSets.ClosedUnder grammar first → (FirstSets.compute grammar).1.Within first) ∧
      ∀ first : FirstSets, first.Within (FirstSets.compute grammar).1 →
        ∃ count final, Settles (FirstSets.round grammar) first count final ∧
          final.Within (FirstSets.compute grammar).1 ∧ (FirstSets.compute grammar).1.Within final) ∧
    ∀ first : FirstSets,
      (FollowSets.ClosedUnder grammar first (FollowSets.compute grammar first).1 ∧
        FollowSets.Ended grammar (FollowSets.compute grammar first).1) ∧
      (∀ follow, FollowSets.ClosedUnder grammar first follow → FollowSets.Ended grammar follow →
        (FollowSets.compute grammar first).1.Below follow) ∧
      ∀ follow : FollowSets, (FollowSets.initial grammar).Below follow →
        follow.Below (FollowSets.compute grammar first).1 →
          ∃ count final, Settles (FollowSets.round grammar first) follow count final ∧
            final.Below (FollowSets.compute grammar first).1 ∧ (FollowSets.compute grammar first).1.Below final := by
  refine ⟨⟨?_, FirstSets.compute_least grammar, FirstSets.settles_from_below grammar⟩, fun first => ⟨⟨?_, ?_⟩,
    FollowSets.compute_least grammar first, FollowSets.settles_from_between grammar first⟩⟩
  · exact (FirstSets.closed_under_iff grammar _).mpr grammar.first_closed
  · exact (FollowSets.closed_under_iff grammar first _).mpr (FollowSets.compute_closed grammar first)
  · exact (FollowSets.ended_iff grammar _).mpr (Inclusion.below_saturate _ _)

-- Two non-terminals that end in each other.
def entwined : Grammar where
  rules := [⟨'S', [[.terminal 'a', .nonTerminal 'B'], [.nonTerminal 'B', .nonTerminal 'S']]⟩,
    ⟨'B', [[.terminal 'b', .nonTerminal 'S'], []]⟩]

-- Passes may begin with members that come in late otherwise.
theorem computed_sets_least_entwined :
    (∃ first : FirstSets, none ∈ first.row 'B' ∧ first.Within (FirstSets.compute entwined).1 ∧
      ∃ count final, Settles (FirstSets.round entwined) first count final ∧
        final.Within (FirstSets.compute entwined).1 ∧ (FirstSets.compute entwined).1.Within final) ∧
    ∃ follow : FollowSets, 'b' ∈ follow.row 'S' ∧ follow.Below (FollowSets.compute entwined (FirstSets.compute entwined).1).1 ∧
      ∃ count final, Settles (FollowSets.round entwined (FirstSets.compute entwined).1) follow count final ∧
        final.Below (FollowSets.compute entwined (FirstSets.compute entwined).1).1 ∧
        (FollowSets.compute entwined (FirstSets.compute entwined).1).1.Below final := by
  have first : ((FirstSets.initial entwined).insertAll 'B' [none]).Below (FirstSets.compute entwined).1 := by
    intro nonTerminal value member
    rcases (SetFamily.mem_row_insert_all _ _ _ _ _).mp member with old | ⟨rfl, late⟩
    · exact FirstSets.initial_below entwined _ _ _ old
    · rw [List.mem_singleton.mp late]
      decide +kernel
  have follow : ((FollowSets.initial entwined).insertAll 'S' ['b']).Below
      (FollowSets.compute entwined (FirstSets.compute entwined).1).1 := by
    intro nonTerminal char member
    rcases (SetFamily.mem_row_insert_all _ _ _ _ _).mp member with old | ⟨rfl, late⟩
    · exact Inclusion.below_saturate _ _ _ _ old
    · rw [List.mem_singleton.mp late]
      decide +kernel
  have within := (FirstSets.within_iff _ _).mpr first
  refine ⟨⟨_, by decide, within, (computed_sets_least entwined).1.2.2 _ within⟩, _, by decide, follow,
    ((computed_sets_least entwined).2 _).2.2 _ ?_ follow⟩
  exact SetFamily.below_insert_all _ _ _

end Grammar

end TopDown
