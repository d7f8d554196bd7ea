import TopDown.First
import TopDown.Proofs.Derivation
import TopDown.Proofs.Saturation
/-!
FIRST sets hold exactly what derivations say: a character belongs to the set of a form when a form
that begins with it can be derived, and a form is nullable when the empty form can be derived.
-/

set_option autoImplicit false

namespace TopDown

namespace OrderedSet

variable {α : Type} [DecidableEq α]

theorem insert_insert_all (left right : OrderedSet α) (value : α) :
    (left.insertAll right.toList).insert value = left.insertAll (right.insert value).toList := by
  rw [to_list_insert]
  by_cases present : value ∈ right
  · have joined : value ∈ left.insertAll right.toList := (mem_insert_all _ _ _).mpr (Or.inr present)
    rw [if_pos present, insert_of_mem _ _ joined]
  · rw [if_neg present, insertAll, insertAll, List.foldl_append]
    rfl

theorem insert_all_insert_all (left right : OrderedSet α) (values : List α) :
    (left.insertAll right.toList).insertAll values = left.insertAll (right.insertAll values).toList := by
  induction values generalizing right with
  | nil => rfl
  | cons value rest ih => rw [insert_all_cons, insert_all_cons, insert_insert_all, ih]

theorem union_assoc (left middle right : OrderedSet α) :
    (left ∪ middle) ∪ right = left ∪ (middle ∪ right) := insert_all_insert_all _ _ _

theorem to_list_insert_all_of_nodup (set : OrderedSet α) (values : List α) (nodup : values.Nodup)
    (fresh : ∀ value ∈ values, value ∉ set) : (set.insertAll values).toList = set.toList ++ values := by
  induction values generalizing set with
  | nil => exact (List.append_nil _).symm
  | cons value rest ih =>
      obtain ⟨once, restNodup⟩ := List.nodup_cons.mp nodup
      have grown : (set.insert value).toList = set.toList ++ [value] := by
        rw [to_list_insert, if_neg (fresh value (by simp))]
      have restFresh : ∀ other ∈ rest, other ∉ set.insert value := by
        intro other member present
        rcases (mem_insert _ _ _).mp present with old | same
        · exact fresh other (by simp [member]) old
        · exact once (same ▸ member)
      rw [insert_all_cons, ih _ restNodup restFresh, grown, List.append_assoc]
      rfl

theorem empty_union (set : OrderedSet α) : ∅ ∪ set = set :=
  ext_list _ _ (to_list_insert_all_of_nodup ∅ set.toList set.nodup (fun value _ => not_mem_empty value))

end OrderedSet

namespace FirstSet

theorem nothing_followed_by (set : FirstSet) : nothing.followedBy set = set := by
  simp only [followedBy, nothing, if_true, OrderedSet.empty_union]

theorem followed_by_nothing (set : FirstSet) : set.followedBy nothing = set := by
  cases set with
  | mk terminals nullable => cases nullable <;> rfl

theorem followed_by_assoc (left middle right : FirstSet) :
    (left.followedBy middle).followedBy right = left.followedBy (middle.followedBy right) := by
  unfold followedBy
  by_cases first : left.nullable
  · by_cases second : middle.nullable <;> simp [first, second, OrderedSet.union_assoc]
  · simp [first]

theorem mem_nothing (value : Option Char) : value ∈ nothing.members ↔ value = none := by
  cases value with
  | none => simp [mem_members_none, nothing]
  | some char => simp [mem_members_some, nothing, OrderedSet.not_mem_empty]

theorem mem_only (char : Char) (value : Option Char) : value ∈ (only char).members ↔ value = some char := by
  cases value with
  | none => simp [mem_members_none, only]
  | some other => simp [mem_members_some, only, OrderedSet.mem_singleton]

-- The second set shows through a nullable first one; what is nullable has to be so in both.
theorem mem_followed_by (head tail : FirstSet) (value : Option Char) :
    value ∈ (head.followedBy tail).members ↔
      (value ≠ none ∧ value ∈ head.members) ∨ (none ∈ head.members ∧ value ∈ tail.members) := by
  rw [mem_members_none, followedBy]
  by_cases vanishes : head.nullable = true
  · rw [if_pos vanishes]
    cases value with
    | none => simp [mem_members_none, vanishes]
    | some char => simp [mem_members_some, OrderedSet.mem_union, vanishes]
  · rw [if_neg vanishes]
    cases value with
    | none => simp [mem_members_none, vanishes]
    | some char => simp [vanishes]

theorem followed_by_mono (head largerHead tail largerTail : FirstSet)
    (heads : ∀ value ∈ head.members, value ∈ largerHead.members)
    (tails : ∀ value ∈ tail.members, value ∈ largerTail.members) :
    ∀ value ∈ (head.followedBy tail).members, value ∈ (largerHead.followedBy largerTail).members := by
  intro value member
  rw [mem_followed_by] at member ⊢
  rcases member with ⟨shown, first⟩ | ⟨vanishes, second⟩
  · exact Or.inl ⟨shown, heads value first⟩
  · exact Or.inr ⟨heads none vanishes, tails value second⟩

end FirstSet

namespace FirstSets

theorem mem_of_symbol (first : FirstSets) (char : Char) (value : Option Char) :
    value ∈ (first.ofSymbol (.nonTerminal char)).members ↔ value ∈ first.row char := by
  cases value with
  | none => exact (FirstSet.mem_members_none _).trans (first.nullable_iff char)
  | some other => exact (FirstSet.mem_members_some _ other).trans (first.mem_terminals char other)

theorem of_symbol_of_read (first : FirstSets) (symbol : Symbol) (char : Char)
    (read : symbol.read? = some char) : first.ofSymbol symbol = .only char := by
  cases symbol with
  | terminal other => exact congrArg FirstSet.only (Option.some.inj read)
  | endOfInput => exact congrArg FirstSet.only (Option.some.inj read)
  | nonTerminal other => cases read
  | epsilon => cases read

theorem of_form_singleton (first : FirstSets) (symbol : Symbol) :
    first.ofForm [symbol] = first.ofSymbol symbol := by
  rw [of_form_cons]
  exact FirstSet.followed_by_nothing _

theorem of_form_append (first : FirstSets) (front back : Form) :
    first.ofForm (front ++ back) = (first.ofForm front).followedBy (first.ofForm back) := by
  induction front with
  | nil => exact (FirstSet.nothing_followed_by _).symm
  | cons symbol rest ih =>
      rw [List.cons_append, of_form_cons, of_form_cons, ih, FirstSet.followed_by_assoc]

theorem of_symbol_mono (small large : FirstSets) (below : small.Below large) (symbol : Symbol) :
    ∀ value ∈ (small.ofSymbol symbol).members, value ∈ (large.ofSymbol symbol).members := by
  intro value member
  cases symbol with
  | nonTerminal char =>
      rw [mem_of_symbol] at member ⊢
      exact below char value member
  | _ => exact member

theorem of_form_mono (small large : FirstSets) (below : small.Below large) (form : Form) :
    ∀ value ∈ (small.ofForm form).members, value ∈ (large.ofForm form).members := by
  induction form with
  | nil => exact fun _ member => member
  | cons symbol rest ih =>
      rw [of_form_cons, of_form_cons]
      exact FirstSet.followed_by_mono _ _ _ _ (of_symbol_mono small large below symbol) ih

theorem inclusion_monotone (alternative : Char × Form) : (inclusion alternative).Monotone :=
  fun small large below => of_form_mono small large below alternative.2

theorem inclusions_monotone (grammar : Grammar) : ∀ inclusion ∈ inclusions grammar, inclusion.Monotone := by
  intro inclusion member
  obtain ⟨alternative, _, rfl⟩ := List.mem_map.mp member
  exact inclusion_monotone alternative

end FirstSets

namespace Grammar

-- What a member of a FIRST set says: a character a derived form begins with, or that all can vanish.
def Starts (grammar : Grammar) (form : Form) : Option Char → Prop
  | some char => grammar.Begins form char
  | none => grammar.Vanishes form

variable (grammar : Grammar)

theorem starts_append (front back : Form) (frontSet backSet : FirstSet)
    (first : ∀ value ∈ frontSet.members, grammar.Starts front value)
    (second : ∀ value ∈ backSet.members, grammar.Starts back value) :
    ∀ value ∈ (frontSet.followedBy backSet).members, grammar.Starts (front ++ back) value := by
  intro value member
  rcases (FirstSet.mem_followed_by frontSet backSet value).mp member with ⟨shown, inFront⟩ | ⟨vanishes, inBack⟩
  · cases value with
    | none => exact absurd rfl shown
    | some char => exact grammar.begins_append_left front back char (first _ inFront)
  · cases value with
    | none => exact grammar.vanishes_append front back (first none vanishes) (second none inBack)
    | some char => exact grammar.begins_append_right front back char (first none vanishes) (second _ inBack)

-- Rows that derivations justify give FIRST sets of symbols and forms that derivations justify.
def Justifies (first : FirstSets) : Prop :=
  ∀ char value, value ∈ first.row char → grammar.Starts [.nonTerminal char] value

theorem starts_of_symbol (first : FirstSets) (rows : grammar.Justifies first) (symbol : Symbol) :
    ∀ value ∈ (first.ofSymbol symbol).members, grammar.Starts [symbol] value := by
  intro value member
  cases read : symbol.read? with
  | some char =>
      rw [first.of_symbol_of_read symbol char read, FirstSet.mem_only] at member
      subst member
      exact grammar.begins_of_read symbol [] char read
  | none =>
      cases symbol with
      | terminal char => cases read
      | endOfInput => cases read
      | nonTerminal char => exact rows char value ((first.mem_of_symbol char value).mp member)
      | epsilon =>
          have same := (FirstSet.mem_nothing value).mp member
          subst same
          exact grammar.derives_mark

theorem starts_of_form (first : FirstSets) (rows : grammar.Justifies first) (form : Form) :
    ∀ value ∈ (first.ofForm form).members, grammar.Starts form value := by
  induction form with
  | nil =>
      intro value member
      have same := (FirstSet.mem_nothing value).mp member
      subst same
      exact grammar.derives_refl []
  | cons symbol rest ih =>
      rw [FirstSets.of_form_cons]
      exact grammar.starts_append [symbol] rest _ _ (grammar.starts_of_symbol first rows symbol) ih

theorem starts_of_alternative (left : Char) (alternative : Form) (value : Option Char)
    (member : alternative ∈ grammar.alternativesOf left) (starts : grammar.Starts alternative value) :
    grammar.Starts [.nonTerminal left] value := by
  have derives := grammar.derives_alternative left alternative member
  cases value with
  | none => exact grammar.derives_trans derives starts
  | some char => exact grammar.begins_of_derives _ alternative char derives starts

theorem first_justified : grammar.Justifies (FirstSets.compute grammar).1 := by
  refine Inclusion.saturate_sound (FirstSets.inclusions grammar) (FirstSets.initial grammar)
    (fun char value => grammar.Starts [.nonTerminal char] value) ?_ ?_
  · intro inclusion member first rows value wanted
    obtain ⟨⟨left, alternative⟩, known, rfl⟩ := List.mem_map.mp member
    exact grammar.starts_of_alternative left alternative value ((grammar.mem_alternatives left alternative).mp known)
      (grammar.starts_of_form first rows alternative value wanted)
  · intro char value member
    exact absurd ((SetFamily.mem_row _ _ _).mp member) (OrderedSet.not_mem_empty _)

theorem first_closed : Inclusion.Closed (FirstSets.inclusions grammar) (FirstSets.compute grammar).1 :=
  Inclusion.saturate_closed _ _ (FirstSets.inclusions_monotone grammar)

variable {grammar}

theorem alternative_of_closed (first : FirstSets) (closed : Inclusion.Closed (FirstSets.inclusions grammar) first)
    (left : Char) (alternative : Form) (member : alternative ∈ grammar.alternativesOf left) :
    ∀ value ∈ (first.ofForm alternative).members, value ∈ (first.ofForm [.nonTerminal left]).members := by
  intro value wanted
  have known := (grammar.mem_alternatives left alternative).mpr member
  rw [FirstSets.of_form_singleton, FirstSets.mem_of_symbol]
  exact closed _ (List.mem_map_of_mem known) value wanted

-- A rewrite loses possibilities only, once the rows are closed under the rules.
theorem first_of_rewrites (first : FirstSets) (closed : Inclusion.Closed (FirstSets.inclusions grammar) first)
    (form target : Form) (rewrites : grammar.Rewrites form target) :
    ∀ value ∈ (first.ofForm target).members, value ∈ (first.ofForm form).members := by
  cases rewrites with
  | replace front back left alternative member =>
      have inner := alternative_of_closed first closed left alternative member
      have split : front ++ .nonTerminal left :: back = front ++ [.nonTerminal left] ++ back := by simp
      rw [split]
      simp only [FirstSets.of_form_append]
      exact FirstSet.followed_by_mono _ _ _ _ (FirstSet.followed_by_mono _ _ _ _ (fun _ kept => kept) inner)
        (fun _ kept => kept)
  | erase front back =>
      rw [FirstSets.of_form_append, FirstSets.of_form_append, FirstSets.of_form_cons]
      exact fun _ kept => (FirstSet.nothing_followed_by (first.ofForm back)).symm ▸ kept

theorem first_of_derives (first : FirstSets) (closed : Inclusion.Closed (FirstSets.inclusions grammar) first)
    (form target : Form) (derives : grammar.Derives form target) :
    ∀ value ∈ (first.ofForm target).members, value ∈ (first.ofForm form).members := by
  induction derives with
  | refl => exact fun _ member => member
  | tail _ rewrites ih => exact fun value member => ih value (first_of_rewrites first closed _ _ rewrites value member)

theorem first_of_starts (first : FirstSets) (closed : Inclusion.Closed (FirstSets.inclusions grammar) first)
    (form : Form) (value : Option Char) (starts : grammar.Starts form value) :
    value ∈ (first.ofForm form).members := by
  cases value with
  | none => exact first_of_derives first closed form [] starts none ((FirstSet.mem_nothing none).mpr rfl)
  | some char =>
      obtain ⟨_, derives, symbol, rest, rfl, read⟩ := starts
      refine first_of_derives first closed form _ derives (some char) ?_
      rw [FirstSets.of_form_cons, FirstSet.mem_followed_by, first.of_symbol_of_read symbol char read]
      exact Or.inl ⟨Option.some_ne_none char, (FirstSet.mem_only char _).mpr rfl⟩

variable (grammar)

theorem mem_first_of_form (form : Form) (value : Option Char) :
    value ∈ ((FirstSets.compute grammar).1.ofForm form).members ↔ grammar.Starts form value :=
  ⟨grammar.starts_of_form _ grammar.first_justified form value,
    first_of_starts _ grammar.first_closed form value⟩

theorem mem_first_terminals (form : Form) (char : Char) :
    char ∈ ((FirstSets.compute grammar).1.ofForm form).terminals ↔ grammar.Begins form char :=
  (FirstSet.mem_members_some _ char).symm.trans (grammar.mem_first_of_form form (some char))

theorem first_nullable (form : Form) :
    ((FirstSets.compute grammar).1.ofForm form).nullable = true ↔ grammar.Vanishes form :=
  (FirstSet.mem_members_none _).symm.trans (grammar.mem_first_of_form form none)

theorem mem_first_row (nonTerminal : Char) (value : Option Char) :
    value ∈ (FirstSets.compute grammar).1.row nonTerminal ↔ grammar.Starts [.nonTerminal nonTerminal] value := by
  rw [← grammar.mem_first_of_form, FirstSets.of_form_singleton, FirstSets.mem_of_symbol]

/-- The sets of forms and the rows of non-terminals, defined or not, hold what derivations allow. -/
theorem first_sets_exact (form : Form) (nonTerminal : Char) :
    (∀ char, char ∈ ((FirstSets.compute grammar).1.ofForm form).terminals ↔
        ∃ target, grammar.Derives form target ∧ target.BeginsWith char) ∧
      (((FirstSets.compute grammar).1.ofForm form).nullable = true ↔ grammar.Derives form []) ∧
      (∀ char, char ∈ (FirstSets.compute grammar).1.terminals nonTerminal ↔
        ∃ target, grammar.Derives [.nonTerminal nonTerminal] target ∧ target.BeginsWith char) ∧
      ((FirstSets.compute grammar).1.nullable nonTerminal = true ↔
        grammar.Derives [.nonTerminal nonTerminal] []) := by
  refine ⟨grammar.mem_first_terminals form, grammar.first_nullable form, ?_, ?_⟩
  · intro char
    exact ((FirstSets.compute grammar).1.mem_terminals nonTerminal char).trans
      (grammar.mem_first_row nonTerminal (some char))
  · exact ((FirstSets.compute grammar).1.nullable_iff nonTerminal).trans (grammar.mem_first_row nonTerminal none)

end Grammar

end TopDown
