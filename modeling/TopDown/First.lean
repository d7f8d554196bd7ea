import TopDown.Grammar
import TopDown.Saturation
/-!
FIRST sets. The family holds one row for each non-terminal; a member is either a character a word
of the non-terminal can begin with, or `none` when the empty word is among its words. The FIRST set
of a form is put together symbol by symbol, and the family sought is the least one that contains
the FIRST set of every alternative in the row of its left side.
-/

set_option autoImplicit false

namespace TopDown

structure FirstSet where
  terminals : OrderedSet Char
  nullable : Bool

namespace FirstSet

-- The FIRST set of the empty form.
def nothing : FirstSet := ⟨∅, true⟩

def only (char : Char) : FirstSet := ⟨.singleton char, false⟩

-- The FIRST set of two forms in a row: the second one shows through if the first can vanish.
def followedBy (head tail : FirstSet) : FirstSet :=
  if head.nullable then ⟨head.terminals ∪ tail.terminals, tail.nullable⟩ else head

def members (set : FirstSet) : List (Option Char) :=
  set.terminals.toList.map some ++ if set.nullable then [none] else []

theorem mem_members_some (set : FirstSet) (char : Char) :
    some char ∈ set.members ↔ char ∈ set.terminals := by
  cases nullable : set.nullable <;> simp [members, nullable, OrderedSet.mem_to_list]

theorem mem_members_none (set : FirstSet) : none ∈ set.members ↔ set.nullable = true := by
  cases nullable : set.nullable <;> simp [members, nullable]

end FirstSet

abbrev FirstSets := SetFamily Char (Option Char)

namespace FirstSets

def terminals (first : FirstSets) (nonTerminal : Char) : OrderedSet Char :=
  ⟨(first.row nonTerminal).toList.filterMap id, by
    refine List.Pairwise.filterMap id ?_ (first.row nonTerminal).nodup
    intro left right different char leftChar other rightChar same
    exact different (leftChar.trans ((congrArg some same).trans rightChar.symm))⟩

def nullable (first : FirstSets) (nonTerminal : Char) : Bool :=
  decide (none ∈ first.row nonTerminal)

def ofSymbol (first : FirstSets) : Symbol → FirstSet
  | .terminal char => .only char
  | .endOfInput => .only endMark
  | .nonTerminal char => ⟨first.terminals char, first.nullable char⟩
  | .epsilon => .nothing

def ofForm (first : FirstSets) : Form → FirstSet
  | [] => .nothing
  | symbol :: rest =>
      let head := first.ofSymbol symbol
      if head.nullable then head.followedBy (ofForm first rest) else head

theorem mem_terminals (first : FirstSets) (nonTerminal char : Char) :
    char ∈ first.terminals nonTerminal ↔ some char ∈ first.row nonTerminal := by
  rw [← OrderedSet.mem_to_list, ← OrderedSet.mem_to_list]
  simp [terminals]

theorem nullable_iff (first : FirstSets) (nonTerminal : Char) :
    first.nullable nonTerminal = true ↔ none ∈ first.row nonTerminal := decide_eq_true_iff

theorem of_form_cons (first : FirstSets) (symbol : Symbol) (rest : Form) :
    first.ofForm (symbol :: rest) = (first.ofSymbol symbol).followedBy (first.ofForm rest) := by
  cases vanishes : (first.ofSymbol symbol).nullable <;> simp [ofForm, FirstSet.followedBy, vanishes]

-- The characters a form can begin with by its own symbols.
def formConstants (form : Form) : List (Option Char) :=
  none :: (form.filter Symbol.isMatched).map (some ·.char)

theorem of_symbol_drawn (first : FirstSets) (symbol : Symbol) (char : Char)
    (member : char ∈ (first.ofSymbol symbol).terminals) :
    some char ∈ formConstants [symbol] ∨ ∃ index, some char ∈ first.row index := by
  cases symbol with
  | terminal other =>
      rw [ofSymbol, FirstSet.only, OrderedSet.mem_singleton] at member
      exact Or.inl (List.mem_cons_of_mem _ (List.mem_map.mpr ⟨.terminal other, by simp [Symbol.isMatched],
        congrArg some member.symm⟩))
  | endOfInput =>
      rw [ofSymbol, FirstSet.only, OrderedSet.mem_singleton] at member
      exact Or.inl (List.mem_cons_of_mem _ (List.mem_map.mpr ⟨.endOfInput, by simp [Symbol.isMatched],
        congrArg some member.symm⟩))
  | nonTerminal other => exact Or.inr ⟨other, (mem_terminals first other char).mp member⟩
  | epsilon => exact absurd member (OrderedSet.not_mem_empty char)

theorem of_form_drawn (first : FirstSets) (form : Form) (char : Char)
    (member : char ∈ (first.ofForm form).terminals) :
    some char ∈ formConstants form ∨ ∃ index, some char ∈ first.row index := by
  induction form with
  | nil => exact absurd member (OrderedSet.not_mem_empty char)
  | cons symbol rest ih =>
      have split : char ∈ (first.ofSymbol symbol).terminals ∨ char ∈ (first.ofForm rest).terminals := by
        rw [of_form_cons, FirstSet.followedBy] at member
        cases vanishes : (first.ofSymbol symbol).nullable with
        | false => exact Or.inl (by simpa [vanishes] using member)
        | true =>
            rw [if_pos vanishes] at member
            exact (OrderedSet.mem_union _ _ _).mp member
      cases split with
      | inl head =>
          cases of_symbol_drawn first symbol char head with
          | inl constant =>
              refine Or.inl ?_
              cases matched : symbol.isMatched <;> simp_all [formConstants]
          | inr row => exact Or.inr row
      | inr tail =>
          cases ih tail with
          | inl constant =>
              refine Or.inl ?_
              cases matched : symbol.isMatched <;> simp_all [formConstants]
          | inr row => exact Or.inr row

-- The row of a left side contains the FIRST set of each of its alternatives.
def inclusion (alternative : Char × Form) : Inclusion Char (Option Char) where
  target := alternative.1
  source first := (ofForm first alternative.2).members
  constants := formConstants alternative.2
  drawn first value member := by
    cases value with
    | none => exact Or.inl (by simp [formConstants])
    | some char => exact of_form_drawn first alternative.2 char ((FirstSet.mem_members_some _ char).mp member)

def inclusions (grammar : Grammar) : List (Inclusion Char (Option Char)) :=
  grammar.alternatives.map inclusion

def initial (grammar : Grammar) : FirstSets := .ofIndex grammar.nonTerminals

-- One pass over every alternative of every rule.
def pass (grammar : Grammar) (first : FirstSets) : FirstSets := Inclusion.pass (inclusions grammar) first

-- The least FIRST sets of a grammar and the number of passes it took to reach them.
def compute (grammar : Grammar) : FirstSets × Nat :=
  Inclusion.saturate (inclusions grammar) (initial grammar)

end FirstSets

end TopDown
