import TopDown.OrderedSet
import TopDown.Symbol
/-!
Grammars as lists of rules. Nothing is asked of the rules: several may share a left side, an
alternative may name a non-terminal that has no rule, and there may be no rule at all. The start
symbol is the first left side.
-/

set_option autoImplicit false

namespace TopDown

structure Rule where
  left : Char
  alternatives : List Form
deriving DecidableEq, Repr

structure Grammar where
  rules : List Rule
deriving DecidableEq, Repr

namespace Grammar

def start? (grammar : Grammar) : Option Char := grammar.rules.head?.map (·.left)

-- Every left side with each of its alternatives, in rule order.
def alternatives (grammar : Grammar) : List (Char × Form) :=
  grammar.rules.flatMap fun rule => rule.alternatives.map (rule.left, ·)

def alternativesOf (grammar : Grammar) (left : Char) : List Form :=
  (grammar.rules.filter (·.left = left)).flatMap (·.alternatives)

-- All symbols of all right sides, in order.
def symbols (grammar : Grammar) : List Symbol :=
  grammar.rules.flatMap fun rule => rule.alternatives.flatten

def defined (grammar : Grammar) : OrderedSet Char := .ofList (grammar.rules.map (·.left))

-- Left sides in order of appearance, then the non-terminals seen on right sides only.
def nonTerminals (grammar : Grammar) : OrderedSet Char :=
  grammar.defined.insertAll (grammar.symbols.filterMap Symbol.nonTerminal?)

-- Non-terminals without a rule, in order of appearance.
def undefined (grammar : Grammar) : List Char :=
  grammar.nonTerminals.toList.drop grammar.defined.size

-- Terminals in order of appearance, the end mark after those seen before.
def terminals (grammar : Grammar) : OrderedSet Char :=
  (OrderedSet.ofList (grammar.symbols.filterMap Symbol.terminal?)).insert endMark

theorem mem_alternatives (grammar : Grammar) (left : Char) (form : Form) :
    (left, form) ∈ grammar.alternatives ↔ form ∈ grammar.alternativesOf left := by
  simp only [alternatives, alternativesOf, List.mem_flatMap, List.mem_map, List.mem_filter,
    decide_eq_true_eq, Prod.mk.injEq]
  constructor
  · rintro ⟨rule, member, other, otherMember, rfl, rfl⟩
    exact ⟨rule, ⟨member, rfl⟩, otherMember⟩
  · rintro ⟨rule, ⟨member, rfl⟩, formMember⟩
    exact ⟨rule, member, form, formMember, rfl, rfl⟩

theorem mem_symbols (grammar : Grammar) (symbol : Symbol) :
    symbol ∈ grammar.symbols ↔ ∃ left form, (left, form) ∈ grammar.alternatives ∧ symbol ∈ form := by
  simp only [symbols, alternatives, List.mem_flatMap, List.mem_flatten, List.mem_map, Prod.mk.injEq]
  constructor
  · rintro ⟨rule, member, form, formMember, present⟩
    exact ⟨rule.left, form, ⟨rule, member, form, formMember, rfl, rfl⟩, present⟩
  · rintro ⟨left, form, ⟨rule, member, other, otherMember, rfl, rfl⟩, present⟩
    exact ⟨rule, member, other, otherMember, present⟩

theorem mem_terminals (grammar : Grammar) (char : Char) :
    char ∈ grammar.terminals ↔ Symbol.terminal char ∈ grammar.symbols ∨ char = endMark := by
  rw [terminals, OrderedSet.mem_insert, OrderedSet.mem_of_list, List.mem_filterMap]
  refine or_congr_left ⟨?_, fun member => ⟨_, member, rfl⟩⟩
  rintro ⟨symbol, member, read⟩
  cases symbol with
  | terminal other => exact Option.some.inj read ▸ member
  | _ => exact absurd read (by simp [Symbol.terminal?])

theorem mem_non_terminals (grammar : Grammar) (char : Char) :
    char ∈ grammar.nonTerminals ↔
      (∃ rule ∈ grammar.rules, rule.left = char) ∨ Symbol.nonTerminal char ∈ grammar.symbols := by
  rw [nonTerminals, OrderedSet.mem_insert_all, defined, OrderedSet.mem_of_list, List.mem_map,
    List.mem_filterMap]
  refine or_congr_right ⟨?_, fun member => ⟨_, member, rfl⟩⟩
  rintro ⟨symbol, member, read⟩
  cases symbol with
  | nonTerminal other => exact Option.some.inj read ▸ member
  | _ => exact absurd read (by simp [Symbol.nonTerminal?])

end Grammar

end TopDown
