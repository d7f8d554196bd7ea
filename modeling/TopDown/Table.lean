import TopDown.Follow
/-!
LL(1) tables. An alternative claims the cells of its left side under its directing set: the FIRST
set of the alternative and, if it can vanish, the FOLLOW set of the left side. Claims are carried
out in rule order; the last one keeps the cell, and every claim on a filled cell is a conflict.
-/

set_option autoImplicit false

namespace TopDown

structure Conflict where
  nonTerminal : Char
  terminal : Char
  previous : Form
  replacement : Form
deriving DecidableEq, Repr

structure Claim where
  nonTerminal : Char
  terminal : Char
  alternative : Form
deriving DecidableEq, Repr

/-- Filled cells, the latest claim first, and the conflicts met, the earliest first. -/
structure Table where
  start? : Option Char
  nonTerminals : OrderedSet Char
  terminals : OrderedSet Char
  cells : List ((Char × Char) × Form)
  conflicts : List Conflict

namespace Conflict

def text (conflict : Conflict) : String :=
  let left := String.singleton conflict.nonTerminal
  "grammar is not LL(1): multiple entries for [" ++ left ++ ", " ++ .singleton conflict.terminal ++ "] ("
    ++ left ++ " -> " ++ conflict.previous.text ++ " replaced by "
    ++ left ++ " -> " ++ conflict.replacement.text ++ ")"

end Conflict

namespace Table

def empty (grammar : Grammar) : Table where
  start? := grammar.start?
  nonTerminals := grammar.nonTerminals
  terminals := grammar.terminals
  cells := []
  conflicts := []

def get? (table : Table) (nonTerminal terminal : Char) : Option Form :=
  table.cells.lookup (nonTerminal, terminal)

def claim (table : Table) (entry : Claim) : Table :=
  { table with
    cells := ((entry.nonTerminal, entry.terminal), entry.alternative) :: table.cells
    conflicts :=
      match table.get? entry.nonTerminal entry.terminal with
      | none => table.conflicts
      | some previous =>
          table.conflicts ++ [⟨entry.nonTerminal, entry.terminal, previous, entry.alternative⟩] }

-- The characters on which an alternative may be chosen.
def directing (first : FirstSets) (follow : FollowSets) (left : Char) (alternative : Form) :
    OrderedSet Char :=
  let begins := first.ofForm alternative
  if begins.nullable then begins.terminals ∪ follow.row left else begins.terminals

def claims (grammar : Grammar) (first : FirstSets) (follow : FollowSets) : List Claim :=
  grammar.alternatives.flatMap fun (left, alternative) =>
    (directing first follow left alternative).toList.map (⟨left, ·, alternative⟩)

def build (grammar : Grammar) (first : FirstSets) (follow : FollowSets) : Table :=
  (claims grammar first follow).foldl claim (empty grammar)

def isConflictFree (table : Table) : Bool := table.conflicts.isEmpty

-- Filled cells of one row, in column order.
def row (table : Table) (nonTerminal : Char) : List (Char × Form) :=
  table.terminals.toList.filterMap fun terminal =>
    (table.get? nonTerminal terminal).map (terminal, ·)

theorem get_claim (table : Table) (entry : Claim) (nonTerminal terminal : Char) :
    (table.claim entry).get? nonTerminal terminal =
      if nonTerminal = entry.nonTerminal ∧ terminal = entry.terminal then some entry.alternative
      else table.get? nonTerminal terminal := by
  simp only [get?, claim, List.lookup_cons]
  by_cases same : nonTerminal = entry.nonTerminal ∧ terminal = entry.terminal
  · simp [same]
  · have different : ((nonTerminal, terminal) == (entry.nonTerminal, entry.terminal)) = false := by
      simpa [Prod.ext_iff] using same
    simp [different, same]

end Table

end TopDown
