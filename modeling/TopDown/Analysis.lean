import TopDown.Table
/-!
The analysis of a grammar: FIRST sets, FOLLOW sets over them, the table over both, and how many
passes the two set computations took.
-/

set_option autoImplicit false

namespace TopDown

structure Analysis where
  grammar : Grammar
  first : FirstSets
  follow : FollowSets
  table : Table
  firstPasses : Nat
  followPasses : Nat

namespace Grammar

def analyze (grammar : Grammar) : Analysis :=
  let (first, firstPasses) := FirstSets.compute grammar
  let (follow, followPasses) := FollowSets.compute grammar first
  { grammar, first, follow, table := .build grammar first follow, firstPasses, followPasses }

end Grammar

namespace Analysis

def conflicts (analysis : Analysis) : List Conflict := analysis.table.conflicts

end Analysis

end TopDown
