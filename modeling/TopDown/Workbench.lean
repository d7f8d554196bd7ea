import TopDown.Report.Sets
import TopDown.Parse
/-!
The stages of an analysis made one at a time: a grammar, FIRST sets, FOLLOW sets and a table, each
absent until it is made. A stage made before stays as it is when the grammar is replaced, so stages
of different grammars can be put together. A step that needs an absent stage gives nothing.
-/

set_option autoImplicit false

namespace TopDown

structure Workbench where
  grammar? : Option Grammar
  first? : Option FirstSets
  follow? : Option FollowSets
  table? : Option Table

namespace Workbench

def empty : Workbench := ⟨none, none, none, none⟩

def load (bench : Workbench) (grammar : Grammar) : Workbench := { bench with grammar? := some grammar }

def withFirst (bench : Workbench) (first : FirstSets) : Workbench := { bench with first? := some first }

def withFollow (bench : Workbench) (follow : FollowSets) : Workbench := { bench with follow? := some follow }

def initialFirst (bench : Workbench) : Option FirstSets := bench.grammar?.map FirstSets.initial

def computedFirst (bench : Workbench) : Option FirstSets :=
  bench.grammar?.map fun grammar => (FirstSets.compute grammar).1

-- The FIRST sets after one more pass, and whether the pass added anything.
def passedFirst (bench : Workbench) : Option (Bool × FirstSets) := do
  let first ← bench.first?
  let next := FirstSets.pass (← bench.grammar?) first
  pure (next.size ≠ first.size, next)

-- Whether the FIRST sets are those of the grammar, in whatever order.
def firstIsComputed (bench : Workbench) : Option Bool := do
  pure (decide ((← bench.first?).SameMembers (← bench.computedFirst)))

def initialFollow (bench : Workbench) : Option FollowSets := bench.grammar?.map FollowSets.initial

def computedFollow (bench : Workbench) : Option FollowSets := do
  pure (FollowSets.compute (← bench.grammar?) (← bench.first?)).1

-- The FOLLOW sets after one more pass, and whether the pass added anything.
def passedFollow (bench : Workbench) : Option (Bool × FollowSets) := do
  let follow ← bench.follow?
  let next := FollowSets.pass (← bench.grammar?) (← bench.first?) follow
  pure (next.size ≠ follow.size, next)

-- Whether the FOLLOW sets are those of the grammar over the FIRST sets, in whatever order.
def followIsComputed (bench : Workbench) : Option Bool := do
  pure (decide ((← bench.follow?).SameMembers (← bench.computedFollow)))

def builtTable (bench : Workbench) : Option Table := do
  pure (.build (← bench.grammar?) (← bench.first?) (← bench.follow?))

-- Makes all stages afresh from the grammar.
def analyzed (bench : Workbench) : Option Workbench := do
  let analysis := (← bench.grammar?).analyze
  pure ⟨some analysis.grammar, some analysis.first, some analysis.follow, some analysis.table⟩

-- The set report of the four stages, all of which have to be there.
def setReport (bench : Workbench) : Option SetReport := do
  let _ ← bench.table?
  pure ((← bench.grammar?).setReport (← bench.first?) (← bench.follow?))

end Workbench

end TopDown
