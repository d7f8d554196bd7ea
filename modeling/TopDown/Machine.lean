import TopDown.Failure
import TopDown.Table
import TopDown.Trail
/-!
The predictive machine. Its stack holds nodes of the tree it builds, above one bottom entry that
stands for the end of the input. `advance` makes one move by the table alone; `step` first refuses
to expand a non-terminal that is already on the trail above it, since that would go on for ever.
-/

set_option autoImplicit false

namespace TopDown

inductive Entry where
  | bottom
  | node (id : Nat)
deriving DecidableEq, Repr

namespace Tree

def entrySymbol (tree : Tree) : Entry → Symbol
  | .bottom => .endOfInput
  | .node id => tree.symbol id

end Tree

/-- The stack has its top first; `rest` is the input that is left, its end mark included. -/
structure State where
  stack : List Entry
  rest : List Char
  cursor : Nat
  tree : Tree

inductive Action where
  | accept (symbol : Symbol)
  | expand (nonTerminal : Char) (alternative : Form)
  | reject
deriving DecidableEq, Repr

namespace Action

def text : Action → String
  | accept symbol => "match " ++ symbol.text
  | expand nonTerminal alternative => .singleton nonTerminal ++ " -> " ++ alternative.text
  | reject => "error"

end Action

inductive Verdict where
  | accepted (tree : Tree)
  | rejected (failure : Failure)

/-- A move goes on, refuses to go on, or finds that nothing is left to do. -/
inductive Move where
  | proceed (action : Action) (next : State)
  | refuse (failure : Failure)
  | finish (verdict : Verdict)

namespace State

def initial (start : Char) (input : List Char) : State where
  stack := [.node 0, .bottom]
  rest := input ++ [endMark]
  cursor := 0
  tree := .leaf (.nonTerminal start)

-- The symbols on the stack, the bottom one first.
def symbols (state : State) : List Symbol := (state.stack.map state.tree.entrySymbol).reverse

-- The written form of the empty word puts no node into the tree.
def childForm (alternative : Form) : Form := if alternative = .empty then [] else alternative

def expand (state : State) (id : Nat) (below : List Entry) (alternative : Form) : State :=
  let form := childForm alternative
  { state with
    stack := (List.range' state.tree.size form.length).map .node ++ below
    tree := (state.tree.markExpanded id state.cursor).addChildren id form }

def consume (state : State) (below : List Entry) (rest : List Char) : State :=
  { state with stack := below, rest, cursor := state.cursor + 1 }

def drop (state : State) (below : List Entry) : State := { state with stack := below }

-- The answer once the stack or the input is used up.
def verdict (state : State) : Verdict :=
  match state.stack, state.rest with
  | [], [] => .accepted state.tree
  | [], _ :: _ => .rejected (.unconsumedInput state.cursor)
  | stack, _ => .rejected (.leftoverStack stack.length state.cursor)

def advance (table : Table) (state : State) : Move :=
  match state.stack, state.rest with
  | .bottom :: below, current :: rest =>
      if endMark = current then .proceed (.accept .endOfInput) (state.consume below rest)
      else .refuse (.terminalMismatch .endOfInput current state.cursor)
  | .node id :: below, current :: rest =>
      match state.tree.symbol id with
      | .nonTerminal left =>
          match table.get? left current with
          | none => .refuse (.noTableEntry left current state.cursor)
          | some alternative => .proceed (.expand left alternative) (state.expand id below alternative)
      | .epsilon => .proceed (.accept .epsilon) (state.drop below)
      | expected =>
          if expected.char = current then .proceed (.accept expected) (state.consume below rest)
          else .refuse (.terminalMismatch expected current state.cursor)
  | _, _ => .finish state.verdict

-- The expansion that `advance` would repeat, if it would.
def repetition? (table : Table) (state : State) : Option Failure :=
  match state.stack, state.rest with
  | .node id :: _, current :: _ =>
      match state.tree.symbol id with
      | .nonTerminal left =>
          if (table.get? left current).isSome ∧ .nonTerminal left ∈ state.tree.trail state.cursor id then
            some (.leftRecursion left state.cursor)
          else none
      | _ => none
  | _, _ => none

def step (table : Table) (state : State) : Move :=
  match state.repetition? table with
  | some failure => .refuse failure
  | none => state.advance table

end State

end TopDown
