import TopDown.Machine.Weight
/-!
Runs of the predictive machine. A parse keeps one trace step for each move, with the stack and the
input as they were before it, and ends in a verdict; only an accepted input has a tree.
-/

set_option autoImplicit false

namespace TopDown

/-- The stack has its bottom first; the input includes the end mark. -/
structure TraceStep where
  stack : List Symbol
  input : List Char
  action : Action
deriving DecidableEq, Repr

namespace TraceStep

def text (step : TraceStep) : String :=
  "Stack: " ++ " ".intercalate (step.stack.map Symbol.text) ++ " | Input: " ++ .ofList step.input
    ++ " | " ++ step.action.text

end TraceStep

structure Parse where
  trace : List TraceStep
  verdict : Verdict

namespace Parse

def tree? (parse : Parse) : Option Tree :=
  match parse.verdict with
  | .accepted tree => some tree
  | .rejected _ => none

def failure? (parse : Parse) : Option Failure :=
  match parse.verdict with
  | .accepted _ => none
  | .rejected failure => some failure

def isAccepted (parse : Parse) : Bool := parse.failure?.isNone

end Parse

namespace State

def run (table : Table) (state : State) : Parse :=
  let stack := state.symbols
  let input := state.rest
  match state.boundedStep table with
  | ⟨.proceed action next, _⟩ =>
      let parse := run table next
      { parse with trace := ⟨stack, input, action⟩ :: parse.trace }
  | ⟨.refuse failure, _⟩ => ⟨[⟨stack, input, .reject⟩], .rejected failure⟩
  | ⟨.finish verdict, _⟩ => ⟨[], verdict⟩
termination_by state.potential table
decreasing_by
  rename_i lower
  exact lower action next rfl

end State

namespace Table

/-- Parses a whole input; the end mark is put behind it. -/
def parse (table : Table) (input : List Char) : Parse :=
  match table.start? with
  | none => ⟨[], .rejected .noStartSymbol⟩
  | some start => (State.initial start input).run table

end Table

end TopDown
