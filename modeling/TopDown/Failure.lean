import TopDown.Symbol
/-!
Why a parse stops without accepting its input. Positions count characters from the start.
-/

set_option autoImplicit false

namespace TopDown

inductive Failure where
  | terminalMismatch (expected : Symbol) (found : Char) (position : Nat)
  | noTableEntry (nonTerminal lookahead : Char) (position : Nat)
  | unconsumedInput (position : Nat)
  | leftoverStack (remaining position : Nat)
  | leftRecursion (nonTerminal : Char) (position : Nat)
  | noStartSymbol
deriving DecidableEq, Repr

namespace Failure

def position? : Failure → Option Nat
  | terminalMismatch _ _ position => some position
  | noTableEntry _ _ position => some position
  | unconsumedInput position => some position
  | leftoverStack _ position => some position
  | leftRecursion _ position => some position
  | noStartSymbol => none

def text : Failure → String
  | terminalMismatch expected found position =>
      "expected " ++ expected.text ++ " but found `" ++ .singleton found ++ "` at position "
        ++ toString position
  | noTableEntry nonTerminal lookahead position =>
      "no rule for [" ++ .singleton nonTerminal ++ ", " ++ .singleton lookahead ++ "] at position "
        ++ toString position
  | unconsumedInput position =>
      "input left over after the end marker at position " ++ toString position
  | leftoverStack remaining _ =>
      "input ended with " ++ toString remaining ++ " symbols left on the stack"
  | leftRecursion nonTerminal position =>
      .singleton nonTerminal ++ " is expanded into itself without consuming input at position "
        ++ toString position
  | noStartSymbol => "grammar has no start symbol"

end Failure

end TopDown
