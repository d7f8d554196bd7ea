/-!
Symbols of a context-free grammar and the forms made of them. The kind of a symbol is its
constructor and never its character: a terminal may carry any character, an upper case letter or
one of the two marks included.
-/

set_option autoImplicit false

namespace TopDown

def emptyMark : Char := '!'

def endMark : Char := '$'

inductive Symbol where
  | terminal (char : Char)
  | nonTerminal (char : Char)
  | epsilon
  | endOfInput
deriving DecidableEq, Repr, Inhabited

/-- A sentential form. -/
abbrev Form := List Symbol

namespace Symbol

-- How a single character of rule text is classified.
def ofChar (char : Char) : Symbol :=
  if char = emptyMark then .epsilon
  else if char = endMark then .endOfInput
  else if char.isUpper then .nonTerminal char
  else .terminal char

def char : Symbol → Char
  | terminal char => char
  | nonTerminal char => char
  | epsilon => emptyMark
  | endOfInput => endMark

def nonTerminal? : Symbol → Option Char
  | nonTerminal char => some char
  | _ => none

def terminal? : Symbol → Option Char
  | terminal char => some char
  | _ => none

-- Terminals and the end mark are both matched against input.
def isMatched : Symbol → Bool
  | terminal _ | endOfInput => true
  | nonTerminal _ | epsilon => false

def text (symbol : Symbol) : String := .singleton symbol.char

theorem char_of_char (char : Char) : (ofChar char).char = char := by
  unfold ofChar
  split
  · rename_i same
    exact same.symm
  · split
    · rename_i same
      exact same.symm
    · split <;> rfl

end Symbol

namespace Form

def text (form : Form) : String := .ofList (form.map Symbol.char)

-- The written form of the empty word: a single mark.
def empty : Form := [.epsilon]

end Form

end TopDown
