import TopDown.Pattern.Escape
/-!
Sets of characters in brackets: characters, ranges, named sets and nested brackets, put together by
union, or by one of three operations that bind less tightly and are taken from the left.
-/

set_option autoImplicit false

namespace TopDown.Pattern

open Text

inductive SetOperation where
  | intersection
  | difference
  | symmetricDifference
deriving DecidableEq, Repr

-- An operation whose right side is still being read, with its left side.
abbrev Pending := Option (SetOperation × CharSet)

def settle (flags : Flags) (pending : Pending) (set : CharSet) : CharSet :=
  match pending with
  | none => set
  | some (.intersection, left) => (flags.close left).intersection (flags.close set)
  | some (.difference, left) => (flags.close left).difference (flags.close set)
  | some (.symmetricDifference, left) => (flags.close left).symmetricDifference (flags.close set)

-- Where characters outside ASCII have no meaning, they are no members of sets either.
def member? (flags : Flags) (char : Char) : Option Nat :=
  if flags.unicode || char.toNat < 0x80 then some char.toNat else none

def asciiSet? : List Char → Option CharSet
  | ['a', 'l', 'n', 'u', 'm'] => some (.ofRanges [(0x30, 0x39), (0x41, 0x5A), (0x61, 0x7A)])
  | ['a', 'l', 'p', 'h', 'a'] => some (.ofRanges [(0x41, 0x5A), (0x61, 0x7A)])
  | ['a', 's', 'c', 'i', 'i'] => some (.range 0x0 0x7F)
  | ['b', 'l', 'a', 'n', 'k'] => some (.ofRanges [(0x9, 0x9), (0x20, 0x20)])
  | ['c', 'n', 't', 'r', 'l'] => some (.ofRanges [(0x0, 0x1F), (0x7F, 0x7F)])
  | ['d', 'i', 'g', 'i', 't'] => some (.range 0x30 0x39)
  | ['g', 'r', 'a', 'p', 'h'] => some (.range 0x21 0x7E)
  | ['l', 'o', 'w', 'e', 'r'] => some (.range 0x61 0x7A)
  | ['p', 'r', 'i', 'n', 't'] => some (.range 0x20 0x7E)
  | ['p', 'u', 'n', 'c', 't'] => some (.ofRanges [(0x21, 0x2F), (0x3A, 0x40), (0x5B, 0x60), (0x7B, 0x7E)])
  | ['s', 'p', 'a', 'c', 'e'] => some (.ofRanges [(0x9, 0xD), (0x20, 0x20)])
  | ['u', 'p', 'p', 'e', 'r'] => some (.range 0x41 0x5A)
  | ['w', 'o', 'r', 'd'] => some (.ofRanges [(0x30, 0x39), (0x41, 0x5A), (0x5F, 0x5F), (0x61, 0x7A)])
  | ['x', 'd', 'i', 'g', 'i', 't'] => some .asciiHexDigits
  | _ => none

-- A named set of ASCII between colons, behind its opening bracket. Anything else is no such set.
def asciiClass? (chars : List Char) : Option (Bool × CharSet × List Char) :=
  match chars with
  | ':' :: rest =>
      let (negated, rest) :=
        match rest with
        | '^' :: rest => (true, rest)
        | _ => (false, rest)
      match rest.dropWhile (· ≠ ':') with
      | ':' :: ']' :: after => (asciiSet? (rest.takeWhile (· ≠ ':'))).map fun set => (negated, set, after)
      | _ => none
  | _ => none

-- One character of a bracket, or what an escape stands for there.
def readMember (flags : Flags) : List Char → Option (Escape × List Char)
  | [] => none
  | '\\' :: rest => readEscape flags rest
  | char :: rest => some (.char char false, rest)

def code? (flags : Flags) : Escape → Option Nat
  | .char char _ => member? flags char
  | _ => none

def escapeSet? (flags : Flags) : Escape → Option CharSet
  | .char char _ => (member? flags char).map fun code => .range code code
  | .set set => some set
  | .anchor _ => none

-- A hyphen makes a range unless a bracket or another hyphen follows it.
def readRange (flags : Flags) (chars : List Char) : Option (CharSet × List Char) := do
  let (first, rest) ← readMember flags chars
  match skip flags rest with
  | [] => none
  | '-' :: behind =>
      match skip flags behind with
      | [] => none
      | ']' :: _ | '-' :: _ => return (← escapeSet? flags first, '-' :: behind)
      | other => do
          let (last, after) ← readMember flags other
          let low ← code? flags first
          let high ← code? flags last
          if low ≤ high then return (.range low high, after) else none
  | after => return (← escapeSet? flags first, after)

-- The hyphens at the front of a bracket stand for themselves.
def skipHyphens (flags : Flags) : List Char → List Char
  | [] => []
  | char :: rest => if char = '-' then skipHyphens flags (skip flags rest) else char :: rest
termination_by chars => chars.length
decreasing_by exact Nat.lt_succ_of_le (length_skip_le flags rest)

-- What stands at the front of a bracket: its negation, hyphens, and a closing bracket that would
-- leave it empty.
def openBracket (flags : Flags) (chars : List Char) : Bool × CharSet × List Char :=
  let (negated, chars) :=
    match skip flags chars with
    | '^' :: rest => (true, skip flags rest)
    | chars => (false, chars)
  match chars with
  | '-' :: _ => (negated, .singleton '-', skipHyphens flags chars)
  | ']' :: rest => (negated, .singleton ']', skip flags rest)
  | _ => (negated, .empty, chars)

-- Reads the members of a bracket up to its end, from what is known of it. Each call reads at least
-- one character, which bounds how many there are.
def readMembers (flags : Flags) : Nat → Pending → CharSet → List Char → Option (CharSet × List Char)
  | 0, _, _, _ => none
  | fuel + 1, pending, known, chars =>
      let operate (operation : SetOperation) (rest : List Char) :=
        readMembers flags fuel (some (operation, settle flags pending known)) .empty rest
      match skip flags chars with
      | [] => none
      | ']' :: rest => some (settle flags pending known, rest)
      | '&' :: '&' :: rest => operate .intersection rest
      | '-' :: '-' :: rest => operate .difference rest
      | '~' :: '~' :: rest => operate .symmetricDifference rest
      | '[' :: rest =>
          match asciiClass? rest with
          | some (negated, set, after) => do
              readMembers flags fuel pending (known.union (← flags.complete negated set)) after
          | none => do
              let (negated, front, inner) := openBracket flags rest
              let (set, after) ← readMembers flags fuel none front inner
              readMembers flags fuel pending (known.union (← flags.complete negated set)) after
      | chars => do
          let (set, after) ← readRange flags chars
          readMembers flags fuel pending (known.union set) after

-- Reads a bracket behind its opening one.
def readBracket (flags : Flags) (chars : List Char) : Option (CharSet × List Char) := do
  let (negated, front, inner) := openBracket flags chars
  let (set, after) ← readMembers flags (inner.length + 1) none front inner
  return (← flags.complete negated set, after)

end TopDown.Pattern
