import TopDown.Pattern
/-!
Bounds on patterns. A pattern is measured by the states of the automaton that reads it byte by byte
in UTF-8, backwards or forwards, whichever is larger, and by how deep its parts are nested.
-/

set_option autoImplicit false

namespace TopDown.Pattern

open Text

def pair (low high : Nat) : List (Nat × Nat) := [(low, high)]

-- The sequences of byte ranges that make up a range of numbers of a leading digit and a number of
-- further digits to the base 64.
def digitSequences : Nat → Nat → Nat → List (List (Nat × Nat))
  | 0, low, high => [pair low high]
  | count + 1, low, high =>
      let unit := Nat.pow 64 (count + 1)
      let first := low / unit
      let last := high / unit
      if first = last then
        (digitSequences count (low % unit) (high % unit)).map (pair first first ++ ·)
      else
        let cutsFront := low % unit ≠ 0
        let cutsBack := high % unit ≠ unit - 1
        let front := (digitSequences count (low % unit) (unit - 1)).map (pair first first ++ ·)
        let back := (digitSequences count 0 (high % unit)).map (pair last last ++ ·)
        let start := if cutsFront then first + 1 else first
        let stop := if cutsBack then last else last + 1
        let middle := pair start (stop - 1) ++ List.replicate (count + 1) (0, 63)
        (if cutsFront then front else []) ++ (if start < stop then [middle] else [])
          ++ (if cutsBack then back else [])

-- Encodings of one to four bytes, without the surrogates.
def encodedRanges : List (Nat × Nat × Nat) :=
  [(0, 0x0, 0x7F), (1, 0x80, 0x7FF), (2, 0x800, 0xD7FF), (2, 0xE000, 0xFFFF), (3, 0x10000, 0x10FFFF)]

def byteSequences (low high : Nat) : List (List (Nat × Nat)) :=
  encodedRanges.flatMap fun (count, first, last) =>
    if max low first ≤ min high last then digitSequences count (max low first) (min high last) else []

def sharedLength : List (Nat × Nat) → List (Nat × Nat) → Nat
  | first :: rest, second :: others => if first = second then sharedLength rest others + 1 else 0
  | _, _ => 0

-- The states for sequences in order, where those that begin alike share their beginnings.
def branchStates (previous : List (Nat × Nat)) : List (List (Nat × Nat)) → Nat
  | [] => 0
  | bytes :: rest => bytes.length - sharedLength previous bytes + branchStates bytes rest

-- Sizes are counted in bytes: a state takes 32, a branch 4 or, for a choice of bytes, 8.
def setSize (set : CharSet) : Nat :=
  match set.ranges with
  | [] => 32
  | [(low, high)] =>
      let sequences := byteSequences low high
      if low = high then 32 * branchStates [] sequences
      else if high < 0x80 then 72
      else 64 + 32 * branchStates [] sequences + 4 * sequences.length
  | ranges =>
      if ranges.all fun (_, high) => high < 0x80 then 64 + 8 * ranges.length
      else
        let sequences := ranges.flatMap fun (low, high) => byteSequences low high
        64 + 32 * branchStates [] sequences + 4 * sequences.length

-- Whether nothing but the empty text can match.
mutual
def isEmptyWide : Pattern → Bool
  | one _ => false
  | anchor _ => true
  | sequence parts => areEmptyWide parts
  | choice options => areEmptyWide options
  | group _ body => isEmptyWide body
  | repeated body _ most => most = some 0 || isEmptyWide body
def areEmptyWide : List Pattern → Bool
  | [] => true
  | first :: rest => isEmptyWide first && areEmptyWide rest
end

-- A repetition of the empty text is made at most once.
def repeatedSize (size least : Nat) (most : Option Nat) (isEmpty : Bool) : Nat :=
  let cap := if isEmpty then min 1 else id
  match most with
  | none => max 1 (cap least) * size + 40
  | some most => cap least * size + (cap most - cap least) * (size + 40) + 32

mutual
def size : Pattern → Nat
  | one set => setSize set
  | anchor _ => 32
  | sequence parts => 32 + totalSize parts
  | choice options => 64 + 4 * options.length + totalSize options
  | group .plain body => size body
  | group _ body => 64 + size body
  | repeated body least most => repeatedSize (size body) least most (isEmptyWide body)
def totalSize : List Pattern → Nat
  | [] => 0
  | first :: rest => size first + totalSize rest
end

mutual
def depth : Pattern → Nat
  | one _ => 0
  | anchor _ => 0
  | sequence parts => if parts.isEmpty then 0 else greatestDepth parts + 1
  | choice options => greatestDepth options + 1
  | group _ body => depth body + 1
  | repeated body _ _ => depth body + 1
def greatestDepth : List Pattern → Nat
  | [] => 0
  | first :: rest => max (depth first) (greatestDepth rest)
end

mutual
def names : Pattern → List (List Char)
  | one _ => []
  | anchor _ => []
  | sequence parts => allNames parts
  | choice options => allNames options
  | group (.named name) body => name :: names body
  | group _ body => names body
  | repeated body _ _ => names body
def allNames : List Pattern → List (List Char)
  | [] => []
  | first :: rest => names first ++ allNames rest
end

def sizeLimit : Nat := 10485760

def depthLimit : Nat := 250

-- Names of groups are unique, and a pattern is neither too large nor too deep.
def isBounded (pattern : Pattern) : Bool :=
  pattern.size ≤ sizeLimit && pattern.depth ≤ depthLimit && decide pattern.names.Nodup

end TopDown.Pattern
