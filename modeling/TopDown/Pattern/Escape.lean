import TopDown.Pattern
import TopDown.Text.Folding
import TopDown.Text.Script
/-!
The parts of a written pattern that begin with a backslash: characters by code or by letter, named
sets of characters, and anchors. How they are read depends on the flags in force.
-/

set_option autoImplicit false

namespace TopDown.Pattern

open Text

structure Flags where
  ignoreCase : Bool
  multiLine : Bool
  dotAll : Bool
  unicode : Bool
  linePairs : Bool
  spaced : Bool
deriving DecidableEq, Repr

namespace Flags

def standard : Flags := ⟨false, false, false, true, false, false⟩

def close (flags : Flags) (set : CharSet) : CharSet :=
  if flags.ignoreCase then (if flags.unicode then set.closeCase else set.closeAsciiCase) else set

-- A set without its members. Where characters outside ASCII have no meaning there is none.
def negate? (flags : Flags) (set : CharSet) : Option CharSet :=
  if flags.unicode then some set.complement else none

def complete (flags : Flags) (negated : Bool) (set : CharSet) : Option CharSet :=
  if negated then flags.negate? (flags.close set) else some (flags.close set)

def words (flags : Flags) : CharSet :=
  if flags.unicode then CharSet.words
  else .ofRanges [(0x30, 0x39), (0x41, 0x5A), (0x5F, 0x5F), (0x61, 0x7A)]

def digits (flags : Flags) : CharSet := if flags.unicode then CharSet.digits else .range 0x30 0x39

def blanks (flags : Flags) : CharSet :=
  if flags.unicode then CharSet.whiteSpace else .ofRanges [(0x9, 0xD), (0x20, 0x20)]

end Flags

-- White space, and remarks that run from a hash sign to the end of their line.
def skipRemarks (inside : Bool) : List Char → List Char
  | [] => []
  | char :: rest =>
      if inside then skipRemarks (char ≠ '\n') rest
      else if isWhiteSpace char then skipRemarks false rest
      else if char = '#' then skipRemarks true rest
      else char :: rest

def skip (flags : Flags) (chars : List Char) : List Char :=
  if flags.spaced then skipRemarks false chars else chars

theorem length_skip_remarks_le (inside : Bool) (chars : List Char) :
    (skipRemarks inside chars).length ≤ chars.length := by
  induction chars generalizing inside with
  | nil => exact Nat.le_refl _
  | cons char rest ih =>
      have longer : rest.length ≤ (char :: rest).length := by simp
      rw [skipRemarks]
      split
      · exact Nat.le_trans (ih _) longer
      · split
        · exact Nat.le_trans (ih _) longer
        · split
          · exact Nat.le_trans (ih _) longer
          · exact Nat.le_refl _

theorem length_skip_le (flags : Flags) (chars : List Char) : (skip flags chars).length ≤ chars.length := by
  rw [skip]
  split
  · exact length_skip_remarks_le _ _
  · exact Nat.le_refl _

-- What a backslash stands for with the text behind it. A character of two hexadecimal digits is
-- kept apart, since it is one byte where characters outside ASCII have no meaning.
inductive Escape where
  | char (char : Char) (isByte : Bool)
  | set (set : CharSet)
  | anchor (condition : Anchor)

def hexValue? (char : Char) : Option Nat :=
  if char.isDigit then some (char.toNat - 0x30)
  else if 'a' ≤ char ∧ char ≤ 'f' then some (char.toNat - 0x57)
  else if 'A' ≤ char ∧ char ≤ 'F' then some (char.toNat - 0x37)
  else none

def charOfCode? (code : Nat) : Option Char :=
  if code < 0xD800 ∨ 0xE000 ≤ code ∧ code ≤ 0x10FFFF then some (Char.ofNat code) else none

-- A given number of hexadecimal digits.
def readDigits (flags : Flags) : Nat → Nat → List Char → Option (Nat × List Char)
  | 0, value, chars => some (value, chars)
  | _ + 1, _, [] => none
  | count + 1, value, char :: rest => do
      readDigits flags count (16 * value + (← hexValue? char)) (skip flags rest)

-- The characters up to a closing brace, and the text behind it.
def readBraced (flags : Flags) : List Char → Option (List Char × List Char)
  | [] => none
  | char :: rest =>
      if char = '}' then some ([], rest)
      else (readBraced flags (skip flags rest)).map fun (chars, after) => (char :: chars, after)
termination_by chars => chars.length
decreasing_by exact Nat.lt_succ_of_le (length_skip_le flags rest)

def readCode (flags : Flags) (width : Nat) (chars : List Char) : Option (Escape × List Char) :=
  match skip flags chars with
  | '{' :: rest => do
      let (digits, after) ← readBraced flags (skip flags rest)
      if digits.isEmpty then none
      else
        let code ← digits.foldlM (fun value digit => (hexValue? digit).map (16 * value + ·)) 0
        return (.char (← charOfCode? code) false, skip flags after)
  | chars => do
      let (code, after) ← readDigits flags width 0 chars
      return (.char (← charOfCode? code) (width = 2), after)

-- Names are compared in small letters, without separators and without a leading "is".
def plainName (name : List Char) : String :=
  let small := (name.filter fun char => char.toNat < 0x80).map Char.toLower
  let (isPrefixed, stem) :=
    match name.map Char.toLower with
    | 'i' :: 's' :: _ => (true, small.drop 2)
    | _ => (false, small)
  let stem := stem.filter fun char => char ∉ [' ', '_', '-']
  .ofList (if isPrefixed && stem = ['c'] then ['i', 's', 'c'] else stem)

def propertySet? : String → Option CharSet
  | "alphabetic" | "alpha" => some .alphabetic
  | "lowercase" | "lower" => some .lowercase
  | "uppercase" | "upper" => some .uppercase
  | "cased" => some .cased
  | "whitespace" | "wspace" | "space" => some .whiteSpace
  | "joincontrol" | "joinc" => some .joinControls
  | "asciihexdigit" | "ahex" => some .asciiHexDigits
  | "hexdigit" | "hex" => some .hexDigits
  | "graphemeextend" | "grext" => some .extenders
  | "defaultignorablecodepoint" | "di" => some .ignorable
  | _ => none

def namedSet? (name : List Char) : Option CharSet :=
  let name := plainName name
  (propertySet? name).or ((Category.set? name).or (Script.set? name))

def valuedSet? (name value : List Char) : Option CharSet :=
  match plainName name with
  | "generalcategory" | "gc" => Category.set? (plainName value)
  | "script" | "sc" => Script.set? (plainName value)
  | _ => none

-- The text in front of a mark and the text behind it.
def splitAt? (mark : List Char) : List Char → Option (List Char × List Char)
  | [] => none
  | char :: rest =>
      if mark.isPrefixOf (char :: rest) then some ([], (char :: rest).drop mark.length)
      else (splitAt? mark rest).map fun (front, back) => (char :: front, back)

-- A name, or a property and its value. The mark between them, "!=" too, only divides them.
def describedSet? (description : List Char) : Option CharSet :=
  let marks : List (List Char) := [['!', '='], [':'], ['=']]
  match marks.findSome? (splitAt? · description) with
  | some (name, value) => valuedSet? name value
  | none => namedSet? description

def readProperty (flags : Flags) (negated : Bool) (chars : List Char) : Option (Escape × List Char) :=
  if !flags.unicode then none
  else
    match skip flags chars with
    | '{' :: rest => do
        let (description, after) ← readBraced flags (skip flags rest)
        return (.set (← flags.complete negated (← describedSet? description)), after)
    | '\\' :: _ => none
    | char :: rest => do return (.set (← flags.complete negated (← namedSet? [char])), skip flags rest)
    | [] => none

def plainSet (flags : Flags) (negated : Bool) (set : CharSet) (rest : List Char) : Option (Escape × List Char) :=
  if negated then (flags.negate? set).map fun set => (.set set, rest) else some (.set set, rest)

def wordEdge? : List Char → Option WordEdge
  | ['s', 't', 'a', 'r', 't'] => some .start
  | ['e', 'n', 'd'] => some .stop
  | ['s', 't', 'a', 'r', 't', '-', 'h', 'a', 'l', 'f'] => some .noneBefore
  | ['e', 'n', 'd', '-', 'h', 'a', 'l', 'f'] => some .noneAfter
  | _ => none

-- A word boundary, perhaps of a special kind in braces. Braces that hold no name are not part of it.
def readBoundary (flags : Flags) (chars : List Char) : Option (Escape × List Char) :=
  match chars with
  | '{' :: rest =>
      match skip flags rest with
      | [] => none
      | first :: more =>
          if first.isAlpha || first = '-' then do
            let (name, after) ← readBraced flags (first :: more)
            return (.anchor (.word (← wordEdge? name) flags.words), after)
          else some (.anchor (.word .change flags.words), chars)
  | _ => some (.anchor (.word .change flags.words), chars)

def letterChar? : Char → Option Char
  | 'a' => some '\x07'
  | 'f' => some '\x0c'
  | 't' => some '\t'
  | 'n' => some '\n'
  | 'r' => some '\r'
  | 'v' => some '\x0b'
  | _ => none

def letterAnchor? (flags : Flags) : Char → Option Anchor
  | 'A' => some .start
  | 'z' => some .stop
  | 'B' => some (.word .same flags.words)
  | '<' => some (.word .start flags.words)
  | '>' => some (.word .stop flags.words)
  | _ => none

-- Reads what stands behind a backslash. Of the characters of ASCII all but letters and digits stand
-- for themselves.
def readEscape (flags : Flags) : List Char → Option (Escape × List Char)
  | [] => none
  | 'x' :: rest => readCode flags 2 rest
  | 'u' :: rest => readCode flags 4 rest
  | 'U' :: rest => readCode flags 8 rest
  | 'p' :: rest => readProperty flags false rest
  | 'P' :: rest => readProperty flags true rest
  | 'd' :: rest => plainSet flags false flags.digits rest
  | 'D' :: rest => plainSet flags true flags.digits rest
  | 's' :: rest => plainSet flags false flags.blanks rest
  | 'S' :: rest => plainSet flags true flags.blanks rest
  | 'w' :: rest => plainSet flags false flags.words rest
  | 'W' :: rest => plainSet flags true flags.words rest
  | 'b' :: rest => readBoundary flags rest
  | char :: rest =>
      match letterAnchor? flags char with
      | some condition => some (.anchor condition, rest)
      | none =>
          match letterChar? char with
          | some special => some (.char special false, rest)
          | none => if char.isAlphanum || 0x80 ≤ char.toNat then none else some (.char char false, rest)

-- The set of one written character.
def literal? (flags : Flags) (char : Char) (isByte : Bool) : Option CharSet :=
  if !flags.unicode && isByte && 0x80 ≤ char.toNat then none else some (flags.close (.singleton char))

end TopDown.Pattern
