import TopDown.Pattern.Bracket
import TopDown.Pattern.Size
/-!
Reading a pattern from its text. A text that breaks the rules of the notation is no pattern at all,
whatever the fault is.
-/

set_option autoImplicit false

namespace TopDown.Pattern

open Text

def ofParts : List Pattern → Pattern
  | [part] => part
  | parts => .sequence parts

def ofOptions : List Pattern → Pattern
  | [option] => option
  | options => .choice options

-- Adds a repetition of the last part, unless there is none that can be repeated.
def repeatLast (least : Nat) (most : Option Nat) : List Pattern → Option (List Pattern)
  | [] => none
  | .sequence [] :: _ => none
  | last :: parts => some (.repeated last least most :: parts)

-- A question mark behind a repetition asks for few rounds, which changes no answer.
def dropLazy : List Char → List Char
  | '?' :: rest => rest
  | chars => chars

-- A decimal number below 2 ^ 32 with white space around it.
def readNumber (flags : Flags) (chars : List Char) : Option (Nat × List Char) :=
  let chars := chars.dropWhile isWhiteSpace
  go chars none
where
  go : List Char → Option Nat → Option (Nat × List Char)
    | chars, value => step chars.length chars value
  step : Nat → List Char → Option Nat → Option (Nat × List Char)
    | fuel + 1, char :: rest, value =>
        if char.isDigit then step fuel (skip flags rest) (some (10 * value.getD 0 + (char.toNat - 0x30)))
        else finish (char :: rest) value
    | _, chars, value => finish chars value
  finish (chars : List Char) (value : Option Nat) : Option (Nat × List Char) :=
    match value with
    | none => none
    | some number => if number < 4294967296 then some (number, (chars.dropWhile isWhiteSpace)) else none

-- Reads the bounds of a repetition behind their opening brace.
def readBounds (flags : Flags) (chars : List Char) : Option (Nat × Option Nat × List Char) := do
  let (least, rest) ← readNumber flags (skip flags chars)
  match rest with
  | '}' :: after => return (least, some least, dropLazy (skip flags after))
  | ',' :: rest =>
      match skip flags rest with
      | '}' :: after => return (least, none, dropLazy (skip flags after))
      | rest =>
          match ← readNumber flags rest with
          | (most, '}' :: after) =>
              if least ≤ most then return (least, some most, dropLazy (skip flags after)) else none
          | _ => none
  | _ => none

def setFlag (flags : Flags) (value : Bool) : Char → Option Flags
  | 'i' => some { flags with ignoreCase := value }
  | 'm' => some { flags with multiLine := value }
  | 's' => some { flags with dotAll := value }
  | 'u' => some { flags with unicode := value }
  | 'R' => some { flags with linePairs := value }
  | 'x' => some { flags with spaced := value }
  | 'U' => some flags
  | _ => none

-- Flags to set and, behind a hyphen, flags to clear; none is named twice.
def changeFlags (flags : Flags) (letters : List Char) : Option Flags := do
  if !decide letters.Nodup || letters.getLast? = some '-' then none
  else
    let flags ← (letters.takeWhile (· ≠ '-')).foldlM (setFlag · true) flags
    (letters.dropWhile (· ≠ '-')).tail.foldlM (setFlag · false) flags

def isNameStart (char : Char) : Bool := char = '_' || CharSet.alphabetic.contains char

def isNamePart (char : Char) : Bool :=
  char ∈ ['_', '.', '[', ']'] || CharSet.alphabetic.contains char
    || Category.ofChar char ∈ Category.numbers

def readName (chars : List Char) : Option (List Char × List Char) :=
  match chars.takeWhile (· ≠ '>'), chars.dropWhile (· ≠ '>') with
  | first :: others, '>' :: after =>
      if isNameStart first && others.all isNamePart then some (first :: others, after) else none
  | _, _ => none

-- What an opening parenthesis opens: a group with its flags, or a change of flags up to the end of
-- the group around it.
inductive Opening where
  | flags (flags : Flags)
  | group (group : Group) (flags : Flags)

def readNamed (flags : Flags) (chars : List Char) : Option (Opening × List Char) :=
  (readName chars).map fun (name, after) => (.group (.named name) flags, after)

def readOpening (flags : Flags) (chars : List Char) : Option (Opening × List Char) :=
  match skip flags chars with
  | '?' :: '=' :: _ | '?' :: '!' :: _ | '?' :: '<' :: '=' :: _ | '?' :: '<' :: '!' :: _ => none
  | '?' :: 'P' :: '<' :: rest => readNamed flags rest
  | '?' :: '<' :: rest => readNamed flags rest
  | '?' :: rest => do
      let letters := rest.takeWhile fun char => char ≠ ':' && char ≠ ')'
      let changed ← changeFlags flags letters
      match rest.drop letters.length with
      | ':' :: after => return (.group .plain changed, after)
      | ')' :: after => if letters.isEmpty then none else return (.flags changed, after)
      | _ => none
  | rest => some (.group .capture flags, rest)

def dot? (flags : Flags) : Option CharSet :=
  if !flags.unicode then none
  else if flags.dotAll then some .all
  else if flags.linePairs then some (CharSet.ofRanges [(0xA, 0xA), (0xD, 0xD)]).complement
  else some (CharSet.singleton '\n').complement

def lineStartAnchor (flags : Flags) : Anchor := if flags.multiLine then .lineStart flags.linePairs else .start

def lineStopAnchor (flags : Flags) : Anchor := if flags.multiLine then .lineStop flags.linePairs else .stop

def ofEscape? (flags : Flags) : Escape → Option Pattern
  | .char char isByte => (literal? flags char isByte).map .one
  | .set set => some (.one set)
  | .anchor condition => some (.anchor condition)

-- Reads the options of a group up to its end. The options before the one that is read, and its
-- parts, are known, the last one first; a change of flags is a part that matches nothing. Each call
-- reads at least one character, which bounds how many there are.
def readOptions : Nat → Flags → List Pattern → List Pattern → List Char → Option (Pattern × List Char)
  | 0, _, _, _, _ => none
  | fuel + 1, flags, options, parts, chars =>
      let finished := ofOptions (ofParts parts.reverse :: options).reverse
      let more (flags : Flags) (part : Pattern) (rest : List Char) :=
        readOptions fuel flags options (part :: parts) rest
      let again (least : Nat) (most : Option Nat) (rest : List Char) := do
        readOptions fuel flags options (← repeatLast least most parts) rest
      match skip flags chars with
      | [] => some (finished, [])
      | ')' :: rest => some (finished, ')' :: rest)
      | '|' :: rest => readOptions fuel flags (ofParts parts.reverse :: options) [] rest
      | '?' :: rest => again 0 (some 1) (dropLazy rest)
      | '*' :: rest => again 0 none (dropLazy rest)
      | '+' :: rest => again 1 none (dropLazy rest)
      | '{' :: rest => do
          let (least, most, after) ← readBounds flags rest
          again least most after
      | '(' :: rest => do
          match ← readOpening flags rest with
          | (.flags changed, after) => more changed (.sequence []) after
          | (.group kind inner, after) =>
              match ← readOptions fuel inner [] [] after with
              | (body, ')' :: after) => more flags (.group kind body) after
              | _ => none
      | '[' :: rest => do
          let (set, after) ← readBracket flags rest
          more flags (.one set) after
      | '\\' :: rest => do
          let (escape, after) ← readEscape flags rest
          more flags (← ofEscape? flags escape) after
      | '.' :: rest => do more flags (.one (← dot? flags)) rest
      | '^' :: rest => more flags (.anchor (lineStartAnchor flags)) rest
      | '$' :: rest => more flags (.anchor (lineStopAnchor flags)) rest
      | char :: rest => do more flags (.one (← literal? flags char false)) rest

def ofText? (text : List Char) : Option Pattern := do
  match ← readOptions (text.length + 1) .standard [] [] text with
  | (pattern, []) => if pattern.isBounded then some pattern else none
  | _ => none

end TopDown.Pattern
