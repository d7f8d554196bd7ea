import TopDown.Grammar
import TopDown.Text.WhiteSpace
/-!
Grammars as text, one rule to a line: a single upper case letter, an arrow and alternatives with
bars between them. A line that begins with a bar goes on with the alternatives of the rule above.
Blank lines are skipped but counted, and the first line that breaks the rules is reported.
-/

set_option autoImplicit false

namespace TopDown

inductive RuleFault where
  | reservedEndMark
  | tooManyArrows
  | emptyLeft
  | invalidLeft (left : String)
  | missingArrow
  | noPreviousLeft
deriving DecidableEq, Repr

structure RuleError where
  line : Nat
  fault : RuleFault
deriving DecidableEq, Repr

inductive RuleLine where
  | rule (left : Char) (alternatives : List Form)
  | continuation (alternatives : List Form)
deriving DecidableEq, Repr

namespace RuleFault

def text : RuleFault → String
  | reservedEndMark => "`$` is reserved for the end of input"
  | tooManyArrows => "too many \"->\""
  | emptyLeft => "empty left side"
  | invalidLeft left => "left side `" ++ left ++ "` is not a single uppercase letter"
  | missingArrow => "missing \"->\""
  | noPreviousLeft => "cannot find left side"

end RuleFault

namespace RuleError

def text (error : RuleError) : String := "Line " ++ toString error.line ++ ": " ++ error.fault.text

end RuleError

namespace RuleText

def separator : Char := '|'

-- The pieces of a line between its arrows, read from the left.
def splitArrows : List Char → List (List Char)
  | '-' :: '>' :: rest => [] :: splitArrows rest
  | char :: rest => (splitArrows rest).modifyHead (char :: ·)
  | [] => [[]]

-- White space and empty marks are dropped; nothing left stands for the empty word.
def readAlternative (chars : List Char) : Form :=
  match (chars.filter (!Text.isWhiteSpace ·)).map Symbol.ofChar |>.filter (· ≠ .epsilon) with
  | [] => .empty
  | form => form

def readAlternatives (chars : List Char) : List Form := (chars.splitOn separator).map readAlternative

def readLeft (chars : List Char) : Except RuleFault Char :=
  match chars with
  | [] => .error .emptyLeft
  | [char] => if char.isUpper then .ok char else .error (.invalidLeft (.singleton char))
  | _ => .error (.invalidLeft (.ofList chars))

-- A trimmed line that is not blank, read by itself.
def readLine (chars : List Char) : Except RuleFault RuleLine :=
  if endMark ∈ chars then .error .reservedEndMark
  else
    match splitArrows chars with
    | [left, rights] => (readLeft (Text.trim left)).map (.rule · (readAlternatives rights))
    | [whole] =>
        match whole with
        | '|' :: rights => .ok (.continuation (readAlternatives rights))
        | _ => .error .missingArrow
    | _ => .error .tooManyArrows

-- Puts a line to the rules read so far, the latest rule first.
def addLine (rules : List Rule) : RuleLine → Except RuleFault (List Rule)
  | .rule left alternatives => .ok (⟨left, alternatives⟩ :: rules)
  | .continuation alternatives =>
      match rules with
      | [] => .error .noPreviousLeft
      | previous :: older =>
          .ok ({ previous with alternatives := previous.alternatives ++ alternatives } :: older)

def readLines (number : Nat) (rules : List Rule) : List (List Char) → Except RuleError (List Rule)
  | [] => .ok rules.reverse
  | line :: rest =>
      let content := Text.trim line
      if content.isEmpty then readLines (number + 1) rules rest
      else
        match readLine content >>= addLine rules with
        | .error fault => .error ⟨number, fault⟩
        | .ok longer => readLines (number + 1) longer rest

end RuleText

namespace Grammar

def ofText (text : String) : Except RuleError Grammar :=
  (RuleText.readLines 1 [] (text.toList.splitOn '\n')).map Grammar.mk

/-- One entry for each rule; an entry is trimmed and becomes a line. -/
def ofEntries (entries : List String) : Except RuleError Grammar :=
  ofText ("\n".intercalate (entries.map fun entry => .ofList (Text.trim entry.toList)))

end Grammar

end TopDown
