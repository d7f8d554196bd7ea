import TopDown.Text.Property
/-!
Patterns of text: regular expressions with anchors. The meaning of a pattern is a step from the
places of a text where its match may begin to the places where it may end; a text contains the
pattern if a match that begins anywhere ends somewhere.
-/

set_option autoImplicit false

namespace TopDown

open Text

-- A place lies between two characters, or at one of the ends.
structure Place where
  before : Option Char
  after : Option Char
deriving DecidableEq, Repr

namespace Place

def following (before : Option Char) : List Char → List Place
  | [] => [⟨before, none⟩]
  | char :: rest => ⟨before, some char⟩ :: following (some char) rest

def ofText (text : List Char) : List Place := following none text

end Place

-- What an anchor asks of the word characters on its sides.
inductive WordEdge where
  | change
  | same
  | start
  | stop
  | noneBefore
  | noneAfter
deriving DecidableEq, Repr

-- Lines end at a line feed, or at a line feed, a carriage return or both.
inductive Anchor where
  | start
  | stop
  | lineStart (pairs : Bool)
  | lineStop (pairs : Bool)
  | word (edge : WordEdge) (words : CharSet)
deriving DecidableEq, Repr

namespace Anchor

def holdsAtWord (edge : WordEdge) (before after : Bool) : Bool :=
  match edge with
  | .change => before ≠ after
  | .same => before = after
  | .start => !before && after
  | .stop => before && !after
  | .noneBefore => !before
  | .noneAfter => !after

def holds (place : Place) : Anchor → Bool
  | start => place.before.isNone
  | stop => place.after.isNone
  | lineStart false => place.before.isNone || place.before = some '\n'
  | lineStop false => place.after.isNone || place.after = some '\n'
  | lineStart true =>
      place.before.isNone || place.before = some '\n' || place.before = some '\r' && place.after ≠ some '\n'
  | lineStop true =>
      place.after.isNone || place.after = some '\r' || place.after = some '\n' && place.before ≠ some '\r'
  | word edge words => holdsAtWord edge (place.before.any words.contains) (place.after.any words.contains)

end Anchor

inductive Group where
  | plain
  | capture
  | named (name : List Char)
deriving DecidableEq, Repr

-- A sequence of nothing matches the empty text; a choice of nothing matches no text.
inductive Pattern where
  | one (set : CharSet)
  | anchor (condition : Anchor)
  | sequence (parts : List Pattern)
  | choice (options : List Pattern)
  | group (group : Group) (body : Pattern)
  | repeated (body : Pattern) (least : Nat) (most : Option Nat)

namespace Pattern

-- The places behind a marked place that is followed by a character of the set.
def advance (set : CharSet) (carried : Bool) : List Place → List Bool → List Bool
  | place :: places, mark :: marks =>
      carried :: advance set (mark && place.after.any set.contains) places marks
  | _, _ => []

def join (marks others : List Bool) : List Bool := List.zipWith (· || ·) marks others

-- A step made a number of times; once it changes nothing it never will.
def exactly (step : List Bool → List Bool) : Nat → List Bool → List Bool
  | 0, marks => marks
  | count + 1, marks =>
      let next := step marks
      if next = marks then marks else exactly step count next

-- A step made any number of times up to a bound.
def upTo (step : List Bool → List Bool) : Nat → List Bool → List Bool
  | 0, marks => marks
  | count + 1, marks =>
      let next := join marks (step marks)
      if next = marks then marks else upTo step count next

mutual
def reach (places : List Place) : Pattern → List Bool → List Bool
  | one set, marks => advance set false places marks
  | anchor condition, marks => List.zipWith (fun place mark => mark && condition.holds place) places marks
  | sequence parts, marks => reachSequence places parts marks
  | choice options, marks => reachChoice places options marks
  | group _ body, marks => reach places body marks
  | repeated body least most, marks =>
      let step := reach places body
      upTo step ((most.map (· - least)).getD places.length) (exactly step least marks)
def reachSequence (places : List Place) : List Pattern → List Bool → List Bool
  | [], marks => marks
  | part :: rest, marks => reachSequence places rest (reach places part marks)
def reachChoice (places : List Place) : List Pattern → List Bool → List Bool
  | [], marks => marks.map fun _ => false
  | option :: rest, marks => join (reach places option marks) (reachChoice places rest marks)
end

def occursIn (pattern : Pattern) (text : List Char) : Bool :=
  let places := Place.ofText text
  (pattern.reach places (places.map fun _ => true)).any id

end Pattern

end TopDown
