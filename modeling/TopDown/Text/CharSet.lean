/-!
Sets of characters as ranges of code points, both ends included, in increasing order and apart.
-/

set_option autoImplicit false

namespace TopDown.Text

structure CharSet where
  ranges : List (Nat × Nat)
deriving DecidableEq, Repr

namespace CharSet

def empty : CharSet := ⟨[]⟩

def all : CharSet := ⟨[(0, 0x10FFFF)]⟩

-- Ranges that overlap or touch become one.
def addRange (low high : Nat) : List (Nat × Nat) → List (Nat × Nat)
  | [] => [(low, high)]
  | (first, last) :: rest =>
      if high + 1 < first then (low, high) :: (first, last) :: rest
      else if last + 1 < low then (first, last) :: addRange low high rest
      else addRange (min first low) (max last high) rest

def ofRanges (ranges : List (Nat × Nat)) : CharSet :=
  ⟨ranges.foldr (fun (low, high) known => addRange low high known) []⟩

def range (low high : Nat) : CharSet := ⟨[(low, high)]⟩

def singleton (char : Char) : CharSet := range char.toNat char.toNat

def union (set other : CharSet) : CharSet :=
  ⟨set.ranges.foldr (fun (low, high) known => addRange low high known) other.ranges⟩

-- The gaps between ranges, from a code point upwards.
def gaps (start : Nat) : List (Nat × Nat) → List (Nat × Nat)
  | [] => if start ≤ 0x10FFFF then [(start, 0x10FFFF)] else []
  | (low, high) :: rest =>
      if start < low then (start, low - 1) :: gaps (high + 1) rest else gaps (high + 1) rest

def complement (set : CharSet) : CharSet := ⟨gaps 0 set.ranges⟩

def intersection (set other : CharSet) : CharSet := (set.complement.union other.complement).complement

def difference (set other : CharSet) : CharSet := set.intersection other.complement

def symmetricDifference (set other : CharSet) : CharSet :=
  (set.union other).difference (set.intersection other)

def containsCode (set : CharSet) (code : Nat) : Bool :=
  set.ranges.any fun (low, high) => low ≤ code && code ≤ high

def contains (set : CharSet) (char : Char) : Bool := set.containsCode char.toNat

end CharSet

end TopDown.Text
