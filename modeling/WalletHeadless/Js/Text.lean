import Mathlib.Data.List.Sort

/-!
# JavaScript's strings

A string is a sequence of UTF-16 code units: its `length` counts them, and `sort()` compares by them.
-/

namespace Js

/-- The UTF-16 code units of a character. -/
def utf16 (c : Char) : List Nat :=
  if c.toNat < 0x10000 then [c.toNat]
  else [0xD800 + (c.toNat - 0x10000) / 0x400, 0xDC00 + (c.toNat - 0x10000) % 0x400]

def units (s : String) : List Nat := s.toList.flatMap utf16

/-- `s.length`. -/
def length (s : String) : Nat := (units s).length

/-- The order of sequences of code units. -/
def unitsLE : List Nat → List Nat → Bool
  | [], _ => true
  | _ :: _, [] => false
  | x :: xs, y :: ys => x < y || x == y && unitsLE xs ys

/-- `l.sort()`. -/
def sorted (l : List String) : List String := l.insertionSort fun a b => unitsLE (units a) (units b) = true

/-- `l.sort().join(separator)`. -/
def sortedJoin (separator : String) (l : List String) : String := separator.intercalate (sorted l)

end Js
