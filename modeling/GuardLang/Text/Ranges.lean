/-!
# Character classes given by ranges

The classes of characters that scanning and quoting depend on are given by
sorted lists of code point ranges.  Membership walks the list and stops at the
first range that begins beyond the character, so characters with small code
points are classified after a few comparisons.
-/

namespace GuardLang.Text

/-- Ranges of code points, both ends included, in increasing order. -/
abbrev Ranges := List (Nat × Nat)

namespace Ranges

/-- Whether some range holds the code point `n`. -/
def contains : Ranges → Nat → Bool
  | [], _ => false
  | (low, high) :: rest, n => if n < low then false else n ≤ high || contains rest n

/-- How far the code point `n` lies above the start of the range that holds it. -/
def offset? : Ranges → Nat → Option Nat
  | [], _ => none
  | (low, high) :: rest, n =>
    if n < low then none else if n ≤ high then some (n - low) else offset? rest n

end Ranges

end GuardLang.Text
