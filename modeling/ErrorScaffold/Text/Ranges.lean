/-
Sets of code points, written as closed ranges.

A property of characters that no small rule describes is a table: a list of pairs of a first and a
last code point, in increasing order.  `Ranges.contains` is membership.
-/

namespace ErrorScaffold.Text

/-- Closed ranges of code points, in increasing order and apart from each other. -/
abbrev Ranges := List (Nat × Nat)

/-- Whether a range holds the code point of `c`. -/
def Ranges.contains (ranges : Ranges) (c : Char) : Bool :=
  ranges.any fun range => range.1 ≤ c.toNat && c.toNat ≤ range.2

end ErrorScaffold.Text
