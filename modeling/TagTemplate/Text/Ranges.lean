/-!
# Classes of characters as ranges of code points

A property that Unicode gives by table is a list of closed ranges. A character is in the class
when one of the ranges holds its code point.
-/

namespace TagTemplate.Text

/-- A class of characters: closed ranges of code points, in ascending order. -/
structure Ranges where
  list : List (Nat × Nat)

/-- Whether the class holds the character. -/
def Ranges.contains (r : Ranges) (c : Char) : Bool :=
  r.list.any fun range => range.1 ≤ c.toNat && c.toNat ≤ range.2

/-- A class holds exactly the characters that lie in one of its ranges. -/
theorem Ranges.contains_iff (r : Ranges) (c : Char) :
    r.contains c = true ↔ ∃ range ∈ r.list, range.1 ≤ c.toNat ∧ c.toNat ≤ range.2 := by
  simp [Ranges.contains]

end TagTemplate.Text
