/-!
# Character ranges

A character property that is given by a standard is a table of ranges of code points.
-/

namespace Stencil.Text

/-- The inclusive ranges of code points that have a property, in ascending order. -/
abbrev Ranges := List (Nat × Nat)

/-- Whether some range of the table holds the character. -/
def Ranges.holds (table : Ranges) (c : Char) : Bool :=
  table.any fun (first, last) => first ≤ c.toNat && c.toNat ≤ last

/-- Whether the ranges are non-empty, ascending and apart. -/
def Ranges.ascending : Ranges → Bool
  | [] => true
  | [(first, last)] => first ≤ last
  | (first, last) :: (next, stop) :: table =>
    first ≤ last && last < next && Ranges.ascending ((next, stop) :: table)

end Stencil.Text
