/-! Character classes given by ranges of code points, ends included. -/
namespace MarkupLint.Text

abbrev Ranges := List (Nat × Nat)

def Ranges.holds (ranges : Ranges) (c : Char) : Bool :=
  ranges.any fun (first, last) => first ≤ c.toNat && c.toNat ≤ last

end MarkupLint.Text
