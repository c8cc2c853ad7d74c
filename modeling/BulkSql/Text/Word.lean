import BulkSql.Text.Word.Table

/-!
Word characters by the Unicode definition.
-/
namespace BulkSql

/-- Whether a code point is in one of the ranges. -/
def inRanges (ranges : List (Nat × Nat)) (n : Nat) : Bool :=
  ranges.any fun (first, last) => first ≤ n && n ≤ last

def isWordChar (c : Char) : Bool :=
  if c.toNat < 128 then c.isAlphanum || c == '_' else inRanges Word.ranges c.toNat

end BulkSql
