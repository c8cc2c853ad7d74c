import BulkSql.Text.Quoted

/-!
White space: the Unicode property, and trimming by it.
-/
namespace BulkSql

/-- The Unicode property White_Space. -/
def isBlank (c : Char) : Bool :=
  let n := c.toNat
  (9 ≤ n && n ≤ 13) || n == 32 || n == 0x85 || n == 0xA0 || n == 0x1680 ||
  (0x2000 ≤ n && n ≤ 0x200A) || n == 0x2028 || n == 0x2029 || n == 0x202F || n == 0x205F ||
  n == 0x3000

namespace Blank

def trimStart (s : Sql) : Sql := s.dropWhile isBlank

def trimEnd (s : Sql) : Sql := (s.reverse.dropWhile isBlank).reverse

def trim (s : Sql) : Sql := trimEnd (trimStart s)

end Blank

end BulkSql
