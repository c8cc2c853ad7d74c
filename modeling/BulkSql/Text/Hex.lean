import BulkSql.Text.Quoted

/-!
Hexadecimal digits, and bytes as pairs of them.
-/
namespace BulkSql

namespace Hex

/-- Two lower-case hexadecimal digits. -/
def byte (b : UInt8) : Sql := [Nat.digitChar (b.toNat / 16), Nat.digitChar (b.toNat % 16)]

def text (bytes : List UInt8) : Sql := bytes.flatMap byte

def digit? (c : Char) : Option Nat :=
  if c.isDigit then some (c.toNat - '0'.toNat)
  else if 'a' ≤ c ∧ c ≤ 'f' then some (c.toNat - 'a'.toNat + 10)
  else if 'A' ≤ c ∧ c ≤ 'F' then some (c.toNat - 'A'.toNat + 10)
  else none

/-- The bytes that a text of digit pairs stands for. -/
def bytes? : Sql → Option (List UInt8)
  | [] => some []
  | [_] => none
  | a :: b :: rest => do
    let high ← digit? a
    let low ← digit? b
    return UInt8.ofNat (high * 16 + low) :: (← bytes? rest)

end Hex

end BulkSql
