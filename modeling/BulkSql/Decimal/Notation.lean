import BulkSql.Decimal.Shortest
import BulkSql.Text.Quoted

/-!
The written form of a floating point number: its shortest digits, in positional or in exponent
notation.
-/
namespace BulkSql

/-- How a format writes floating point numbers. -/
structure DecimalNotation where
  /-- The least exponent of the first digit that is written positionally. -/
  leastPlain : Int
  /-- The least exponent above these that is not. -/
  leastScientific : Int
  /-- A positive exponent has a sign. -/
  signedExponent : Bool
  tie : Decimal.Tie

namespace DecimalNotation

def digitChar (d : Nat) : Char := Char.ofNat ('0'.toNat + d)

/-- Digits with a point after the first `count` of them; at least one digit on both sides. -/
def withPoint (digits : Sql) (count : Int) : Sql :=
  if count ≤ 0 then
    '0' :: '.' :: (List.replicate (-count).toNat '0' ++ digits)
  else
    let whole := digits.take count.toNat
    let rest := digits.drop count.toNat
    whole ++ List.replicate (count.toNat - whole.length) '0' ++
      '.' :: (if rest = [] then ['0'] else rest)

/-- One digit, the others after a point if there are any, and the exponent. -/
def withExponent (signed : Bool) (digits : Sql) (exponent : Int) : Sql :=
  let mantissa := match digits with
    | d :: e :: rest => d :: '.' :: e :: rest
    | short => short
  let sign := if signed && 0 ≤ exponent then ['+'] else []
  mantissa ++ 'e' :: (sign ++ (toString exponent).toList)

/-- The text of a finite number. -/
def finite (f : DecimalNotation) (x : Binary64) : Sql :=
  let sign := if x.isNegative then ['-'] else []
  if x.isZero then sign ++ ['0', '.', '0']
  else
    let d := Decimal.shortest f.tie x
    let digits := (Decimal.digitList d.digits).map digitChar
    let exponent := d.exponent + digits.length - 1
    sign ++
      if f.leastPlain ≤ exponent ∧ exponent < f.leastScientific then
        withPoint digits (exponent + 1)
      else withExponent f.signedExponent digits exponent

end DecimalNotation

end BulkSql
