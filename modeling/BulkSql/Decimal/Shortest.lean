import BulkSql.Binary64

/-!
The fewest decimal digits that read back as a given number, and the nearest of these.
-/
namespace BulkSql

/-- A positive decimal `digits * 10 ^ exponent`. -/
structure Decimal where
  digits : Nat
  exponent : Int
  deriving DecidableEq, Repr

namespace Decimal

/-- The decimal digits of a number, most significant first; none for zero. -/
def digitList (n : Nat) : List Nat :=
  (Nat.toDigits 10 n).filterMap fun c => if n = 0 then none else some (c.toNat - '0'.toNat)

/-- The same number without trailing zeros in its digits. -/
def stripped (d : Decimal) : Decimal :=
  let zeros := (digitList d.digits).reverse.takeWhile (· == 0) |>.length
  ⟨d.digits / tenTo zeros, d.exponent + zeros⟩

/-- Which of two decimals is written that are equally near. -/
inductive Tie
  | up
  | even
  deriving DecidableEq, Repr

/-- The largest `e` with `10 ^ e ≤ num / den`, for a positive quotient. -/
def floorLog (num den : Nat) : Int :=
  if den ≤ num then (digitList (num / den)).length - 1
  else -((digitList ((den + num - 1) / num - 1)).length : Int)

/-- The reals between `lo / den` and `hi / den` that read back as `mid / den`. -/
structure Interval where
  lo : Nat
  mid : Nat
  hi : Nat
  den : Nat
  closed : Bool

namespace Interval

/-- `d * 10 ^ k` compared with `n / den`. -/
def compareGrid (den d : Nat) (k : Int) (n : Nat) : Ordering :=
  compare (d * tenTo k.toNat * den) (n * tenTo (-k).toNat)

def contains (i : Interval) (d : Nat) (k : Int) : Bool :=
  match compareGrid i.den d k i.lo, compareGrid i.den d k i.hi with
  | .gt, .lt => true
  | .eq, _ | _, .eq => i.closed
  | _, _ => false

/-- The best point of the grid `10 ^ k` in the interval, of the two next to its middle. -/
def onGrid (i : Interval) (tie : Tie) (k : Int) : Option Decimal :=
  let unit := i.den * tenTo k.toNat
  let scaled := i.mid * tenTo (-k).toNat
  let d := scaled / unit
  match i.contains d k, i.contains (d + 1) k with
  | false, false => none
  | true, false => some ⟨d, k⟩
  | false, true => some ⟨d + 1, k⟩
  | true, true =>
    match compare (2 * (scaled % unit)) unit, tie with
    | .lt, _ => some ⟨d, k⟩
    | .gt, _ => some ⟨d + 1, k⟩
    | .eq, .up => some ⟨d + 1, k⟩
    | .eq, .even => some ⟨d + d % 2, k⟩

/-- The first grid, from coarse to fine, that has a point in the interval; seventeen digits are
always enough. -/
def shortest (i : Interval) (tie : Tie) : Decimal :=
  let e := floorLog i.mid i.den
  ((List.range 17).findSome? fun (n : Nat) => i.onGrid tie (e - n)).getD ⟨i.mid / i.den, 0⟩

end Interval

/-- The interval around a finite number that is not zero: half way to its two neighbours. -/
def interval (x : Binary64) : Interval :=
  let m := x.significand
  let below := if m = twoTo 52 ∧ -1074 < x.exponent then 1 else 2
  let q := x.exponent - 2
  { lo := (4 * m - below) * twoTo q.toNat
    mid := 4 * m * twoTo q.toNat
    hi := (4 * m + 2) * twoTo q.toNat
    den := twoTo (-q).toNat
    closed := m % 2 == 0 }

/-- The shortest decimal of a finite number that is not zero. -/
def shortest (tie : Tie) (x : Binary64) : Decimal := ((interval x).shortest tie).stripped

end Decimal

end BulkSql
