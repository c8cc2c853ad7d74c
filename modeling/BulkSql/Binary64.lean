/-!
Binary floating point numbers as bit patterns. Every operation is the exact result, rounded to the
nearest number of the format with ties to the even one.
-/
namespace BulkSql

/-- A binary interchange format: bits of the significand, the exponent of its last bit in the
smallest numbers, and the magnitude bits of infinity. -/
structure BinaryFormat where
  precision : Nat
  minExponent : Int
  infinity : Nat

def binary64 : BinaryFormat := ⟨53, -1074, 0x7ff0000000000000⟩

def binary32 : BinaryFormat := ⟨24, -149, 0x7f800000⟩

/-- `2 ^ n`. -/
def twoTo (n : Nat) : Nat := Nat.pow 2 n

/-- `10 ^ n`. -/
def tenTo (n : Nat) : Nat := Nat.pow 10 n

@[simp] theorem twoTo_zero : twoTo 0 = 1 := rfl

@[simp] theorem tenTo_zero : tenTo 0 = 1 := rfl

theorem tenTo_succ (n : Nat) : tenTo (n + 1) = tenTo n * 10 := rfl

/-- The quotient rounded to the nearest natural number, a tie to the even one. -/
def roundedQuotient (num den : Nat) : Nat :=
  let q := num / den
  let r := 2 * (num % den)
  if r < den || (r == den && q % 2 == 0) then q else q + 1

namespace BinaryFormat

/-- The largest `e` with `2 ^ e ≤ num / den`. -/
def floorLog (num den : Nat) : Int :=
  let e : Int := (num.log2 : Int) - den.log2
  if den * twoTo e.toNat ≤ num * twoTo (-e).toNat then e else e - 1

/-- The magnitude bits of the number nearest to the positive quotient `num / den`. -/
def nearest (f : BinaryFormat) (num den : Nat) : Nat :=
  let q := max f.minExponent (floorLog num den - (f.precision - 1))
  let m := roundedQuotient (num * twoTo (-q).toNat) (den * twoTo q.toNat)
  min f.infinity ((q - f.minExponent).toNat * twoTo (f.precision - 1) + m)

end BinaryFormat

/-- A binary64 number, or one of its two infinities or many not-a-numbers. -/
structure Binary64 where
  bits : UInt64
  deriving DecidableEq, Inhabited

namespace Binary64

def signBit : Nat := twoTo 63

def isNegative (x : Binary64) : Bool := signBit ≤ x.bits.toNat

/-- All bits but the sign. -/
def magnitude (x : Binary64) : Nat := x.bits.toNat % signBit

def isNaN (x : Binary64) : Bool := binary64.infinity < x.magnitude

def isInfinite (x : Binary64) : Bool := x.magnitude == binary64.infinity

def isFinite (x : Binary64) : Bool := x.magnitude < binary64.infinity

def isZero (x : Binary64) : Bool := x.magnitude == 0

def ofMagnitude (negative : Bool) (magnitude : Nat) : Binary64 :=
  ⟨UInt64.ofNat ((if negative then signBit else 0) + magnitude)⟩

def infinity (negative : Bool) : Binary64 := ofMagnitude negative binary64.infinity

/-- The result of an operation that has none. -/
def invalid : Binary64 := ⟨0xfff8000000000000⟩

def nan : Binary64 := ⟨0x7ff8000000000000⟩

/-- A finite number is `significand * 2 ^ exponent`, but for its sign. -/
def significand (x : Binary64) : Nat :=
  if x.magnitude < twoTo 52 then x.magnitude else twoTo 52 + x.magnitude % twoTo 52

def exponent (x : Binary64) : Int := (max 1 (x.magnitude / twoTo 52) : Nat) - 1075

/-- The number nearest to `num / den`. -/
def ofQuotient (negative : Bool) (num den : Nat) : Binary64 :=
  ofMagnitude negative (if num = 0 then 0 else binary64.nearest num den)

/-- The number nearest to `m * 2 ^ q`. -/
def ofDyadic (negative : Bool) (m : Nat) (q : Int) : Binary64 :=
  ofQuotient negative (m * twoTo q.toNat) (twoTo (-q).toNat)

def ofInt (i : Int) : Binary64 := ofQuotient (i < 0) i.natAbs 1

/-- The number nearest to `digits * 10 ^ exponent`. Beyond the tested exponents all is infinite or
zero, so that no power of ten is computed there. -/
def ofDecimal (negative : Bool) (digits : Nat) (exponent : Int) : Binary64 :=
  let size := exponent + (digits.log2 : Int) * 3 / 10
  if digits = 0 ∨ size < -400 then ofMagnitude negative 0
  else if 400 < size then infinity negative
  else ofQuotient negative (digits * tenTo exponent.toNat) (tenTo (-exponent).toNat)

/-- The bits of the binary32 number nearest to `digits * 10 ^ exponent`. -/
def binary32OfDecimal (negative : Bool) (digits : Nat) (exponent : Int) : UInt32 :=
  let size := exponent + (digits.log2 : Int) * 3 / 10
  let magnitude :=
    if digits = 0 ∨ size < -100 then 0
    else if 100 < size then binary32.infinity
    else binary32.nearest (digits * tenTo exponent.toNat) (tenTo (-exponent).toNat)
  UInt32.ofNat ((if negative then twoTo 31 else 0) + magnitude)

/-- The order of numbers as integers: both zeros are `0`. -/
def key (x : Binary64) : Int := if x.isNegative then -(x.magnitude : Int) else x.magnitude

/-- A not-a-number compares with nothing. -/
def compare? (x y : Binary64) : Option Ordering :=
  if x.isNaN || y.isNaN then none else some (compare x.key y.key)

/-- Equality of numbers: the two zeros are equal, a not-a-number differs from all. -/
def numEq (x y : Binary64) : Bool := x.compare? y == some .eq

def neg (x : Binary64) : Binary64 := ofMagnitude (!x.isNegative) x.magnitude

def abs (x : Binary64) : Binary64 := ofMagnitude false x.magnitude

/-- A not-a-number among the operands is the result. -/
def lift (op : Binary64 → Binary64 → Binary64) (x y : Binary64) : Binary64 :=
  if x.isNaN then x else if y.isNaN then y else op x y

/-- The signed significand over the smaller exponent of two numbers. -/
private def scaled (x : Binary64) (q : Int) : Int :=
  let m : Int := (x.significand * twoTo (x.exponent - q).toNat : Nat)
  if x.isNegative then -m else m

private def addNumbers (x y : Binary64) : Binary64 :=
  if x.isInfinite then
    if y.isInfinite && x.isNegative != y.isNegative then invalid else x
  else if y.isInfinite then y
  else
    let q := min x.exponent y.exponent
    let s := x.scaled q + y.scaled q
    if s = 0 then ofMagnitude (x.isNegative && y.isNegative) 0
    else ofDyadic (s < 0) s.natAbs q

def add : Binary64 → Binary64 → Binary64 := lift addNumbers

def sub : Binary64 → Binary64 → Binary64 := lift fun x y => addNumbers x y.neg

def mul : Binary64 → Binary64 → Binary64 := lift fun x y =>
  let negative := x.isNegative != y.isNegative
  if x.isInfinite || y.isInfinite then
    if x.isZero || y.isZero then invalid else infinity negative
  else ofDyadic negative (x.significand * y.significand) (x.exponent + y.exponent)

def div : Binary64 → Binary64 → Binary64 := lift fun x y =>
  let negative := x.isNegative != y.isNegative
  if x.isInfinite then if y.isInfinite then invalid else infinity negative
  else if y.isInfinite then ofMagnitude negative 0
  else if y.isZero then if x.isZero then invalid else infinity negative
  else
    let q := x.exponent - y.exponent
    ofQuotient negative (x.significand * twoTo q.toNat) (y.significand * twoTo (-q).toNat)

/-- The remainder of the division that is cut toward zero; it has the sign of `x`. -/
def rem : Binary64 → Binary64 → Binary64 := lift fun x y =>
  if x.isInfinite || y.isZero then invalid
  else if y.isInfinite then x
  else
    let q := min x.exponent y.exponent
    ofDyadic x.isNegative ((x.scaled q).natAbs % (y.scaled q).natAbs) q

/-- The bits of the nearest binary32 number; a not-a-number keeps its sign and leading bits. -/
def toBinary32 (x : Binary64) : UInt32 :=
  let sign := if x.isNegative then twoTo 31 else 0
  let m :=
    if x.isNaN then binary32.infinity + twoTo 22 + x.magnitude % twoTo 51 / twoTo 29
    else if x.isInfinite then binary32.infinity
    else if x.isZero then 0
    else binary32.nearest (x.significand * twoTo x.exponent.toNat) (twoTo (-x.exponent).toNat)
  UInt32.ofNat (sign + m)

/-- The number that a binary32 bit pattern stands for. -/
def ofBinary32 (bits : UInt32) : Binary64 :=
  let negative := twoTo 31 ≤ bits.toNat
  let m := bits.toNat % twoTo 31
  if binary32.infinity < m then
    ofMagnitude negative (binary64.infinity + m % twoTo 23 * twoTo 29)
  else if m = binary32.infinity then infinity negative
  else
    let significand := if m < twoTo 23 then m else twoTo 23 + m % twoTo 23
    ofDyadic negative significand ((max 1 (m / twoTo 23) : Nat) - 150)

end Binary64

end BulkSql
