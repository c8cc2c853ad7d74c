import BulkSql.Proofs.Numeral

/-!
The shortest decimal of a number lies in the interval of the reals that are nearest to it. Intervals
of different numbers have no point in common, so the decimal tells which number it was.
-/
namespace BulkSql

namespace Decimal

/-- The number that a decimal stands for. -/
def value (d : Decimal) : ℚ := d.digits * 10 ^ d.exponent

theorem cast_tenTo (n : Nat) : (tenTo n : ℚ) = 10 ^ n := by
  rw [show tenTo n = 10 ^ n from rfl]
  push_cast
  rfl

theorem cast_twoTo (n : Nat) : (twoTo n : ℚ) = 2 ^ n := by
  rw [show twoTo n = 2 ^ n from rfl]
  push_cast
  rfl

/-- A power with an exponent of either sign is a quotient of two powers. -/
theorem zpow_eq_div {b : ℚ} (hb : b ≠ 0) (k : Int) : b ^ k = b ^ k.toNat / b ^ (-k).toNat := by
  rw [← zpow_natCast, ← zpow_natCast, ← zpow_sub₀ hb]
  congr 1
  omega

theorem zpow_ten_pos (k : Int) : (0 : ℚ) < 10 ^ k := zpow_pos (by norm_num) k

/-! ### Intervals -/

namespace Interval

variable {i : Interval} {d : Nat} {k : Int} {v : ℚ} {tie : Tie}

/-- The reals of an interval; its ends belong to it where it is closed. -/
def Contains (i : Interval) (v : ℚ) : Prop :=
  ((i.lo : ℚ) / i.den < v ∧ v < i.hi / i.den) ∨
    i.closed = true ∧ (v = i.lo / i.den ∨ v = i.hi / i.den)

/-- The middle of an interval is inside it. -/
structure Proper (i : Interval) : Prop where
  den_pos : 0 < i.den
  lo_lt : i.lo < i.mid
  lt_hi : i.mid < i.hi

theorem Proper.lo_lt_hi (h : i.Proper) : (i.lo : ℚ) / i.den < i.hi / i.den := by
  have den : (0 : ℚ) < i.den := by exact_mod_cast h.den_pos
  gcongr
  exact h.lo_lt.trans h.lt_hi

/-- The upper end is in an interval only where it is closed. -/
theorem Contains.hi (h : i.Proper) (hv : i.Contains v) :
    v < i.hi / i.den ∨ v = i.hi / i.den ∧ i.closed = true := by
  rcases hv with ⟨-, lt⟩ | ⟨closed, rfl | rfl⟩
  · exact .inl lt
  · exact .inl h.lo_lt_hi
  · exact .inr ⟨rfl, closed⟩

theorem Contains.lo (h : i.Proper) (hv : i.Contains v) :
    i.lo / i.den < v ∨ v = i.lo / i.den ∧ i.closed = true := by
  rcases hv with ⟨lt, -⟩ | ⟨closed, rfl | rfl⟩
  · exact .inl lt
  · exact .inr ⟨rfl, closed⟩
  · exact .inl h.lo_lt_hi

section Grid

variable {den n : Nat} (pos : 0 < den)

include pos

theorem grid_lt_iff :
    d * tenTo k.toNat * den < n * tenTo (-k).toNat ↔ (d : ℚ) * 10 ^ k < n / den := by
  have den' : (0 : ℚ) < den := by exact_mod_cast pos
  have power : (0 : ℚ) < 10 ^ (-k).toNat := by positivity
  rw [zpow_eq_div (by norm_num), ← mul_div_assoc, div_lt_div_iff₀ power den', ← cast_tenTo,
    ← cast_tenTo]
  norm_cast

theorem lt_grid_iff :
    n * tenTo (-k).toNat < d * tenTo k.toNat * den ↔ (n : ℚ) / den < d * 10 ^ k := by
  have den' : (0 : ℚ) < den := by exact_mod_cast pos
  have power : (0 : ℚ) < 10 ^ (-k).toNat := by positivity
  rw [zpow_eq_div (by norm_num), ← mul_div_assoc, div_lt_div_iff₀ den' power, ← cast_tenTo,
    ← cast_tenTo]
  norm_cast

theorem compareGrid_eq : compareGrid den d k n = compare ((d : ℚ) * 10 ^ k) (n / den) := by
  rcases lt_trichotomy ((d : ℚ) * 10 ^ k) (n / den) with lt | eq | gt
  · rw [compare_lt_iff_lt.2 lt]
    exact Nat.compare_eq_lt.2 ((grid_lt_iff pos).2 lt)
  · rw [compare_eq_iff_eq.2 eq]
    refine Nat.compare_eq_eq.2 (Nat.le_antisymm ?_ ?_)
    · exact Nat.not_lt.1 fun gt => absurd ((lt_grid_iff pos).1 gt) (by simp [eq])
    · exact Nat.not_lt.1 fun lt => absurd ((grid_lt_iff pos).1 lt) (by simp [eq])
  · rw [compare_gt_iff_gt.2 gt]
    exact Nat.compare_eq_gt.2 ((lt_grid_iff pos).2 gt)

end Grid

theorem contains_iff (pos : 0 < i.den) : i.contains d k = true ↔ i.Contains (d * 10 ^ k) := by
  unfold contains Contains
  rw [compareGrid_eq pos, compareGrid_eq pos]
  generalize (d : ℚ) * 10 ^ k = v, (i.lo : ℚ) / i.den = lo, (i.hi : ℚ) / i.den = hi
  rcases lt_trichotomy v lo with below | rfl | above <;>
    rcases lt_trichotomy v hi with below' | rfl | above' <;>
      simp [compare_lt_iff_lt.2, compare_gt_iff_gt.2, not_lt_of_gt, ne_of_lt, ne_of_gt, *]

/-- The point of a grid at or below the middle. -/
def floorPoint (i : Interval) (k : Int) : Nat :=
  i.mid * tenTo (-k).toNat / (i.den * tenTo k.toNat)

/-- What is chosen on a grid is one of the two points next to the middle and in the interval. -/
theorem onGrid_cases {dec : Decimal} (h : i.onGrid tie k = some dec) :
    ∃ d, dec = ⟨d, k⟩ ∧ i.contains d k = true := by
  simp only [onGrid] at h
  split at h
  · cases h
  · next first _ => exact ⟨_, (Option.some.inj h).symm, first⟩
  · next _ second => exact ⟨_, (Option.some.inj h).symm, second⟩
  · next first second =>
    split at h
    · exact ⟨_, (Option.some.inj h).symm, first⟩
    · exact ⟨_, (Option.some.inj h).symm, second⟩
    · exact ⟨_, (Option.some.inj h).symm, second⟩
    · refine ⟨_, (Option.some.inj h).symm, ?_⟩
      rcases Nat.mod_two_eq_zero_or_one (i.mid * tenTo (-k).toNat / (i.den * tenTo k.toNat)) with
        even | odd
      · rwa [even]
      · rwa [odd]

theorem contains_of_onGrid (pos : 0 < i.den) {dec : Decimal} (h : i.onGrid tie k = some dec) :
    i.Contains dec.value := by
  obtain ⟨d, rfl, inside⟩ := onGrid_cases h
  exact (contains_iff pos).1 inside

theorem exists_onGrid_of_contains
    (h : i.contains (i.floorPoint k) k = true ∨ i.contains (i.floorPoint k + 1) k = true) :
    ∃ dec, i.onGrid tie k = some dec := by
  simp only [floorPoint] at h
  simp only [onGrid]
  split
  · next first second => simp [first, second] at h
  · exact ⟨_, rfl⟩
  · exact ⟨_, rfl⟩
  · split <;> exact ⟨_, rfl⟩

theorem Proper.floorPoint_le (h : i.Proper) (k : Int) :
    (i.floorPoint k : ℚ) * 10 ^ k ≤ i.mid / i.den := by
  refine not_lt.1 fun above => absurd ((lt_grid_iff h.den_pos).2 above) (Nat.not_lt.2 ?_)
  calc i.floorPoint k * tenTo k.toNat * i.den
      = i.mid * tenTo (-k).toNat / (i.den * tenTo k.toNat) * (i.den * tenTo k.toNat) := by
        rw [floorPoint, Nat.mul_assoc, Nat.mul_comm (tenTo k.toNat)]
    _ ≤ i.mid * tenTo (-k).toNat := Nat.div_mul_le_self _ _

theorem Proper.lt_floorPoint (h : i.Proper) (k : Int) :
    (i.mid : ℚ) / i.den < (i.floorPoint k + 1 : Nat) * 10 ^ k := by
  refine (lt_grid_iff h.den_pos).1 ?_
  calc i.mid * tenTo (-k).toNat
      < (i.mid * tenTo (-k).toNat / (i.den * tenTo k.toNat) + 1) * (i.den * tenTo k.toNat) := by
        rw [Nat.succ_mul]
        exact Nat.lt_div_mul_add (Nat.mul_pos h.den_pos (tenTo_pos _))
    _ = (i.floorPoint k + 1) * tenTo k.toNat * i.den := by
        rw [floorPoint, Nat.mul_assoc _ (tenTo k.toNat), Nat.mul_comm (tenTo k.toNat)]

/-- A grid that is finer than the interval is wide has a point in it next to the middle. -/
theorem exists_onGrid (h : i.Proper) (fine : (10 : ℚ) ^ k < (i.hi - i.lo) / i.den) :
    ∃ dec, i.onGrid tie k = some dec := by
  have den : (0 : ℚ) < i.den := by exact_mod_cast h.den_pos
  have lo : (i.lo : ℚ) / i.den < i.mid / i.den := by
    gcongr
    exact h.lo_lt
  have hi : (i.mid : ℚ) / i.den < i.hi / i.den := by
    gcongr
    exact h.lt_hi
  have below := h.floorPoint_le k
  have above := h.lt_floorPoint k
  refine exists_onGrid_of_contains ?_
  rw [contains_iff h.den_pos, contains_iff h.den_pos]
  by_contra outside
  simp only [Contains, not_or, not_and, not_lt] at outside
  obtain ⟨⟨first, -⟩, second, -⟩ := outside
  have far : (i.floorPoint k : ℚ) * 10 ^ k ≤ i.lo / i.den :=
    not_lt.1 fun near => absurd (first near) (not_le.2 (lt_of_le_of_lt below hi))
  have far' := second (lt_trans lo above)
  push_cast at far'
  rw [sub_div] at fine
  linarith

end Interval

theorem lt_tenTo_digitList (n : Nat) : n < tenTo (digitList n).length := by
  by_cases zero : n = 0
  · simp [zero, digitList]
  · rw [length_digitList zero]
    exact (Nat.length_toDigits_le_iff (by decide) Nat.length_toDigits_pos).1 (Nat.le_refl _)

theorem tenTo_digitList_le {n : Nat} (h : n ≠ 0) : tenTo ((digitList n).length - 1) ≤ n := by
  rw [length_digitList h]
  rcases Nat.eq_zero_or_pos ((Nat.toDigits 10 n).length - 1) with short | long
  · rw [short, tenTo_zero]
    omega
  · refine Nat.not_lt.1 fun small => ?_
    have := (Nat.length_toDigits_le_iff (by decide) long).2 small
    omega

/-- The power of ten at or below a quotient. -/
theorem floorLog_le {num den : Nat} (hn : 0 < num) (hd : 0 < den) :
    (10 : ℚ) ^ floorLog num den ≤ num / den := by
  have den' : (0 : ℚ) < den := by exact_mod_cast hd
  have num' : (0 : ℚ) < num := by exact_mod_cast hn
  unfold floorLog
  split
  · next le =>
    have some : num / den ≠ 0 := (Nat.div_pos le hd).ne'
    have digits : 0 < (digitList (num / den)).length := by
      rw [length_digitList some]
      exact Nat.length_toDigits_pos
    have exponent : ((digitList (num / den)).length - 1 : Int) =
        (((digitList (num / den)).length - 1 : Nat) : Int) := by omega
    rw [exponent, zpow_natCast, ← cast_tenTo]
    calc (tenTo ((digitList (num / den)).length - 1) : ℚ) ≤ (num / den : Nat) := by
          exact_mod_cast tenTo_digitList_le some
      _ ≤ num / den := Nat.cast_div_le
  · next lt =>
    have above := lt_tenTo_digitList ((den + num - 1) / num - 1)
    generalize (digitList ((den + num - 1) / num - 1)).length = n at above ⊢
    -- the quotient upside down is at most its ceiling
    have ceiling : den ≤ tenTo n * num := by
      have : (den + num - 1) / num ≤ tenTo n := by omega
      have := (Nat.div_le_iff_le_mul hn).1 this
      omega
    have power : (0 : ℚ) < tenTo n := by exact_mod_cast tenTo_pos n
    rw [zpow_neg, zpow_natCast, ← cast_tenTo, inv_le_iff_one_le_mul₀ power, div_mul_eq_mul_div,
      one_le_div den']
    exact_mod_cast (Nat.mul_comm num _) ▸ ceiling

/-- The shortest decimal of an interval that is wide enough for seventeen digits is in it. -/
theorem Interval.contains_shortest {i : Interval} (h : i.Proper) (tie : Tie)
    (wide : (10 : ℚ) ^ (floorLog i.mid i.den - 16) < (i.hi - i.lo) / i.den) :
    i.Contains (i.shortest tie).value := by
  obtain ⟨last, found⟩ : ∃ dec, i.onGrid tie (floorLog i.mid i.den - 16) = some dec :=
    exists_onGrid h wide
  simp only [shortest]
  cases e : (List.range 17).findSome? fun (n : Nat) => i.onGrid tie (floorLog i.mid i.den - n) with
  | none =>
    have none := List.findSome?_eq_none_iff.1 e 16 (by simp)
    rw [show ((16 : Nat) : Int) = 16 from rfl, found] at none
    cases none
  | some d =>
    obtain ⟨n, -, hd⟩ := List.exists_of_findSome?_eq_some e
    exact contains_of_onGrid h.den_pos hd

/-! ### Trailing zeros -/

theorem foldl_append_zeros (l : List Nat) (zeros : Nat) (start : Nat) :
    (l ++ List.replicate zeros 0).foldl (fun n d => 10 * n + d) start =
      l.foldl (fun n d => 10 * n + d) start * tenTo zeros := by
  induction zeros with
  | zero => simp
  | succ zeros ih =>
    rw [List.replicate_succ', ← List.append_assoc, List.foldl_append, ih, tenTo_succ]
    simp only [List.foldl_cons, List.foldl_nil, Nat.add_zero]
    ring

/-- Without its trailing zeros a decimal is the same number. -/
@[simp] theorem value_stripped (d : Decimal) : d.stripped.value = d.value := by
  obtain ⟨front, zeros, digits, count⟩ : ∃ front zeros,
      digitList d.digits = front ++ List.replicate zeros 0 ∧
        ((digitList d.digits).reverse.takeWhile (· == 0)).length = zeros := by
    refine ⟨((digitList d.digits).reverse.dropWhile (· == 0)).reverse, _, ?_, rfl⟩
    have all : (digitList d.digits).reverse.takeWhile (· == 0) =
        List.replicate ((digitList d.digits).reverse.takeWhile (· == 0)).length 0 := by
      refine List.eq_replicate_iff.2 ⟨rfl, fun x hx => ?_⟩
      simpa using List.all_eq_true.1 List.all_takeWhile x hx
    rw [← List.reverse_replicate, ← all, ← List.reverse_append, List.takeWhile_append_dropWhile,
      List.reverse_reverse]
  have whole : front.foldl (fun n d => 10 * n + d) 0 * tenTo zeros = d.digits := by
    rw [← foldl_append_zeros, ← digits, foldl_digitList]
  have cut : d.digits / tenTo zeros = front.foldl (fun n d => 10 * n + d) 0 := by
    rw [← whole, Nat.mul_div_cancel _ (tenTo_pos zeros)]
  simp only [stripped, count, value, cut]
  rw [zpow_add₀ (by norm_num), zpow_natCast, ← cast_tenTo, ← whole]
  push_cast
  ring

end Decimal

/-! ### Binary numbers -/

namespace Binary64

/-- The significand of a magnitude. -/
def significandOf (n : Nat) : Nat := if n < twoTo 52 then n else twoTo 52 + n % twoTo 52

/-- The exponent of a magnitude, counted from the least one. -/
def exponentOf (n : Nat) : Nat := max 1 (n / twoTo 52) - 1

/-- The distance to the point half way to the magnitude before, in quarters of the last place. -/
def gapBelow (n : Nat) : Nat := if significandOf n = twoTo 52 ∧ 0 < exponentOf n then 1 else 2

/-- The point half way to the next magnitude, in quarters of the least one. -/
def halfway (n : Nat) : Nat := (4 * significandOf n + 2) * 2 ^ exponentOf n

/-- The point half way to the magnitude before. -/
def halfwayBelow (n : Nat) : Nat := (4 * significandOf n - gapBelow n) * 2 ^ exponentOf n

theorem twoTo_52 : twoTo 52 = 4503599627370496 := rfl

theorem significandOf_of_lt {n : Nat} (h : n < twoTo 52) : significandOf n = n := if_pos h

theorem significandOf_block (k r : Nat) (h : r < twoTo 52) :
    significandOf ((k + 1) * twoTo 52 + r) = twoTo 52 + r := by
  unfold significandOf
  rw [twoTo_52] at *
  rw [if_neg (by omega)]
  omega

theorem exponentOf_of_lt {n : Nat} (h : n < twoTo 52) : exponentOf n = 0 := by
  simp [exponentOf, Nat.div_eq_of_lt h]

theorem exponentOf_block (k r : Nat) (h : r < twoTo 52) :
    exponentOf ((k + 1) * twoTo 52 + r) = k := by
  unfold exponentOf
  rw [twoTo_52] at *
  omega

/-- A magnitude is below the normal ones, or has its place in a block of one exponent. -/
theorem lt_or_block (n : Nat) :
    n < twoTo 52 ∨ ∃ k r, r < twoTo 52 ∧ n = (k + 1) * twoTo 52 + r := by
  rcases Nat.lt_or_ge n (twoTo 52) with small | large
  · exact .inl small
  · refine .inr ⟨n / twoTo 52 - 1, n % twoTo 52, Nat.mod_lt _ (Decimal.twoTo_pos 52), ?_⟩
    rw [twoTo_52] at *
    omega

/-- The same point is half way from both sides. -/
theorem halfwayBelow_succ (n : Nat) : halfwayBelow (n + 1) = halfway n := by
  have block : twoTo 52 = (0 + 1) * twoTo 52 + 0 := by simp
  have pos := Decimal.twoTo_pos 52
  rcases lt_or_block n with small | ⟨k, r, hr, rfl⟩
  · rcases Nat.lt_or_ge (n + 1) (twoTo 52) with small' | large
    · simp only [halfwayBelow, halfway, gapBelow, significandOf_of_lt, exponentOf_of_lt, small,
        small']
      rw [if_neg (by omega)]
      omega
    · obtain first : n + 1 = (0 + 1) * twoTo 52 + 0 := by omega
      simp only [halfwayBelow, halfway, gapBelow, significandOf_of_lt, exponentOf_of_lt, small,
        first, significandOf_block 0 0 pos, exponentOf_block 0 0 pos]
      rw [if_neg (by omega)]
      omega
  · rcases Nat.lt_or_ge (r + 1) (twoTo 52) with inside | last
    · have next := Nat.add_assoc ((k + 1) * twoTo 52) r 1
      simp only [halfwayBelow, halfway, gapBelow, next, significandOf_block k _ hr,
        significandOf_block k _ inside, exponentOf_block k _ hr, exponentOf_block k _ inside]
      rw [if_neg (by omega), show 4 * (twoTo 52 + (r + 1)) - 2 = 4 * (twoTo 52 + r) + 2 by omega]
    · have next : (k + 1) * twoTo 52 + r + 1 = (k + 1 + 1) * twoTo 52 + 0 := by
        rw [Nat.succ_mul (k + 1)]
        omega
      simp only [halfwayBelow, halfway, gapBelow, next, significandOf_block k _ hr,
        significandOf_block (k + 1) 0 pos, exponentOf_block k _ hr, exponentOf_block (k + 1) 0 pos]
      rw [if_pos ⟨by omega, by omega⟩, Nat.pow_succ, Nat.mul_comm (2 ^ k), ← Nat.mul_assoc,
        show (4 * (twoTo 52 + 0) - 1) * 2 = 4 * (twoTo 52 + r) + 2 by omega]

theorem halfwayBelow_lt (n : Nat) : halfwayBelow n < halfway n := by
  refine Nat.mul_lt_mul_of_pos_right ?_ (by positivity)
  omega

theorem halfway_strictMono : StrictMono halfway := by
  refine strictMono_nat_of_lt_succ fun n => ?_
  rw [← halfwayBelow_succ]
  exact halfwayBelow_lt _

theorem significandOf_lt (n : Nat) : significandOf n < twoTo 53 := by
  unfold significandOf
  rw [show twoTo 53 = 9007199254740992 from rfl, twoTo_52]
  split <;> omega

theorem significandOf_mod_two (n : Nat) : significandOf n % 2 = n % 2 := by
  unfold significandOf
  rw [twoTo_52]
  split <;> omega

end Binary64

namespace Decimal

open Binary64

variable {x y : Binary64}

/-! ### The interval of a number -/

/-- A quarter of the least number. -/
def quarter : ℚ := 2 ^ (-1076 : Int)

theorem quarter_pos : 0 < quarter := zpow_pos (by norm_num) _

theorem exponent_eq (x : Binary64) : x.exponent = exponentOf x.magnitude - 1074 := by
  unfold Binary64.exponent exponentOf
  omega

theorem scaled_div (a : Nat) (x : Binary64) :
    ((a * twoTo (x.exponent - 2).toNat : Nat) : ℚ) / twoTo (-(x.exponent - 2)).toNat =
      (a * 2 ^ exponentOf x.magnitude : Nat) * quarter := by
  have power : (2 : ℚ) ^ (x.exponent - 2) = 2 ^ exponentOf x.magnitude * quarter := by
    rw [quarter, ← zpow_natCast, ← zpow_add₀ (by norm_num), exponent_eq]
    congr 1
    omega
  push_cast
  rw [cast_twoTo, cast_twoTo, mul_div_assoc, ← zpow_eq_div (by norm_num), power, mul_assoc]

theorem interval_lo (x : Binary64) :
    ((interval x).lo : ℚ) / (interval x).den = halfwayBelow x.magnitude * quarter := by
  have gap : (if x.significand = twoTo 52 ∧ -1074 < x.exponent then 1 else 2) =
      gapBelow x.magnitude := by
    refine if_congr (and_congr Iff.rfl ?_) rfl rfl
    rw [exponent_eq]
    omega
  simp only [interval, gap]
  exact scaled_div _ x

theorem interval_mid (x : Binary64) : ((interval x).mid : ℚ) / (interval x).den =
    (4 * significandOf x.magnitude * 2 ^ exponentOf x.magnitude : Nat) * quarter := scaled_div _ x

theorem interval_hi (x : Binary64) :
    ((interval x).hi : ℚ) / (interval x).den = halfway x.magnitude * quarter := scaled_div _ x

theorem interval_closed (x : Binary64) : (interval x).closed = true ↔ x.magnitude % 2 = 0 := by
  rw [← significandOf_mod_two]
  exact beq_iff_eq

theorem significandOf_pos {n : Nat} (h : n ≠ 0) : 0 < significandOf n := by
  unfold significandOf
  split
  · omega
  · have := twoTo_pos 52
    omega

theorem proper_interval (h : x.isZero = false) : (interval x).Proper := by
  have significand : 0 < x.significand := significandOf_pos (by simpa [isZero] using h)
  have scale := twoTo_pos (x.exponent - 2).toNat
  refine ⟨twoTo_pos _, Nat.mul_lt_mul_of_pos_right ?_ scale, Nat.mul_lt_mul_of_pos_right ?_ scale⟩
  · split <;> omega
  · omega

/-- Seventeen digits are enough to tell a number from its neighbours. -/
theorem interval_wide (h : x.isZero = false) :
    (10 : ℚ) ^ (floorLog (interval x).mid (interval x).den - 16) <
      ((interval x).hi - (interval x).lo) / (interval x).den := by
  have proper := proper_interval h
  have middle := floorLog_le (Nat.zero_lt_of_lt proper.lo_lt) proper.den_pos
  have significand : 0 < significandOf x.magnitude := significandOf_pos (by simpa [isZero] using h)
  have width : halfway x.magnitude =
      halfwayBelow x.magnitude + (2 + gapBelow x.magnitude) * 2 ^ exponentOf x.magnitude := by
    have : gapBelow x.magnitude ≤ 2 := by
      unfold gapBelow
      split <;> omega
    rw [halfway, halfwayBelow, ← Nat.add_mul]
    congr 1
    omega
  have narrow : 4 * significandOf x.magnitude < (2 + gapBelow x.magnitude) * 10 ^ 16 := by
    have := significandOf_lt x.magnitude
    unfold gapBelow
    rw [show twoTo 53 = 9007199254740992 from rfl] at this
    rw [twoTo_52]
    split <;> omega
  have scale : (0 : ℚ) < 2 ^ exponentOf x.magnitude * quarter := mul_pos (by positivity) quarter_pos
  rw [interval_mid] at middle
  rw [zpow_sub₀ (by norm_num), sub_div, interval_lo, interval_hi, width,
    div_lt_iff₀ (zpow_ten_pos 16)]
  calc (10 : ℚ) ^ floorLog (interval x).mid (interval x).den
      ≤ (4 * significandOf x.magnitude : Nat) * (2 ^ exponentOf x.magnitude * quarter) := by
        push_cast at middle ⊢
        linarith
    _ < ((2 + gapBelow x.magnitude) * 10 ^ 16 : Nat) * (2 ^ exponentOf x.magnitude * quarter) :=
        mul_lt_mul_of_pos_right (by exact_mod_cast narrow) scale
    _ = _ := by
        push_cast
        ring

/-- The shortest decimal of a number is nearest to it. -/
theorem contains_shortest (tie : Tie) (h : x.isZero = false) :
    (interval x).Contains (shortest tie x).value := by
  rw [shortest, value_stripped]
  exact Interval.contains_shortest (proper_interval h) tie (interval_wide h)

/-- Intervals of different numbers have no point in common: where two of them meet, one number is
odd and its interval is open. -/
theorem not_lt_of_contains (zx : x.isZero = false) (zy : y.isZero = false) {v : ℚ}
    (hx : (interval x).Contains v) (hy : (interval y).Contains v) :
    ¬ x.magnitude < y.magnitude := by
  intro lt
  obtain ⟨n, next⟩ : ∃ n, y.magnitude = n + 1 := ⟨y.magnitude - 1, by omega⟩
  have upper := hx.hi (proper_interval zx)
  have lower := hy.lo (proper_interval zy)
  simp only [interval_lo, interval_hi, interval_closed, next, halfwayBelow_succ] at upper lower
  have order : x.magnitude < n ∨ x.magnitude = n := by omega
  rcases order with order | order
  · have apart : (halfway x.magnitude : ℚ) * quarter < halfway n * quarter :=
      mul_lt_mul_of_pos_right (by exact_mod_cast halfway_strictMono order) quarter_pos
    rcases upper with upper | ⟨rfl, -⟩ <;> rcases lower with lower | ⟨meet, -⟩ <;> linarith
  · rw [order] at upper
    rcases upper with upper | ⟨rfl, even⟩ <;> rcases lower with lower | ⟨meet, even'⟩
    · linarith
    · linarith
    · linarith
    · omega

/-- The decimal of a number tells its magnitude. -/
theorem magnitude_eq_of_value (hx : x.isZero = false) (hy : y.isZero = false) {tie : Tie}
    (h : (shortest tie x).value = (shortest tie y).value) : x.magnitude = y.magnitude := by
  have inside := contains_shortest tie hx
  have inside' := contains_shortest tie hy
  rw [h] at inside
  exact Nat.le_antisymm (Nat.not_lt.1 (not_lt_of_contains hy hx inside' inside))
    (Nat.not_lt.1 (not_lt_of_contains hx hy inside inside'))

end Decimal

end BulkSql
