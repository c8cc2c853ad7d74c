import BulkSql.Proofs.Shortest

/-!
The written form of a number tells which number it is, the sign of a zero included.
-/
namespace BulkSql

/-- A run of characters ends at the first one that is none of its characters. -/
theorem run_append_inj {p : Char → Bool} {s t r u : Sql} (hs : ∀ c ∈ s, p c = true)
    (ht : ∀ c ∈ t, p c = true) (hr : ∀ c ∈ r.head?, p c = false)
    (hu : ∀ c ∈ u.head?, p c = false) (h : s ++ r = t ++ u) : s = t ∧ r = u := by
  have front {s r : Sql} (hs : ∀ c ∈ s, p c = true) (hr : ∀ c ∈ r.head?, p c = false) :
      (s ++ r).takeWhile p = s := by
    rw [List.takeWhile_append_of_pos hs]
    cases r with
    | nil => simp
    | cons c r => rw [List.takeWhile_cons_of_neg (by simp [hr c rfl]), List.append_nil]
  have same : s = t := by rw [← front hs hr, h, front ht hu]
  subst same
  exact ⟨rfl, List.append_cancel_left h⟩

namespace DecimalNotation

variable {digits : Sql} {count exponent : Int} {signed : Bool}

/-- The number that digits stand for. -/
abbrev number (digits : Sql) : Nat := Nat.ofDigitChars 10 digits 0

/-! ### Positional notation -/

/-- The number that digits with a point stand for. -/
def pointValue (s : Sql) : ℚ :=
  number (s.filter (· != '.')) / 10 ^ ((s.dropWhile (· != '.')).length - 1)

theorem ne_point_of_isDigit {c : Char} (h : c.isDigit = true) : (c != '.') = true := by
  rw [bne_iff_ne]
  rintro rfl
  cases h

theorem filter_point (h : ∀ c ∈ digits, c.isDigit = true) : digits.filter (· != '.') = digits :=
  List.filter_eq_self.2 fun c hc => ne_point_of_isDigit (h c hc)

theorem pointValue_point {whole fraction : Sql} (hw : ∀ c ∈ whole, c.isDigit = true)
    (hf : ∀ c ∈ fraction, c.isDigit = true) :
    pointValue (whole ++ '.' :: fraction) =
      number (whole ++ fraction) / 10 ^ fraction.length := by
  have behind : (whole ++ '.' :: fraction).dropWhile (· != '.') = '.' :: fraction := by
    rw [List.dropWhile_append_of_pos fun c hc => ne_point_of_isDigit (hw c hc)]
    rfl
  rw [pointValue, behind, List.filter_append, filter_point hw, List.filter_cons_of_neg (by decide),
    filter_point hf]
  rfl

theorem isDigit_zeros (n : Nat) : ∀ c ∈ List.replicate n '0', c.isDigit = true := by
  intro c hc
  rw [List.eq_of_mem_replicate hc]
  decide

theorem number_zeros_append (n : Nat) (s : Sql) :
    number (List.replicate n '0' ++ s) = number s := by
  rw [number, Nat.ofDigitChars_append, Nat.ofDigitChars_replicate_zero, Nat.mul_zero]

theorem number_append_zeros (s : Sql) (n : Nat) :
    number (s ++ List.replicate n '0') = number s * 10 ^ n := by
  rw [number, Nat.ofDigitChars_append, Nat.ofDigitChars_replicate_zero, Nat.mul_comm]

/-- A point behind the first `count` digits divides by a power of ten for each digit behind it. -/
theorem pointValue_withPoint (h : ∀ c ∈ digits, c.isDigit = true) (count : Int) :
    pointValue (withPoint digits count) = number digits * 10 ^ (count - digits.length) := by
  have ten : (10 : ℚ) ≠ 0 := by norm_num
  unfold withPoint
  split
  · next small =>
    have zeros := List.forall_mem_append.2 ⟨isDigit_zeros (-count).toNat, h⟩
    refine (@pointValue_point ['0'] _ (by simp) zeros).trans ?_
    have whole : number (['0'] ++ (List.replicate (-count).toNat '0' ++ digits)) = number digits :=
      number_zeros_append ((-count).toNat + 1) digits
    rw [whole, div_eq_mul_inv, ← zpow_natCast, ← zpow_neg]
    congr 2
    simp only [List.length_append, List.length_replicate]
    omega
  · next large =>
    obtain ⟨n, rfl⟩ := Int.eq_ofNat_of_zero_le (Int.le_of_lt (Int.not_le.1 large))
    have taken : ∀ c ∈ digits.take n, c.isDigit = true := fun c hc => h c (List.mem_of_mem_take hc)
    have dropped : ∀ c ∈ digits.drop n, c.isDigit = true := fun c hc =>
      h c (List.mem_of_mem_drop hc)
    simp only [Int.toNat_natCast]
    rcases Nat.lt_or_ge n digits.length with inside | beyond
    · have some : digits.drop n ≠ [] := by simpa using inside
      have none : n - (digits.take n).length = 0 := by
        rw [List.length_take]
        omega
      rw [none, if_neg some, List.replicate_zero, List.append_nil, pointValue_point taken dropped,
        List.take_append_drop, div_eq_mul_inv, ← zpow_natCast, ← zpow_neg]
      congr 2
      rw [List.length_drop]
      omega
    · have all : digits.take n = digits := List.take_of_length_le beyond
      rw [List.drop_eq_nil_of_le beyond, all, if_pos rfl,
        pointValue_point (List.forall_mem_append.2 ⟨h, isDigit_zeros _⟩) (by simp), List.append_assoc,
        ← List.replicate_succ', number_append_zeros, List.length_singleton, pow_one, Nat.cast_mul,
        Nat.cast_pow, Nat.cast_ofNat, pow_succ, ← mul_assoc, mul_div_cancel_right₀ _ ten,
        ← zpow_natCast, Nat.cast_sub beyond]

/-! ### Notation with an exponent -/

/-- The exponent as it stands behind the letter. -/
def exponentText (signed : Bool) (exponent : Int) : Sql :=
  (if signed && 0 ≤ exponent then ['+'] else []) ++ (toString exponent).toList

theorem withExponent_eq_append (signed : Bool) (digits : Sql) (exponent : Int) :
    withExponent signed digits exponent =
      mantissa digits ++ 'e' :: exponentText signed exponent := rfl

theorem filter_mantissa (h : ∀ c ∈ digits, c.isDigit = true) :
    (mantissa digits).filter (· != '.') = digits := by
  unfold mantissa
  split
  · next d e rest =>
    have parts := filter_point h
    simp only [List.filter_cons, bne_self_eq_false, Bool.false_eq_true, if_false] at parts ⊢
    exact parts
  · exact filter_point h

theorem ne_e_of_mem_mantissa (h : ∀ c ∈ digits, c.isDigit = true) :
    ∀ c ∈ mantissa digits, (c != 'e') = true := by
  have digit {c : Char} (hc : c.isDigit = true) : (c != 'e') = true := by
    rw [bne_iff_ne]
    rintro rfl
    cases hc
  unfold mantissa
  split
  · next d e rest =>
    simp only [List.forall_mem_cons] at h ⊢
    exact ⟨digit h.1, by decide, digit h.2.1, fun c hc => digit (h.2.2 c hc)⟩
  · exact fun c hc => digit (h c hc)

theorem toString_toList_inj {i j : Int} : (toString i).toList = (toString j).toList ↔ i = j := by
  rw [String.toList_inj, Int.toString_eq_repr, Int.toString_eq_repr, Int.repr_inj]

/-- An integer is written in digits, with a minus sign in front where it is negative. -/
theorem mem_toString_int {i : Int} {c : Char} (h : c ∈ (toString i).toList) :
    c.isDigit = true ∨ c = '-' := by
  have digit {n : Nat} (hc : c ∈ n.repr.toList) : c.isDigit = true := by
    have hc : c ∈ Nat.toDigits 10 n := by simpa using hc
    exact Nat.isDigit_of_mem_toDigits (by decide) (by decide) hc
  rw [Int.toString_eq_repr, Int.repr_eq_if] at h
  split at h
  · exact .inl (digit h)
  · rw [String.toList_append] at h
    rcases List.mem_append.1 h with h | h
    · exact .inr (by simpa using h)
    · exact .inl (digit h)

theorem filter_exponentText (signed : Bool) (i : Int) :
    (exponentText signed i).filter (· != '+') = (toString i).toList := by
  have plain : (toString i).toList.filter (· != '+') = (toString i).toList := by
    refine List.filter_eq_self.2 fun c hc => ?_
    rw [bne_iff_ne]
    rintro rfl
    rcases mem_toString_int hc with h | h <;> cases h
  unfold exponentText
  rw [List.filter_append, plain]
  split <;> rfl

theorem exponentText_inj {i j : Int} (h : exponentText signed i = exponentText signed j) :
    i = j := by
  rw [← toString_toList_inj, ← filter_exponentText signed, h, filter_exponentText]

/-- Digits and exponent are read off. -/
theorem withExponent_inj {digits' : Sql} {exponent' : Int} (h : ∀ c ∈ digits, c.isDigit = true)
    (h' : ∀ c ∈ digits', c.isDigit = true)
    (same : withExponent signed digits exponent = withExponent signed digits' exponent') :
    digits = digits' ∧ exponent = exponent' := by
  rw [withExponent_eq_append, withExponent_eq_append] at same
  obtain ⟨front, behind⟩ := run_append_inj (ne_e_of_mem_mantissa h) (ne_e_of_mem_mantissa h')
    (by simp) (by simp) same
  refine ⟨?_, exponentText_inj (List.cons.inj behind).2⟩
  rw [← filter_mantissa h, front, filter_mantissa h']

/-! ### Numbers -/

/-- The digits of a decimal. -/
def digitsOf (d : Decimal) : Sql := (Decimal.digitList d.digits).map digitChar

theorem isDigit_digitsOf (d : Decimal) : ∀ c ∈ digitsOf d, c.isDigit = true := by
  rw [digitsOf, map_digitChar_digitList]
  split
  · simp
  · exact fun c hc => Nat.isDigit_of_mem_toDigits (by decide) (by decide) hc

theorem number_digitsOf (d : Decimal) : number (digitsOf d) = d.digits := by
  rw [digitsOf, map_digitChar_digitList]
  split
  · next zero => exact zero.symm
  · exact Nat.ofDigitChars_ten_toDigits

/-- The text of a decimal. -/
def decimalText (f : DecimalNotation) (d : Decimal) : Sql :=
  let exponent := d.exponent + (digitsOf d).length - 1
  if f.leastPlain ≤ exponent ∧ exponent < f.leastScientific then
    withPoint (digitsOf d) (exponent + 1)
  else withExponent f.signedExponent (digitsOf d) exponent

/-- A character of digits with a point. -/
def isPlainDigit (c : Char) : Bool := c.isDigit || c == '.'

theorem isPlainDigit_withPoint (h : ∀ c ∈ digits, c.isDigit = true) (count : Int) :
    ∀ c ∈ withPoint digits count, isPlainDigit c = true := by
  have digit : ∀ c : Char, c.isDigit = true → isPlainDigit c = true := fun c hc => by
    simp [isPlainDigit, hc]
  have zeros (n : Nat) : ∀ c ∈ List.replicate n '0', isPlainDigit c = true := fun c hc =>
    digit c (isDigit_zeros n c hc)
  unfold withPoint
  split
  · simp only [List.forall_mem_cons, List.forall_mem_append]
    exact ⟨by decide, by decide, zeros _, fun c hc => digit c (h c hc)⟩
  · simp only [List.forall_mem_cons, List.forall_mem_append]
    refine ⟨⟨fun c hc => digit c (h c (List.mem_of_mem_take hc)), zeros _⟩, by decide, ?_⟩
    split
    · simpa using digit '0' (by decide)
    · exact fun c hc => digit c (h c (List.mem_of_mem_drop hc))

/-- Where no exponent is written, the value is that of the digits with their point. -/
theorem pointValue_decimalText {f : DecimalNotation} {d : Decimal} (h : 'e' ∉ decimalText f d) :
    pointValue (decimalText f d) = d.value := by
  unfold decimalText at h ⊢
  dsimp only at h ⊢
  split
  · rw [pointValue_withPoint (isDigit_digitsOf d), number_digitsOf, Decimal.value]
    congr 2
    omega
  · next scientific =>
    rw [if_neg scientific, withExponent_eq_append] at h
    exact absurd (by simp) h

theorem value_eq_of_decimalText {f : DecimalNotation} {d d' : Decimal}
    (h : decimalText f d = decimalText f d') : d.value = d'.value := by
  by_cases letter : 'e' ∈ decimalText f d
  · have scientific {d : Decimal} (letter : 'e' ∈ decimalText f d) : decimalText f d =
        withExponent f.signedExponent (digitsOf d) (d.exponent + (digitsOf d).length - 1) := by
      unfold decimalText at letter ⊢
      dsimp only at letter ⊢
      split
      · next plain =>
        rw [if_pos plain] at letter
        exact absurd (isPlainDigit_withPoint (isDigit_digitsOf d) _ _ letter) (by decide)
      · rfl
    have letter' : 'e' ∈ decimalText f d' := h ▸ letter
    rw [scientific letter, scientific letter'] at h
    obtain ⟨digits, exponent⟩ := withExponent_inj (isDigit_digitsOf d) (isDigit_digitsOf d') h
    have same : d.digits = d'.digits := by rw [← number_digitsOf d, digits, number_digitsOf]
    rw [digits] at exponent
    rw [Decimal.value, Decimal.value, same, show d.exponent = d'.exponent by omega]
  · rw [← pointValue_decimalText letter, h, pointValue_decimalText (h ▸ letter)]

theorem mem_point_withPoint (digits : Sql) (count : Int) : '.' ∈ withPoint digits count := by
  unfold withPoint
  split <;> simp

/-- The text of a decimal has a point or an exponent. -/
theorem exists_mark_decimalText (f : DecimalNotation) (d : Decimal) :
    ∃ c ∈ decimalText f d, c = '.' ∨ c = 'e' := by
  unfold decimalText
  dsimp only
  split
  · exact ⟨'.', mem_point_withPoint _ _, .inl rfl⟩
  · exact ⟨'e', by simp [withExponent_eq_append], .inr rfl⟩

/-- A character of a number. -/
def isNumeral (c : Char) : Bool := c.isDigit || c == '.' || c == 'e' || c == '+' || c == '-'

theorem isNumeral_of_isPlainDigit {c : Char} (h : isPlainDigit c = true) : isNumeral c = true := by
  simp only [isPlainDigit] at h
  simp [isNumeral, h]

theorem isNumeral_toString_int (i : Int) : ∀ c ∈ (toString i).toList, isNumeral c = true := by
  intro c hc
  rcases mem_toString_int hc with h | rfl
  · simp [isNumeral, h]
  · decide

theorem isNumeral_decimalText (f : DecimalNotation) (d : Decimal) :
    ∀ c ∈ decimalText f d, isNumeral c = true := by
  have digits : ∀ c ∈ digitsOf d, isNumeral c = true := fun c hc => by
    simp [isNumeral, isDigit_digitsOf d c hc]
  unfold decimalText
  dsimp only
  split
  · exact fun c hc =>
      isNumeral_of_isPlainDigit (isPlainDigit_withPoint (isDigit_digitsOf d) _ c hc)
  · rw [withExponent_eq_append]
    simp only [List.forall_mem_append, List.forall_mem_cons]
    refine ⟨?_, by decide, ?_⟩
    · unfold mantissa
      split
      · next d e rest whole =>
        rw [whole] at digits
        simp only [List.forall_mem_cons] at digits ⊢
        exact ⟨digits.1, by decide, digits.2⟩
      · exact digits
    · unfold exponentText
      simp only [List.forall_mem_append]
      refine ⟨?_, isNumeral_toString_int _⟩
      split <;> simp [isNumeral]

/-- The text of a number without its sign. -/
def magnitudeText (f : DecimalNotation) (x : Binary64) : Sql :=
  if x.isZero then ['0', '.', '0'] else decimalText f (Decimal.shortest f.tie x)

theorem finite_eq (f : DecimalNotation) (x : Binary64) :
    f.finite x = (if x.isNegative then ['-'] else []) ++ magnitudeText f x := by
  unfold finite magnitudeText
  dsimp only
  by_cases zero : x.isZero
  · rw [if_pos zero, if_pos zero]
  · rw [if_neg zero, if_neg zero]
    rfl

theorem exists_mark_magnitudeText (f : DecimalNotation) (x : Binary64) :
    ∃ c ∈ magnitudeText f x, c = '.' ∨ c = 'e' := by
  unfold magnitudeText
  split
  · exact ⟨'.', by simp, .inl rfl⟩
  · exact exists_mark_decimalText _ _

/-- The text of a number is not that of an integer. -/
theorem exists_mark_finite (f : DecimalNotation) (x : Binary64) :
    ∃ c ∈ f.finite x, c = '.' ∨ c = 'e' := by
  obtain ⟨c, hc, mark⟩ := exists_mark_magnitudeText f x
  exact ⟨c, finite_eq f x ▸ List.mem_append_right _ hc, mark⟩

theorem isNumeral_finite (f : DecimalNotation) (x : Binary64) :
    ∀ c ∈ f.finite x, isNumeral c = true := by
  have magnitude : ∀ c ∈ magnitudeText f x, isNumeral c = true := by
    unfold magnitudeText
    split
    · simp [isNumeral]
    · exact isNumeral_decimalText _ _
  rw [finite_eq]
  refine List.forall_mem_append.2 ⟨?_, magnitude⟩
  split <;> simp [isNumeral]

end DecimalNotation

/-! ### The text of a number tells the number -/

theorem Binary64.eq_of_magnitude {x y : Binary64} (negative : x.isNegative = y.isNegative)
    (h : x.magnitude = y.magnitude) : x = y := by
  have bits (x : Binary64) :
      x.bits.toNat = (if x.isNegative then signBit else 0) + x.magnitude := by
    have limit : x.bits.toNat < 2 * signBit := x.bits.toNat_lt
    simp only [isNegative, magnitude, decide_eq_true_eq]
    split
    · rw [Nat.mod_eq_sub_mod (by omega), Nat.mod_eq_of_lt (by omega)]
      omega
    · rw [Nat.mod_eq_of_lt (by omega), Nat.zero_add]
  obtain ⟨x⟩ := x
  obtain ⟨y⟩ := y
  congr 1
  exact UInt64.toNat_inj.1 ((bits ⟨x⟩).trans (by rw [negative, h, ← bits ⟨y⟩]))

theorem Decimal.value_shortest_pos {x : Binary64} (h : x.isZero = false) (tie : Tie) :
    0 < (shortest tie x).value := by
  have lower := (contains_shortest tie h).lo (proper_interval h)
  obtain ⟨n, next⟩ : ∃ n, x.magnitude = n + 1 :=
    ⟨x.magnitude - 1, by simp [Binary64.isZero] at h; omega⟩
  have positive : (0 : ℚ) < Binary64.halfway n * quarter :=
    mul_pos (by exact_mod_cast Nat.mul_pos (by omega) (by positivity)) quarter_pos
  rw [interval_lo, next, Binary64.halfwayBelow_succ] at lower
  rcases lower with above | ⟨meet, -⟩
  · exact positive.trans above
  · exact meet ▸ positive

namespace DecimalNotation

open Lexeme (exists_digit_of_isNumber ne_minus_of_isDigit)

variable {f : DecimalNotation} {x y : Binary64}

/-- A number starts with a digit behind its sign. -/
theorem magnitudeText_head (f : DecimalNotation) (x : Binary64) :
    ∃ c r, magnitudeText f x = c :: r ∧ c.isDigit = true := by
  unfold magnitudeText
  split
  · exact ⟨_, _, rfl, by decide⟩
  · next nonzero =>
    have some : digitsOf (Decimal.shortest f.tie x) ≠ [] := by
      intro none
      have zero := number_digitsOf (Decimal.shortest f.tie x)
      rw [none] at zero
      have positive := Decimal.value_shortest_pos (Bool.eq_false_iff.2 nonzero) f.tie
      rw [Decimal.value, ← zero] at positive
      simp at positive
    have digits := isDigit_digitsOf (Decimal.shortest f.tie x)
    unfold decimalText
    dsimp only
    split
    · exact exists_digit_of_isNumber (isNumber_withPoint digits _)
    · obtain ⟨c, r, front, digit⟩ := exists_digit_of_isNumber (isNumber_mantissa some digits)
      exact ⟨c, _, by rw [withExponent_eq_append, front, List.cons_append], digit⟩

theorem magnitudeText_ne_minus (f : DecimalNotation) (x : Binary64) (r : Sql) :
    magnitudeText f x ≠ '-' :: r := by
  obtain ⟨c, s, text, digit⟩ := magnitudeText_head f x
  rw [text]
  rintro ⟨⟩
  exact ne_minus_of_isDigit digit rfl

theorem decimalText_ne_zero {d : Decimal} (h : 0 < d.value) :
    decimalText f d ≠ ['0', '.', '0'] := by
  intro zero
  have value : pointValue (decimalText f d) = d.value := pointValue_decimalText (by simp [zero])
  rw [zero] at value
  exact absurd (value.symm.trans (by simp [pointValue, Nat.ofDigitChars])) h.ne'

theorem magnitude_eq_of_text (h : magnitudeText f x = magnitudeText f y) :
    x.magnitude = y.magnitude := by
  have positive {x : Binary64} (hx : ¬ x.isZero = true) :=
    Decimal.value_shortest_pos (Bool.eq_false_iff.2 hx) f.tie
  unfold magnitudeText at h
  split at h <;> split at h
  · next hx hy =>
    simp only [Binary64.isZero, beq_iff_eq] at hx hy
    rw [hx, hy]
  · next hy => exact absurd h.symm (decimalText_ne_zero (positive hy))
  · next hx _ => exact absurd h (decimalText_ne_zero (positive hx))
  · next hx hy =>
    exact Decimal.magnitude_eq_of_value (Bool.eq_false_iff.2 hx) (Bool.eq_false_iff.2 hy)
      (value_eq_of_decimalText h)

/-- The text of a number tells the number. -/
theorem finite_inj (h : f.finite x = f.finite y) : x = y := by
  rw [finite_eq, finite_eq] at h
  cases hx : x.isNegative <;> cases hy : y.isNegative <;>
    simp only [hx, hy, if_true, Bool.false_eq_true, if_false, List.nil_append,
      List.singleton_append] at h
  · exact Binary64.eq_of_magnitude (hx.trans hy.symm) (magnitude_eq_of_text h)
  · exact absurd h (magnitudeText_ne_minus _ _ _)
  · exact absurd h.symm (magnitudeText_ne_minus _ _ _)
  · exact Binary64.eq_of_magnitude (hx.trans hy.symm) (magnitude_eq_of_text (List.cons.inj h).2)

end DecimalNotation

end BulkSql
