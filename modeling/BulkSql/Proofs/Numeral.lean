import BulkSql.Proofs.Atom
import BulkSql.Value

/-!
Numbers as lexemes. The shortest digits of a number are digits, and there are some wherever the
exponent is written; behind a negative exponent a number is three tokens.
-/
namespace BulkSql

namespace DecimalNotation

theorem digitChar_of_isDigit {c : Char} (h : c.isDigit = true) :
    digitChar (c.toNat - '0'.toNat) = c := by
  have le : '0'.toNat ≤ c.toNat := by
    simp only [Char.isDigit, Bool.and_eq_true, decide_eq_true_eq] at h
    exact h.1
  rw [digitChar, Nat.add_sub_cancel' le, Char.ofNat_toNat]

/-- The digits of a number but zero are those that it is written with. -/
theorem map_digitChar_digitList (n : Nat) :
    (Decimal.digitList n).map digitChar = if n = 0 then [] else Nat.toDigits 10 n := by
  by_cases h : n = 0
  · simp [Decimal.digitList, h]
  · have digits : ∀ c ∈ Nat.toDigits 10 n, digitChar (c.toNat - '0'.toNat) = c := fun c hc =>
      digitChar_of_isDigit (Nat.isDigit_of_mem_toDigits (by decide) (by decide) hc)
    have all : Decimal.digitList n = (Nat.toDigits 10 n).map fun c => c.toNat - '0'.toNat := by
      simp [Decimal.digitList, h]
    rw [if_neg h, all, List.map_map]
    exact (List.map_congr_left digits).trans (List.map_id _)

end DecimalNotation

namespace Decimal

theorem tenTo_pos (n : Nat) : 0 < tenTo n := Nat.pow_pos (by decide)

theorem twoTo_pos (n : Nat) : 0 < twoTo n := Nat.pow_pos (by decide)

/-- Zero is in no interval of positive numbers. -/
theorem Interval.contains_zero {i : Interval} (lo : 0 < i.lo) (hi : 0 < i.hi) (k : Int) :
    i.contains 0 k = false := by
  have below {n : Nat} (hn : 0 < n) : compareGrid i.den 0 k n = .lt := by
    have : 0 < n * tenTo (-k).toNat := Nat.mul_pos hn (tenTo_pos _)
    simp [compareGrid, Nat.compare_eq_lt, this]
  simp [contains, below lo, below hi]

theorem Interval.onGrid_ne_zero {i : Interval} (lo : 0 < i.lo) (hi : 0 < i.hi) {tie : Tie} {k : Int}
    {d : Decimal} (h : i.onGrid tie k = some d) : d.digits ≠ 0 := by
  have out := contains_zero lo hi k
  unfold onGrid at h
  grind

/-- Without a point on any grid the decimal is an integer. -/
theorem Interval.shortest_digits {i : Interval} (lo : 0 < i.lo) (hi : 0 < i.hi) (tie : Tie) :
    (i.shortest tie).digits ≠ 0 ∨ (i.shortest tie).exponent = 0 := by
  simp only [shortest]
  cases e : (List.range 17).findSome? fun (n : Nat) => i.onGrid tie (floorLog i.mid i.den - n) with
  | none => exact .inr rfl
  | some d =>
    obtain ⟨n, -, hd⟩ := List.exists_of_findSome?_eq_some e
    exact .inl (onGrid_ne_zero lo hi hd)

theorem foldl_zeros {l : List Nat} (h : ∀ d ∈ l, d = 0) :
    l.foldl (fun n d => 10 * n + d) 0 = 0 := by
  induction l with
  | nil => rfl
  | cons d l ih =>
    obtain rfl := h d (by simp)
    exact ih fun d hd => h d (by simp [hd])

/-- The digits are those of the number. -/
theorem foldl_digitList (n : Nat) : (digitList n).foldl (fun m d => 10 * m + d) 0 = n := by
  by_cases h : n = 0
  · simp [digitList, h]
  · have all : digitList n = (Nat.toDigits 10 n).map fun c => c.toNat - '0'.toNat := by
      simp [digitList, h]
    rw [all, List.foldl_map, ← Nat.ofDigitChars_eq_foldl]
    exact Nat.ofDigitChars_ten_toDigits

theorem length_digitList {n : Nat} (h : n ≠ 0) :
    (digitList n).length = (Nat.toDigits 10 n).length := by simp [digitList, h]

theorem stripped_digits {d : Decimal} (h : d.digits ≠ 0) : d.stripped.digits ≠ 0 := by
  let zeros := ((digitList d.digits).reverse.takeWhile (· == 0)).length
  have short : zeros < (digitList d.digits).length := by
    rcases Nat.lt_or_ge zeros (digitList d.digits).length with lt | ge
    · exact lt
    · have all : (digitList d.digits).reverse.takeWhile (· == 0) = (digitList d.digits).reverse :=
        (List.takeWhile_prefix _).eq_of_length_le (by simpa using ge)
      have zero : ∀ x ∈ digitList d.digits, x = 0 := fun x hx => by
        have every : (digitList d.digits).reverse.all (· == 0) = true := all ▸ List.all_takeWhile
        simpa using List.all_eq_true.1 every x (List.mem_reverse.2 hx)
      exact absurd (foldl_digitList d.digits ▸ foldl_zeros zero) h
  have large : tenTo zeros ≤ d.digits := by
    rcases Nat.lt_or_ge d.digits (tenTo zeros) with lt | ge
    · rcases Nat.eq_zero_or_pos zeros with zero | pos
      · rw [zero, tenTo_zero] at lt
        omega
      · have := (Nat.length_toDigits_le_iff (by decide) pos).2 lt
        rw [length_digitList h] at short
        omega
    · exact ge
  exact Nat.ne_of_gt (Nat.div_pos large (tenTo_pos zeros))

theorem stripped_exponent {d : Decimal} (h : d.digits = 0) : d.stripped.exponent = d.exponent := by
  simp [stripped, h, digitList]

/-- Of a number that is not zero there are digits, or else its decimal is that of an integer. -/
theorem shortest_digits (tie : Tie) {x : Binary64} (h : x.isZero = false) :
    (shortest tie x).digits ≠ 0 ∨ (shortest tie x).exponent = 0 := by
  have significand : 0 < x.significand := by
    simp only [Binary64.isZero, beq_eq_false_iff_ne] at h
    unfold Binary64.significand
    split
    · omega
    · have := twoTo_pos 52
      omega
  have lo : 0 < (interval x).lo := by
    refine Nat.mul_pos ?_ (twoTo_pos _)
    split <;> omega
  have hi : 0 < (interval x).hi := Nat.mul_pos (by omega) (twoTo_pos _)
  by_cases zero : ((interval x).shortest tie).digits = 0
  · right
    rw [shortest, stripped_exponent zero]
    exact (Interval.shortest_digits lo hi tie).resolve_left (by simpa using zero)
  · exact .inl (stripped_digits zero)

end Decimal

/-! ### The tokens of a number -/

namespace Lexeme

/-- The token of a number. -/
def number (t : Sql) : Lexeme := .token .number t

/-- The minus sign. -/
def minus : Lexeme := symbol '-'

@[simp] theorem text_number (t : Sql) : (number t).text = t := rfl

@[simp] theorem text_minus : minus.text = ['-'] := rfl

theorem wellFormed_minus : minus.WellFormed := .symbol (by decide)

/-- A digit, and behind it only letters, digits and dots. -/
def isNumber : Sql → Bool
  | [] => false
  | c :: t => c.isDigit && t.all isNumberPart

theorem wellFormed_number {t : Sql} (h : isNumber t = true) : (number t).WellFormed := by
  cases t with
  | nil => cases h
  | cons c t =>
    simp only [isNumber, Bool.and_eq_true] at h
    exact .number (by simp [h.1]) h.2

theorem isNumber_of_digits {t : Sql} (ne : t ≠ []) (h : ∀ c ∈ t, c.isDigit = true) :
    isNumber t = true := by
  cases t with
  | nil => exact absurd rfl ne
  | cons c t =>
    simp only [List.forall_mem_cons] at h
    simp only [isNumber, h.1, Bool.true_and, List.all_eq_true]
    exact fun d hd => by simp [isNumberPart, Char.isAlphanum, h.2 d hd]

theorem ne_minus_of_isDigit {c : Char} (h : c.isDigit = true) : c ≠ '-' := by
  rintro rfl
  cases h

theorem exists_digit_of_isNumber {t : Sql} (h : isNumber t = true) :
    ∃ c r, t = c :: r ∧ c.isDigit = true := by
  cases t with
  | nil => cases h
  | cons c r => exact ⟨c, r, rfl, by simp_all [isNumber]⟩

theorem all_isNumberPart {t : Sql} (h : isNumber t = true) : t.all isNumberPart = true := by
  cases t with
  | nil => cases h
  | cons c t =>
    simp only [isNumber, Bool.and_eq_true] at h
    simp [isNumberPart, Char.isAlphanum, h.1, h.2]

theorem isNumber_append {s t : Sql} (hs : isNumber s = true) (ht : t.all isNumberPart = true) :
    isNumber (s ++ t) = true := by
  cases s with
  | nil => cases hs
  | cons c s => simpa [isNumber, ht] using hs

theorem isNumber_toDigits (n : Nat) : isNumber (Nat.toDigits 10 n) = true :=
  isNumber_of_digits Nat.toDigits_ne_nil fun _ => Nat.isDigit_of_mem_toDigits (by decide) (by decide)

end Lexeme

open Lexeme

namespace DecimalNotation

theorem isNumber_withPoint {digits : Sql} (h : ∀ c ∈ digits, c.isDigit = true) (count : Int) :
    isNumber (withPoint digits count) = true := by
  have part : ∀ c ∈ digits, isNumberPart c = true := fun c hc => by
    simp [isNumberPart, Char.isAlphanum, h c hc]
  unfold withPoint
  split
  · refine isNumber_append (s := ['0']) (by decide) ?_
    simpa [isNumberPart] using part
  · next pos =>
    refine isNumber_append (isNumber_of_digits ?_ ?_) ?_
    · apply List.ne_nil_of_length_pos
      simp only [List.length_append, List.length_replicate, List.length_take]
      omega
    · intro c hc
      rcases List.mem_append.1 hc with hc | hc
      · exact h c (List.mem_of_mem_take hc)
      · rw [List.eq_of_mem_replicate hc]
        decide
    · simp only [List.all_cons, Bool.and_eq_true, List.all_eq_true]
      refine ⟨by decide, fun c hc => ?_⟩
      split at hc
      · obtain rfl : c = '0' := by simpa using hc
        decide
      · exact part c (List.mem_of_mem_drop hc)

/-- The digits in front of an exponent. -/
def mantissa : Sql → Sql
  | d :: e :: rest => d :: '.' :: e :: rest
  | short => short

theorem withExponent_eq (digits : Sql) (exponent : Int) :
    withExponent false digits exponent = mantissa digits ++ 'e' :: (toString exponent).toList := by
  unfold withExponent mantissa
  split <;> simp

theorem isNumber_mantissa {digits : Sql} (ne : digits ≠ []) (h : ∀ c ∈ digits, c.isDigit = true) :
    isNumber (mantissa digits) = true := by
  unfold mantissa
  split
  · next d e rest =>
    simp only [List.forall_mem_cons] at h
    have := isNumber_of_digits (t := e :: rest) (by simp) (by simpa using h.2)
    simp only [isNumber, Bool.and_eq_true] at this
    simp [isNumber, isNumberPart, Char.isAlphanum, h.1, h.2.1]
    exact fun c hc => by simp [h.2.2 c hc]
  · exact isNumber_of_digits ne h

/-- The lexemes of digits of which the first has the exponent `exponent`. An exponent below zero is a
token of its own. -/
def lexemes (digits : Sql) (exponent : Int) : List Lexeme :=
  if -4 ≤ exponent ∧ exponent < 16 then [number (withPoint digits (exponent + 1))]
  else if exponent < 0 then
    [number (mantissa digits ++ ['e']), minus, number (Nat.toDigits 10 (-exponent).toNat)]
  else [number (mantissa digits ++ 'e' :: Nat.toDigits 10 exponent.toNat)]

theorem written_lexemes (digits : Sql) (exponent : Int) :
    written (lexemes digits exponent) =
      if -4 ≤ exponent ∧ exponent < 16 then withPoint digits (exponent + 1)
      else withExponent false digits exponent := by
  unfold lexemes
  split
  · simp
  · rw [withExponent_eq, Int.toString_eq_repr, Int.repr_eq_if]
    split
    · rw [if_neg (by omega)]
      simp
    · rw [if_pos (by omega)]
      simp

/-- The lexemes are a number, or two with a minus sign between them. -/
theorem lexemes_eq {digits : Sql} {exponent : Int} (h : ∀ c ∈ digits, c.isDigit = true)
    (ne : digits ≠ [] ∨ exponent = -1) :
    ∃ t, isNumber t = true ∧ (lexemes digits exponent = [number t] ∨
      ∃ u, isNumber u = true ∧ lexemes digits exponent = [number t, minus, number u]) := by
  unfold lexemes
  split
  · exact ⟨_, isNumber_withPoint h _, .inl rfl⟩
  · have front := isNumber_mantissa (ne.resolve_right (by omega)) h
    split
    · exact ⟨_, isNumber_append front (by decide), .inr ⟨_, isNumber_toDigits _, rfl⟩⟩
    · have behind := all_isNumberPart (isNumber_toDigits exponent.toNat)
      exact ⟨_, isNumber_append front (by simp [isNumberPart, behind]), .inl rfl⟩

end DecimalNotation

namespace Binary64

open DecimalNotation

/-- The lexemes of a finite number without its sign. -/
def numeral (x : Binary64) : List Lexeme :=
  if x.isZero then [number "0.0".toList]
  else
    let d := Decimal.shortest .up x
    let digits := (Decimal.digitList d.digits).map digitChar
    lexemes digits (d.exponent + digits.length - 1)

/-- The sign of a number, if it has one. -/
def sign (x : Binary64) : List Lexeme := if x.isNegative then [minus] else []

theorem written_numeral (x : Binary64) :
    written (x.sign ++ x.numeral) = Value.floatNotation.finite x := by
  have hs : (if x.isNegative then ['-'] else []) = written x.sign := by
    unfold sign
    split <;> rfl
  unfold DecimalNotation.finite numeral
  simp only [hs, written_append]
  split
  · simp
  · rw [written_lexemes]
    rfl

/-- The digits of a number that is not zero; there are some if the exponent is far from zero. -/
theorem digits_of_shortest {x : Binary64} (h : x.isZero = false) :
    let d := Decimal.shortest .up x
    let digits := (Decimal.digitList d.digits).map digitChar
    (∀ c ∈ digits, c.isDigit = true) ∧ (digits ≠ [] ∨ d.exponent + digits.length - 1 = -1) := by
  intro d digits
  have all : digits = if d.digits = 0 then [] else Nat.toDigits 10 d.digits :=
    map_digitChar_digitList _
  constructor
  · intro c hc
    rw [all] at hc
    split at hc
    · cases hc
    · exact Nat.isDigit_of_mem_toDigits (by decide) (by decide) hc
  · by_cases zero : d.digits = 0
    · right
      have := (Decimal.shortest_digits .up h).resolve_left (by simpa using zero)
      rw [all, if_pos zero]
      simp [d, this]
    · left
      rw [all, if_neg zero]
      exact Nat.toDigits_ne_nil

theorem numeral_eq (x : Binary64) :
    ∃ t, isNumber t = true ∧ (x.numeral = [number t] ∨
      ∃ u, isNumber u = true ∧ x.numeral = [number t, minus, number u]) := by
  unfold numeral
  split
  · exact ⟨_, by decide, .inl rfl⟩
  · next h =>
    obtain ⟨digits, ne⟩ := digits_of_shortest (x := x) (by simpa using h)
    exact lexemes_eq digits ne

end Binary64

end BulkSql
