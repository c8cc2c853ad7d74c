import BulkSql.Instant
import BulkSql.Proofs.Notation

/-!
The text of an instant tells the instant: its date counts the days, and every part of the text is a
run of digits that the next mark ends.
-/
namespace BulkSql

namespace Date

/-- A day of an era: its century, the group of four years and the year in it, and the day of that
year. Only the last year of a group has a leap day, and the last group of a century only in the last
century. -/
structure Place (n c a s u : Nat) : Prop where
  century : c ≤ 3
  group : a ≤ 24
  year : s ≤ 3
  day : u ≤ 365
  leap : u = 365 → s = 3 ∧ (a = 24 → c = 3)
  eq : n = 36524 * c + 1461 * a + 365 * s + u

theorem exists_place {n : Nat} (h : n < 146097) : ∃ c a s u, Place n c a s u := by
  obtain ⟨c, hc, r, hr, short, rfl⟩ :
      ∃ c ≤ 3, ∃ r ≤ 36524, (r = 36524 → c = 3) ∧ n = 36524 * c + r :=
    ⟨min (n / 36524) 3, by omega, n - 36524 * min (n / 36524) 3, by omega, by omega, by omega⟩
  obtain ⟨a, ha, t, ht, rfl⟩ : ∃ a ≤ 24, ∃ t ≤ 1460, r = 1461 * a + t :=
    ⟨r / 1461, by omega, r % 1461, by omega, by omega⟩
  obtain ⟨s, hs, u, hu, last, rfl⟩ : ∃ s ≤ 3, ∃ u ≤ 365, (u = 365 → s = 3) ∧ t = 365 * s + u :=
    ⟨min (t / 365) 3, by omega, t - 365 * min (t / 365) 3, by omega, by omega, by omega⟩
  exact ⟨c, a, s, u, hc, ha, hs, hu, fun hu => ⟨last hu, fun ha => short (by omega)⟩, by omega⟩

theorem Place.yearOfEra {n c a s u : Nat} (h : Place n c a s u) :
    (n - n / 1460 + n / 36524 - n / 146096) / 365 = 100 * c + 4 * a + s := by
  obtain ⟨hc, ha, hs, hu, leap, rfl⟩ := h
  set w := 24 * c + a + 365 * s + u with hw
  have short : (36524 * c + 1461 * a + 365 * s + u) / 1460 = 25 * c + a + w / 1460 := by
    rw [show 36524 * c + 1461 * a + 365 * s + u = 1460 * (25 * c + a) + w by omega,
      Nat.mul_add_div (by decide)]
  have few : w / 1460 ≤ 1 := by omega
  have some : w / 1460 ≤ u := by omega
  have full : u = 365 → 1 ≤ w / 1460 := by omega
  have centuries : (36524 * c + 1461 * a + 365 * s + u) / 36524 -
      (36524 * c + 1461 * a + 365 * s + u) / 146096 = c := by
    rcases Nat.lt_or_ge (1461 * a + 365 * s + u) 36524 with inside | last
    · rw [Nat.add_assoc, Nat.add_assoc, ← Nat.add_assoc (1461 * a), Nat.mul_add_div (by decide),
        Nat.div_eq_of_lt inside, Nat.div_eq_of_lt (by omega)]
      omega
    · obtain rfl : c = 3 := by omega
      omega
  have order : (36524 * c + 1461 * a + 365 * s + u) / 146096 ≤
      (36524 * c + 1461 * a + 365 * s + u) / 36524 := Nat.div_le_div_left (by decide) (by decide)
  rw [Nat.add_sub_assoc order, centuries, short]
  clear_value w
  generalize w / 1460 = b at *
  rw [show 36524 * c + 1461 * a + 365 * s + u - (25 * c + a + b) + c =
    365 * (100 * c + 4 * a + s) + (u - b) by omega, Nat.mul_add_div (by decide),
    Nat.div_eq_of_lt (by omega), Nat.add_zero]

/-- The years before one hold the days before it. -/
theorem Place.days {n c a s u : Nat} (h : Place n c a s u) :
    365 * (100 * c + 4 * a + s) + (100 * c + 4 * a + s) / 4 - (100 * c + 4 * a + s) / 100 =
      36524 * c + 1461 * a + 365 * s := by
  obtain ⟨hc, ha, hs, hu, leap, rfl⟩ := h
  omega

/-- The day that a date stands for, counted from 1970-01-01. -/
def toDays (d : Date) : Int :=
  let year := if d.month ≤ 2 then d.year - 1 else d.year
  let shifted := if d.month ≤ 2 then d.month + 9 else d.month - 3
  let yearOfEra := (year % 400).toNat
  let dayOfYear := (153 * shifted + 2) / 5 + d.day - 1
  year / 400 * 146097 +
    ((365 * yearOfEra + yearOfEra / 4 - yearOfEra / 100) + dayOfYear : Nat) - 719468

theorem toDays_ofDays (days : Int) : toDays (ofDays days) = days := by
  obtain ⟨n, hn⟩ : ∃ n : Nat, (days + 719468) % 146097 = n := Int.eq_ofNat_of_zero_le (by omega)
  obtain ⟨c, a, s, u, place⟩ := exists_place (n := n) (by omega)
  have year := place.yearOfEra
  have before := place.days
  have day : n - (36524 * c + 1461 * a + 365 * s) = u := by
    have := place.eq
    omega
  simp only [ofDays, hn, Int.toNat_natCast, year, before, day]
  obtain ⟨hc, ha, hs, hu, -, whole⟩ := place
  clear year
  generalize hy : 100 * c + 4 * a + s = y at *
  have small : y < 400 := by omega
  have months : (5 * u + 2) / 153 ≤ 11 := by omega
  have inside : (153 * ((5 * u + 2) / 153) + 2) / 5 ≤ u := by omega
  generalize (5 * u + 2) / 153 = m at *
  generalize hfirst : (153 * m + 2) / 5 = first at *
  generalize hera : (days + 719468) / 146097 = era
  have years : ((era * 400 + y : Int) / 400 = era) ∧ ((era * 400 + y : Int) % 400).toNat = y := by
    omega
  unfold toDays
  dsimp only
  by_cases early : m < 10
  · simp only [if_pos early, show ¬ m + 3 ≤ 2 by omega, if_false, Nat.add_sub_cancel, Int.add_zero,
      years, before, hfirst]
    omega
  · have shifted : m - 9 + 9 = m := by omega
    simp only [if_neg early, show m - 9 ≤ 2 by omega, if_true, shifted, Int.add_sub_cancel, years,
      before, hfirst]
    omega

end Date

namespace Instant

open DecimalNotation (number isDigit_zeros number_zeros_append)

/-! ### Runs of digits -/

theorem isDigit_toDigits (n : Nat) : ∀ c ∈ Nat.toDigits 10 n, c.isDigit = true :=
  fun _ hc => Nat.isDigit_of_mem_toDigits (by decide) (by decide) hc

theorem isDigit_padded (width n : Nat) : ∀ c ∈ padded width n, c.isDigit = true :=
  List.forall_mem_append.2 ⟨isDigit_zeros _, isDigit_toDigits n⟩

theorem number_padded (width n : Nat) : number (padded width n) = n := by
  rw [padded, number_zeros_append, number, Nat.ofDigitChars_ten_toDigits]

theorem length_padded {width n : Nat} (pos : 0 < width) (h : n < 10 ^ width) :
    (padded width n).length = width := by
  have := (Nat.length_toDigits_le_iff (by decide) pos).2 h
  simp only [padded, List.length_append, List.length_replicate]
  omega

/-- Digits end at the first character that is none. -/
theorem padded_append_inj {k l m n : Nat} {r u : Sql} {c d : Char} (hc : c.isDigit = false)
    (hd : d.isDigit = false) (h : padded k m ++ c :: r = padded l n ++ d :: u) :
    padded k m = padded l n ∧ m = n ∧ c = d ∧ r = u := by
  obtain ⟨digits, rest⟩ := run_append_inj (isDigit_padded k m) (isDigit_padded l n)
    (by simp [hc]) (by simp [hd]) h
  have same : m = n := by rw [← number_padded k m, digits, number_padded]
  exact ⟨digits, same, List.cons.inj rest⟩

/-! ### Years -/

theorem padded_append_ne {width n : Nat} {r u : Sql} {c : Char} (hc : c.isDigit = false) :
    padded width n ++ r ≠ c :: u := by
  intro h
  have digits := isDigit_padded width n
  have some : padded width n ≠ [] := List.append_ne_nil_of_right_ne_nil _ Nat.toDigits_ne_nil
  obtain ⟨d, s, text⟩ := List.exists_cons_of_ne_nil some
  rw [text] at h digits
  rw [← (List.cons.inj h).1, digits d List.mem_cons_self] at hc
  cases hc

/-- The sign of a year and its digits tell the year. -/
theorem yearText_append_inj {y z : Int} {r u : Sql}
    (h : yearText y ++ '-' :: r = yearText z ++ '-' :: u) : y = z ∧ r = u := by
  have digits {r u : Sql} (h : padded 4 y.natAbs ++ '-' :: r = padded 4 z.natAbs ++ '-' :: u) :
      y.natAbs = z.natAbs ∧ r = u := by
    obtain ⟨-, same, -, rest⟩ := padded_append_inj (by decide) (by decide) h
    exact ⟨same, rest⟩
  unfold yearText at h
  split at h
  · split at h
    · obtain ⟨same, rest⟩ := digits (List.cons.inj h).2
      exact ⟨by omega, rest⟩
    · split at h
      · cases (List.cons.inj h).1
      · exact absurd h.symm (padded_append_ne (by decide))
  · split at h
    · split at h
      · cases (List.cons.inj h).1
      · split at h
        · obtain ⟨same, rest⟩ := digits (List.cons.inj h).2
          exact ⟨by omega, rest⟩
        · exact absurd h.symm (padded_append_ne (by decide))
    · split at h
      · exact absurd h (padded_append_ne (by decide))
      · split at h
        · exact absurd h (padded_append_ne (by decide))
        · obtain ⟨same, rest⟩ := digits h
          exact ⟨by omega, rest⟩

/-! ### Fractions -/

theorem fractionText_cases {n : Nat} (h : n < 1000000000) :
    fractionText n = [] ∧ n = 0 ∨
      ∃ k v, fractionText n = '.' :: padded k v ∧ (padded k v).length = k ∧
        n = v * 10 ^ (9 - k) := by
  unfold fractionText
  split
  · next zero => exact .inl ⟨rfl, zero⟩
  · split
    · exact .inr ⟨3, _, rfl, length_padded (by decide) (by omega), by omega⟩
    · split
      · exact .inr ⟨6, _, rfl, length_padded (by decide) (by omega), by omega⟩
      · exact .inr ⟨9, n, rfl, length_padded (by decide) (by omega), by omega⟩

theorem fractionText_append_inj {m n : Nat} (hm : m < 1000000000) (hn : n < 1000000000) {r u : Sql}
    (h : fractionText m ++ '+' :: r = fractionText n ++ '+' :: u) : m = n := by
  rcases fractionText_cases hm with ⟨em, zero⟩ | ⟨k, v, em, width, value⟩ <;>
    rcases fractionText_cases hn with ⟨en, zero'⟩ | ⟨l, w, en, width', value'⟩ <;>
      rw [em, en] at h
  · exact zero.trans zero'.symm
  · cases (List.cons.inj h).1
  · cases (List.cons.inj h).1
  · obtain ⟨digits, same, -⟩ := padded_append_inj (by decide) (by decide) (List.cons.inj h).2
    rw [value, value', same, ← width, digits, width']

/-- A fraction starts with a mark, and so does what stands behind seconds without one. -/
theorem fractionText_head (n : Nat) (r : Sql) :
    ∃ c s, fractionText n ++ '+' :: r = c :: s ∧ c.isDigit = false := by
  unfold fractionText
  split
  · exact ⟨_, _, rfl, by decide⟩
  · split
    · exact ⟨_, _, rfl, by decide⟩
    · split <;> exact ⟨_, _, rfl, by decide⟩

/-! ### Instants -/

/-- The second of the minute as it is written. -/
def lastSecond (t : Instant) : Nat := (t.seconds % 86400).toNat % 60 + if t.isLeap then 1 else 0

/-- The nanoseconds as they are written. -/
def lastNanos (t : Instant) : Nat := t.nanos - if t.isLeap then 1000000000 else 0

theorem isLeap_iff {t : Instant} : t.isLeap = true ↔ 1000000000 ≤ t.nanos := decide_eq_true_iff

theorem lastNanos_lt (t : Instant) : t.lastNanos < 1000000000 := by
  have bound := t.nanos_lt
  unfold lastNanos
  split
  · omega
  · next plain =>
    rw [isLeap_iff] at plain
    omega

/-- The parts of the text of an instant. -/
theorem text_eq (t : Instant) :
    t.text = yearText (Date.ofDays t.days).year ++ '-' :: (padded 2 (Date.ofDays t.days).month ++
      '-' :: (padded 2 (Date.ofDays t.days).day ++
        'T' :: (padded 2 ((t.seconds % 86400).toNat / 3600) ++
          ':' :: (padded 2 ((t.seconds % 86400).toNat / 60 % 60) ++
            ':' :: (padded 2 t.lastSecond ++
              (fractionText t.lastNanos ++ "+00:00".toList)))))) := by
  cases leap : t.isLeap <;> simp [text, lastSecond, lastNanos, leap]

/-- The text of an instant tells what is written in it, and the day. -/
theorem written_of_text {s t : Instant} (h : s.text = t.text) :
    s.days = t.days ∧ (s.seconds % 86400).toNat / 3600 = (t.seconds % 86400).toNat / 3600 ∧
      (s.seconds % 86400).toNat / 60 % 60 = (t.seconds % 86400).toNat / 60 % 60 ∧
      s.lastSecond = t.lastSecond ∧ s.lastNanos = t.lastNanos := by
  rw [text_eq, text_eq] at h
  obtain ⟨year, h⟩ := yearText_append_inj h
  obtain ⟨-, month, -, h⟩ := padded_append_inj (by decide) (by decide) h
  obtain ⟨-, day, -, h⟩ := padded_append_inj (by decide) (by decide) h
  obtain ⟨-, hour, -, h⟩ := padded_append_inj (by decide) (by decide) h
  obtain ⟨-, minute, -, h⟩ := padded_append_inj (by decide) (by decide) h
  have zone : "+00:00".toList = '+' :: "00:00".toList := rfl
  obtain ⟨c, r, front, mark⟩ := fractionText_head s.lastNanos "00:00".toList
  obtain ⟨d, u, front', mark'⟩ := fractionText_head t.lastNanos "00:00".toList
  rw [zone, front, front'] at h
  obtain ⟨-, second, rfl, rfl⟩ := padded_append_inj mark mark' h
  have nanos : s.lastNanos = t.lastNanos :=
    fractionText_append_inj s.lastNanos_lt t.lastNanos_lt (front.trans front'.symm)
  have date : Date.ofDays s.days = Date.ofDays t.days := by
    cases hs : Date.ofDays s.days
    cases ht : Date.ofDays t.days
    simp_all
  have days : s.days = t.days := by rw [← Date.toDays_ofDays s.days, date, Date.toDays_ofDays]
  exact ⟨days, hour, minute, second, nanos⟩

/-- The text tells the instant, if it is known whether it is in a leap second. -/
theorem text_inj {s t : Instant} (leap : s.isLeap = t.isLeap) (h : s.text = t.text) : s = t := by
  obtain ⟨days, hour, minute, second, nanos⟩ := written_of_text h
  have seconds : s.seconds = t.seconds := by
    unfold Instant.days at days
    unfold lastSecond at second
    rw [leap] at second
    omega
  have same : s.nanos = t.nanos := by
    unfold lastNanos at nanos
    rw [leap] at nanos
    split at nanos
    · next inside =>
      have later := isLeap_iff.1 inside
      have earlier := isLeap_iff.1 (leap.trans inside)
      omega
    · exact nanos
  obtain ⟨⟩ := s
  obtain ⟨⟩ := t
  simp_all

end Instant

end BulkSql
