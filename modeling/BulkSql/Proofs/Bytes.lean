import BulkSql.Proofs.Slicing
import BulkSql.Sql.Cursor

/-!
The bytes of a text and its characters. Those of a character that is not ASCII are none of ASCII, so
that a class of bytes holds all of them or none.
-/
namespace BulkSql

namespace Utf8

@[simp] theorem bytes_nil : bytes [] = [] := rfl

@[simp] theorem bytes_append (s t : Sql) : bytes (s ++ t) = bytes s ++ bytes t := by simp [bytes]

theorem bytes_cons (c : Char) (r : Sql) : bytes (c :: r) = String.utf8EncodeChar c ++ bytes r := rfl

theorem bytes_ne_nil (c : Char) (r : Sql) : bytes (c :: r) ≠ [] := by
  rw [bytes_cons]
  exact List.append_ne_nil_of_left_ne_nil String.utf8EncodeChar_ne_nil _

@[simp] theorem length_bytes (s : Sql) : (bytes s).length = size s := by
  induction s with
  | nil => rfl
  | cons c r ih => rw [bytes_cons, List.length_append, ih, String.length_utf8EncodeChar, size]

/-- A character of a single byte. -/
def IsAscii (c : Char) : Prop := c.toNat < 128

instance (c : Char) : Decidable (IsAscii c) := inferInstanceAs (Decidable (_ < _))

theorem ne_of_not_isAscii {c d : Char} (hc : ¬ IsAscii c) (hd : IsAscii d) : c ≠ d := by
  rintro rfl
  exact hc hd

theorem bytes_ascii {c : Char} (h : IsAscii c) (r : Sql) :
    bytes (c :: r) = c.toUInt8 :: bytes r := by
  have small : c.val.toNat ≤ 127 := Nat.le_of_lt_succ h
  have one : String.utf8EncodeChar c = [c.toUInt8] := by
    rw [String.utf8EncodeChar]
    exact if_pos small
  rw [bytes_cons, one, List.singleton_append]

theorem toNat_toUInt8 {c : Char} (h : IsAscii c) : c.toUInt8.toNat = c.toNat := by
  have reduced : c.toUInt8.toNat = c.toNat % 256 := UInt8.toNat_ofNat'
  unfold IsAscii at h
  omega

theorem toUInt8_inj {c d : Char} (hc : IsAscii c) (hd : IsAscii d) :
    c.toUInt8 = d.toUInt8 ↔ c = d := by
  rw [← UInt8.toNat_inj, toNat_toUInt8 hc, toNat_toUInt8 hd, Char.toNat_inj]

/-- The bytes of other characters are not those of ASCII. -/
def IsWide (b : UInt8) : Prop := 0x80 ≤ b

theorem isWide_of_mem {c : Char} (h : ¬ IsAscii c) :
    ∀ b ∈ String.utf8EncodeChar c, IsWide b := by
  have large : 127 < c.val.toNat := Nat.lt_of_not_le fun small => h (Nat.lt_succ_of_le small)
  intro b hb
  rw [String.utf8EncodeChar, if_neg (by omega)] at hb
  rw [IsWide, UInt8.le_iff_toNat_le]
  split at hb
  · simp only [List.mem_cons, List.not_mem_nil, or_false] at hb
    rcases hb with rfl | rfl <;> simp only [UInt8.toNat_ofNat', UInt8.reduceToNat] <;> omega
  · split at hb
    · simp only [List.mem_cons, List.not_mem_nil, or_false] at hb
      rcases hb with rfl | rfl | rfl <;>
        simp only [UInt8.toNat_ofNat', UInt8.reduceToNat] <;> omega
    · simp only [List.mem_cons, List.not_mem_nil, or_false] at hb
      rcases hb with rfl | rfl | rfl | rfl <;>
        simp only [UInt8.toNat_ofNat', UInt8.reduceToNat] <;> omega

theorem exists_bytes_wide {c : Char} (h : ¬ IsAscii c) :
    ∃ b bs, String.utf8EncodeChar c = b :: bs ∧ IsWide b ∧ ∀ x ∈ bs, IsWide x := by
  have wide := isWide_of_mem h
  obtain ⟨b, bs, e⟩ := List.exists_cons_of_ne_nil (String.utf8EncodeChar_ne_nil (c := c))
  rw [e, List.forall_mem_cons] at wide
  exact ⟨b, bs, e, wide⟩

theorem ne_of_isWide {b : UInt8} {c : Char} (hb : IsWide b) (hc : IsAscii c) : b ≠ c.toUInt8 := by
  rintro rfl
  have large := UInt8.le_iff_toNat_le.1 hb
  rw [toNat_toUInt8 hc] at large
  exact absurd hc (Nat.not_lt.2 large)

end Utf8

namespace Cursor

open Utf8

/-! ### Classes of bytes -/

/-- A class of bytes that holds a character's bytes exactly if a class of characters holds it. -/
structure Agree (p : Char → Bool) (q : UInt8 → Bool) : Prop where
  ascii : ∀ c, IsAscii c → q c.toUInt8 = p c
  wide : ∀ c b, ¬ IsAscii c → IsWide b → q b = p c

namespace Agree

variable {p p' : Char → Bool} {q q' : UInt8 → Bool}

theorem or (h : Agree p q) (h' : Agree p' q') :
    Agree (fun c => p c || p' c) (fun b => q b || q' b) where
  ascii c hc := by rw [h.ascii c hc, h'.ascii c hc]
  wide c b hc hb := by rw [h.wide c b hc hb, h'.wide c b hc hb]

theorem eq {d : Char} (hd : IsAscii d) : Agree (· == d) (· == d.toUInt8) where
  ascii c hc := by rw [Bool.eq_iff_iff, beq_iff_eq, beq_iff_eq, toUInt8_inj hc hd]
  wide c b hc hb := by
    rw [beq_false_of_ne (ne_of_not_isAscii hc hd), beq_false_of_ne (ne_of_isWide hb hd)]

theorem ne {d : Char} (hd : IsAscii d) : Agree (· != d) (· != d.toUInt8) where
  ascii c hc := congrArg not ((eq hd).ascii c hc)
  wide c b hc hb := congrArg not ((eq hd).wide c b hc hb)

theorem between {lo hi : Char} (hlo : IsAscii lo) (hhi : IsAscii hi) :
    Agree (fun c => lo.val ≤ c.val && c.val ≤ hi.val)
      (fun b => lo.toUInt8 ≤ b && b ≤ hi.toUInt8) where
  ascii c hc := by
    simp only [UInt8.le_iff_toNat_le, UInt32.le_iff_toNat_le, toNat_toUInt8 hlo,
      toNat_toUInt8 hhi, toNat_toUInt8 hc]
    rfl
  wide c b hc hb := by
    have large : ¬ c.val.toNat ≤ hi.val.toNat := fun le => hc (Nat.lt_of_le_of_lt le hhi)
    have wide : ¬ b.toNat ≤ hi.toNat := fun le => by
      have high : 128 ≤ b.toNat := UInt8.le_iff_toNat_le.1 hb
      unfold IsAscii at hhi
      omega
    simp only [UInt8.le_iff_toNat_le, UInt32.le_iff_toNat_le, toNat_toUInt8 hlo,
      toNat_toUInt8 hhi, large, wide, decide_false, Bool.and_false]

/-- A class that does not hold the bytes of other characters holds ASCII only. -/
theorem isAscii (h : Agree p q) (narrow : q 0x80 = false) {c : Char} (hc : p c = true) :
    IsAscii c := by
  by_contra wide
  have outside := h.wide c 0x80 wide (UInt8.le_refl 0x80)
  rw [narrow, hc] at outside
  cases outside

end Agree

theorem agree_isDigit : Agree Char.isDigit isDigit :=
  .between (by decide : IsAscii '0') (by decide : IsAscii '9')

theorem agree_isAlphanum : Agree Char.isAlphanum isAlphanum := by
  have letters := (Agree.between (by decide : IsAscii 'A') (by decide : IsAscii 'Z')).or
    (.between (by decide : IsAscii 'a') (by decide : IsAscii 'z'))
  have chars : Char.isAlphanum = fun c =>
      (('A'.val ≤ c.val && c.val ≤ 'Z'.val) || ('a'.val ≤ c.val && c.val ≤ 'z'.val)) ||
        c.isDigit := by
    funext c
    rw [Char.isAlphanum, Char.isAlpha, Char.isUpper, Bool.decide_and]
    rfl
  have bytes : isAlphanum = fun b =>
      (('A'.toUInt8 ≤ b && b ≤ 'Z'.toUInt8) || ('a'.toUInt8 ≤ b && b ≤ 'z'.toUInt8)) ||
        isDigit b := by
    funext b
    rw [isAlphanum, Bool.or_assoc, Bool.or_comm]
  rw [chars, bytes]
  exact letters.or agree_isDigit

theorem agree_isGap : Agree BulkSql.isGap isGap :=
  ((((Agree.eq (by decide)).or (.eq (by decide))).or (.eq (by decide))).or (.eq (by decide))).or
    (.eq (by decide))

theorem agree_isNumberPart : Agree Lexeme.isNumberPart isNumberPart :=
  agree_isAlphanum.or (.eq (by decide))

theorem agree_isTagPart : Agree Lexeme.isTagChar isTagPart :=
  agree_isAlphanum.or (.eq (by decide))

theorem agree_wide : Agree (fun c => 128 ≤ c.toNat) (fun b => 0x80 ≤ b) where
  ascii c hc := by
    have narrow : ¬ (0x80 : UInt8) ≤ c.toUInt8 := by
      rw [UInt8.le_iff_toNat_le, toNat_toUInt8 hc]
      exact Nat.not_le.2 hc
    rw [decide_eq_false narrow, decide_eq_false (Nat.not_le.2 hc)]
  wide c b hc hb := by
    have wide : (0x80 : UInt8) ≤ b := hb
    rw [decide_eq_true wide, decide_eq_true (Nat.le_of_not_lt hc)]

theorem agree_isWordPart : Agree BulkSql.isWordPart isWordPart :=
  ((agree_isAlphanum.or (.eq (by decide))).or (.eq (by decide))).or agree_wide

section Agree

variable {p : Char → Bool} {q : UInt8 → Bool}

/-- All bytes of a character are in the class, or none is. -/
theorem Agree.all_bytes (h : Agree p q) (c : Char) :
    ∀ b ∈ String.utf8EncodeChar c, q b = p c := by
  by_cases hc : IsAscii c
  · have one : String.utf8EncodeChar c = [c.toUInt8] := by
      simpa [bytes] using bytes_ascii hc []
    simpa [one] using h.ascii c hc
  · exact fun b hb => h.wide c b hc (isWide_of_mem hc b hb)

theorem Agree.dropWhile_bytes (h : Agree p q) (s : Sql) :
    (bytes s).dropWhile q = bytes (s.dropWhile p) := by
  induction s with
  | nil => rfl
  | cons c r ih =>
    have all := h.all_bytes c
    rw [bytes_cons, List.dropWhile_cons]
    cases hc : p c with
    | true =>
      rw [hc] at all
      rw [List.dropWhile_append_of_pos all, ih, if_pos rfl]
    | false =>
      obtain ⟨b, bs, e⟩ := List.exists_cons_of_ne_nil (String.utf8EncodeChar_ne_nil (c := c))
      have first : q b = false := by
        rw [all b (e ▸ List.mem_cons_self), hc]
      rw [e, List.cons_append, List.dropWhile_cons_of_neg (by simp [first]), if_neg (by simp),
        bytes_cons, e, List.cons_append]

theorem Agree.takeWhile_bytes (h : Agree p q) (s : Sql) :
    (bytes s).takeWhile q = bytes (s.takeWhile p) := by
  have whole : (bytes s).takeWhile q ++ (bytes s).dropWhile q =
      bytes (s.takeWhile p) ++ (bytes s).dropWhile q := by
    rw [List.takeWhile_append_dropWhile, h.dropWhile_bytes, ← bytes_append,
      List.takeWhile_append_dropWhile]
  exact List.append_cancel_right whole

theorem Agree.all_eq (h : Agree p q) (s : Sql) : (bytes s).all q = s.all p := by
  induction s with
  | nil => rfl
  | cons c r ih =>
    have all := h.all_bytes c
    obtain ⟨b, bs, e⟩ := List.exists_cons_of_ne_nil (String.utf8EncodeChar_ne_nil (c := c))
    rw [bytes_cons, List.all_append, ih, List.all_cons]
    congr 1
    rw [Bool.eq_iff_iff, List.all_eq_true]
    exact ⟨fun every => all b (e ▸ List.mem_cons_self) ▸ every b (e ▸ List.mem_cons_self),
      fun hc x hx => (all x hx).trans hc⟩

end Agree

/-- The first byte of a text is that of an ASCII character if the text starts with it. -/
theorem isAt_bytes {c : Char} (hc : IsAscii c) (s : Sql) :
    isAt c (bytes s) = (s.head? == some c) := by
  cases s with
  | nil => rfl
  | cons d r =>
    by_cases hd : IsAscii d
    · rw [isAt, bytes_ascii hd, Bool.eq_iff_iff]
      simp [toUInt8_inj hd hc]
    · obtain ⟨b, bs, e, wide, -⟩ := exists_bytes_wide hd
      rw [isAt, bytes_cons, e, Bool.eq_iff_iff]
      simp [ne_of_isWide wide hc, ne_of_not_isAscii hd hc]

theorem isAtDigit_bytes (s : Sql) : isAtDigit (bytes s) = Lexeme.digitNext s := by
  cases s with
  | nil => rfl
  | cons d r =>
    obtain ⟨b, bs, e⟩ := List.exists_cons_of_ne_nil (String.utf8EncodeChar_ne_nil (c := d))
    rw [isAtDigit, bytes_cons, e, Lexeme.digitNext]
    exact agree_isDigit.all_bytes d b (e ▸ List.mem_cons_self)

end Cursor

end BulkSql
