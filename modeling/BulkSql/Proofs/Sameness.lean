import BulkSql.Proofs.Calendar
import BulkSql.Proofs.Document

/-!
Two values are the same exactly if they have one text and one type, but for floats and instants: a
not-a-number differs from itself, the two zeros, which have texts of their own, are the same, and a
leap second differs from the next second, as which it is written.
-/
namespace BulkSql

/-! ### Bytes -/

theorem Hex.digit?_digitChar : ∀ n < 16, digit? (Nat.digitChar n) = some n := by decide

/-- The bytes are read back from their digits. -/
theorem Hex.bytes?_text (bs : List UInt8) : bytes? (text bs) = some bs := by
  induction bs with
  | nil => rfl
  | cons b bs ih =>
    have limit := b.toNat_lt
    have whole : UInt8.ofNat (b.toNat / 16 * 16 + b.toNat % 16) = b := by
      rw [Nat.div_add_mod', UInt8.ofNat_toNat]
    have cons : text (b :: bs) =
        Nat.digitChar (b.toNat / 16) :: Nat.digitChar (b.toNat % 16) :: text bs := rfl
    simp only [cons, bytes?, digit?_digitChar _ (show b.toNat / 16 < 16 by omega),
      digit?_digitChar _ (show b.toNat % 16 < 16 by omega), ih, Option.bind_eq_bind,
      Option.bind_some, Option.pure_def, whole]

theorem Hex.text_inj {as bs : List UInt8} (h : text as = text bs) : as = bs :=
  Option.some.inj ((bytes?_text as).symm.trans ((congrArg bytes? h).trans (bytes?_text bs)))

theorem Hex.filter_text (bs : List UInt8) : (text bs).filter (· != '-') = text bs := by
  have digit : ∀ n < 16, (Nat.digitChar n != '-') = true := by decide
  refine List.filter_eq_self.2 fun c hc => ?_
  obtain ⟨b, -, hc⟩ := List.mem_flatMap.1 hc
  have limit := b.toNat_lt
  simp only [byte, List.mem_cons, List.not_mem_nil, or_false] at hc
  rcases hc with rfl | rfl
  · exact digit _ (by omega)
  · exact digit _ (by omega)

/-- Without its hyphens an identifier is its bytes in hexadecimal. -/
theorem Uuid.filter_text (u : Uuid) : u.text.filter (· != '-') = Hex.text u.bytes := by
  have parts : u.bytes.take 4 ++ ((u.bytes.drop 4).take 2 ++ ((u.bytes.drop 6).take 2 ++
      ((u.bytes.drop 8).take 2 ++ (u.bytes.drop 10).take 6))) = u.bytes := by
    rw [← List.append_assoc, ← List.take_add, ← List.append_assoc, ← List.take_add,
      ← List.append_assoc, ← List.take_add, ← List.take_add]
    exact List.take_of_length_le (Nat.le_of_eq u.length_bytes)
  have hyphen (r : Sql) : ('-' :: r).filter (· != '-') = r.filter (· != '-') :=
    List.filter_cons_of_neg (by decide)
  simp only [text, List.drop_zero, List.filter_append, Hex.filter_text, hyphen]
  conv_rhs => rw [← parts]
  simp [Hex.text]

theorem Uuid.text_inj {u v : Uuid} (h : u.text = v.text) : u = v := by
  have bytes : u.bytes = v.bytes := Hex.text_inj (by rw [← filter_text, h, filter_text])
  obtain ⟨⟩ := u
  obtain ⟨⟩ := v
  congr

/-! ### Floats -/

namespace Binary64

/-- The number with a zero that has no sign. -/
def dropZeroSign (x : Binary64) : Binary64 := if x.isZero then ofMagnitude false 0 else x

theorem magnitude_dropZeroSign (x : Binary64) : x.dropZeroSign.magnitude = x.magnitude := by
  unfold dropZeroSign
  split
  · next zero => exact (beq_iff_eq.1 zero).symm
  · rfl

theorem isNaN_dropZeroSign (x : Binary64) : x.dropZeroSign.isNaN = x.isNaN := by
  rw [isNaN, isNaN, magnitude_dropZeroSign]

theorem key_eq_iff {x y : Binary64} : x.key = y.key ↔ x.dropZeroSign = y.dropZeroSign := by
  constructor
  · intro h
    have same : x.magnitude = y.magnitude := by
      unfold key at h
      split at h <;> split at h <;> omega
    unfold dropZeroSign isZero
    rw [← same]
    split
    · rfl
    · next nonzero =>
      have sign : x.isNegative = y.isNegative := by
        have positive : x.magnitude ≠ 0 := by simpa using nonzero
        unfold key at h
        cases hx : x.isNegative <;> cases hy : y.isNegative <;>
          simp only [hx, hy, if_true, Bool.false_eq_true, if_false] at h
        · rfl
        · omega
        · omega
        · rfl
      exact eq_of_magnitude sign same
  · intro h
    have same : x.magnitude = y.magnitude := by
      rw [← magnitude_dropZeroSign, h, magnitude_dropZeroSign]
    unfold dropZeroSign isZero at h
    rw [← same] at h
    split at h
    · next zero =>
      have none : x.magnitude = 0 := beq_iff_eq.1 zero
      simp [key, ← same, none]
    · rw [h]

/-- Numbers are equal if neither is a not-a-number and they differ at most in the sign of a zero. -/
theorem numEq_iff {x y : Binary64} :
    x.numEq y = true ↔ x.isNaN = false ∧ x.dropZeroSign = y.dropZeroSign := by
  unfold numEq compare?
  cases hx : x.isNaN with
  | true => simp
  | false =>
    cases hy : y.isNaN with
    | true =>
      have differ : x.dropZeroSign ≠ y.dropZeroSign := by
        intro same
        rw [← isNaN_dropZeroSign, same, isNaN_dropZeroSign, hy] at hx
        cases hx
      simp [differ]
    | false => simp [key_eq_iff]

end Binary64

namespace Value

variable {x y : Binary64}

/-- The three forms of the text of a float. -/
theorem floatText_nan (h : x.isNaN = true) : floatText x = ['N', 'a', 'N'] := if_pos h

theorem floatText_infinite (h : x.isInfinite = true) :
    floatText x = if x.isNegative then '-' :: "Infinity".toList else "Infinity".toList := by
  have number : ¬ x.isNaN = true := by
    simp only [Binary64.isInfinite, beq_iff_eq] at h
    simp [Binary64.isNaN, h]
  exact (if_neg number).trans (if_pos h)

theorem floatText_finite (hn : ¬ x.isNaN = true) (hi : ¬ x.isInfinite = true) :
    floatText x = floatNotation.finite x := (if_neg hn).trans (if_neg hi)

/-- The text of a finite number has only characters of numbers. -/
theorem finite_ne {s : Sql} {c : Char} (hc : c ∈ s) (h : DecimalNotation.isNumeral c = false) :
    floatNotation.finite x ≠ s := by
  rintro rfl
  rw [DecimalNotation.isNumeral_finite _ x c hc] at h
  cases h

theorem finite_ne_infinite (x y : Binary64) : floatNotation.finite x ≠
    if y.isNegative then '-' :: "Infinity".toList else "Infinity".toList := by
  have letter : DecimalNotation.isNumeral 'I' = false := by decide
  cases y.isNegative with
  | true => exact finite_ne (by decide) letter
  | false => exact finite_ne (by decide) letter

theorem floatText_inj (hx : x.isNaN = false) (h : floatText x = floatText y) : x = y := by
  have number : ¬ x.isNaN = true := by simp [hx]
  have letter : DecimalNotation.isNumeral 'N' = false := by decide
  by_cases nan : y.isNaN = true
  · rw [floatText_nan nan] at h
    by_cases infinite : x.isInfinite = true
    · rw [floatText_infinite infinite] at h
      split at h <;> cases (List.cons.inj h).1
    · rw [floatText_finite number infinite] at h
      exact absurd h (finite_ne (by decide) letter)
  · by_cases infinite : x.isInfinite = true <;> by_cases infinite' : y.isInfinite = true
    · rw [floatText_infinite infinite, floatText_infinite infinite'] at h
      simp only [Binary64.isInfinite, beq_iff_eq] at infinite infinite'
      refine Binary64.eq_of_magnitude ?_ (infinite.trans infinite'.symm)
      cases hx : x.isNegative <;> cases hy : y.isNegative <;>
        simp only [hx, hy, if_true, Bool.false_eq_true, if_false] at h
      · rfl
      · cases (List.cons.inj h).1
      · cases (List.cons.inj h).1
      · rfl
    · rw [floatText_infinite infinite, floatText_finite nan infinite'] at h
      exact absurd h.symm (finite_ne_infinite y x)
    · rw [floatText_finite number infinite, floatText_infinite infinite'] at h
      exact absurd h (finite_ne_infinite x y)
    · rw [floatText_finite number infinite, floatText_finite nan infinite'] at h
      exact DecimalNotation.finite_inj h

end Value

/-! ### Documents -/

namespace Json

mutual

/-- The document with zeros that have no sign. -/
def dropZeroSigns : Json → Json
  | float x => float x.dropZeroSign
  | array items => array (dropItems items)
  | object members => object (dropMembers members)
  | null => null
  | bool b => bool b
  | integer i => integer i
  | string s => string s

def dropItems : List Json → List Json
  | [] => []
  | x :: xs => dropZeroSigns x :: dropItems xs

def dropMembers : List (String × Json) → List (String × Json)
  | [] => []
  | (k, v) :: rest => (k, dropZeroSigns v) :: dropMembers rest

end

mutual

/-- Whether a not-a-number is in the document. -/
def hasNaN : Json → Bool
  | float x => x.isNaN
  | array items => itemsHaveNaN items
  | object members => membersHaveNaN members
  | null | bool _ | integer _ | string _ => false

def itemsHaveNaN : List Json → Bool
  | [] => false
  | x :: xs => hasNaN x || itemsHaveNaN xs

def membersHaveNaN : List (String × Json) → Bool
  | [] => false
  | (_, v) :: rest => hasNaN v || membersHaveNaN rest

end

mutual

theorem same_iff (i j : Json) :
    same i j = true ↔ i.hasNaN = false ∧ i.dropZeroSigns = j.dropZeroSigns := by
  cases i with
  | float x =>
    cases j <;> simp [same, hasNaN, dropZeroSigns]
    exact Binary64.numEq_iff
  | array xs =>
    cases j <;> simp [same, hasNaN, dropZeroSigns]
    exact sameItems_iff xs _
  | object xs =>
    cases j <;> simp [same, hasNaN, dropZeroSigns]
    exact sameMembers_iff xs _
  | _ => cases j <;> simp [same, hasNaN, dropZeroSigns]

theorem sameItems_iff (xs ys : List Json) :
    sameItems xs ys = true ↔ itemsHaveNaN xs = false ∧ dropItems xs = dropItems ys := by
  cases xs with
  | nil => cases ys <;> simp [sameItems, itemsHaveNaN, dropItems]
  | cons x xs =>
    cases ys with
    | nil => simp [sameItems, dropItems]
    | cons y ys =>
      simp only [sameItems, itemsHaveNaN, dropItems, Bool.and_eq_true, Bool.or_eq_false_iff,
        List.cons.injEq, same_iff x y, sameItems_iff xs ys]
      tauto

theorem sameMembers_iff (xs ys : List (String × Json)) :
    sameMembers xs ys = true ↔ membersHaveNaN xs = false ∧ dropMembers xs = dropMembers ys := by
  cases xs with
  | nil => cases ys <;> simp [sameMembers, membersHaveNaN, dropMembers]
  | cons x xs =>
    obtain ⟨k, v⟩ := x
    cases ys with
    | nil => simp [sameMembers, dropMembers]
    | cons y ys =>
      obtain ⟨l, w⟩ := y
      simp only [sameMembers, membersHaveNaN, dropMembers, Bool.and_eq_true, beq_iff_eq,
        Bool.or_eq_false_iff, List.cons.injEq, Prod.mk.injEq, same_iff v w, sameMembers_iff xs ys]
      tauto

end

mutual

theorem hasNaN_dropZeroSigns (j : Json) : j.dropZeroSigns.hasNaN = j.hasNaN := by
  cases j with
  | float x => exact x.isNaN_dropZeroSign
  | array xs => exact itemsHaveNaN_dropItems xs
  | object xs => exact membersHaveNaN_dropMembers xs
  | _ => rfl

theorem itemsHaveNaN_dropItems (xs : List Json) :
    itemsHaveNaN (dropItems xs) = itemsHaveNaN xs := by
  cases xs with
  | nil => rfl
  | cons x xs =>
    simp only [dropItems, itemsHaveNaN, hasNaN_dropZeroSigns x, itemsHaveNaN_dropItems xs]

theorem membersHaveNaN_dropMembers (xs : List (String × Json)) :
    membersHaveNaN (dropMembers xs) = membersHaveNaN xs := by
  cases xs with
  | nil => rfl
  | cons x xs =>
    obtain ⟨k, v⟩ := x
    simp only [dropMembers, membersHaveNaN, hasNaN_dropZeroSigns v, membersHaveNaN_dropMembers xs]

end

end Json

/-! ### Values -/

namespace Value

/-- The value with zeros that have no sign. -/
def dropZeroSigns : Value → Value
  | float x => float x.dropZeroSign
  | json j => json j.dropZeroSigns
  | v => v

/-- Whether the value is or holds a not-a-number. -/
def hasNaN : Value → Bool
  | float x => x.isNaN
  | json j => j.hasNaN
  | _ => false

/-- Whether the value is in a leap second. -/
def isLeap : Value → Bool
  | timestamp t => t.isLeap
  | _ => false

theorem exists_text {v : Value} (h : v.isNull = false) : ∃ t, v.text? = some t := by
  cases v with
  | null => cases h
  | _ => exact ⟨_, rfl⟩

@[simp] theorem cast?_dropZeroSigns (v : Value) : v.dropZeroSigns.cast? = v.cast? := by
  cases v <;> rfl

theorem hasNaN_dropZeroSigns (v : Value) : v.dropZeroSigns.hasNaN = v.hasNaN := by
  cases v with
  | float x => exact x.isNaN_dropZeroSign
  | json j => exact j.hasNaN_dropZeroSigns
  | _ => rfl

@[simp] theorem isLeap_dropZeroSigns (v : Value) : v.dropZeroSigns.isLeap = v.isLeap := by
  cases v <;> rfl

/-- Text and type tell the value, if it is known whether it is in a leap second. -/
theorem text_cast_inj {u v : Value} (hu : u.hasNaN = false) (text : u.text? = v.text?)
    (cast : u.cast? = v.cast?) (leap : u.isLeap = v.isLeap) : u = v := by
  cases u with
  | null => cases v <;> cases text; rfl
  | bool b =>
    cases v <;> simp [cast?] at cast
    next c =>
      cases b <;> cases c <;> first | rfl | cases text
  | int i =>
    cases v <;> simp [cast?] at cast
    next j =>
      have same := DecimalNotation.toString_toList_inj.1 (Option.some.inj text)
      exact congrArg int (Int64.toInt_inj.1 same)
  | float x =>
    cases v <;> simp [cast?] at cast
    next y => exact congrArg float (floatText_inj hu (Option.some.inj text))
  | text s =>
    cases v <;> simp [cast?] at cast
    · cases text
    next t => exact congrArg Value.text (String.toList_inj.1 (Option.some.inj text))
  | bytes b =>
    cases v <;> simp [cast?] at cast
    next c =>
      have digits := Option.some.inj text
      exact congrArg bytes (Hex.text_inj (List.cons.inj (List.cons.inj digits).2).2)
  | uuid u =>
    cases v <;> simp [cast?] at cast
    next w => exact congrArg uuid (Uuid.text_inj (Option.some.inj text))
  | timestamp t =>
    cases v <;> simp [cast?] at cast
    next u => exact congrArg timestamp (Instant.text_inj leap (Option.some.inj text))
  | json j =>
    cases v <;> simp [cast?] at cast
    next k => exact congrArg json (Json.text_inj (Option.some.inj text))

theorem same_iff_drop (u v : Value) :
    u.same v = true ↔ u.hasNaN = false ∧ u.dropZeroSigns = v.dropZeroSigns := by
  cases u with
  | float x => cases v <;> simp [same, hasNaN, dropZeroSigns, Binary64.numEq_iff]
  | json j => cases v <;> simp [same, hasNaN, dropZeroSigns, Json.same_iff]
  | _ => cases v <;> simp [same, hasNaN, dropZeroSigns]

/-- Values that are the same as a third one are the same. -/
theorem same_of_same {u v w : Value} (hv : u.same v = true) (hw : u.same w = true) :
    v.same w = true := by
  obtain ⟨number, same⟩ := (same_iff_drop u v).1 hv
  obtain ⟨-, same'⟩ := (same_iff_drop u w).1 hw
  refine (same_iff_drop v w).2 ⟨?_, same.symm.trans same'⟩
  rw [← hasNaN_dropZeroSigns, ← same, hasNaN_dropZeroSigns, number]

/-- Values are the same exactly if neither holds a not-a-number, they have one text, up to the signs
of zeros, and one type, and both or neither are in a leap second. -/
theorem same_iff (u v : Value) :
    u.same v = true ↔ u.hasNaN = false ∧ u.dropZeroSigns.text? = v.dropZeroSigns.text? ∧
      u.cast? = v.cast? ∧ u.isLeap = v.isLeap := by
  rw [same_iff_drop]
  refine and_congr_right fun number => ⟨fun h => ⟨congrArg text? h, ?_, ?_⟩, fun h => ?_⟩
  · rw [← cast?_dropZeroSigns u, h, cast?_dropZeroSigns]
  · rw [← isLeap_dropZeroSigns u, h, isLeap_dropZeroSigns]
  · exact text_cast_inj ((hasNaN_dropZeroSigns u).trans number) h.1 (by simpa using h.2.1)
      (by simpa using h.2.2)

end Value

end BulkSql
