import BulkSql.Json.Reader
import BulkSql.Proofs.Notation

/-!
The compact text of a JSON document tells the document. Strings are read back, numbers end where no
character of a number follows, and lists where their bracket closes.
-/
namespace BulkSql.Json

open Split (push)

/-! ### Strings -/

theorem stringTail_short {e c : Char} (h : shortEscape e = some c) (rest : Sql) :
    stringTail ('\\' :: e :: rest) = push c (stringTail rest) := by
  have ne : e ≠ 'u' := by
    rintro rfl
    cases h
  rw [stringTail]
  · rw [h]
    cases stringTail rest <;> rfl
  · rintro a b c d r rfl
    exact absurd rfl ne

theorem stringTail_unicode {a b c d : Char} {n : Nat} (h : hex4 a b c d = some n)
    (small : n < 0xD800) (rest : Sql) :
    stringTail ('\\' :: 'u' :: a :: b :: c :: d :: rest) =
      push (Char.ofNat n) (stringTail rest) := by
  rw [stringTail, h]
  simp only [Option.bind_eq_bind, Option.bind_some, show ¬ (0xD800 ≤ n ∧ n < 0xDC00) by omega,
    show ¬ (0xDC00 ≤ n ∧ n < 0xE000) by omega, if_false]
  cases stringTail rest <;> rfl

theorem stringTail_plain {c : Char} (quote : c ≠ '"') (escape : c ≠ '\\') (h : ¬ c.toNat < 0x20)
    (rest : Sql) : stringTail (c :: rest) = push c (stringTail rest) := by
  rw [stringTail]
  · rw [if_neg h]
    cases stringTail rest <;> rfl
  · exact quote
  · exact fun _ _ _ _ _ h _ => escape h
  · exact fun _ _ h _ => escape h

theorem hex4_control : ∀ n < 0x20, hex4 '0' '0' (hexDigit (n / 16)) (hexDigit n) = some n := by
  decide

/-- An escaped character is read as the character. -/
theorem stringTail_escaped (c : Char) (rest : Sql) :
    stringTail (escaped c ++ rest) = push c (stringTail rest) := by
  unfold escaped
  split
  case h_8 quote escape _ _ _ _ _ =>
    split
    · next control =>
      refine (stringTail_unicode (hex4_control _ control) (by omega) rest).trans ?_
      rw [Char.ofNat_toNat]
    · next plain => exact stringTail_plain quote escape plain rest
  all_goals exact stringTail_short rfl rest

theorem stringTail_text (cs rest : Sql) :
    stringTail (cs.flatMap escaped ++ '"' :: rest) = some (cs, rest) := by
  induction cs with
  | nil => simp [stringTail]
  | cons c cs ih =>
    rw [List.flatMap_cons, List.append_assoc, stringTail_escaped, ih]
    rfl

theorem readString_stringText (s : String) (rest : Sql) :
    readString (stringText s ++ rest) = some (s, rest) := by
  simp [readString, stringText, stringTail_text]

/-! ### First characters -/

/-- What a document is, told by its first character. -/
inductive Kind
  | null | bool | number | string | array | object
  deriving DecidableEq

def kind : Json → Kind
  | null => .null
  | bool _ => .bool
  | integer _ | float _ => .number
  | string _ => .string
  | array _ => .array
  | object _ => .object

/-- The kind of the documents that start with a character. -/
def Kind.ofChar (c : Char) : Option Kind :=
  if c.isDigit || c == '-' then some .number
  else match c with
    | 'n' => some .null
    | 't' | 'f' => some .bool
    | '"' => some .string
    | '[' => some .array
    | '\x7b' => some .object
    | _ => none

theorem kind_integer (i : Int) :
    ∃ c r, (toString i).toList = c :: r ∧ Kind.ofChar c = some .number := by
  have some : (toString i).toList ≠ [] := by
    rw [Int.toString_eq_repr, Int.repr_eq_if]
    split <;> simp [Nat.toDigits_ne_nil]
  obtain ⟨c, r, text⟩ := List.exists_cons_of_ne_nil some
  have first : c.isDigit = true ∨ c = '-' :=
    DecimalNotation.mem_toString_int (text ▸ List.mem_cons_self)
  exact ⟨c, r, text, if_pos (by simpa using first)⟩

theorem kind_float (x : Binary64) :
    ∃ c r, floatNotation.finite x = c :: r ∧ Kind.ofChar c = some .number := by
  rw [DecimalNotation.finite_eq]
  obtain ⟨c, r, text, digit⟩ := DecimalNotation.magnitudeText_head floatNotation x
  cases x.isNegative with
  | true => exact ⟨_, _, rfl, rfl⟩
  | false => exact ⟨c, r, text, if_pos (by simp [digit])⟩

theorem kind_text (j : Json) : ∃ c r, text j = c :: r ∧ Kind.ofChar c = some j.kind := by
  cases j with
  | null => exact ⟨_, _, rfl, rfl⟩
  | bool b => cases b <;> exact ⟨_, _, rfl, rfl⟩
  | integer i => exact kind_integer i
  | float x => exact kind_float x
  | string s => exact ⟨_, _, rfl, rfl⟩
  | array items => exact ⟨_, _, rfl, rfl⟩
  | object members => exact ⟨_, _, rfl, rfl⟩

theorem kind_eq_of_append {i j : Json} {r s : Sql} (h : text i ++ r = text j ++ s) :
    i.kind = j.kind := by
  obtain ⟨c, t, hi, ki⟩ := kind_text i
  obtain ⟨d, u, hj, kj⟩ := kind_text j
  rw [hi, hj, List.cons_append, List.cons_append] at h
  obtain rfl := (List.cons.inj h).1
  exact Option.some.inj (ki.symm.trans kj)

/-- No document starts with a character that none of its kinds has. -/
theorem text_ne_close {j : Json} {c : Char} {r s : Sql} (h : Kind.ofChar c = none) :
    text j ++ r ≠ c :: s := by
  obtain ⟨d, t, text, kind⟩ := kind_text j
  rw [text]
  rintro same
  rw [(List.cons.inj same).1, h] at kind
  cases kind

/-! ### Numbers -/

open DecimalNotation (isNumeral)

/-- A text that continues no number. -/
def Ends (r : Sql) : Prop := ∀ c ∈ r.head?, isNumeral c = false

theorem ends_cons {c : Char} (h : isNumeral c = false) (r : Sql) : Ends (c :: r) := by
  rintro d ⟨⟩
  exact h

/-- An integer is not written as a float. -/
theorem toString_ne_finite (i : Int) (x : Binary64) :
    (toString i).toList ≠ floatNotation.finite x := by
  intro h
  obtain ⟨c, hc, mark⟩ := DecimalNotation.exists_mark_finite floatNotation x
  rw [← h] at hc
  rcases DecimalNotation.mem_toString_int hc with digit | rfl
  · rcases mark with rfl | rfl <;> cases digit
  · rcases mark with mark | mark <;> cases mark

theorem isNumeral_text {j : Json} (h : j.kind = .number) : ∀ c ∈ text j, isNumeral c = true := by
  cases j <;> cases h
  · next i => exact DecimalNotation.isNumeral_toString_int i
  · next x => exact DecimalNotation.isNumeral_finite floatNotation x

/-- Numbers are told apart at the front of a text that continues none. -/
theorem number_append_inj {i j : Json} {r s : Sql} (hi : i.kind = .number) (hj : j.kind = .number)
    (hr : Ends r) (hs : Ends s) (h : text i ++ r = text j ++ s) : i = j ∧ r = s := by
  obtain ⟨same, rest⟩ := run_append_inj (isNumeral_text hi) (isNumeral_text hj) hr hs h
  refine ⟨?_, rest⟩
  cases i <;> cases hi <;> cases j <;> cases hj
  · exact congrArg integer (DecimalNotation.toString_toList_inj.1 same)
  · exact absurd same (toString_ne_finite _ _)
  · exact absurd same.symm (toString_ne_finite _ _)
  · exact congrArg float (DecimalNotation.finite_inj same)

/-! ### Lists -/

/-- What stands behind a part of a list: the rest of the list, behind a comma unless the part is the
last one. -/
def behind (last : Bool) (rest : Sql) : Sql := if last then rest else ',' :: rest

theorem itemsText_cons (x : Json) (xs : List Json) (r : Sql) :
    itemsText (x :: xs) ++ ']' :: r = text x ++ behind xs.isEmpty (itemsText xs ++ ']' :: r) := by
  cases xs <;> simp [itemsText, behind]

theorem membersText_cons (k : String) (v : Json) (xs : List (String × Json)) (r : Sql) :
    membersText ((k, v) :: xs) ++ '\x7d' :: r = stringText k ++
      ':' :: (text v ++ behind xs.isEmpty (membersText xs ++ '\x7d' :: r)) := by
  cases xs <;> simp [membersText, behind]

theorem itemsText_of_isEmpty {xs : List Json} (h : xs.isEmpty = true) (r : Sql) :
    itemsText xs ++ ']' :: r = ']' :: r := by
  rw [List.isEmpty_iff.1 h]
  rfl

theorem membersText_of_isEmpty {xs : List (String × Json)} (h : xs.isEmpty = true) (r : Sql) :
    membersText xs ++ '\x7d' :: r = '\x7d' :: r := by
  rw [List.isEmpty_iff.1 h]
  rfl

section Behind

variable {last last' : Bool} {close : Char} {rest rest' r s : Sql}

theorem ends_behind (bracket : isNumeral close = false) (h : last = true → rest = close :: r) :
    Ends (behind last rest) := by
  cases last with
  | true => exact h rfl ▸ ends_cons bracket r
  | false => exact ends_cons (by decide) rest

theorem behind_inj (bracket : close ≠ ',') (h : last = true → rest = close :: r)
    (h' : last' = true → rest' = close :: s) (same : behind last rest = behind last' rest') :
    rest = rest' := by
  cases last <;> cases last'
  · exact (List.cons.inj same).2
  · exact absurd (List.cons.inj (same.trans (h' rfl))).1.symm bracket
  · exact absurd (List.cons.inj ((h rfl).symm.trans same)).1 bracket
  · exact same

end Behind

mutual

/-- Documents are told apart at the front of a text that continues no number. -/
theorem text_append_inj (i j : Json) {r s : Sql} (hr : Ends r) (hs : Ends s)
    (h : text i ++ r = text j ++ s) : i = j ∧ r = s := by
  have kinds := kind_eq_of_append h
  cases i with
  | null =>
    cases j <;> cases kinds
    exact ⟨rfl, List.append_cancel_left h⟩
  | bool b =>
    cases j <;> cases kinds
    next c =>
      cases b <;> cases c <;> simp [text] at h ⊢ <;> exact h
  | integer m => exact number_append_inj rfl kinds.symm hr hs h
  | float x => exact number_append_inj rfl kinds.symm hr hs h
  | string t =>
    cases j <;> cases kinds
    next u =>
      have read := congrArg readString h
      rw [text, text, readString_stringText, readString_stringText] at read
      obtain ⟨rfl, rfl⟩ := Prod.mk.inj (Option.some.inj read)
      exact ⟨rfl, rfl⟩
  | array xs =>
    cases j <;> cases kinds
    next ys =>
      have inner : itemsText xs ++ ']' :: r = itemsText ys ++ ']' :: s := by
        simpa [text] using h
      obtain ⟨rfl, rest⟩ := itemsText_append_inj xs ys inner
      exact ⟨rfl, rest⟩
  | object xs =>
    cases j <;> cases kinds
    next ys =>
      have inner : membersText xs ++ '\x7d' :: r = membersText ys ++ '\x7d' :: s := by
        simpa [text] using h
      obtain ⟨rfl, rest⟩ := membersText_append_inj xs ys inner
      exact ⟨rfl, rest⟩

theorem itemsText_append_inj (xs ys : List Json) {r s : Sql}
    (h : itemsText xs ++ ']' :: r = itemsText ys ++ ']' :: s) : xs = ys ∧ r = s := by
  cases xs with
  | nil =>
    cases ys with
    | nil => exact ⟨rfl, (List.cons.inj h).2⟩
    | cons y ys => exact absurd ((itemsText_cons y ys s).symm.trans h.symm) (text_ne_close rfl)
  | cons x xs =>
    cases ys with
    | nil => exact absurd ((itemsText_cons x xs r).symm.trans h) (text_ne_close rfl)
    | cons y ys =>
      rw [itemsText_cons, itemsText_cons] at h
      have last : xs.isEmpty = true → _ := (itemsText_of_isEmpty · r)
      have last' : ys.isEmpty = true → _ := (itemsText_of_isEmpty · s)
      obtain ⟨rfl, tails⟩ := text_append_inj x y (ends_behind (by decide) last)
        (ends_behind (by decide) last') h
      obtain ⟨rfl, rest⟩ :=
        itemsText_append_inj xs ys (behind_inj (by decide) last last' tails)
      exact ⟨rfl, rest⟩

theorem membersText_append_inj (xs ys : List (String × Json)) {r s : Sql}
    (h : membersText xs ++ '\x7d' :: r = membersText ys ++ '\x7d' :: s) : xs = ys ∧ r = s := by
  cases xs with
  | nil =>
    cases ys with
    | nil => exact ⟨rfl, (List.cons.inj h).2⟩
    | cons y ys =>
      rw [show y = (y.1, y.2) from rfl, membersText_cons] at h
      cases (List.cons.inj h).1
  | cons x xs =>
    obtain ⟨k, v⟩ := x
    cases ys with
    | nil =>
      rw [membersText_cons] at h
      cases (List.cons.inj h).1
    | cons y ys =>
      obtain ⟨l, w⟩ := y
      rw [membersText_cons, membersText_cons] at h
      have read := congrArg readString h
      rw [readString_stringText, readString_stringText] at read
      obtain ⟨rfl, values⟩ := Prod.mk.inj (Option.some.inj read)
      have last : xs.isEmpty = true → _ := (membersText_of_isEmpty · r)
      have last' : ys.isEmpty = true → _ := (membersText_of_isEmpty · s)
      obtain ⟨rfl, tails⟩ := text_append_inj v w (ends_behind (by decide) last)
        (ends_behind (by decide) last') (List.cons.inj values).2
      obtain ⟨rfl, rest⟩ :=
        membersText_append_inj xs ys (behind_inj (by decide) last last' tails)
      exact ⟨rfl, rest⟩

end

/-- The text of a document tells the document. -/
theorem text_inj {i j : Json} (h : text i = text j) : i = j :=
  (text_append_inj i j (by simp [Ends]) (by simp [Ends]) (congrArg (· ++ []) h)).1

end BulkSql.Json
