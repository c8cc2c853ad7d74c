import BulkSql.Proofs.Bytes

/-!
The bytes of a text are read as its characters are. A byte of a character that is not ASCII belongs
to a word, a quoted text or a comment and is never the mark that ends one, so that the cursor stops
between characters only.
-/
namespace BulkSql

namespace Cursor

open Utf8

/-! ### Quoted texts and comments -/

/-- What is left in bytes, of a text that was split. -/
def left (x : Split) : Option Bytes := x.map fun p => bytes p.2

@[simp] theorem left_none : left none = none := rfl

@[simp] theorem left_some (t r : Sql) : left (some (t, r)) = some (bytes r) := rfl

@[simp] theorem left_push (c : Char) (x : Split) : left (Split.push c x) = left x := by
  cases x <;> rfl

section Quoted

variable {q : Char} (hq : IsAscii q) {escapes : Bool}

include hq

theorem afterQuoted_cons_wide {b : UInt8} (h : IsWide b) (bs : Bytes) :
    afterQuoted q escapes (b :: bs) = afterQuoted q escapes bs := by
  have backslash : b ≠ '\\'.toUInt8 := ne_of_isWide h (by decide)
  rw [afterQuoted, if_neg (by simp [backslash]), if_neg (by simp [ne_of_isWide h hq])]

theorem afterQuoted_append_wide {ws : Bytes} (h : ∀ b ∈ ws, IsWide b) (bs : Bytes) :
    afterQuoted q escapes (ws ++ bs) = afterQuoted q escapes bs := by
  induction ws with
  | nil => rfl
  | cons w ws ih =>
    rw [List.forall_mem_cons] at h
    rw [List.cons_append, afterQuoted_cons_wide hq h.1, ih h.2]

/-- Behind an escaped character the cursor goes on as behind its first byte. -/
theorem afterQuoted_drop (d : Char) (r : Sql) :
    afterQuoted q escapes ((bytes (d :: r)).drop 1) = afterQuoted q escapes (bytes r) := by
  by_cases hd : IsAscii d
  · rw [bytes_ascii hd, List.drop_one, List.tail_cons]
  · obtain ⟨b, bs, e, -, wide⟩ := exists_bytes_wide hd
    rw [bytes_cons, e, List.cons_append, List.drop_one, List.tail_cons,
      afterQuoted_append_wide hq wide]

theorem afterQuoted_bytes (special : q ≠ '\\') (s : Sql) :
    afterQuoted q escapes (bytes s) = left (Lexeme.quotedTail q escapes s) := by
  -- the cursor in front of a whole character
  have split (c : Char) (r : Sql) : afterQuoted q escapes (bytes (c :: r)) =
      if escapes && c == '\\' then afterQuoted q escapes ((bytes r).drop 1)
      else if c = q then
        if r.head? == some q then afterQuoted q escapes ((bytes r).drop 1) else some (bytes r)
      else afterQuoted q escapes (bytes r) := by
    by_cases hc : IsAscii c
    · have backslash : (c.toUInt8 == '\\'.toUInt8) = (c == '\\') := (Agree.eq (by decide)).ascii c hc
      simp only [bytes_ascii hc, afterQuoted, backslash, isAt_bytes hq, beq_iff_eq,
        toUInt8_inj hc hq]
    · have backslash : c ≠ '\\' := ne_of_not_isAscii hc (by decide)
      have quote : c ≠ q := ne_of_not_isAscii hc hq
      rw [bytes_cons, afterQuoted_append_wide hq (isWide_of_mem hc), if_neg (by simp [backslash]),
        if_neg quote]
  have plain : (escapes && q == '\\') = false := by simp [special]
  have nothing : afterQuoted q escapes [] = none := by rw [afterQuoted]
  fun_induction Lexeme.quotedTail q escapes s with
  | case1 => exact nothing
  | case2 => simp [split, plain]
  | case3 c hc => simp [split, hc, nothing]
  | case4 c d r hc ih =>
    rw [split, if_pos hc, afterQuoted_drop hq, ih, left_push, left_push]
  | case5 r hc ih =>
    rw [split, if_neg hc, if_pos rfl, if_pos (by simp), afterQuoted_drop hq, ih, left_push,
      left_push]
  | case6 d r hd hc => rw [split, if_neg hc, if_pos rfl, if_neg (by simp [hd]), left_some]
  | case7 c d r hc hd ih => rw [split, if_neg hc, if_neg hd, ih, left_push]

end Quoted

/-- The cursor passes by bytes that are not ASCII. -/
theorem afterComment_append_wide (nesting : Nat) {ws : Bytes} (h : ∀ b ∈ ws, IsWide b)
    (bs : Bytes) : afterComment nesting (ws ++ bs) = afterComment nesting bs := by
  have slash {b : UInt8} (hb : IsWide b) : b ≠ '/'.toUInt8 := ne_of_isWide hb (by decide)
  have star {b : UInt8} (hb : IsWide b) : b ≠ '*'.toUInt8 := ne_of_isWide hb (by decide)
  induction ws with
  | nil => rfl
  | cons w ws ih =>
    rw [List.forall_mem_cons] at h
    rw [← ih h.2, List.cons_append]
    cases ws ++ bs with
    | nil => rfl
    | cons c rest =>
      rw [afterComment, if_neg (by simp [slash h.1]), if_neg (by simp [star h.1])]

theorem afterComment_cons_cons (nesting : Nat) (c d : Char) (r : Sql) :
    afterComment nesting (bytes (c :: d :: r)) =
      if c = '/' ∧ d = '*' then afterComment (nesting + 1) (bytes r)
      else if c = '*' ∧ d = '/' then
        if nesting - 1 = 0 then some (bytes r) else afterComment (nesting - 1) (bytes r)
      else afterComment nesting (bytes (d :: r)) := by
  have slash : IsAscii '/' := by decide
  have star : IsAscii '*' := by decide
  by_cases hc : IsAscii c
  · by_cases hd : IsAscii d
    · simp only [bytes_ascii hc, bytes_ascii hd, afterComment, Bool.and_eq_true, beq_iff_eq,
        toUInt8_inj hc slash, toUInt8_inj hc star, toUInt8_inj hd slash, toUInt8_inj hd star]
    · obtain ⟨b, bs, e, wide, -⟩ := exists_bytes_wide hd
      have notSlash : d ≠ '/' := ne_of_not_isAscii hd slash
      have notStar : d ≠ '*' := ne_of_not_isAscii hd star
      rw [bytes_ascii hc, bytes_cons, e, List.cons_append, afterComment,
        if_neg (by simp [ne_of_isWide wide star]), if_neg (by simp [ne_of_isWide wide slash]),
        if_neg (by simp [notStar]), if_neg (by simp [notSlash])]
  · have notSlash : c ≠ '/' := ne_of_not_isAscii hc slash
    have notStar : c ≠ '*' := ne_of_not_isAscii hc star
    rw [bytes_cons, afterComment_append_wide nesting (isWide_of_mem hc),
      if_neg (by simp [notSlash]), if_neg (by simp [notStar])]

theorem afterComment_bytes (depth : Nat) (s : Sql) :
    afterComment (depth + 1) (bytes s) = left (Lexeme.commentTail depth s) := by
  fun_induction Lexeme.commentTail depth s with
  | case1 => rfl
  | case2 depth c =>
    by_cases hc : IsAscii c
    · rw [bytes_ascii hc]
      rfl
    · rw [bytes_cons, afterComment_append_wide _ (isWide_of_mem hc)]
      rfl
  | case3 depth c d r h ih => rw [afterComment_cons_cons, if_pos h, ih, left_push, left_push]
  | case4 c d r opens closes => rw [afterComment_cons_cons, if_neg opens, if_pos closes]; rfl
  | case5 c d r opens closes depth ih =>
    rw [afterComment_cons_cons, if_neg opens, if_pos closes, if_neg (by simp),
      Nat.add_sub_cancel, ih, left_push, left_push]
  | case6 depth c d r opens closes ih =>
    rw [afterComment_cons_cons, if_neg opens, if_neg closes, ih, left_push]

/-! ### Dollar-quoted texts -/

/-- A text of ASCII characters only. -/
def IsPlain (s : Sql) : Prop := ∀ c ∈ s, IsAscii c

theorem isPrefixOf_bytes {d : Sql} (hd : IsPlain d) (s : Sql) :
    (bytes d).isPrefixOf (bytes s) = d.isPrefixOf s := by
  induction d generalizing s with
  | nil => simp
  | cons c d ih =>
    rw [IsPlain, List.forall_mem_cons] at hd
    cases s with
    | nil => simp [bytes_ascii hd.1]
    | cons x s =>
      by_cases hx : IsAscii x
      · rw [bytes_ascii hd.1, bytes_ascii hx, List.isPrefixOf_cons_cons,
          List.isPrefixOf_cons_cons, ih hd.2, Bool.eq_iff_iff]
        simp [toUInt8_inj hd.1 hx]
      · obtain ⟨b, bs, e, wide, -⟩ := exists_bytes_wide hx
        have other : c ≠ x := (ne_of_not_isAscii hx hd.1).symm
        rw [bytes_ascii hd.1, bytes_cons, e, List.cons_append, List.isPrefixOf_cons_cons,
          List.isPrefixOf_cons_cons, beq_false_of_ne other,
          beq_false_of_ne (ne_of_isWide wide hd.1).symm, Bool.false_and, Bool.false_and]

theorem afterFirst_append_wide {c : Char} (hc : IsAscii c) (d : Bytes) {ws : Bytes}
    (h : ∀ b ∈ ws, IsWide b) (bs : Bytes) :
    afterFirst (c.toUInt8 :: d) (ws ++ bs) = afterFirst (c.toUInt8 :: d) bs := by
  induction ws with
  | nil => rfl
  | cons w ws ih =>
    rw [List.forall_mem_cons] at h
    have other : (c.toUInt8 == w) = false := beq_false_of_ne (ne_of_isWide h.1 hc).symm
    rw [List.cons_append, afterFirst, List.isPrefixOf_cons_cons, other, Bool.false_and,
      if_neg Bool.false_ne_true, ih h.2]

theorem afterFirst_cons {c : Char} {d : Sql} (hd : IsPlain (c :: d)) (x : Char) (r : Sql) :
    afterFirst (bytes (c :: d)) (bytes (x :: r)) =
      if (c :: d).isPrefixOf (x :: r) then some (bytes ((x :: r).drop (c :: d).length))
      else afterFirst (bytes (c :: d)) (bytes r) := by
  have hc : IsAscii c := hd c List.mem_cons_self
  by_cases hx : IsAscii x
  · have same := isPrefixOf_bytes hd (x :: r)
    rw [bytes_ascii hx] at same ⊢
    rw [afterFirst, same, ← bytes_ascii hx]
    split
    · next found =>
      obtain ⟨t, e⟩ := List.isPrefixOf_iff_prefix.1 found
      rw [← e, bytes_append, List.drop_left, List.drop_left]
    · rfl
  · have other : (c == x) = false := beq_false_of_ne (ne_of_not_isAscii hx hc).symm
    rw [List.isPrefixOf_cons_cons, other, Bool.false_and, if_neg Bool.false_ne_true, bytes_ascii hc,
      bytes_cons x, afterFirst_append_wide hc _ (isWide_of_mem hx)]

theorem afterFirst_bytes {c : Char} {d : Sql} (hd : IsPlain (c :: d)) (s : Sql) :
    afterFirst (bytes (c :: d)) (bytes s) = left (Lexeme.through (c :: d) s) := by
  fun_induction Lexeme.through (c :: d) s with
  | case1 => rfl
  | case2 x r found => rw [afterFirst_cons hd, if_pos found, left_some]
  | case3 x r other ih => rw [afterFirst_cons hd, if_neg other, ih, left_push]

end Cursor

namespace Lexeme

theorem eq_of_dropWhile_ne {s body : Sql} {d : Char} (e : s.dropWhile (· != '$') = d :: body) :
    d = '$' ∧ s = s.takeWhile (· != '$') ++ '$' :: body := by
  have first := List.head?_dropWhile_not (· != '$') s
  obtain rfl : d = '$' := by simpa [e] using first
  exact ⟨rfl, by rw [← e, List.takeWhile_append_dropWhile]⟩

/-- The tag of a dollar-quoted text is what stands in front of the next dollar sign, if that has
characters of tags only. -/
theorem dollarQuoted_eq (s : Sql) :
    dollarQuoted s =
      match s.dropWhile (· != '$') with
      | [] => .error .strayDollar
      | d :: body =>
        if (s.takeWhile (· != '$')).all isTagChar then
          closed (.token .string) .unterminatedDollarQuote (d :: (s.takeWhile (· != '$') ++ [d]))
            (through (d :: (s.takeWhile (· != '$') ++ [d])) body)
        else .error .strayDollar := by
  -- no tag goes over the first dollar sign
  have whole {tag r : Sql} (h : tag.all isTagChar = true) (e : s = tag ++ '$' :: r) :
      s.takeWhile (· != '$') = tag ∧ s.dropWhile (· != '$') = '$' :: r := by
    have ne : ∀ c ∈ tag, (c != '$') = true := by
      intro c hc
      refine bne_iff_ne.2 ?_
      rintro rfl
      cases List.all_eq_true.1 h '$' hc
    rw [e, List.takeWhile_append_of_pos ne, List.dropWhile_append_of_pos ne]
    simp
  cases e : s.dropWhile (· != '$') with
  | nil =>
    refine dollarQuoted_of_stray fun tag r split => Bool.eq_false_iff.2 fun all => ?_
    cases e.symm.trans (whole all split).2
  | cons d body =>
    obtain ⟨rfl, split⟩ := eq_of_dropWhile_ne e
    cases all : (s.takeWhile (· != '$')).all isTagChar with
    | true =>
      conv_lhs => rw [split]
      exact dollarQuoted_of_tag all body
    | false =>
      refine dollarQuoted_of_stray fun tag r split' => Bool.eq_false_iff.2 fun all' => ?_
      rw [(whole all' split').1, all'] at all
      cases all

end Lexeme

namespace Cursor

open Utf8

/-! ### Lexemes -/

/-- A lexeme and what is left behind it, in bytes. -/
def moved (x : Except Unsupported (Lexeme × Sql)) :
    Except Unsupported (Option TokenKind × Bytes) :=
  x.map fun p => (p.1.kind?, bytes p.2)

theorem moved_gap (fault : Unsupported) (start : Sql) (x : Split) :
    moved (Lexeme.closed .gap fault start x) = ended none fault (left x) := by
  cases x <;> rfl

theorem moved_token (kind : TokenKind) (fault : Unsupported) (start : Sql) (x : Split) :
    moved (Lexeme.closed (.token kind) fault start x) = ended (some kind) fault (left x) := by
  cases x <;> rfl

theorem moved_run (make : Sql → Lexeme) {p : Char → Bool} {q : UInt8 → Bool} (h : Agree p q)
    (c : Char) (r : Sql) :
    moved (Lexeme.run make p c r) =
      .ok ((make (c :: r.takeWhile p)).kind?, (bytes r).dropWhile q) := by
  rw [h.dropWhile_bytes]
  rfl

theorem isPlain_delimiter {tag : Sql} (h : tag.all Lexeme.isTagChar = true) :
    IsPlain ('$' :: (tag ++ ['$'])) := by
  have inside : ∀ c ∈ tag, IsAscii c := fun c hc =>
    agree_isTagPart.isAscii rfl (List.all_eq_true.1 h c hc)
  intro c hc
  simp only [List.mem_cons, List.mem_append, List.not_mem_nil, or_false] at hc
  rcases hc with rfl | hc | rfl
  · decide
  · exact inside c hc
  · decide

theorem moved_dollarQuoted (s : Sql) :
    moved (Lexeme.dollarQuoted s) =
      (afterDollarQuoted (bytes s)).map fun rest => (some .string, rest) := by
  have dollar : Agree (· != '$') (· != '$'.toUInt8) := .ne (by decide)
  rw [Lexeme.dollarQuoted_eq, afterDollarQuoted, tag, dollar.dropWhile_bytes,
    dollar.takeWhile_bytes, agree_isTagPart.all_eq]
  cases e : s.dropWhile (· != '$') with
  | nil => rfl
  | cons d body =>
    obtain rfl : d = '$' := (Lexeme.eq_of_dropWhile_ne e).1
    have front : bytes ('$' :: body) = '$'.toUInt8 :: bytes body := bytes_ascii (by decide) body
    simp only [front]
    split
    · next tags =>
      have same := afterFirst_bytes (isPlain_delimiter tags) body
      rw [bytes_ascii (by decide), bytes_append, show bytes ['$'] = ['$'.toUInt8] from rfl] at same
      rw [same, moved_token]
      cases Lexeme.through ('$' :: (s.takeWhile (· != '$') ++ ['$'])) body <;> rfl
    · rfl

/-- What the cursor tells from the character in front of it and the one behind that. -/
theorem next_eq {c : Char} (hc : IsAscii c) (r : Sql) :
    next c.toUInt8 (bytes r) =
      if BulkSql.isGap c then .ok (none, bytes r)
      else if c == '-' && r.head? == some '-' then
        .ok (none, (bytes r).dropWhile (· != '\n'.toUInt8))
      else if c == '/' && r.head? == some '*' then
        ended none .unterminatedComment (afterComment 0 (bytes (c :: r)))
      else if c == '\'' then
        ended (some .string) .unterminatedQuote (afterQuoted '\'' false (bytes r))
      else if (c == 'e' || c == 'E') && r.head? == some '\'' then
        ended (some .string) .unterminatedQuote (afterQuoted '\'' true ((bytes r).drop 1))
      else if c == '"' then
        ended (some .quotedName) .unterminatedQuote (afterQuoted '"' false (bytes r))
      else if c == '$' && Lexeme.digitNext r then .ok (some .param, (bytes r).dropWhile isDigit)
      else if c == '$' then (afterDollarQuoted (bytes r)).map fun rest => (some .string, rest)
      else if c == '(' then .ok (some .openParen, bytes r)
      else if c == ')' then .ok (some .closeParen, bytes r)
      else if c == ',' then .ok (some .comma, bytes r)
      else if c == ';' then .ok (some .semicolon, bytes r)
      else if c == '.' && !Lexeme.digitNext r then .ok (some .dot, bytes r)
      else if c.isDigit || c == '.' then .ok (some .number, (bytes r).dropWhile isNumberPart)
      else if BulkSql.isWordPart c then .ok (some .word, (bytes r).dropWhile isWordPart)
      else .ok (some .symbol, bytes r) := by
  have test (d : Char) (hd : IsAscii d) : (c.toUInt8 == d.toUInt8) = (c == d) :=
    (Agree.eq hd).ascii c hc
  rw [next, test '-' (by decide), test '/' (by decide), test '\'' (by decide),
    test 'e' (by decide), test 'E' (by decide), test '"' (by decide), test '$' (by decide),
    test '(' (by decide), test ')' (by decide), test ',' (by decide), test ';' (by decide),
    test '.' (by decide), isAt_bytes (by decide), isAt_bytes (by decide), isAt_bytes (by decide),
    isAtDigit_bytes, agree_isGap.ascii c hc, agree_isDigit.ascii c hc, agree_isWordPart.ascii c hc,
    ← bytes_ascii hc]

/-- A lexeme that its first character tells. -/
theorem next_of_plain {c : Char} (hc : IsAscii c) {r : Sql} (h : Lexeme.Plain c r) :
    next c.toUInt8 (bytes r) = moved (Lexeme.read c r) := by
  have line : (c == '-' && r.head? == some '-') = false := by simpa using h.line
  have block : (c == '/' && r.head? == some '*') = false := by simpa using h.block
  have escape : ((c == 'e' || c == 'E') && r.head? == some '\'') = false := by simpa using h.escape
  have mark := h.mark
  simp only [List.mem_cons, List.not_mem_nil, or_false, not_or] at mark
  obtain ⟨quote, name, dollar, opens, closes, comma, semicolon⟩ := mark
  rw [next_eq hc, Lexeme.read_of_plain h, h.gap, line, block, escape, beq_false_of_ne quote,
    beq_false_of_ne name, beq_false_of_ne dollar, beq_false_of_ne opens, beq_false_of_ne closes,
    beq_false_of_ne comma, beq_false_of_ne semicolon]
  simp only [Bool.false_eq_true, if_false, Bool.false_and]
  cases digit : c.isDigit with
  | true =>
    have dot : c ≠ '.' := by
      rintro rfl
      cases digit
    rw [beq_false_of_ne dot]
    exact (moved_run (.token .number) agree_isNumberPart c r).symm
  | false =>
    by_cases dot : c = '.'
    · subst dot
      cases Lexeme.digitNext r with
      | true => exact (moved_run (.token .number) agree_isNumberPart '.' r).symm
      | false => rfl
    · rw [beq_false_of_ne dot, if_neg dot]
      simp only [Bool.false_eq_true, if_false, Bool.false_and, Bool.or_false]
      split
      · exact (moved_run (.token .word) agree_isWordPart c r).symm
      · rfl

/-- What the cursor moves over is the first lexeme, but for blanks, which it takes one by one. -/
theorem next_ascii {c : Char} (hc : IsAscii c) (solid : BulkSql.isGap c = false) (r : Sql) :
    next c.toUInt8 (bytes r) = moved (Lexeme.read c r) := by
  have plain : Lexeme.Plain c r → next c.toUInt8 (bytes r) = moved (Lexeme.read c r) :=
    next_of_plain hc
  -- one case for each mark, and a last one in which the first character tells
  generalize e : Lexeme.read c r = x at plain ⊢
  unfold Lexeme.read at e
  rw [if_neg (by simp [solid])] at e
  split at e
  · rw [next_eq hc, ← e, moved_run .gap (.ne (by decide))]
    rfl
  · rw [next_eq hc, ← e, moved_gap, ← afterComment_bytes, afterComment_cons_cons]
    rfl
  · rw [next_eq hc, ← e, Lexeme.read.escapeString, moved_token,
      ← afterQuoted_bytes (by decide) (by decide)]
    rfl
  · rw [next_eq hc, ← e, Lexeme.read.escapeString, moved_token,
      ← afterQuoted_bytes (by decide) (by decide)]
    rfl
  · rw [next_eq hc, ← e, moved_token, ← afterQuoted_bytes (by decide) (by decide)]
    rfl
  · rw [next_eq hc, ← e, moved_token, ← afterQuoted_bytes (by decide) (by decide)]
    rfl
  · rw [next_eq hc]
    cases digits : Lexeme.digitNext r with
    | true =>
      rw [digits, if_pos rfl] at e
      rw [← e, moved_run (.token .param) agree_isDigit]
      rfl
    | false =>
      rw [digits, if_neg Bool.false_ne_true] at e
      exact e ▸ (moved_dollarQuoted r).symm
  · exact next_eq hc r ▸ e ▸ rfl
  · exact next_eq hc r ▸ e ▸ rfl
  · exact next_eq hc r ▸ e ▸ rfl
  · exact next_eq hc r ▸ e ▸ rfl
  · refine plain ⟨solid, by simp_all, ?_, ?_, ?_⟩
    · exact fun e => Lexeme.head?_ne fun t => by simp_all
    · exact fun e => Lexeme.head?_ne fun t => by simp_all
    · rintro (e | e) <;> exact Lexeme.head?_ne fun t => by simp_all

/-- A byte that is not ASCII starts a word. -/
theorem next_of_isWide {b : UInt8} (hb : IsWide b) (bs : Bytes) :
    next b bs = .ok (some .word, bs.dropWhile isWordPart) := by
  have other (d : Char) (hd : IsAscii d) : (b == d.toUInt8) = false :=
    beq_false_of_ne (ne_of_isWide hb hd)
  have gap : isGap b = false := agree_isGap.wide 'é' b (by decide) hb
  have digit : isDigit b = false := agree_isDigit.wide 'é' b (by decide) hb
  have part : isWordPart b = true := agree_isWordPart.wide 'é' b (by decide) hb
  rw [next, gap, digit, part, other '-' (by decide), other '/' (by decide), other '\'' (by decide),
    other 'e' (by decide), other 'E' (by decide), other '"' (by decide), other '$' (by decide),
    other '(' (by decide), other ')' (by decide), other ',' (by decide), other ';' (by decide),
    other '.' (by decide)]
  rfl

theorem read_of_wide {c : Char} (hc : ¬ IsAscii c) (r : Sql) :
    Lexeme.read c r = Lexeme.run (.token .word) BulkSql.isWordPart c r := by
  have ne (d : Char) (hd : IsAscii d) : c ≠ d := ne_of_not_isAscii hc hd
  have part : BulkSql.isWordPart c = true := by
    have large : 128 ≤ c.toNat := Nat.le_of_not_lt hc
    simp [BulkSql.isWordPart, large]
  have digit : c.isDigit = false := Bool.eq_false_iff.2 fun h => hc (agree_isDigit.isAscii rfl h)
  have dot : c ≠ '.' := ne '.' (by decide)
  have plain : Lexeme.Plain c r := .word part (ne '$' (by decide)) fun h =>
    absurd h (not_or.2 ⟨ne 'e' (by decide), ne 'E' (by decide)⟩)
  rw [Lexeme.read_of_plain plain, if_neg (by simp [digit, dot]), if_neg dot, if_pos part]

/-- The cursor at a character that starts a lexeme moves over that one. Of blanks it takes only the
first. -/
theorem next_bytes {c : Char} (solid : BulkSql.isGap c = false) {r : Sql} {b : UInt8} {bs : Bytes}
    (e : bytes (c :: r) = b :: bs) : next b bs = moved (Lexeme.read c r) := by
  by_cases hc : IsAscii c
  · rw [bytes_ascii hc] at e
    obtain ⟨rfl, rfl⟩ := List.cons.inj e
    exact next_ascii hc solid r
  · obtain ⟨first, rest, whole, wide, wides⟩ := exists_bytes_wide hc
    rw [bytes_cons, whole] at e
    obtain ⟨rfl, rfl⟩ := List.cons.inj e
    have inWord : ∀ x ∈ rest, isWordPart x = true := fun x hx =>
      agree_isWordPart.wide 'é' x (by decide) (wides x hx)
    rw [next_of_isWide wide, read_of_wide hc, moved_run (.token .word) agree_isWordPart]
    have inside : (rest ++ bytes r).dropWhile isWordPart = (bytes r).dropWhile isWordPart :=
      List.dropWhile_append_of_pos inWord
    exact congrArg (fun bs => Except.ok (some TokenKind.word, bs)) inside

/-! ### Whole texts -/

theorem spansFrom_cons (n depth : Nat) (b : UInt8) (bs : Bytes) :
    spansFrom n depth (b :: bs) =
      match next b bs with
      | .error fault => .error fault
      | .ok (none, rest) => spansFrom n depth rest
      | .ok (some kind, rest) =>
        match Scan.nesting depth kind with
        | some (own, inner) =>
          (spansFrom n inner rest).map (⟨kind, n - (b :: bs).length, n - rest.length, own⟩ :: ·)
        | none => .error .unbalancedClose := by
  rw [spansFrom]
  split <;> next e => exact e ▸ rfl

/-- The cursor takes the blanks in front of a text one by one. -/
theorem spansFrom_blanks (n depth : Nat) (s : Sql) :
    spansFrom n depth (bytes (s.dropWhile BulkSql.isGap)) = spansFrom n depth (bytes s) := by
  induction s with
  | nil => rfl
  | cons c r ih =>
    rw [List.dropWhile_cons]
    split
    · next gap =>
      have hc : IsAscii c := agree_isGap.isAscii rfl gap
      rw [ih, bytes_ascii hc, spansFrom_cons, next_eq hc, if_pos gap]
    · rfl

theorem spansFrom_bytes (n depth : Nat) (c : Char) (r : Sql) :
    spansFrom n depth (bytes (c :: r)) =
      match Lexeme.read c r with
      | .error fault => .error fault
      | .ok (.gap _, rest) => spansFrom n depth (bytes rest)
      | .ok (.token kind _, rest) =>
        match Scan.nesting depth kind with
        | some (own, inner) =>
          (spansFrom n inner (bytes rest)).map
            (⟨kind, n - Utf8.size (c :: r), n - Utf8.size rest, own⟩ :: ·)
        | none => .error .unbalancedClose := by
  cases gap : BulkSql.isGap c with
  | true =>
    rw [← spansFrom_blanks, List.dropWhile_cons_of_pos gap, Lexeme.read.eq_def, if_pos gap]
    rfl
  | false =>
    obtain ⟨b, bs, e⟩ := List.exists_cons_of_ne_nil (bytes_ne_nil c r)
    rw [← length_bytes (c :: r), e, spansFrom_cons, next_bytes gap e]
    rcases Lexeme.read c r with fault | ⟨g | ⟨kind, t⟩, rest⟩
    · rfl
    · rfl
    · simp only [moved, Except.map, Lexeme.kind?, length_bytes]

end Cursor

/-- The bytes that some tokens take up in a text, if they stand behind its first `front` bytes. -/
def Token.spans (front : Nat) : List Token → List Span
  | [] => []
  | t :: ts =>
    let start := front + Utf8.size t.before
    let stop := start + Utf8.size t.text
    ⟨t.kind, start, stop, t.depth⟩ :: spans stop ts

namespace Cursor

open Utf8

theorem spansFrom_eq_collect (front depth : Nat) (before s : Sql) :
    spansFrom (front + Utf8.size before + Utf8.size s) depth (bytes s) =
      (Scan.collect (Lexeme.readAll s).2 depth before (Lexeme.readAll s).1).map
        fun scan => Token.spans front scan.tokens := by
  fun_induction Lexeme.readAll s generalizing front depth before with
  | case1 =>
    rw [bytes_nil, spansFrom, Scan.collect]
    split <;> rfl
  | case2 c r l rest read ih =>
    have whole := congrArg Utf8.size (Lexeme.read_reads c r l rest read).1
    rw [size_append] at whole
    rw [spansFrom_bytes, read]
    cases l with
    | gap g =>
      rw [Scan.collect, ← ih, ← whole, size_append]
      simp only [Lexeme.text, Nat.add_assoc]
    | token kind t =>
      simp only [Scan.collect]
      cases Scan.nesting depth kind with
      | none => rfl
      | some own =>
        -- the rest stands behind the token and all that was in front of it
        have behind : front + size before + size (c :: r) =
            front + size before + size t + size ([] : Sql) + size rest := by
          rw [← whole, Lexeme.text, size, Nat.add_zero, Nat.add_assoc (front + size before)]
        have stop : front + size before + size (c :: r) - size rest =
            front + size before + size t := by
          rw [behind, Nat.add_sub_cancel, size, Nat.add_zero]
        simp only [Nat.add_sub_cancel, stop]
        rw [behind, ih]
        cases Scan.collect (Lexeme.readAll rest).2 own.2 [] (Lexeme.readAll rest).1 <;> rfl
  | case3 c r fault read =>
    rw [spansFrom_bytes, read]
    rfl

/-- The tokens by their bytes are those by their characters. -/
theorem spans_bytes (s : Sql) :
    spans (bytes s) = (Scan.ofSql s).map fun scan => Token.spans 0 scan.tokens := by
  have whole := spansFrom_eq_collect 0 0 [] s
  rw [Utf8.size, Nat.add_zero, Nat.zero_add] at whole
  rw [spans, length_bytes, whole]
  rfl

end Cursor

end BulkSql
