import BulkSql.Proofs.Separator

/-!
Texts that cannot be read to the end. A literal or comment that starts somewhere does not end, or a
dollar sign starts neither a parameter nor a literal.
-/
namespace BulkSql

namespace Lexeme

open Split (push_none push_eq_none_iff)

/-! ### Parts without an end -/

/-- Text that does not close the quoted text it stands in. A doubled quote closes nothing, and
neither does a character behind a backslash where these escape. -/
inductive Unclosed (quote : Char) (escapes : Bool) : Sql → Prop
  | nil : Unclosed quote escapes []
  | char {c r} (hq : c ≠ quote) (he : escapes = true → c ≠ '\\')
    (hr : Unclosed quote escapes r) : Unclosed quote escapes (c :: r)
  | doubled {r} (hr : Unclosed quote escapes r) : Unclosed quote escapes (quote :: quote :: r)
  | escaped {c r} (he : escapes = true) (hr : Unclosed quote escapes r) :
    Unclosed quote escapes ('\\' :: c :: r)
  | escaping (he : escapes = true) : Unclosed quote escapes ['\\']

theorem quotedTail_eq_none_iff {q : Char} (hq : q ≠ '\\') {escapes : Bool} {s : Sql} :
    quotedTail q escapes s = none ↔ Unclosed q escapes s := by
  constructor
  · intro h
    fun_induction quotedTail q escapes s with
    | case1 => exact .nil
    | case2 => cases h
    | case3 c hc =>
      by_cases he : escapes = true ∧ c = '\\'
      · obtain ⟨he, rfl⟩ := he
        exact .escaping he
      · exact .char hc (not_and.1 he) .nil
    | case4 c d r he ih =>
      simp only [Bool.and_eq_true, beq_iff_eq] at he
      obtain ⟨he, rfl⟩ := he
      exact .escaped he (ih (push_eq_none_iff.1 (push_eq_none_iff.1 h)))
    | case5 r he ih => exact .doubled (ih (push_eq_none_iff.1 (push_eq_none_iff.1 h)))
    | case6 => cases h
    | case7 c d r he hc ih =>
      simp only [Bool.and_eq_true, beq_iff_eq] at he
      exact .char hc (not_and.1 he) (ih (push_eq_none_iff.1 h))
  · intro h
    induction h with
    | nil => rfl
    | @char c r hc he hr ih =>
      cases r with
      | nil => simp [quotedTail, hc]
      | cons d r =>
        have plain : ¬ (escapes && c == '\\') = true := by simpa using he
        rw [quotedTail, if_neg plain, if_neg hc, ih, push_none]
    | doubled _ ih => simp [quotedTail, hq, ih]
    | @escaped c r he _ ih => rw [quotedTail, if_pos (by simp [he]), ih, push_none, push_none]
    | escaping => simp [quotedTail, hq.symm]

theorem through_eq_none_iff {delimiter s : Sql} (ne : delimiter ≠ []) :
    through delimiter s = none ↔ ¬ delimiter <:+: s := by
  induction s with
  | nil => simp [through, ne]
  | cons c r ih =>
    rw [through, List.infix_cons_iff, ← List.isPrefixOf_iff_prefix]
    split
    · next found => simp [found]
    · next other => simp [other, push_eq_none_iff, ih]

/-- A text that starts with something that does not end, and what is wrong with it. -/
inductive Unended : Sql → Unsupported → Prop
  | comment {t} (h : ∀ u, u <+: t → ¬ Closes u) : Unended ('/' :: '*' :: t) .unterminatedComment
  | string {t} (h : Unclosed '\'' false t) : Unended ('\'' :: t) .unterminatedQuote
  | escapeString {e t} (he : e = 'e' ∨ e = 'E') (h : Unclosed '\'' true t) :
    Unended (e :: '\'' :: t) .unterminatedQuote
  | quotedName {t} (h : Unclosed '"' false t) : Unended ('"' :: t) .unterminatedQuote
  | dollarString {tag t} (hd : digitNext tag = false) (htag : tag.all isTagChar)
    (h : ¬ '$' :: (tag ++ ['$']) <:+: t) :
    Unended ('$' :: (tag ++ '$' :: t)) .unterminatedDollarQuote
  | strayDollar {t} (hd : digitNext t = false)
    (h : ∀ tag r, t = tag ++ '$' :: r → tag.all isTagChar = false) : Unended ('$' :: t) .strayDollar

theorem commentTail_eq_none_iff {s : Sql} :
    commentTail 0 s = none ↔ ∀ u, u <+: s → ¬ Closes u := by
  rw [Option.eq_none_iff_forall_ne_some]
  constructor
  · rintro h u ⟨r, e⟩ closes
    exact h (u, r) (commentTail_eq_some_iff.2 ⟨e, closes⟩)
  · rintro h ⟨u, r⟩ e
    obtain ⟨e, closes⟩ := commentTail_eq_some_iff.1 e
    exact h u ⟨r, e⟩ closes

theorem closed_eq_error_iff {make : Sql → Lexeme} {fault fault' : Unsupported} {start : Sql}
    {x : Split} : closed make fault start x = .error fault' ↔ x = none ∧ fault = fault' := by
  cases x <;> simp [closed]

theorem unended_of_dollarQuoted {s : Sql} {fault : Unsupported} (hd : digitNext s = false)
    (h : dollarQuoted s = .error fault) : Unended ('$' :: s) fault := by
  by_cases stray : ∀ tag r, s = tag ++ '$' :: r → tag.all isTagChar = false
  · rw [dollarQuoted_of_stray stray] at h
    cases h
    exact .strayDollar hd stray
  · push Not at stray
    obtain ⟨tag, r, rfl, all⟩ := stray
    rw [Bool.ne_false_iff] at all
    rw [dollarQuoted_of_tag all] at h
    obtain ⟨none, rfl⟩ := closed_eq_error_iff.1 h
    rw [digitNext_tag] at hd
    exact .dollarString hd all ((through_eq_none_iff (by simp)).1 none)

/-! ### Where reading stops -/

theorem unended_of_read {c : Char} {r : Sql} {fault : Unsupported} (h : read c r = .error fault) :
    Unended (c :: r) fault := by
  cases gap : isGap c with
  | true =>
    rw [read.eq_def, if_pos gap] at h
    cases h
  | false =>
    unfold read at h
    rw [if_neg (by simp [gap])] at h
    split at h
    · cases h
    · obtain ⟨none, rfl⟩ := closed_eq_error_iff.1 h
      exact .comment (commentTail_eq_none_iff.1 none)
    · obtain ⟨none, rfl⟩ := closed_eq_error_iff.1 h
      exact .escapeString (.inl rfl) ((quotedTail_eq_none_iff (by decide)).1 none)
    · obtain ⟨none, rfl⟩ := closed_eq_error_iff.1 h
      exact .escapeString (.inr rfl) ((quotedTail_eq_none_iff (by decide)).1 none)
    · obtain ⟨none, rfl⟩ := closed_eq_error_iff.1 h
      exact .string ((quotedTail_eq_none_iff (by decide)).1 none)
    · obtain ⟨none, rfl⟩ := closed_eq_error_iff.1 h
      exact .quotedName ((quotedTail_eq_none_iff (by decide)).1 none)
    · split at h
      · cases h
      · next digit => exact unended_of_dollarQuoted (by simpa using digit) h
    · cases h
    · cases h
    · cases h
    · cases h
    · split at h
      · cases h
      · split at h
        · cases h
        · split at h <;> cases h

theorem read_of_unended {c : Char} {r : Sql} {fault : Unsupported} (h : Unended (c :: r) fault) :
    read c r = .error fault := by
  cases h with
  | comment h => exact closed_eq_error_iff.2 ⟨commentTail_eq_none_iff.2 h, rfl⟩
  | string h => exact closed_eq_error_iff.2 ⟨(quotedTail_eq_none_iff (by decide)).2 h, rfl⟩
  | escapeString he h =>
    rcases he with rfl | rfl <;>
      exact closed_eq_error_iff.2 ⟨(quotedTail_eq_none_iff (by decide)).2 h, rfl⟩
  | quotedName h => exact closed_eq_error_iff.2 ⟨(quotedTail_eq_none_iff (by decide)).2 h, rfl⟩
  | @dollarString tag t hd htag h =>
    rw [read_dollar ((digitNext_tag tag t).trans hd), dollarQuoted_of_tag htag]
    exact closed_eq_error_iff.2 ⟨(through_eq_none_iff (by simp)).2 h, rfl⟩
  | strayDollar hd h => rw [read_dollar hd, dollarQuoted_of_stray h]

/-- Every literal and comment in the text ends, and no dollar sign is stray. -/
def Ends (s : Sql) : Prop :=
  ∀ ls r fault, written ls ++ r = s → Apart r.head? ls → ¬ Unended r fault

/-- A text is read up to the first lexeme that does not end. -/
theorem readAll_fault_iff {s : Sql} {fault : Unsupported} :
    (readAll s).2 = some fault ↔
      ∃ ls r, written ls ++ r = s ∧ Apart r.head? ls ∧ Unended r fault := by
  constructor
  · intro h
    fun_induction readAll s with
    | case1 => cases h
    | case2 c r l rest read ih =>
      obtain ⟨ls, r', rfl, apart, unended⟩ := ih h
      obtain ⟨whole, hl, ha⟩ := read_eq_ok_iff.1 read
      refine ⟨l :: ls, r', by simpa using whole, ⟨hl, ?_, apart⟩, unended⟩
      rwa [List.head?_append] at ha
    | case3 c r fault' read =>
      obtain rfl : fault' = fault := Option.some.inj h
      exact ⟨[], c :: r, rfl, trivial, unended_of_read read⟩
  · rintro ⟨ls, r, rfl, apart, unended⟩
    rw [readAll_append apart]
    cases r with
    | nil => cases unended
    | cons c r =>
      rw [readAll]
      have read := read_of_unended unended
      split <;> simp_all

theorem ends_iff {s : Sql} : Ends s ↔ ∃ ls, written ls = s ∧ Apart none ls := by
  have reads : Ends s ↔ (readAll s).2 = none := by
    simp only [Ends, Option.eq_none_iff_forall_ne_some, ne_eq, readAll_fault_iff]
    grind
  rw [reads]
  constructor
  · intro h
    exact ⟨(readAll s).1, readAll_eq_iff.1 (Prod.ext_iff.2 ⟨rfl, h⟩)⟩
  · rintro ⟨ls, h⟩
    rw [readAll_eq_iff.2 h]

end Lexeme

end BulkSql
