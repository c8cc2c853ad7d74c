import BulkSql.Proofs.Scan
import BulkSql.Sql.Body

/-!
What taking the blanks off the end of a text does to its lexemes. Whole gaps go, and so do the blanks
at the end of a line comment; a word loses those of its characters that are blanks, and is cut.
-/
namespace BulkSql

namespace Blank

theorem trimEnd_append (s t : Sql) :
    trimEnd (s ++ t) = if trimEnd t = [] then trimEnd s else s ++ trimEnd t := by
  simp only [trimEnd, List.reverse_append, List.dropWhile_append, List.isEmpty_iff,
    List.reverse_eq_nil_iff]
  split <;> simp

theorem trimEnd_append_of_self {s : Sql} (h : trimEnd s = s) (t : Sql) :
    trimEnd (s ++ t) = s ++ trimEnd t := by
  rw [trimEnd_append]
  split
  · next e => rw [h, e, List.append_nil]
  · rfl

theorem exists_trimEnd (s : Sql) : ∃ b, s = trimEnd s ++ b ∧ ∀ c ∈ b, isBlank c = true :=
  ⟨s.rtakeWhile isBlank, List.rdropWhile_append_rtakeWhile.symm, fun _ => List.mem_rtakeWhile_imp⟩

theorem length_trimEnd_le (s : Sql) : (trimEnd s).length ≤ s.length := by
  obtain ⟨blanks, e, -⟩ := exists_trimEnd s
  have := congrArg List.length e
  rw [List.length_append] at this
  omega

theorem trimEnd_eq_nil_iff {s : Sql} : trimEnd s = [] ↔ ∀ c ∈ s, isBlank c = true :=
  List.rdropWhile_eq_nil_iff

theorem trimEnd_concat (s : Sql) {c : Char} (h : isBlank c = false) :
    trimEnd (s ++ [c]) = s ++ [c] :=
  List.rdropWhile_concat_neg isBlank s c (by simp [h])

theorem trimEnd_of_all {s : Sql} (h : ∀ c ∈ s, isBlank c = false) : trimEnd s = s := by
  induction s using List.reverseRecOn with
  | nil => rfl
  | append_singleton s c _ => exact trimEnd_concat s (h c (by simp))

end Blank

namespace Lexeme

open Split (push_eq_some_iff)

/-! ### The last character of a lexeme -/

theorem exists_quotedTail_eq {q : Char} {escapes : Bool} {s t r : Sql}
    (h : quotedTail q escapes s = some (t, r)) : ∃ u, t = u ++ [q] := by
  fun_induction quotedTail q escapes s generalizing t with
  | case1 => cases h
  | case2 =>
    obtain rfl : [q] = t := by simp_all
    exact ⟨[], rfl⟩
  | case3 => cases h
  | case4 c d _ _ ih =>
    obtain ⟨u, rfl, hu⟩ := push_eq_some_iff.1 h
    obtain ⟨v, rfl, hv⟩ := push_eq_some_iff.1 hu
    obtain ⟨w, rfl⟩ := ih hv
    exact ⟨c :: d :: w, rfl⟩
  | case5 _ _ ih =>
    obtain ⟨u, rfl, hu⟩ := push_eq_some_iff.1 h
    obtain ⟨v, rfl, hv⟩ := push_eq_some_iff.1 hu
    obtain ⟨w, rfl⟩ := ih hv
    exact ⟨q :: q :: w, rfl⟩
  | case6 =>
    obtain rfl : [q] = t := by simp_all
    exact ⟨[], rfl⟩
  | case7 c _ _ _ _ ih =>
    obtain ⟨u, rfl, hu⟩ := push_eq_some_iff.1 h
    obtain ⟨w, rfl⟩ := ih hu
    exact ⟨c :: w, rfl⟩

theorem exists_commentTail_eq {depth : Nat} {s t r : Sql}
    (h : commentTail depth s = some (t, r)) : ∃ u, t = u ++ ['/'] := by
  fun_induction commentTail depth s generalizing t with
  | case1 => cases h
  | case2 => cases h
  | case3 _ c d _ _ ih =>
    obtain ⟨u, rfl, hu⟩ := push_eq_some_iff.1 h
    obtain ⟨v, rfl, hv⟩ := push_eq_some_iff.1 hu
    obtain ⟨w, rfl⟩ := ih hv
    exact ⟨c :: d :: w, rfl⟩
  | case4 c d _ _ hc =>
    obtain ⟨rfl, rfl⟩ := hc
    obtain rfl : ['*', '/'] = t := by simp_all
    exact ⟨['*'], rfl⟩
  | case5 c d _ _ _ _ ih =>
    obtain ⟨u, rfl, hu⟩ := push_eq_some_iff.1 h
    obtain ⟨v, rfl, hv⟩ := push_eq_some_iff.1 hu
    obtain ⟨w, rfl⟩ := ih hv
    exact ⟨c :: d :: w, rfl⟩
  | case6 _ c _ _ _ _ ih =>
    obtain ⟨u, rfl, hu⟩ := push_eq_some_iff.1 h
    obtain ⟨w, rfl⟩ := ih hu
    exact ⟨c :: w, rfl⟩

theorem exists_through_eq {delimiter s t r : Sql} (h : through delimiter s = some (t, r)) :
    ∃ u, t = u ++ delimiter := by
  fun_induction through delimiter s generalizing t with
  | case1 => cases h
  | case2 =>
    obtain rfl : delimiter = t := by simp_all
    exact ⟨[], rfl⟩
  | case3 c _ _ ih =>
    obtain ⟨u, rfl, hu⟩ := push_eq_some_iff.1 h
    obtain ⟨w, rfl⟩ := ih hu
    exact ⟨c :: w, rfl⟩

theorem isBlank_of_isGap {c : Char} (h : isGap c = true) : isBlank c = true := by
  simp only [isGap, Bool.or_eq_true, beq_iff_eq] at h
  rcases h with (((rfl | rfl) | rfl) | rfl) | rfl <;> decide

theorem not_isBlank_of_isAlphanum {c : Char} (h : c.isAlphanum = true) : isBlank c = false := by
  simp only [Char.isAlphanum, Char.isAlpha, Char.isUpper, Char.isLower, Char.isDigit,
    Bool.or_eq_true, Bool.and_eq_true, decide_eq_true_eq, ge_iff_le, UInt32.le_iff_toNat_le] at h
  simp only [isBlank, Char.toNat]
  simp at h ⊢
  omega

theorem not_isBlank_of_isNumberPart {c : Char} (h : isNumberPart c = true) : isBlank c = false := by
  simp only [isNumberPart, Bool.or_eq_true, beq_iff_eq] at h
  rcases h with h | rfl
  · exact not_isBlank_of_isAlphanum h
  · decide

/-! ### A lexeme without the blanks at its end -/

/-- A lexeme without the blanks at its end. -/
def trimEnd : Lexeme → Lexeme
  | gap t => gap (Blank.trimEnd t)
  | token kind t => token kind (Blank.trimEnd t)

@[simp] theorem text_trimEnd (l : Lexeme) : l.trimEnd.text = Blank.trimEnd l.text := by
  cases l <;> rfl

theorem trimEnd_of_text {l : Lexeme} (h : Blank.trimEnd l.text = l.text) : l.trimEnd = l := by
  cases l with
  | gap t => exact congrArg gap h
  | token kind t => exact congrArg (token kind) h

/-- What is left of a text starts with the same character, if anything is left. -/
theorem exists_trimEnd_cons {c : Char} {t : Sql} (h : Blank.trimEnd (c :: t) ≠ []) :
    ∃ u b, Blank.trimEnd (c :: t) = c :: u ∧ t = u ++ b := by
  obtain ⟨b, e, -⟩ := Blank.exists_trimEnd (c :: t)
  cases e' : Blank.trimEnd (c :: t) with
  | nil => exact absurd e' h
  | cons d u =>
    rw [e', List.cons_append, List.cons.injEq] at e
    exact ⟨u, b, by rw [e.1], e.2⟩

/-- Only blanks, words and line comments can end in a blank. -/
theorem WellFormed.trimEnd_cases {l : Lexeme} (h : l.WellFormed) :
    l.trimEnd = l ∨ (∃ c, l = token .symbol [c]) ∨ (∃ t, l = gap t ∧ ∀ c ∈ t, isBlank c = true) ∨
      (∃ t, l = gap ('-' :: '-' :: t)) ∨ ∃ t, l = token .word t := by
  have ends {u : Sql} {c : Char} (e : l.text = u ++ [c]) (hc : isBlank c = false) :
      l.trimEnd = l := trimEnd_of_text (by rw [e]; exact Blank.trimEnd_concat u hc)
  have never (e : ∀ c ∈ l.text, isBlank c = false) : l.trimEnd = l :=
    trimEnd_of_text (Blank.trimEnd_of_all e)
  cases h with
  | @blanks c t hc ht =>
    refine .inr (.inr (.inl ⟨_, rfl, ?_⟩))
    simp only [List.all_eq_true] at ht
    simp only [List.forall_mem_cons]
    exact ⟨isBlank_of_isGap hc, fun d hd => isBlank_of_isGap (ht d hd)⟩
  | @lineComment t _ => exact .inr (.inr (.inr (.inl ⟨t, rfl⟩)))
  | blockComment ht =>
    obtain ⟨u, rfl⟩ := exists_commentTail_eq ht
    exact .inl (ends (u := '/' :: '*' :: u) rfl (by decide))
  | string ht =>
    obtain ⟨u, rfl⟩ := exists_quotedTail_eq ht
    exact .inl (ends (u := '\'' :: u) rfl (by decide))
  | @escapeString e _ _ ht =>
    obtain ⟨u, rfl⟩ := exists_quotedTail_eq ht
    exact .inl (ends (u := e :: '\'' :: u) rfl (by decide))
  | @dollarString tag _ _ _ ht =>
    obtain ⟨u, rfl⟩ := exists_through_eq ht
    refine .inl (ends (u := '$' :: (tag ++ '$' :: (u ++ '$' :: tag))) (c := '$') ?_ (by decide))
    simp [text]
  | quotedName ht =>
    obtain ⟨u, rfl⟩ := exists_quotedTail_eq ht
    exact .inl (ends (u := '"' :: u) rfl (by decide))
  | param _ ht =>
    refine .inl (never ?_)
    simp only [List.all_eq_true] at ht
    simp only [text, List.forall_mem_cons]
    refine ⟨by decide, fun c hc => not_isBlank_of_isAlphanum ?_⟩
    simp [Char.isAlphanum, ht c hc]
  | @number c t hc ht =>
    refine .inl (never ?_)
    simp only [List.all_eq_true] at ht
    simp only [text, List.forall_mem_cons]
    refine ⟨not_isBlank_of_isNumberPart ?_, fun d hd => not_isBlank_of_isNumberPart (ht d hd)⟩
    simp only [Bool.or_eq_true, Bool.and_eq_true] at hc
    rcases hc with hc | ⟨hc, -⟩
    · simp [isNumberPart, Char.isAlphanum, hc]
    · simp [isNumberPart, hc]
  | @word c t _ _ _ _ => exact .inr (.inr (.inr (.inr ⟨c :: t, rfl⟩)))
  | openParen => exact .inl rfl
  | closeParen => exact .inl rfl
  | comma => exact .inl rfl
  | dot => exact .inl rfl
  | semicolon => exact .inl rfl
  | @symbol c _ => exact .inr (.inl ⟨c, rfl⟩)

/-- A lexeme that is not all blank is well-formed without the blanks at its end. -/
theorem WellFormed.trimEnd {l : Lexeme} (h : l.WellFormed) (ne : Blank.trimEnd l.text ≠ []) :
    l.trimEnd.WellFormed := by
  rcases h.trimEnd_cases with e | ⟨c, rfl⟩ | ⟨t, rfl, blank⟩ | ⟨t, rfl⟩ | ⟨t, rfl⟩
  · rwa [e]
  · obtain ⟨u, b, e, e'⟩ := exists_trimEnd_cons ne
    obtain ⟨rfl, -⟩ : u = [] ∧ b = [] := by simpa [eq_comm] using e'
    rwa [Lexeme.trimEnd, e]
  · exact absurd (Blank.trimEnd_eq_nil_iff.2 blank) ne
  · have front := Blank.trimEnd_append_of_self (s := ['-', '-']) rfl t
    obtain ⟨b, e, -⟩ := Blank.exists_trimEnd t
    cases h with
    | blanks hc _ => cases hc
    | lineComment ht =>
      rw [e, List.all_append, Bool.and_eq_true] at ht
      have left : (gap ('-' :: '-' :: t)).trimEnd = gap ('-' :: '-' :: Blank.trimEnd t) :=
        congrArg gap front
      exact left ▸ .lineComment ht.1
  · cases h with
    | @word c r hc hd hs ht =>
      obtain ⟨u, b, e, rfl⟩ := exists_trimEnd_cons ne
      rw [Lexeme.trimEnd, e]
      rw [List.all_append, Bool.and_eq_true] at ht
      exact .word hc hd hs ht.1

/-- A token that does not end in a blank. -/
def isSolid : Lexeme → Bool
  | gap _ => false
  | token _ t => Blank.trimEnd t == t

theorem isSolid_of_text {kind : TokenKind} {t : Sql} (h : Blank.trimEnd t = t) :
    (token kind t).isSolid = true := by simp [isSolid, h]

theorem WellFormed.isSolid {kind : TokenKind} {t : Sql} (h : (token kind t).WellFormed)
    (word : kind ≠ .word) (symbol : kind ≠ .symbol) : (token kind t).isSolid = true := by
  rcases h.trimEnd_cases with e | ⟨c, e⟩ | ⟨t, e, _⟩ | ⟨t, e⟩ | ⟨t, e⟩
  · exact isSolid_of_text (congrArg text e)
  · cases e
    exact absurd rfl symbol
  · cases e
  · cases e
  · cases e
    exact absurd rfl word

/-- What trimming the text of some lexemes leaves: the lexemes `ks`, of which the tokens lost the
text `lost`. -/
structure Trimmed (ls ks : List Lexeme) (lost : Sql) : Prop where
  text : written ks = Blank.trimEnd (written ls)
  apart : Apart none ks
  opened : Scan.opened 0 ks = Scan.opened 0 ls
  tokenText : Scan.tokenText ls = Scan.tokenText ks ++ lost
  /-- Tokens lose something if the blanks at the end of the text are more than stand behind them. -/
  cut : (written ks).length + (Scan.trailing [] ls).length < (written ls).length ↔ lost ≠ []
  kept : lost = [] → Scan.tokensOf ks = Scan.tokensOf ls

variable {ls ks : List Lexeme} {lost : Sql}

theorem Trimmed.length_le (h : Trimmed ls ks lost) : (written ks).length ≤ (written ls).length :=
  h.text ▸ Blank.length_trimEnd_le (written ls)

/-- A gap at the end goes. -/
theorem Trimmed.gap (h : Trimmed ls ks lost) {g : Sql} (blank : Blank.trimEnd g = []) :
    Trimmed (ls ++ [.gap g]) ks lost where
  text := by simp [Lexeme.text, Blank.trimEnd_append, blank, h.text]
  apart := h.apart
  opened := by simp [Scan.opened_append, Scan.opened, h.opened]
  tokenText := by simp [h.tokenText]
  cut := by
    rw [← h.cut]
    simp only [written_append, written_cons, written_nil, List.append_nil, Lexeme.text,
      Scan.trailing_append, Scan.trailing, List.length_append]
    omega
  kept e := by simp [Scan.tokensOf, h.kept e]

/-- Only words and symbols can be all blank. -/
theorem WellFormed.kind_of_blank {kind : TokenKind} {t : Sql} (h : (token kind t).WellFormed)
    (blank : Blank.trimEnd t = []) : kind = .word ∨ kind = .symbol := by
  rcases h.trimEnd_cases with e | ⟨c, e⟩ | ⟨t, e, _⟩ | ⟨t, e⟩ | ⟨t, e⟩
  · have e' : Blank.trimEnd t = t := congrArg text e
    exact absurd (e'.symm.trans blank) h.text_ne
  · cases e
    exact .inr rfl
  · cases e
  · cases e
  · cases e
    exact .inl rfl

/-- So does a token that is all blank. -/
theorem Trimmed.token (h : Trimmed ls ks lost) {kind : TokenKind} {t : Sql}
    (form : (token kind t).WellFormed) (blank : Blank.trimEnd t = []) :
    Trimmed (ls ++ [.token kind t]) ks (lost ++ t) where
  text := by simp [Lexeme.text, Blank.trimEnd_append, blank, h.text]
  apart := h.apart
  opened := by
    rcases form.kind_of_blank blank with rfl | rfl <;>
      simp [Scan.opened_append, Scan.opened, Scan.nesting, h.opened]
  tokenText := by simp [h.tokenText]
  cut := by
    have le := h.length_le
    have pos := List.length_pos_iff.2 form.text_ne
    simp only [Lexeme.text] at pos
    simp only [written_append, written_cons, written_nil, List.append_nil, Lexeme.text,
      Scan.trailing_append, Scan.trailing, List.length_append, List.length_nil, ne_eq,
      List.append_eq_nil_iff, List.ne_nil_of_length_pos pos]
    simp
    omega
  kept e := absurd (List.append_eq_nil_iff.1 e).2 form.text_ne

/-- A lexeme that is not all blank stays, without the blanks at its end. -/
theorem exists_trimmed_concat {l : Lexeme} (apart : Apart l.text.head? ls) (form : l.WellFormed)
    (ne : Blank.trimEnd l.text ≠ []) : ∃ lost, Trimmed (ls ++ [l]) (ls ++ [l.trimEnd]) lost := by
  have text : written (ls ++ [l.trimEnd]) = Blank.trimEnd (written (ls ++ [l])) := by
    simp [Blank.trimEnd_append, ne]
  have apart' : Apart none (ls ++ [l.trimEnd]) := by
    refine apart_append.2 ⟨?_, form.trimEnd ne, by simp, trivial⟩
    obtain ⟨c, t, e⟩ := List.exists_cons_of_ne_nil form.text_ne
    rw [e] at apart ne
    obtain ⟨u, b, e', -⟩ := exists_trimEnd_cons ne
    simpa [e, e'] using apart
  obtain ⟨b, e, -⟩ := Blank.exists_trimEnd l.text
  cases l with
  | gap g =>
    refine ⟨[], text, apart', ?_, ?_, ?_, fun _ => ?_⟩
    · simp [Scan.opened_append, Scan.opened, Lexeme.trimEnd]
    · simp [Lexeme.trimEnd]
    · simp [Scan.trailing_append, Scan.trailing, Lexeme.text]
      omega
    · simp [Scan.tokensOf, Lexeme.trimEnd]
  | token kind t =>
    replace e : t = Blank.trimEnd t ++ b := e
    refine ⟨b, text, apart', ?_, ?_, ?_, ?_⟩
    · simp [Scan.opened_append, Scan.opened, Lexeme.trimEnd]
    · simpa [Lexeme.trimEnd] using e
    · have size := congrArg List.length e
      rw [List.length_append] at size
      simp only [Lexeme.trimEnd, written_append, written_cons, written_nil, List.append_nil,
        Lexeme.text, Scan.trailing_append, Scan.trailing, List.length_append, List.length_nil,
        ← List.length_pos_iff]
      omega
    · rintro rfl
      rw [List.append_nil] at e
      simp [Scan.tokensOf, Lexeme.trimEnd, ← e]

/-- A text of lexemes that are apart is one of lexemes that are apart when it is trimmed. -/
theorem exists_trimmed (h : Apart none ls) : ∃ ks lost, Trimmed ls ks lost := by
  induction ls using List.reverseRecOn with
  | nil => exact ⟨[], [], rfl, trivial, rfl, rfl, by simp, fun _ => rfl⟩
  | append_singleton ls l ih =>
    obtain ⟨front, form, -⟩ := apart_append.1 h
    by_cases blank : Blank.trimEnd l.text = []
    · obtain ⟨ks, lost, trimmed⟩ := ih front.none
      cases l with
      | gap g => exact ⟨ks, lost, trimmed.gap blank⟩
      | token kind t => exact ⟨ks, lost ++ t, trimmed.token form blank⟩
    · obtain ⟨lost, trimmed⟩ := exists_trimmed_concat (by simpa using front) form blank
      exact ⟨_, lost, trimmed⟩

end Lexeme

namespace Scan

open Lexeme (written Apart)

/-! ### Texts without a terminator -/

theorem text_placed {depth d : Nat} (before : Sql) {ls : List Lexeme}
    (h : opened depth ls = some d) :
    text ⟨placed depth before ls, trailing before ls⟩ = before ++ written ls := by
  induction ls generalizing depth before with
  | nil => simp [placed, trailing]
  | cons l ls ih =>
    cases l with
    | gap g => exact (ih (before ++ g) h).trans (by simp [Lexeme.text])
    | token kind t =>
      simp only [placed, trailing, opened] at h ⊢
      cases e : nesting depth kind with
      | none => simp [e] at h
      | some n =>
        rw [e] at h
        have rest := ih [] h
        simp only [text, List.flatMap_cons, List.append_assoc] at rest ⊢
        rw [rest]
        simp [Lexeme.text]

theorem cut_of_placed (depth : Nat) (before : Sql) (ls : List Lexeme) :
    ∀ t ∈ placed depth before ls, t.cut = false := by
  induction ls generalizing depth before with
  | nil => simp [placed]
  | cons l ls ih =>
    cases l with
    | gap g => exact ih _ _
    | token kind t =>
      simp only [placed]
      cases nesting depth kind with
      | none => simp
      | some n =>
        exact List.forall_mem_cons.2 ⟨rfl, ih _ _⟩

/-- The last token, and what was there before it. -/
theorem exists_of_getLast?_placed {depth d : Nat} {before : Sql} {ls : List Lexeme} {t : Token}
    (h : opened depth ls = some d) (last : (placed depth before ls).getLast? = some t) :
    ∃ front gaps, ls = front ++ .token t.kind t.text :: gaps ∧
      placed depth before ls = placed depth before front ++ [t] ∧ t.before = trailing before front ∧
      opened depth (front ++ [.token t.kind t.text]) = some d := by
  induction ls using List.reverseRecOn generalizing d with
  | nil => cases last
  | append_singleton ls l ih =>
    rw [opened_append] at h
    obtain ⟨e, he, hl⟩ := Option.bind_eq_some_iff.1 h
    cases l with
    | gap g =>
      obtain rfl : e = d := by simpa [opened] using hl
      have same : placed depth before (ls ++ [.gap g]) = placed depth before ls := by
        simp [placed_append before _ he, placed]
      rw [same] at last ⊢
      obtain ⟨front, gaps, rfl, tokens, stood, open'⟩ := ih he last
      exact ⟨front, gaps ++ [.gap g], by simp, tokens, stood, open'⟩
    | token kind w =>
      have tokens := placed_append before [.token kind w] he
      simp only [opened] at hl
      cases n : nesting e kind with
      | none => simp [n] at hl
      | some n' =>
        simp only [placed, n] at tokens
        rw [tokens, List.getLast?_concat, Option.some.injEq] at last
        subst last
        exact ⟨ls, [], rfl, tokens, rfl, by simpa [opened_append, he, opened] using hl⟩

/-- A text without its terminator is that of the lexemes before it. -/
theorem exists_withoutTerminator {t : Sql} {s : Scan} (h : ofSql t = .ok s) :
    ∃ ls, Apart none ls ∧ opened 0 ls = some 0 ∧
      s.withoutTerminator = ⟨placed 0 [] ls, trailing [] ls⟩ := by
  obtain ⟨ls, -, apart, balanced, rfl⟩ := ofSql_eq_ok_iff.1 h
  unfold withoutTerminator
  split
  · next t last =>
    split
    · next semicolon =>
      obtain ⟨front, gaps, rfl, tokens, stood, open'⟩ := exists_of_getLast?_placed balanced last
      refine ⟨front, (Lexeme.apart_append.1 apart).1.none, ?_, ?_⟩
      · rw [opened_append] at open'
        obtain ⟨d, hd, rest⟩ := Option.bind_eq_some_iff.1 open'
        obtain rfl : d = 0 := by simpa [opened, semicolon, nesting] using rest
        exact hd
      · simp [tokens, stood]
    · exact ⟨ls, apart, balanced, rfl⟩
  · exact ⟨ls, apart, balanced, rfl⟩

/-- No token is cut if the blanks at the end of the text all stand behind the tokens. -/
theorem forall_clipped_iff {s : Scan} (h : ∀ t ∈ s.tokens, t.cut = false) :
    (∀ t ∈ s.clipped, t.cut = false) ↔
      ¬ (Blank.trimEnd s.text).length + s.after.length < s.text.length := by
  simp only [clipped, List.mem_reverse]
  cases n : s.text.length - (Blank.trimEnd s.text).length - s.after.length with
  | zero =>
    simp only [clip_zero, List.mem_reverse]
    exact iff_of_true h (by omega)
  | succ n =>
    refine iff_of_false ?_ (by omega)
    cases e : s.tokens.reverse with
    | nil =>
      have all : s.text = s.after := by simp [text, List.reverse_eq_nil_iff.1 e]
      rw [all] at n
      omega
    | cons t ts => simp [clip]

end Scan

namespace Body

/-- What the text of a statement is checked for, and what is kept of it. -/
theorem ofSql_eq_ok_iff {s : Sql} {body : Body} :
    ofSql s = .ok body ↔
      ∃ t ts scan, Scan.ofSql (Blank.trimStart s) = .ok scan ∧ scan.tokens = t :: ts ∧
        t.isKeyword "select" = true ∧ (∀ u ∈ scan.tokens.dropLast, u.kind ≠ .semicolon) ∧
        body = ⟨scan.withoutTerminator.clipped, Blank.trimEnd scan.withoutTerminator.text⟩ := by
  constructor
  · intro h
    obtain ⟨scan, read, h⟩ := bind_eq_ok_iff.1 h
    simp only [bind, Except.bind, throw, throwThe, MonadExceptOf.throw] at h
    split at h
    · cases h
    · next selects =>
      split at h
      · cases h
      · next single =>
        cases e : scan.tokens with
        | nil => simp [e] at selects
        | cons t ts =>
          refine ⟨t, ts, scan, read, e, by simpa [e] using selects, ?_, (Except.ok.inj h).symm⟩
          simpa [e] using single
  · rintro ⟨t, ts, scan, read, e, select, single, rfl⟩
    have selects : (scan.tokens.take 1).any (Token.isKeyword "select") = true := by
      simp [e, select]
    have unended : (scan.tokens.dropLast.any fun u => u.kind == .semicolon) = false := by
      simpa using single
    simp only [ofSql, read, selects, unended, bind, Except.bind, throw, throwThe,
      MonadExceptOf.throw]
    rfl

/-- The tokens and the text of a statement, from the tokens of the whole text. -/
theorem exists_scan {s : Sql} {body : Body} (h : ofSql s = .ok body) :
    ∃ scan, Scan.ofSql (Blank.trimStart s) = .ok scan ∧
      body = ⟨scan.withoutTerminator.clipped, Blank.trimEnd scan.withoutTerminator.text⟩ := by
  obtain ⟨t, ts, scan, read, -, -, -, kept⟩ := ofSql_eq_ok_iff.1 h
  exact ⟨scan, read, kept⟩

end Body

end BulkSql
