import Mathlib
import BulkSql.Sql.Token

/-!
What the lexemes of a text are. Each has one of a few forms and allows some characters behind it; a
text has exactly those lexemes that it is written with and that are apart from each other.
-/
namespace BulkSql

namespace Lexeme

open Split (push_some push_eq_some_iff)

/-! ### Quoted parts, comments and delimiters by themselves -/

/-- A quoted part ends by itself, and no quote follows it. -/
theorem quotedTail_self {q : Char} {escapes : Bool} {s t r : Sql}
    (h : quotedTail q escapes s = some (t, r)) :
    quotedTail q escapes t = some (t, []) ∧ r.head? ≠ some q := by
  fun_induction quotedTail q escapes s generalizing t with
  | case1 => simp at h
  | case2 => grind [quotedTail]
  | case3 => simp at h
  | case4 c d rest hc ih =>
    obtain ⟨u, rfl, hu⟩ := push_eq_some_iff.1 h
    obtain ⟨v, rfl, hv⟩ := push_eq_some_iff.1 hu
    obtain ⟨self, ne⟩ := ih hv
    simp [quotedTail, hc, self, ne]
  | case5 rest hc ih =>
    obtain ⟨u, rfl, hu⟩ := push_eq_some_iff.1 h
    obtain ⟨v, rfl, hv⟩ := push_eq_some_iff.1 hu
    obtain ⟨self, ne⟩ := ih hv
    simp [quotedTail, hc, self, ne]
  | case6 => grind [quotedTail]
  | case7 c d rest hc hne ih =>
    obtain ⟨u, rfl, hu⟩ := push_eq_some_iff.1 h
    obtain ⟨self, ne⟩ := ih hu
    refine ⟨?_, ne⟩
    cases u with
    | nil => simp [quotedTail] at self
    | cons x u => simp [quotedTail, hc, hne, self]

/-- A quoted part that ends by itself ends there too, where no quote follows. -/
theorem quotedTail_append {q : Char} (hq : q ≠ '\\') {escapes : Bool} {s t r : Sql}
    (h : quotedTail q escapes s = some (t, [])) (hr : r.head? ≠ some q) :
    quotedTail q escapes (s ++ r) = some (t, r) := by
  fun_induction quotedTail q escapes s generalizing t with
  | case1 => simp at h
  | case2 =>
    obtain rfl : [q] = t := by simpa using h
    cases r with
    | nil => simp [quotedTail]
    | cons d r => simp_all [quotedTail]
  | case3 => simp at h
  | case4 c d rest hc ih =>
    obtain ⟨u, rfl, hu⟩ := push_eq_some_iff.1 h
    obtain ⟨v, rfl, hv⟩ := push_eq_some_iff.1 hu
    simp [quotedTail, hc, ih hv]
  | case5 rest hc ih =>
    obtain ⟨u, rfl, hu⟩ := push_eq_some_iff.1 h
    obtain ⟨v, rfl, hv⟩ := push_eq_some_iff.1 hu
    simp [quotedTail, hc, ih hv]
  | case6 => simp at h
  | case7 c d rest hc hne ih =>
    obtain ⟨u, rfl, hu⟩ := push_eq_some_iff.1 h
    simpa [quotedTail, hc, hne, push_eq_some_iff] using ih hu

theorem commentTail_self {depth : Nat} {s t r : Sql} (h : commentTail depth s = some (t, r)) :
    commentTail depth t = some (t, []) := by
  fun_induction commentTail depth s generalizing t with
  | case1 => simp at h
  | case2 => simp at h
  | case3 depth c d rest hc ih =>
    obtain ⟨u, rfl, hu⟩ := push_eq_some_iff.1 h
    obtain ⟨v, rfl, hv⟩ := push_eq_some_iff.1 hu
    simp [commentTail, hc, ih hv]
  | case4 c d rest hne hc => grind [commentTail]
  | case5 c d rest hne hc depth ih =>
    obtain ⟨u, rfl, hu⟩ := push_eq_some_iff.1 h
    obtain ⟨v, rfl, hv⟩ := push_eq_some_iff.1 hu
    simp [commentTail, hc, ih hv]
  | case6 depth c d rest hopen hclose ih =>
    obtain ⟨u, rfl, hu⟩ := push_eq_some_iff.1 h
    have cover := commentTail_covers _ _ _ _ hu
    cases u with
    | nil => simpa [commentTail] using ih hu
    | cons x u =>
      obtain rfl : x = d := by grind
      simp [commentTail, hopen, hclose, ih hu]

theorem commentTail_append {depth : Nat} {s t r : Sql} (h : commentTail depth s = some (t, [])) :
    commentTail depth (s ++ r) = some (t, r) := by
  fun_induction commentTail depth s generalizing t with
  | case1 => simp at h
  | case2 => simp at h
  | case3 depth c d rest hc ih =>
    obtain ⟨u, rfl, hu⟩ := push_eq_some_iff.1 h
    obtain ⟨v, rfl, hv⟩ := push_eq_some_iff.1 hu
    simp [commentTail, hc, ih hv]
  | case4 c d rest hne hc => grind [commentTail]
  | case5 c d rest hne hc depth ih =>
    obtain ⟨u, rfl, hu⟩ := push_eq_some_iff.1 h
    obtain ⟨v, rfl, hv⟩ := push_eq_some_iff.1 hu
    simp [commentTail, hc, ih hv]
  | case6 depth c d rest hopen hclose ih =>
    obtain ⟨u, rfl, hu⟩ := push_eq_some_iff.1 h
    simpa [commentTail, hopen, hclose, push_eq_some_iff] using ih hu

theorem through_self {delimiter s t r : Sql} (ne : delimiter ≠ [])
    (h : through delimiter s = some (t, r)) :
    through delimiter t = some (t, []) ∧ delimiter.length ≤ t.length := by
  fun_induction through delimiter s generalizing t with
  | case1 => simp at h
  | case2 c rest hp =>
    obtain ⟨rfl, -⟩ : delimiter = t ∧ _ = r := by simpa using h
    obtain ⟨x, xs, rfl⟩ := List.exists_cons_of_ne_nil ne
    simp [through]
  | case3 c rest hp ih =>
    obtain ⟨u, rfl, hu⟩ := push_eq_some_iff.1 h
    obtain ⟨self, le⟩ := ih hu
    have cover := through_covers _ _ _ _ hu
    have hp' : ¬ delimiter.isPrefixOf (c :: u) = true := by
      intro hp'
      rw [List.isPrefixOf_iff_prefix] at hp hp'
      exact hp (hp'.trans ⟨r, by simp [cover]⟩)
    simp only [through, hp', Bool.false_eq_true, if_false, self, push_some, true_and,
      List.length_cons]
    omega

theorem through_append {delimiter s t r : Sql} (ne : delimiter ≠ [])
    (h : through delimiter s = some (t, [])) :
    through delimiter (s ++ r) = some (t, r) := by
  fun_induction through delimiter s generalizing t with
  | case1 => simp at h
  | case2 c rest hp =>
    obtain ⟨rfl, hd⟩ : delimiter = t ∧ (c :: rest).drop delimiter.length = [] := by simpa using h
    have whole : c :: rest = delimiter := by
      obtain ⟨x, hx⟩ := List.isPrefixOf_iff_prefix.1 hp
      rw [← hx, List.drop_left] at hd
      rw [← hx, hd, List.append_nil]
    subst whole
    simp [through]
  | case3 c rest hp ih =>
    obtain ⟨u, rfl, hu⟩ := push_eq_some_iff.1 h
    have long := (through_self ne hu).2
    obtain rfl : u = rest := by simpa using through_covers _ _ _ _ hu
    have hp' : ¬ delimiter.isPrefixOf (c :: (u ++ r)) = true := by
      intro hp'
      rw [List.isPrefixOf_iff_prefix] at hp hp'
      exact hp (List.prefix_of_prefix_length_le hp' ⟨r, rfl⟩ (by simp; omega))
    simp [through, hp', ih hu]

/-! ### The forms of lexemes -/

/-- A character inside a number. -/
def isNumberPart (c : Char) : Bool := c.isAlphanum || c == '.'

/-- A character that is a token of its own and no bracket, comma, dot or semicolon. -/
def isSign (c : Char) : Bool :=
  !isGap c && !isWordPart c && !(['\'', '"', '(', ')', ',', ';', '.'].contains c)

/-- What a lexeme is by itself, whatever follows it. -/
inductive WellFormed : Lexeme → Prop
  | blanks {c t} (hc : isGap c = true) (ht : t.all isGap) : WellFormed (.gap (c :: t))
  | lineComment {t} (ht : t.all (· != '\n')) : WellFormed (.gap ('-' :: '-' :: t))
  | blockComment {t} (ht : commentTail 0 t = some (t, [])) : WellFormed (.gap ('/' :: '*' :: t))
  | string {t} (ht : quotedTail '\'' false t = some (t, [])) :
    WellFormed (.token .string ('\'' :: t))
  | escapeString {e t} (he : e = 'e' ∨ e = 'E') (ht : quotedTail '\'' true t = some (t, [])) :
    WellFormed (.token .string (e :: '\'' :: t))
  | dollarString {tag t} (hd : digitNext tag = false) (htag : tag.all isTagChar)
    (ht : through ('$' :: (tag ++ ['$'])) t = some (t, [])) :
    WellFormed (.token .string ('$' :: (tag ++ '$' :: t)))
  | quotedName {t} (ht : quotedTail '"' false t = some (t, [])) :
    WellFormed (.token .quotedName ('"' :: t))
  | param {t} (hd : digitNext t = true) (ht : t.all Char.isDigit) :
    WellFormed (.token .param ('$' :: t))
  | number {c t} (hc : (c.isDigit || (c == '.' && digitNext t)) = true) (ht : t.all isNumberPart) :
    WellFormed (.token .number (c :: t))
  | word {c t} (hc : isWordPart c = true) (hd : c.isDigit = false) (hs : c ≠ '$')
    (ht : t.all isWordPart) : WellFormed (.token .word (c :: t))
  | openParen : WellFormed (.token .openParen ['('])
  | closeParen : WellFormed (.token .closeParen [')'])
  | comma : WellFormed (.token .comma [','])
  | dot : WellFormed (.token .dot ['.'])
  | semicolon : WellFormed (.token .semicolon [';'])
  | symbol {c} (hc : isSign c = true) : WellFormed (.token .symbol [c])

/-- The kind of a token; blanks and comments have none. -/
def kind? : Lexeme → Option TokenKind
  | gap _ => none
  | token kind _ => some kind

/-- Whether a character can follow a lexeme at once and not be read as a part of it. -/
def allows : Lexeme → Char → Bool
  | .gap ('-' :: _), d => d == '\n'
  | .gap ('/' :: _), _ => true
  | .gap _, d => !isGap d
  | .token .string ('$' :: _), _ => true
  | .token .string _, d => d != '\''
  | .token .quotedName _, d => d != '"'
  | .token .param _, d => !d.isDigit
  | .token .number _, d => !isNumberPart d
  | .token .word t, d => !isWordPart d && !(d == '\'' && (t == ['e'] || t == ['E']))
  | .token .dot _, d => !d.isDigit
  | .token .symbol t, d => !(t == ['-'] && d == '-') && !(t == ['/'] && d == '*')
  | .token _ _, _ => true

theorem allows_blanks {c : Char} (hc : isGap c = true) (t : Sql) (d : Char) :
    allows (.gap (c :: t)) d = !isGap d := by
  have minus : c ≠ '-' := by rintro rfl; simp [isGap] at hc
  have slash : c ≠ '/' := by rintro rfl; simp [isGap] at hc
  simp [allows, minus, slash]

theorem allows_string {c : Char} (hc : c ≠ '$') (t : Sql) (d : Char) :
    allows (.token .string (c :: t)) d = (d != '\'') := by simp [allows, hc]

theorem allows_word_eq_true_iff {t : Sql} {d : Char} :
    allows (.token .word t) d = true ↔
      isWordPart d = false ∧ (t = ['e'] ∨ t = ['E'] → d ≠ '\'') := by
  simp only [allows, Bool.and_eq_true, Bool.not_eq_true', Bool.and_eq_false_imp, beq_iff_eq,
    Bool.or_eq_false_iff, beq_eq_false_iff_ne]
  grind

theorem allows_symbol_eq_true_iff {c d : Char} :
    allows (.token .symbol [c]) d = true ↔ (c = '-' → d ≠ '-') ∧ (c = '/' → d ≠ '*') := by
  simp [allows, imp_iff_not_or]

theorem digitNext_eq_false_iff {r : Sql} :
    digitNext r = false ↔ ∀ d ∈ r.head?, d.isDigit = false := by
  cases r <;> simp [digitNext]

theorem digitNext_append {r : Sql} (h : digitNext r = false) (t : Sql) :
    digitNext (t ++ r) = digitNext t := by
  cases t with
  | nil => exact h
  | cons x t => rfl

theorem digitNext_tag (tag r : Sql) : digitNext (tag ++ '$' :: r) = digitNext tag :=
  digitNext_append rfl tag

theorem not_isDigit_of_isNumberPart {c : Char} (h : isNumberPart c = false) : c.isDigit = false := by
  simp only [isNumberPart, Char.isAlphanum, Bool.or_eq_false_iff] at h
  exact h.1.2

theorem WellFormed.text_ne {l : Lexeme} (h : l.WellFormed) : l.text ≠ [] := by
  cases h <;> simp [text]

theorem closed_eq_ok_iff {make : Sql → Lexeme} {fault : Unsupported} {start : Sql} {x : Split}
    {l : Lexeme} {rest : Sql} :
    closed make fault start x = .ok (l, rest) ↔
      ∃ t, x = some (t, rest) ∧ l = make (start ++ t) := by
  rcases x with - | ⟨t, r⟩
  · simp [closed]
  · simp only [closed, Except.ok.injEq, Prod.mk.injEq, Option.some.injEq]
    grind

theorem run_eq_ok_iff {make : Sql → Lexeme} {p : Char → Bool} {c : Char} {r : Sql} {l : Lexeme}
    {rest : Sql} :
    run make p c r = .ok (l, rest) ↔
      ∃ t, r = t ++ rest ∧ l = make (c :: t) ∧ t.all p ∧ ∀ d ∈ rest.head?, p d = false := by
  simp only [run, Except.ok.injEq, Prod.mk.injEq]
  constructor
  · rintro ⟨rfl, rfl⟩
    refine ⟨r.takeWhile p, by simp, rfl, by simp, ?_⟩
    intro d hd
    simpa [Option.mem_def.1 hd] using List.head?_dropWhile_not p r
  · rintro ⟨t, rfl, rfl, ht, hr⟩
    have ht' : ∀ x ∈ t, p x = true := by simpa using ht
    have stop : rest.takeWhile p = [] ∧ rest.dropWhile p = rest := by
      cases rest with
      | nil => simp
      | cons d rest => simp [hr d rfl]
    simp [List.takeWhile_append_of_pos ht', List.dropWhile_append_of_pos ht', stop]

theorem single_eq_ok_iff {kind : TokenKind} {c : Char} {r : Sql} {l : Lexeme} {rest : Sql} :
    single kind c r = .ok (l, rest) ↔ .token kind [c] = l ∧ r = rest := by simp [single]

theorem head?_ne {r : Sql} {q : Char} (h : ∀ t, r ≠ q :: t) : r.head? ≠ some q := by
  cases r with
  | nil => simp
  | cons x t =>
    intro e
    obtain rfl : x = q := by simpa using e
    exact h t rfl

/-- A text of which the first character tells the lexeme, where neither a comment nor quoted text
starts. -/
structure Plain (c : Char) (r : Sql) : Prop where
  gap : isGap c = false
  mark : c ∉ ['\'', '"', '$', '(', ')', ',', ';']
  line : c = '-' → r.head? ≠ some '-'
  block : c = '/' → r.head? ≠ some '*'
  escape : c = 'e' ∨ c = 'E' → r.head? ≠ some '\''

theorem read_of_plain {c : Char} {r : Sql} (h : Plain c r) :
    read c r =
      if c.isDigit || (c == '.' && digitNext r) then
        run (.token .number) (fun d => d.isAlphanum || d == '.') c r
      else if c = '.' then single .dot c r
      else if isWordPart c then run (.token .word) isWordPart c r
      else single .symbol c r := by
  obtain ⟨hg, hm, hl, hb, he⟩ := h
  unfold read
  rw [hg]
  simp only [Bool.false_eq_true, if_false]
  split <;> first | rfl | simp_all

theorem Plain.of_not_mem {c : Char} {r : Sql}
    (h : c ∉ [' ', '\t', '\n', '\x0c', '\r', '\'', '"', '$', '(', ')', ',', ';', '-', '/', 'e', 'E']) :
    Plain c r := by
  simp only [List.mem_cons, List.not_mem_nil, not_or] at h
  refine ⟨by simp [isGap, h], by simp [h], ?_, ?_, ?_⟩ <;> simp [h]

theorem Plain.number {c : Char} {r : Sql} (h : (c.isDigit || (c == '.' && digitNext r)) = true) :
    Plain c r := by
  refine .of_not_mem fun hm => ?_
  simp only [List.mem_cons, List.not_mem_nil, or_false] at hm
  rcases hm with rfl | rfl | rfl | rfl | rfl | rfl | rfl | rfl | rfl | rfl | rfl | rfl | rfl | rfl |
    rfl | rfl <;> simp [Char.isDigit] at h

theorem ne_of_isWordPart {c d : Char} (hc : isWordPart c = true) (hd : isWordPart d = false) :
    c ≠ d := by
  rintro rfl
  simp [hc] at hd

theorem not_isGap_of_isWordPart {c : Char} (h : isWordPart c = true) : isGap c = false := by
  simp only [isGap, Bool.or_eq_false_iff, beq_eq_false_iff_ne]
  exact ⟨⟨⟨⟨ne_of_isWordPart h rfl, ne_of_isWordPart h rfl⟩, ne_of_isWordPart h rfl⟩,
    ne_of_isWordPart h rfl⟩, ne_of_isWordPart h rfl⟩

theorem isWordPart_of_isDigit {c : Char} (h : c.isDigit = true) : isWordPart c = true := by
  simp [isWordPart, Char.isAlphanum, h]

theorem Plain.word {c : Char} {r : Sql} (h : isWordPart c = true) (hs : c ≠ '$')
    (escape : c = 'e' ∨ c = 'E' → r.head? ≠ some '\'') : Plain c r := by
  refine ⟨not_isGap_of_isWordPart h, ?_, fun e => absurd e (ne_of_isWordPart h rfl),
    fun e => absurd e (ne_of_isWordPart h rfl), escape⟩
  have mark : ∀ d ∈ ['\'', '"', '(', ')', ',', ';'], c ≠ d := by
    intro d hd
    simp only [List.mem_cons, List.not_mem_nil, or_false] at hd
    rcases hd with rfl | rfl | rfl | rfl | rfl | rfl <;> exact ne_of_isWordPart h rfl
  simp only [List.forall_mem_cons] at mark
  simp [hs, mark]

/-- No token starts with a blank, and only a symbol with a character that can open a comment. -/
theorem WellFormed.exists_head {kind : TokenKind} {t : Sql} (h : (token kind t).WellFormed) :
    ∃ c r, t = c :: r ∧ isGap c = false ∧ (kind ≠ .symbol → c ≠ '-' ∧ c ≠ '/') := by
  have part {c : Char} (hc : isWordPart c = true) : isGap c = false ∧ c ≠ '-' ∧ c ≠ '/' :=
    ⟨not_isGap_of_isWordPart hc, ne_of_isWordPart hc rfl, ne_of_isWordPart hc rfl⟩
  cases h with
  | word hc =>
    obtain ⟨gap, signs⟩ := part hc
    exact ⟨_, _, rfl, gap, fun _ => signs⟩
  | number hc =>
    simp only [Bool.or_eq_true, Bool.and_eq_true, beq_iff_eq] at hc
    rcases hc with hc | ⟨rfl, -⟩
    · obtain ⟨gap, signs⟩ := part (isWordPart_of_isDigit hc)
      exact ⟨_, _, rfl, gap, fun _ => signs⟩
    · exact ⟨_, _, rfl, rfl, fun _ => by decide⟩
  | escapeString he =>
    rcases he with rfl | rfl <;> exact ⟨_, _, rfl, rfl, fun _ => by decide⟩
  | symbol hc =>
    simp only [isSign, Bool.and_eq_true, Bool.not_eq_true'] at hc
    exact ⟨_, _, rfl, hc.1.1, fun ne => absurd rfl ne⟩
  | _ => exact ⟨_, _, rfl, rfl, fun _ => by decide⟩

theorem Plain.symbol {c : Char} {r : Sql} (h : isSign c = true) (line : c = '-' → r.head? ≠ some '-')
    (block : c = '/' → r.head? ≠ some '*') : Plain c r := by
  simp only [isSign, Bool.and_eq_true, Bool.not_eq_true', List.contains_eq_mem,
    decide_eq_false_iff_not] at h
  obtain ⟨⟨gap, part⟩, mark⟩ := h
  have ne {d : Char} (hd : isWordPart d = true) : c ≠ d := (ne_of_isWordPart hd part).symm
  refine ⟨gap, ?_, line, block, fun e => ?_⟩
  · have dollar := ne (d := '$') rfl
    simp_all
  · exact (e.elim (ne (d := 'e') rfl) (ne (d := 'E') rfl)).elim

/-! ### What is taken up where -/

theorem read_blank {c : Char} (h : isGap c = true) (r : Sql) : read c r = run .gap isGap c r := by
  rw [read.eq_def, if_pos h]

theorem read_param {r : Sql} (h : digitNext r = true) :
    read '$' r = run (.token .param) Char.isDigit '$' r := by
  show (if digitNext r then _ else dollarQuoted r) = _
  rw [if_pos h]

theorem read_dollar {r : Sql} (h : digitNext r = false) : read '$' r = dollarQuoted r := by
  show (if digitNext r then _ else dollarQuoted r) = _
  rw [h, if_neg Bool.false_ne_true]

theorem read_number {c : Char} {r : Sql} (h : (c.isDigit || (c == '.' && digitNext r)) = true) :
    read c r = run (.token .number) isNumberPart c r := by
  rw [read_of_plain (.number h), if_pos h]
  rfl

theorem read_dot {r : Sql} (h : digitNext r = false) : read '.' r = single .dot '.' r := by
  rw [read_of_plain (.of_not_mem (by decide)), if_neg (by simp [h]), if_pos rfl]

theorem read_word {c : Char} {r : Sql} (h : isWordPart c = true) (digit : c.isDigit = false)
    (dollar : c ≠ '$') (escape : c = 'e' ∨ c = 'E' → r.head? ≠ some '\'') :
    read c r = run (.token .word) isWordPart c r := by
  have dot : c ≠ '.' := ne_of_isWordPart h rfl
  rw [read_of_plain (.word h dollar escape), if_neg (by simp [digit, dot]), if_neg dot, if_pos h]

theorem read_symbol {c : Char} {r : Sql} (h : isSign c = true)
    (line : c = '-' → r.head? ≠ some '-') (block : c = '/' → r.head? ≠ some '*') :
    read c r = single .symbol c r := by
  rw [read_of_plain (.symbol h line block)]
  simp only [isSign, Bool.and_eq_true, Bool.not_eq_true', List.contains_eq_mem,
    decide_eq_false_iff_not] at h
  obtain ⟨⟨-, part⟩, mark⟩ := h
  have digit : c.isDigit = false := by
    by_contra digit
    simp [isWordPart_of_isDigit (by simpa using digit)] at part
  have dot : c ≠ '.' := by
    rintro rfl
    simp at mark
  rw [if_neg (by simp [digit, dot]), if_neg dot, if_neg (by simp [part])]

theorem dollarQuoted_of_tag {tag : Sql} (h : tag.all isTagChar = true) (r : Sql) :
    dollarQuoted (tag ++ '$' :: r) =
      closed (.token .string) .unterminatedDollarQuote ('$' :: (tag ++ ['$']))
        (through ('$' :: (tag ++ ['$'])) r) := by
  rw [List.all_eq_true] at h
  have stop : isTagChar '$' = false := by decide
  simp only [dollarQuoted, List.takeWhile_append_of_pos h, List.dropWhile_append_of_pos h,
    List.takeWhile_cons, List.dropWhile_cons, stop, Bool.false_eq_true, if_false, List.append_nil]

theorem dollarQuoted_of_stray {s : Sql}
    (h : ∀ tag r, s = tag ++ '$' :: r → tag.all isTagChar = false) :
    dollarQuoted s = .error .strayDollar := by
  unfold dollarQuoted
  split
  · next r e =>
    have whole : s = s.takeWhile isTagChar ++ '$' :: r := by
      rw [← e, List.takeWhile_append_dropWhile]
    have all : (s.takeWhile isTagChar).all isTagChar = true := by simp
    cases all.symm.trans (h _ _ whole)
  · rfl

/-- The tag of a dollar-quoted text is followed by a second dollar sign. -/
theorem dollarQuoted_eq_ok_iff {r : Sql} {l : Lexeme} {rest : Sql} :
    dollarQuoted r = .ok (l, rest) ↔
      ∃ tag t, r = tag ++ '$' :: (t ++ rest) ∧ l = .token .string ('$' :: (tag ++ '$' :: t)) ∧
        tag.all isTagChar ∧ through ('$' :: (tag ++ ['$'])) t = some (t, []) := by
  have ne (tag : Sql) : '$' :: (tag ++ ['$']) ≠ [] := by simp
  constructor
  · intro h
    unfold dollarQuoted at h
    split at h
    · next r' e =>
      obtain ⟨t, ht, rfl⟩ := closed_eq_ok_iff.1 h
      refine ⟨r.takeWhile isTagChar, t, ?_, by simp, by simp, (through_self (ne _) ht).1⟩
      rw [through_covers _ _ _ _ ht, ← e, List.takeWhile_append_dropWhile]
    · cases h
  · rintro ⟨tag, t, rfl, rfl, htag, ht⟩
    rw [dollarQuoted_of_tag htag]
    exact closed_eq_ok_iff.2 ⟨t, through_append (ne tag) ht, by simp⟩

/-- What is left does not start with a character that would have been taken up. -/
theorem allows_of_head {rest : Sql} {q : Char} {l : Lexeme} (hr : rest.head? ≠ some q)
    (hl : ∀ d, l.allows d = (d != q)) : ∀ d ∈ rest.head?, l.allows d = true := by
  intro d hd
  have ne : d ≠ q := by
    rintro rfl
    exact hr hd
  simp [hl, ne]

theorem wellFormed_of_escapeString {c : Char} (hc : c = 'e' ∨ c = 'E') {r : Sql} {l : Lexeme}
    {rest : Sql} (h : read.escapeString c r = .ok (l, rest)) :
    l.WellFormed ∧ ∀ d ∈ rest.head?, l.allows d = true := by
  obtain ⟨t, ht, rfl⟩ := closed_eq_ok_iff.1 h
  obtain ⟨self, ne⟩ := quotedTail_self ht
  have dollar : c ≠ '$' := by rcases hc with rfl | rfl <;> decide
  exact ⟨.escapeString hc self, allows_of_head ne (allows_string dollar _)⟩

theorem wellFormed_of_plain {c : Char} {r : Sql} {l : Lexeme} {rest : Sql} (p : Plain c r)
    (h : read c r = .ok (l, rest)) : l.WellFormed ∧ ∀ d ∈ rest.head?, l.allows d = true := by
  by_cases number : (c.isDigit || (c == '.' && digitNext r)) = true
  · rw [read_number number] at h
    obtain ⟨t, rfl, rfl, ht, stop⟩ := run_eq_ok_iff.1 h
    have digit : digitNext rest = false :=
      digitNext_eq_false_iff.2 fun d hd => not_isDigit_of_isNumberPart (stop d hd)
    rw [digitNext_append digit] at number
    exact ⟨.number number ht, fun d hd => by simp [allows, stop d hd]⟩
  · simp only [Bool.or_eq_true, Bool.and_eq_true, beq_iff_eq, not_or, not_and, Bool.not_eq_true]
      at number
    obtain ⟨digit, behindDot⟩ := number
    by_cases dot : c = '.'
    · subst dot
      rw [read_dot (behindDot rfl)] at h
      obtain ⟨rfl, rfl⟩ := single_eq_ok_iff.1 h
      exact ⟨.dot, fun d hd => by simpa [allows] using digitNext_eq_false_iff.1 (behindDot rfl) d hd⟩
    · by_cases part : isWordPart c = true
      · have dollar : c ≠ '$' := fun e => p.mark (by simp [e])
        rw [read_word part digit dollar p.escape] at h
        obtain ⟨t, rfl, rfl, ht, stop⟩ := run_eq_ok_iff.1 h
        refine ⟨.word part digit dollar ht, fun d hd => ?_⟩
        refine allows_word_eq_true_iff.2 ⟨stop d hd, fun whole => ?_⟩
        rintro rfl
        obtain ⟨letter, rfl⟩ : (c = 'e' ∨ c = 'E') ∧ t = [] := by grind
        exact p.escape letter hd
      · have sign : isSign c = true := by
          have mark := p.mark
          simp_all [isSign, p.gap]
        rw [read_symbol sign p.line p.block] at h
        obtain ⟨rfl, rfl⟩ := single_eq_ok_iff.1 h
        refine ⟨.symbol sign, fun d hd => allows_symbol_eq_true_iff.2 ⟨?_, ?_⟩⟩
        · rintro rfl rfl
          exact p.line rfl hd
        · rintro rfl rfl
          exact p.block rfl hd

theorem wellFormed_of_read {c : Char} {r : Sql} {l : Lexeme} {rest : Sql}
    (h : read c r = .ok (l, rest)) : l.WellFormed ∧ ∀ d ∈ rest.head?, l.allows d = true := by
  by_cases hg : isGap c = true
  · rw [read_blank hg] at h
    obtain ⟨t, rfl, rfl, ht, stop⟩ := run_eq_ok_iff.1 h
    exact ⟨.blanks hg ht, fun d hd => by simp [allows_blanks hg, stop d hd]⟩
  · unfold read at h
    rw [if_neg hg] at h
    split at h
    · obtain ⟨t, e, rfl, ht, stop⟩ := run_eq_ok_iff.1 h
      cases t with
      | nil => simpa using stop '-' (by simp [← show _ = rest from e])
      | cons x t =>
        obtain ⟨rfl, rfl⟩ := List.cons.inj e
        exact ⟨.lineComment (by simp_all), fun d hd => by simpa [allows] using stop d hd⟩
    · obtain ⟨t, ht, rfl⟩ := closed_eq_ok_iff.1 h
      exact ⟨.blockComment (commentTail_self ht), fun d _ => rfl⟩
    · exact wellFormed_of_escapeString (.inl rfl) h
    · exact wellFormed_of_escapeString (.inr rfl) h
    · obtain ⟨t, ht, rfl⟩ := closed_eq_ok_iff.1 h
      obtain ⟨self, ne⟩ := quotedTail_self ht
      exact ⟨.string self, allows_of_head ne (allows_string (by decide) _)⟩
    · obtain ⟨t, ht, rfl⟩ := closed_eq_ok_iff.1 h
      obtain ⟨self, ne⟩ := quotedTail_self ht
      exact ⟨.quotedName self, allows_of_head ne fun d => rfl⟩
    · split at h
      · next digit =>
        obtain ⟨t, rfl, rfl, ht, stop⟩ := run_eq_ok_iff.1 h
        rw [digitNext_append (digitNext_eq_false_iff.2 stop)] at digit
        exact ⟨.param digit ht, fun d hd => by simp [allows, stop d hd]⟩
      · next digit =>
        obtain ⟨tag, t, rfl, rfl, htag, ht⟩ := dollarQuoted_eq_ok_iff.1 h
        rw [digitNext_tag, Bool.not_eq_true] at digit
        exact ⟨.dollarString digit htag ht, fun d _ => rfl⟩
    · obtain ⟨rfl, rfl⟩ := single_eq_ok_iff.1 h
      exact ⟨.openParen, fun d _ => rfl⟩
    · obtain ⟨rfl, rfl⟩ := single_eq_ok_iff.1 h
      exact ⟨.closeParen, fun d _ => rfl⟩
    · obtain ⟨rfl, rfl⟩ := single_eq_ok_iff.1 h
      exact ⟨.comma, fun d _ => rfl⟩
    · obtain ⟨rfl, rfl⟩ := single_eq_ok_iff.1 h
      exact ⟨.semicolon, fun d _ => rfl⟩
    · have p : Plain c r := by
        refine ⟨by simpa using hg, by simp_all, ?_, ?_, ?_⟩
        · exact fun e => head?_ne fun t => by simp_all
        · exact fun e => head?_ne fun t => by simp_all
        · rintro (e | e) <;> exact head?_ne fun t => by simp_all
      exact wellFormed_of_plain p (by rw [read_of_plain p]; exact h)

theorem read_of_wellFormed {c : Char} {r : Sql} {l : Lexeme} {rest : Sql} (h : l.WellFormed)
    (e : l.text ++ rest = c :: r) (hr : ∀ d ∈ rest.head?, l.allows d = true) :
    read c r = .ok (l, rest) := by
  cases h with
  | blanks hc ht =>
    obtain ⟨rfl, rfl⟩ := List.cons.inj e
    rw [read_blank hc]
    exact run_eq_ok_iff.2 ⟨_, rfl, rfl, ht, fun d hd => by simpa [allows_blanks hc] using hr d hd⟩
  | @lineComment t ht =>
    obtain ⟨rfl, rfl⟩ := List.cons.inj e
    have stop : ∀ d ∈ rest.head?, (d != '\n') = false := fun d hd => by simpa [allows] using hr d hd
    exact run_eq_ok_iff.2 ⟨'-' :: t, rfl, rfl, by simpa using ht, stop⟩
  | blockComment ht =>
    obtain ⟨rfl, rfl⟩ := List.cons.inj e
    exact closed_eq_ok_iff.2 ⟨_, commentTail_append ht, rfl⟩
  | string ht =>
    obtain ⟨rfl, rfl⟩ := List.cons.inj e
    have ne : rest.head? ≠ some '\'' := fun hd => by simpa [allows] using hr _ hd
    exact closed_eq_ok_iff.2 ⟨_, quotedTail_append (by decide) ht ne, rfl⟩
  | escapeString hc ht =>
    obtain ⟨rfl, rfl⟩ := List.cons.inj e
    have ne : rest.head? ≠ some '\'' := fun hd => by
      rcases hc with rfl | rfl <;> simpa [allows] using hr _ hd
    rcases hc with rfl | rfl <;>
      exact closed_eq_ok_iff.2 ⟨_, quotedTail_append (by decide) ht ne, rfl⟩
  | @dollarString tag t digit htag ht =>
    obtain ⟨rfl, rfl⟩ : '$' = c ∧ tag ++ '$' :: (t ++ rest) = r := by simpa [text] using e
    rw [read_dollar (by rw [digitNext_tag, digit])]
    exact dollarQuoted_eq_ok_iff.2 ⟨tag, t, rfl, rfl, htag, ht⟩
  | quotedName ht =>
    obtain ⟨rfl, rfl⟩ := List.cons.inj e
    have ne : rest.head? ≠ some '"' := fun hd => by simpa [allows] using hr _ hd
    exact closed_eq_ok_iff.2 ⟨_, quotedTail_append (by decide) ht ne, rfl⟩
  | @param t digit ht =>
    obtain ⟨rfl, rfl⟩ : '$' = c ∧ t ++ rest = r := List.cons.inj e
    have stop : ∀ d ∈ rest.head?, d.isDigit = false := fun d hd => by simpa [allows] using hr d hd
    rw [← digitNext_append (digitNext_eq_false_iff.2 stop)] at digit
    rw [read_param digit]
    exact run_eq_ok_iff.2 ⟨t, rfl, rfl, ht, stop⟩
  | @number b t number ht =>
    obtain ⟨rfl, rfl⟩ : b = c ∧ t ++ rest = r := List.cons.inj e
    have stop : ∀ d ∈ rest.head?, isNumberPart d = false := fun d hd => by
      simpa [allows] using hr d hd
    have digit : digitNext rest = false :=
      digitNext_eq_false_iff.2 fun d hd => not_isDigit_of_isNumberPart (stop d hd)
    rw [← digitNext_append digit] at number
    rw [read_number number]
    exact run_eq_ok_iff.2 ⟨t, rfl, rfl, ht, stop⟩
  | @word b t part digit dollar ht =>
    obtain ⟨rfl, rfl⟩ : b = c ∧ t ++ rest = r := List.cons.inj e
    have behind d (hd : d ∈ rest.head?) := allows_word_eq_true_iff.1 (hr d hd)
    have escape : b = 'e' ∨ b = 'E' → (t ++ rest).head? ≠ some '\'' := by
      intro letter quote
      cases t with
      | nil => exact (behind '\'' quote).2 (by simpa using letter) rfl
      | cons x t =>
        obtain rfl : x = '\'' := by simpa using quote
        simp [isWordPart] at ht
    rw [read_word part digit dollar escape]
    exact run_eq_ok_iff.2 ⟨t, rfl, rfl, ht, fun d hd => (behind d hd).1⟩
  | openParen =>
    obtain ⟨rfl, rfl⟩ := List.cons.inj e
    rfl
  | closeParen =>
    obtain ⟨rfl, rfl⟩ := List.cons.inj e
    rfl
  | comma =>
    obtain ⟨rfl, rfl⟩ := List.cons.inj e
    rfl
  | dot =>
    obtain ⟨rfl, rfl⟩ := List.cons.inj e
    rw [read_dot (digitNext_eq_false_iff.2 fun d hd => by simpa [allows] using hr d hd)]
    rfl
  | semicolon =>
    obtain ⟨rfl, rfl⟩ := List.cons.inj e
    rfl
  | @symbol b sign =>
    obtain ⟨rfl, rfl⟩ : b = c ∧ rest = r := List.cons.inj e
    have behind d (hd : d ∈ rest.head?) := allows_symbol_eq_true_iff.1 (hr d hd)
    rw [read_symbol sign (fun minus hd => (behind _ hd).1 minus rfl)
      fun slash hd => (behind _ hd).2 slash rfl]
    rfl

/-- A lexeme is taken up if it is well-formed and the rest can follow it, and only then. -/
theorem read_eq_ok_iff {c : Char} {r : Sql} {l : Lexeme} {rest : Sql} :
    read c r = .ok (l, rest) ↔
      l.text ++ rest = c :: r ∧ l.WellFormed ∧ ∀ d ∈ rest.head?, l.allows d = true :=
  ⟨fun h => ⟨(read_reads c r l rest h).1, wellFormed_of_read h⟩,
    fun ⟨e, h, hr⟩ => read_of_wellFormed h e hr⟩

/-! ### Sequences of lexemes -/

/-- The text of some lexemes. -/
def written (ls : List Lexeme) : Sql := ls.flatMap text

@[simp] theorem written_nil : written [] = [] := rfl

@[simp] theorem written_cons (l : Lexeme) (ls : List Lexeme) :
    written (l :: ls) = l.text ++ written ls := rfl

@[simp] theorem written_append (ls ms : List Lexeme) :
    written (ls ++ ms) = written ls ++ written ms := by simp [written]

/-- Every lexeme is well-formed and can be followed by what is behind it; behind the last one stands
the character `next`, if any. -/
def Apart (next : Option Char) : List Lexeme → Prop
  | [] => True
  | l :: ls =>
    l.WellFormed ∧ (∀ d ∈ (written ls).head?.or next, l.allows d = true) ∧ Apart next ls

@[simp] theorem apart_nil (next : Option Char) : Apart next [] := trivial

@[simp] theorem apart_cons {next : Option Char} {l : Lexeme} {ls : List Lexeme} :
    Apart next (l :: ls) ↔
      l.WellFormed ∧ (∀ d ∈ (written ls).head?.or next, l.allows d = true) ∧ Apart next ls :=
  Iff.rfl

theorem apart_append {next : Option Char} {ls ms : List Lexeme} :
    Apart next (ls ++ ms) ↔ Apart ((written ms).head?.or next) ls ∧ Apart next ms := by
  induction ls with
  | nil => simp
  | cons l ls ih =>
    simp only [List.cons_append, apart_cons, ih, written_append, List.head?_append,
      Option.or_assoc, and_assoc]

theorem Apart.wellFormed {next : Option Char} {ls : List Lexeme} (h : Apart next ls) :
    ∀ l ∈ ls, l.WellFormed := by
  induction ls with
  | nil => simp
  | cons l ls ih => exact List.forall_mem_cons.2 ⟨h.1, ih h.2.2⟩

theorem Apart.none {next : Option Char} {ls : List Lexeme} (h : Apart next ls) :
    Apart none ls := by
  induction ls with
  | nil => trivial
  | cons l ls ih =>
    obtain ⟨hl, ha, hs⟩ := h
    refine ⟨hl, fun d hd => ha d ?_, ih hs⟩
    cases e : (written ls).head? with
    | none => simp [e] at hd
    | some x => simpa [e] using hd

/-- What the last lexeme allows can stand behind all of them. -/
theorem Apart.followed {next : Option Char} {ls : List Lexeme} (h : Apart Option.none ls)
    (last : ∀ l, ls.getLast? = some l → ∀ d ∈ next, l.allows d = true) : Apart next ls := by
  induction ls with
  | nil => trivial
  | cons l ls ih =>
    obtain ⟨hl, ha, hs⟩ := h
    cases ls with
    | nil => exact ⟨hl, by simpa using last l rfl, trivial⟩
    | cons m ms =>
      obtain ⟨c, r, e⟩ := List.exists_cons_of_ne_nil hs.1.text_ne
      refine ⟨hl, by simpa [e] using ha, ih hs fun n hn => last n ?_⟩
      simpa [List.getLast?_cons] using hn

theorem readAll_cons {c : Char} {r : Sql} {l : Lexeme} {rest : Sql} (h : read c r = .ok (l, rest)) :
    readAll (c :: r) = (l :: (readAll rest).1, (readAll rest).2) := by
  rw [readAll]
  split
  · next h' => simp_all
  · next h' => simp_all

/-- The lexemes of a text are those, apart from each other, that it is written with. -/
theorem readAll_eq_iff {s : Sql} {ls : List Lexeme} :
    readAll s = (ls, none) ↔ written ls = s ∧ Apart none ls := by
  fun_induction readAll s generalizing ls with
  | case1 =>
    constructor
    · intro h
      obtain rfl : [] = ls := by simpa using h
      simp
    · rintro ⟨e, h⟩
      cases ls with
      | nil => rfl
      | cons l ls => simp [h.1.text_ne] at e
  | case2 c r l rest h ih =>
    obtain ⟨e, hl, hr⟩ := read_eq_ok_iff.1 h
    constructor
    · intro h'
      obtain ⟨rfl, none⟩ : l :: (readAll rest).1 = ls ∧ (readAll rest).2 = none := by
        simpa using h'
      obtain ⟨e', apart⟩ := ih.1 (Prod.ext_iff.2 ⟨rfl, none⟩)
      exact ⟨by simp [e', e], hl, by simpa [e'] using hr, apart⟩
    · rintro ⟨e', apart⟩
      cases ls with
      | nil => simp at e'
      | cons m ms =>
        obtain ⟨hm, ha, hs⟩ := apart
        have h' : read c r = .ok (m, written ms) := read_eq_ok_iff.2 ⟨e', hm, by simpa using ha⟩
        obtain ⟨rfl, rfl⟩ : l = m ∧ rest = written ms := by simpa [h] using h'
        simp [ih.2 ⟨rfl, hs⟩]
  | case3 c r fault h =>
    constructor
    · simp
    · rintro ⟨e, apart⟩
      cases ls with
      | nil => simp at e
      | cons m ms =>
        obtain ⟨hm, ha, hs⟩ := apart
        have h' : read c r = .ok (m, written ms) := read_eq_ok_iff.2 ⟨e, hm, by simpa using ha⟩
        simp [h] at h'

/-- Lexemes in front of a text are read off it, if they are apart from it. -/
theorem readAll_append {ls : List Lexeme} {s : Sql} (h : Apart s.head? ls) :
    readAll (written ls ++ s) = (ls ++ (readAll s).1, (readAll s).2) := by
  induction ls with
  | nil => simp
  | cons l ls ih =>
    obtain ⟨hl, ha, hs⟩ := h
    obtain ⟨c, t, e⟩ := List.exists_cons_of_ne_nil hl.text_ne
    have first : read c (t ++ (written ls ++ s)) = .ok (l, written ls ++ s) :=
      read_eq_ok_iff.2 ⟨by simp [e], hl, by simpa [List.head?_append] using ha⟩
    have rest := readAll_cons first
    rw [ih hs] at rest
    simpa [e] using rest

end Lexeme
end BulkSql
