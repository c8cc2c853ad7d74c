import BulkSql.Proofs.Atom

/-!
Phrases: lexemes that can stand between others without touching them, and how phrases are put
together. Whether the lexemes of a phrase are apart from each other is said by a condition.
-/
namespace BulkSql.Lexeme

open Scan (opened opened_append opened_add)

/-- Neither a comment nor a semicolon. -/
def isPlain : Lexeme → Bool
  | .gap t => t.all (· == ' ')
  | .token kind _ => kind != .semicolon

/-- Every lexeme can be followed by what is behind it, but for a minus sign that is followed by
another one. -/
def Loose (next : Option Char) : List Lexeme → Prop
  | [] => True
  | l :: ls =>
    l.WellFormed ∧
      (∀ d ∈ (written ls).head?.or next, l.allows d = true ∨ (l = symbol '-' ∧ d = '-')) ∧
      Loose next ls

theorem Apart.loose {next : Option Char} {ls : List Lexeme} (h : Apart next ls) : Loose next ls := by
  induction ls with
  | nil => trivial
  | cons l ls ih => exact ⟨h.1, fun d hd => .inl (h.2.1 d hd), ih h.2.2⟩

theorem loose_append {next : Option Char} {ls ms : List Lexeme} :
    Loose next (ls ++ ms) ↔ Loose ((written ms).head?.or next) ls ∧ Loose next ms := by
  induction ls with
  | nil => simp [Loose]
  | cons l ls ih =>
    simp only [List.cons_append, Loose, ih, written_append, List.head?_append, Option.or_assoc,
      and_assoc]

/-- Lexemes that are not apart have two minus signs in a row, and are apart before them. -/
theorem Loose.apart_or {next : Option Char} {ls : List Lexeme} (h : Loose next ls) :
    Apart next ls ∨ ∃ front back, ls = front ++ symbol '-' :: back ∧ Apart (some '-') front ∧
      (written back).head?.or next = some '-' := by
  induction ls with
  | nil => exact .inl trivial
  | cons l ls ih =>
    obtain ⟨form, follows, rest⟩ := h
    by_cases minus : l = symbol '-' ∧ (written ls).head?.or next = some '-'
    · obtain ⟨rfl, twice⟩ := minus
      exact .inr ⟨[], ls, rfl, trivial, twice⟩
    · have allowed : ∀ d ∈ (written ls).head?.or next, l.allows d = true := fun d hd =>
        (follows d hd).resolve_right fun ⟨e, e'⟩ => minus ⟨e, e' ▸ hd⟩
      rcases ih rest with apart | ⟨front, back, rfl, apart, twice⟩
      · exact .inl ⟨form, allowed, apart⟩
      · refine .inr ⟨l :: front, back, rfl, ⟨form, ?_, apart⟩, twice⟩
        simpa [List.head?_append, Option.or_assoc] using allowed

/-- Lexemes that start and end with a token, with balanced parentheses, and apart from a break behind
them if `sound`. -/
structure Phrase (ls : List Lexeme) (sound : Prop) : Prop where
  starts : ∃ c r, written ls = c :: r ∧ isGap c = false
  ends : ∃ l, ls.getLast? = some l ∧ l.isSolid = true
  balanced : opened 0 ls = some 0
  plain : ∀ l ∈ ls, l.isPlain = true
  loose : ∀ next, Breaks next → Loose next ls
  apart : ∀ next, Breaks next → (Apart next ls ↔ sound)

/-! ### Fixed lexemes -/

/-- Whether a lexeme is a blank, a word or a sign. -/
def isFixed : Lexeme → Bool
  | .gap t => t == [' ']
  | .token .word t => isWord t
  | .token .openParen t => t == ['(']
  | .token .closeParen t => t == [')']
  | .token .comma t => t == [',']
  | .token .dot t => t == ['.']
  | .token .symbol [c] => isSign c
  | _ => false

theorem wellFormed_of_isFixed {l : Lexeme} (h : l.isFixed = true) : l.WellFormed := by
  unfold isFixed at h
  split at h
  · obtain rfl : _ = [' '] := by simpa using h
    exact .blanks rfl rfl
  · exact wellFormed_word h
  · obtain rfl : _ = ['('] := by simpa using h
    exact .openParen
  · obtain rfl : _ = [')'] := by simpa using h
    exact .closeParen
  · obtain rfl : _ = [','] := by simpa using h
    exact .comma
  · obtain rfl : _ = ['.'] := by simpa using h
    exact .dot
  · exact .symbol h
  · cases h

/-- Whether fixed lexemes can stand one behind the other. -/
def isRun : List Lexeme → Bool
  | [] => true
  | l :: ls => l.isFixed && (written ls).head?.all l.allows && isRun ls

theorem apart_of_isRun {ls : List Lexeme} {next : Option Char} (h : isRun ls = true)
    (last : ∀ l, ls.getLast? = some l → ∀ d ∈ next, l.allows d = true) : Apart next ls := by
  induction ls with
  | nil => trivial
  | cons l ls ih =>
    simp only [isRun, Bool.and_eq_true] at h
    refine ⟨wellFormed_of_isFixed h.1.1, ?_, ih h.2 ?_⟩
    · cases ls with
      | nil => simpa using last l rfl
      | cons m ms =>
        simp only [isRun, Bool.and_eq_true] at h
        obtain ⟨c, r, e⟩ := List.exists_cons_of_ne_nil (wellFormed_of_isFixed h.2.1.1).text_ne
        simpa [e] using h.1.2
    · intro m hm
      refine last m ?_
      cases ls with
      | nil => cases hm
      | cons n ns => simpa [List.getLast?_cons] using hm

/-- Fixed lexemes in front of a phrase. -/
structure Front (ls : List Lexeme) (depth : Nat) : Prop where
  starts : ∃ c r, written ls = c :: r ∧ isGap c = false
  opens : opened 0 ls = some depth
  plain : ∀ l ∈ ls, l.isPlain = true
  apart : ∀ c, isGap c = false → Apart (some c) ls

/-- Fixed lexemes behind a phrase. -/
structure Back (ls : List Lexeme) (depth : Nat) : Prop where
  starts : ∃ c r, written ls = c :: r ∧ isBreak c = true
  ends : ∃ l, ls.getLast? = some l ∧ l.isSolid = true
  closes : opened depth ls = some 0
  plain : ∀ l ∈ ls, l.isPlain = true
  apart : ∀ next, Breaks next → Apart next ls

/-- Fixed lexemes between two phrases. -/
structure Link (ls : List Lexeme) : Prop where
  starts : ∃ c r, written ls = c :: r ∧ isBreak c = true
  balanced : opened 0 ls = some 0
  plain : ∀ l ∈ ls, l.isPlain = true
  apart : ∀ c, isGap c = false → Apart (some c) ls

/-- Whether anything that is no blank can follow. -/
def isOpen (ls : List Lexeme) : Bool := ls.getLast? == some blank || ls.getLast? == some openParen

theorem allows_of_isOpen {ls : List Lexeme} (h : isOpen ls = true) {l : Lexeme}
    (hl : ls.getLast? = some l) {c : Char} (hc : isGap c = false) : l.allows c = true := by
  simp only [isOpen, hl, Bool.or_eq_true, beq_iff_eq, Option.some.injEq] at h
  rcases h with rfl | rfl
  · simp [blank, allows, hc]
  · rfl

def isFront (ls : List Lexeme) (depth : Nat) : Bool :=
  isRun ls && isOpen ls && ls.all isPlain && opened 0 ls == some depth &&
    (written ls).head?.any (!isGap ·)

def isBack (ls : List Lexeme) (depth : Nat) : Bool :=
  isRun ls && ls.getLast?.any isSolid && ls.all isPlain &&
    opened depth ls == some 0 && (written ls).head?.any isBreak

def isLink (ls : List Lexeme) : Bool :=
  isRun ls && isOpen ls && ls.all isPlain && opened 0 ls == some 0 && (written ls).head?.any isBreak

theorem exists_of_any_head? {s : Sql} {f : Char → Bool} (h : s.head?.any f = true) :
    ∃ c r, s = c :: r ∧ f c = true := by
  cases s with
  | nil => cases h
  | cons c r => exact ⟨c, r, rfl, by simpa using h⟩

theorem front_of_isFront {ls : List Lexeme} {depth : Nat} (h : isFront ls depth = true) :
    Front ls depth := by
  simp only [isFront, Bool.and_eq_true, beq_iff_eq, List.all_eq_true] at h
  obtain ⟨⟨⟨⟨run, opn⟩, plain⟩, opens⟩, head⟩ := h
  obtain ⟨c, r, e, gap⟩ := exists_of_any_head? head
  refine ⟨⟨c, r, e, by simpa using gap⟩, opens, plain, fun c hc => ?_⟩
  refine apart_of_isRun run fun l hl d hd => allows_of_isOpen opn hl ?_
  obtain rfl : c = d := by simpa using hd
  exact hc

theorem back_of_isBack {ls : List Lexeme} {depth : Nat} (h : isBack ls depth = true) :
    Back ls depth := by
  simp only [isBack, Bool.and_eq_true, beq_iff_eq, List.all_eq_true] at h
  obtain ⟨⟨⟨⟨run, last⟩, plain⟩, closes⟩, head⟩ := h
  rw [Option.any_eq_true] at last
  obtain ⟨m, ends⟩ := last
  refine ⟨exists_of_any_head? head, ⟨m, ends⟩, closes, plain, fun next hn => ?_⟩
  refine apart_of_isRun run fun l hl d hd => ?_
  cases l with
  | gap g =>
    obtain rfl : m = .gap g := Option.some.inj (ends.1.symm.trans hl)
    cases ends.2
  | token kind t => exact token_allows (hn d hd)

theorem link_of_isLink {ls : List Lexeme} (h : isLink ls = true) : Link ls := by
  simp only [isLink, Bool.and_eq_true, beq_iff_eq, List.all_eq_true] at h
  obtain ⟨⟨⟨⟨run, opn⟩, plain⟩, balanced⟩, head⟩ := h
  refine ⟨exists_of_any_head? head, balanced, plain, fun c hc => ?_⟩
  refine apart_of_isRun run fun l hl d hd => allows_of_isOpen opn hl ?_
  obtain rfl : c = d := by simpa using hd
  exact hc

/-! ### Phrases put together -/

variable {ls ms fs bs : List Lexeme} {p q : Prop} {depth : Nat}

theorem Phrase.opened_eq (h : Phrase ls p) (depth : Nat) : opened depth ls = some depth := by
  simpa using opened_add depth h.balanced

theorem Phrase.ne_nil (h : Phrase ls p) : ls ≠ [] := by
  obtain ⟨c, r, e, -⟩ := h.starts
  rintro rfl
  cases e

theorem Phrase.congr (h : Phrase ls p) (e : p ↔ q) : Phrase ls q :=
  ⟨h.starts, h.ends, h.balanced, h.plain, h.loose, fun next hn => (h.apart next hn).trans e⟩

/-- The phrase of a single token. -/
theorem phrase_token {kind : TokenKind} {t : Sql} (h : (token kind t).WellFormed)
    (starts : ∃ c r, t = c :: r ∧ isGap c = false) (ends : (token kind t).isSolid = true)
    (balanced : opened 0 [token kind t] = some 0) (plain : kind ≠ .semicolon) :
    Phrase [token kind t] True := by
  have apart (next : Option Char) (hn : Breaks next) : Apart next [token kind t] :=
    ⟨h, fun d hd => token_allows (hn d (by simpa using hd)), trivial⟩
  exact ⟨by simpa using starts, ⟨_, rfl, ends⟩, balanced, by simpa [isPlain] using plain,
    fun next hn => (apart next hn).loose, fun next hn => iff_true_intro (apart next hn)⟩

theorem phrase_word {t : Sql} (h : isWord t = true) : Phrase [word t] True := by
  obtain ⟨c, r, e, gap, -⟩ := exists_of_isWord h
  exact phrase_token (wellFormed_word h) ⟨c, r, e, gap⟩ (isSolid_word h) rfl (by decide)

theorem word_allows_dot (t : Sql) : (word t).allows '.' = true := by
  simp [word, allows, isWordPart]

theorem phrase_string (s : Sql) : Phrase [string s] True :=
  phrase_token (wellFormed_string s) ⟨'\'', _, rfl, rfl⟩
    ((wellFormed_string s).isSolid (by decide) (by decide)) rfl (by decide)

theorem phrase_name (i : Identifier) : Phrase [i.lexeme] True := by
  obtain ⟨c, r, e, gap, -⟩ := i.exists_toSql_eq_cons
  refine phrase_token i.wellFormed_lexeme ⟨c, r, e, gap⟩ i.isSolid_lexeme ?_ ?_ <;> split <;>
    first | rfl | decide

/-- A name behind a token and a dot. -/
theorem phrase_dotted {l : Lexeme} (h : Phrase [l] True) (hd : l.allows '.' = true)
    (i : Identifier) : Phrase [l, dot, i.lexeme] True := by
  obtain ⟨c, r, e, gap⟩ := h.starts
  obtain ⟨d, t, e', -, digit, -⟩ := i.exists_toSql_eq_cons
  have name := phrase_name i
  have apart (next : Option Char) (hn : Breaks next) : Apart next [l, dot, i.lexeme] := by
    refine ⟨((h.apart none breaks_none).2 trivial).1, ?_, .dot, ?_, (name.apart next hn).2 trivial⟩
    · intro x hx
      obtain rfl : '.' = x := by simpa using hx
      exact hd
    · intro x hx
      obtain rfl : d = x := by simpa [e'] using hx
      simp [dot, allows, digit]
  refine ⟨⟨c, r ++ written [dot, i.lexeme], by simp_all, gap⟩, ⟨_, rfl, i.isSolid_lexeme⟩, ?_, ?_,
    fun next hn => (apart next hn).loose, fun next hn => iff_true_intro (apart next hn)⟩
  · rw [← List.singleton_append, opened_append, h.balanced]
    exact name.balanced
  · simp only [List.forall_mem_cons]
    exact ⟨h.plain l (by simp), rfl, by simpa using name.plain⟩

theorem phrase_table (n : QualifiedName) : Phrase n.lexemes True := by
  unfold QualifiedName.lexemes
  split
  · exact phrase_name n.name
  · next schema _ => exact phrase_dotted (phrase_name schema) schema.lexeme_allows_dot n.name

/-- A phrase between fixed lexemes. -/
theorem Phrase.between (h : Phrase ls p) (front : Front fs depth) (back : Back bs depth) :
    Phrase (fs ++ (ls ++ bs)) p := by
  obtain ⟨c, r, hc, gap⟩ := front.starts
  obtain ⟨c', r', hc', gap'⟩ := h.starts
  obtain ⟨d, t, hd, brk⟩ := back.starts
  obtain ⟨l, last, solid⟩ := back.ends
  refine ⟨⟨c, r ++ written (ls ++ bs), by simp [hc], gap⟩, ⟨l, by simp [last], solid⟩, ?_, ?_,
    fun next hn => ?_, fun next hn => ?_⟩
  · simp [opened_append, front.opens, h.opened_eq, back.closes]
  · simp only [List.forall_mem_append]
    exact ⟨front.plain, h.plain, back.plain⟩
  · simp only [loose_append, written_append, hc', hd, List.cons_append, List.head?_cons,
      Option.some_or]
    exact ⟨(front.apart c' gap').loose, h.loose _ (breaks_some brk), (back.apart next hn).loose⟩
  · have apart := h.apart (some d) (breaks_some brk)
    simp only [apart_append, written_append, hc', hd, List.cons_append, List.head?_cons,
      Option.some_or, front.apart c' gap', back.apart next hn, apart, true_and, and_true]

/-- A phrase with fixed lexemes behind it. -/
theorem Phrase.behind (h : Phrase ls p) (back : Back bs 0) : Phrase (ls ++ bs) p := by
  obtain ⟨c, r, hc, gap⟩ := h.starts
  obtain ⟨d, t, hd, brk⟩ := back.starts
  obtain ⟨l, last, solid⟩ := back.ends
  refine ⟨⟨c, r ++ written bs, by simp [hc], gap⟩, ⟨l, by simp [last], solid⟩, ?_, ?_,
    fun next hn => ?_, fun next hn => ?_⟩
  · simp [opened_append, h.balanced, back.closes]
  · simp only [List.forall_mem_append]
    exact ⟨h.plain, back.plain⟩
  · simp only [loose_append, hd, List.head?_cons, Option.some_or]
    exact ⟨h.loose _ (breaks_some brk), (back.apart next hn).loose⟩
  · have apart := h.apart (some d) (breaks_some brk)
    simp only [apart_append, hd, List.head?_cons, Option.some_or, back.apart next hn, apart,
      and_true]

/-- Two phrases with fixed lexemes between them. -/
theorem Phrase.link (h : Phrase ls p) (h' : Phrase ms q) (between : Link bs) :
    Phrase (ls ++ (bs ++ ms)) (p ∧ q) := by
  obtain ⟨c, r, hc, gap⟩ := h.starts
  obtain ⟨c', r', hc', gap'⟩ := h'.starts
  obtain ⟨d, t, hd, brk⟩ := between.starts
  obtain ⟨l, last, solid⟩ := h'.ends
  refine ⟨⟨c, r ++ written (bs ++ ms), by simp [hc], gap⟩, ⟨l, by simp [last], solid⟩, ?_, ?_,
    fun next hn => ?_, fun next hn => ?_⟩
  · simp [opened_append, h.balanced, between.balanced, h'.balanced]
  · simp only [List.forall_mem_append]
    exact ⟨h.plain, between.plain, h'.plain⟩
  · simp only [loose_append, written_append, hc', hd, List.cons_append, List.head?_cons,
      Option.some_or]
    exact ⟨h.loose _ (breaks_some brk), (between.apart c' gap').loose, h'.loose next hn⟩
  · have apart := h.apart (some d) (breaks_some brk)
    have apart' := h'.apart next hn
    simp only [apart_append, written_append, hc', hd, List.cons_append, List.head?_cons,
      Option.some_or, between.apart c' gap', apart, apart', true_and]

/-! ### Parts with commas between them -/

/-- Parts with a comma and a blank between them. -/
def commaLexemes : List (List Lexeme) → List Lexeme
  | [] => []
  | [ls] => ls
  | ls :: ms :: rest => ls ++ ([comma, blank] ++ commaLexemes (ms :: rest))

theorem front_paren : Front [openParen] 1 := front_of_isFront (by decide)

theorem back_paren : Back [closeParen] 1 := back_of_isBack (by decide)

/-- A phrase in parentheses. -/
theorem Phrase.paren (h : Phrase ls p) : Phrase (openParen :: (ls ++ [closeParen])) p :=
  h.between front_paren back_paren

theorem link_comma : Link [comma, blank] := link_of_isLink (by decide)

theorem commaLexemes_eq (parts : List (List Lexeme)) :
    commaLexemes parts = [comma, blank].intercalate parts := by
  fun_induction commaLexemes parts with
  | case1 => rfl
  | case2 ls => simp
  | case3 ls ms rest ih => rw [ih, List.intercalate_cons_cons, List.append_assoc]

theorem phrase_intercalate {α : Type} {f : α → List Lexeme} {sound : α → Prop} {xs : List α}
    (ne : xs ≠ []) (h : ∀ x ∈ xs, Phrase (f x) (sound x)) (between : Link bs) :
    Phrase (bs.intercalate (xs.map f)) (∀ x ∈ xs, sound x) := by
  induction xs with
  | nil => exact absurd rfl ne
  | cons x xs ih =>
    simp only [List.forall_mem_cons] at h ⊢
    cases xs with
    | nil => simpa using h.1
    | cons y ys => simpa using h.1.link (ih (by simp) h.2) between

theorem phrase_commaLexemes {α : Type} {f : α → List Lexeme} {sound : α → Prop} {xs : List α}
    (ne : xs ≠ []) (h : ∀ x ∈ xs, Phrase (f x) (sound x)) :
    Phrase (commaLexemes (xs.map f)) (∀ x ∈ xs, sound x) := by
  rw [commaLexemes_eq]
  exact phrase_intercalate ne h link_comma

end BulkSql.Lexeme
