import BulkSql.Proofs.Prelude
import BulkSql.Proofs.Rendering

/-!
Queries are read as they were written: no value can change how the text around it is read, but for a
negative zero behind a minus sign.
-/
namespace BulkSql

open Lexeme

/-! ### Values -/

namespace Lexeme

theorem phrase_number {t : Sql} (h : isNumber t = true) : Phrase [number t] True := by
  obtain ⟨c, r, e, digit⟩ := exists_digit_of_isNumber h
  have gap := not_isGap_of_isWordPart (isWordPart_of_isDigit digit)
  have form := wellFormed_number h
  exact phrase_token form ⟨c, r, e, gap⟩ (form.isSolid (by decide) (by decide)) rfl (by decide)

/-- A phrase behind a minus sign must not start with another one. -/
theorem Phrase.minus {ls : List Lexeme} {p : Prop} (h : Phrase ls p) :
    Phrase (minus :: ls) ((written ls).head? ≠ some '-' ∧ p) := by
  obtain ⟨c, r, e, gap⟩ := h.starts
  refine ⟨⟨'-', _, rfl, rfl⟩, h.ends.imp fun l hl => ?_, h.balanced, ?_,
    fun next hn => ⟨wellFormed_minus, ?_, h.loose next hn⟩, fun next hn => ?_⟩
  · exact ⟨by simp [List.getLast?_cons, hl.1], hl.2⟩
  · simpa [Lexeme.minus, symbol, isPlain] using h.plain
  · intro d hd
    by_cases minus : d = '-'
    · exact .inr ⟨rfl, minus⟩
    · exact .inl (by simp [Lexeme.minus, symbol, allows, minus])
  · have follows : (∀ d ∈ (written ls).head?.or next, Lexeme.minus.allows d = true) ↔
        (written ls).head? ≠ some '-' := by
      simp [e, Lexeme.minus, symbol, allows]
    rw [apart_cons, h.apart next hn, follows]
    exact and_iff_right wellFormed_minus

theorem Phrase.minus_number {t : Sql} {ls : List Lexeme} {p : Prop} (h : Phrase (number t :: ls) p)
    (ht : isNumber t = true) : Phrase (Lexeme.minus :: number t :: ls) p := by
  obtain ⟨c, r, e, digit⟩ := exists_digit_of_isNumber ht
  exact h.minus.congr (by simp [e, ne_minus_of_isDigit digit])

/-- A number in front of a minus sign. -/
theorem Phrase.number {t : Sql} {ls : List Lexeme} {p : Prop} (h : Phrase (Lexeme.minus :: ls) p)
    (ht : isNumber t = true) : Phrase (number t :: Lexeme.minus :: ls) p := by
  obtain ⟨c, r, e, digit⟩ := exists_digit_of_isNumber ht
  have gap := not_isGap_of_isWordPart (isWordPart_of_isDigit digit)
  have follows (next : Option Char) : ∀ d ∈ (written (Lexeme.minus :: ls)).head?.or next,
      (Lexeme.number t).allows d = true := by
    intro d hd
    obtain rfl : '-' = d := by simpa using hd
    rfl
  refine ⟨⟨c, r ++ written (Lexeme.minus :: ls), by simp [e], gap⟩,
    by simpa [List.getLast?_cons] using h.ends, h.balanced, ?_,
    fun next hn => ⟨wellFormed_number ht, fun d hd => .inl (follows next d hd), h.loose next hn⟩,
    fun next hn => ?_⟩
  · simpa [Lexeme.number, isPlain] using h.plain
  · rw [apart_cons, h.apart next hn]
    exact ⟨fun h => h.2.2, fun h => ⟨wellFormed_number ht, follows next, h⟩⟩

end Lexeme

namespace Binary64

/-- The lexemes of a finite number start with a digit, and a sign in front does not touch them. -/
theorem phrase_numeral (x : Binary64) :
    ∃ t ls, isNumber t = true ∧ x.numeral = number t :: ls ∧ Phrase (number t :: ls) True := by
  obtain ⟨t, ht, e | ⟨u, hu, e⟩⟩ := x.numeral_eq
  · exact ⟨t, [], ht, e, phrase_number ht⟩
  · exact ⟨t, _, ht, e, ((phrase_number hu).minus_number hu).number ht⟩

theorem phrase_sign_numeral (x : Binary64) : Phrase (x.sign ++ x.numeral) True := by
  obtain ⟨t, ls, ht, e, phrase⟩ := x.phrase_numeral
  rw [e]
  unfold sign
  split
  · exact phrase.minus_number ht
  · exact phrase

end Binary64

namespace Value

/-- The float zero with a minus sign, which is written without parentheses. -/
def isNegativeZero : Value → Bool
  | float x => x.isNegative && x.isZero
  | _ => false

theorem phrase_castLexemes (s : Sql) {type : String}
    (h : isBack [symbol ':', symbol ':', keyword type] 0 = true) :
    Phrase (castLexemes s type) True :=
  (phrase_string s).behind (back_of_isBack h)

theorem phrase_signedLexemes {ls : List Lexeme} {p : Prop} (negative : Bool) (h : Phrase ls p) :
    Phrase (signedLexemes negative ls) p := by
  cases negative with
  | true => exact h.paren
  | false => exact h

theorem phrase_lexemes (v : Value) : Phrase v.lexemes True := by
  cases v with
  | null => exact phrase_word (by decide)
  | bool b => cases b <;> exact phrase_word (by decide)
  | int i =>
    refine phrase_signedLexemes _ ?_
    have digits := phrase_number (isNumber_toDigits i.toInt.natAbs)
    split
    · exact digits.minus_number (isNumber_toDigits _)
    · exact digits
  | float x =>
    simp only [lexemes]
    split
    · exact phrase_signedLexemes _ x.phrase_sign_numeral
    · exact phrase_castLexemes _ (by decide)
  | text s => exact phrase_string _
  | bytes b => exact phrase_castLexemes _ (by decide)
  | uuid u => exact phrase_castLexemes _ (by decide)
  | timestamp t => exact phrase_castLexemes _ (by decide)
  | json j => exact phrase_castLexemes _ (by decide)

theorem head?_signedLexemes (negative : Bool) (ls : List Lexeme) :
    (written (signedLexemes negative ls)).head? =
      if negative then some '(' else (written ls).head? := by
  cases negative <;> simp [signedLexemes]

/-- Only a negative zero starts with a minus sign. -/
theorem head?_lexemes (v : Value) :
    (written v.lexemes).head? = some '-' ↔ v.isNegativeZero = true := by
  cases v with
  | int i =>
    simp only [lexemes, head?_signedLexemes, isNegativeZero]
    obtain ⟨c, r, e, digit⟩ := exists_digit_of_isNumber (isNumber_toDigits i.toInt.natAbs)
    have ne := ne_minus_of_isDigit digit
    by_cases h : i.toInt < 0 <;> simp [h, e, ne]
  | float x =>
    obtain ⟨t, ls, ht, e, -⟩ := x.phrase_numeral
    obtain ⟨c, r, e', digit⟩ := exists_digit_of_isNumber ht
    have ne := ne_minus_of_isDigit digit
    have zero : x.isZero = true → x.isFinite = true := by
      simp only [Binary64.isZero, Binary64.isFinite, beq_iff_eq, decide_eq_true_eq]
      rintro h
      rw [h]
      decide
    have key : x.key < 0 ↔ x.isNegative = true ∧ x.isZero = false := by
      simp only [Binary64.key, Binary64.isZero, beq_eq_false_iff_ne]
      by_cases h : x.isNegative = true
      · simp only [h, if_true, true_and]
        omega
      · simp [h]
    simp only [lexemes, isNegativeZero, Bool.and_eq_true]
    split
    · simp only [head?_signedLexemes, written_append, e, key, decide_eq_true_eq]
      by_cases negative : x.isNegative = true <;> by_cases hz : x.isZero = true <;>
        simp_all [Binary64.sign]
    · next infinite =>
      have hz : x.isZero ≠ true := fun h => infinite (zero h)
      simp [castLexemes, quoteLiteral, Quoted.quote, hz]
  | bool b => cases b <;> decide
  | _ => simp [lexemes, castLexemes, quoteLiteral, Quoted.quote, isNegativeZero, keyword]

end Value

/-! ### Expressions -/

namespace Expr

def isNegativeZero : Expr → Bool
  | literal v => v.isNegativeZero
  | _ => false

mutual

/-- Whether a negative zero is written right behind a minus sign. -/
def negatesZero : Expr → Bool
  | unary op x => (op == .neg && x.isNegativeZero) || negatesZero x
  | binary _ x y => negatesZero x || negatesZero y
  | call _ args => anyNegatesZero args
  | inList x items _ => !items.isEmpty && (negatesZero x || anyNegatesZero items)
  | _ => false

def anyNegatesZero : List Expr → Bool
  | [] => false
  | x :: xs => negatesZero x || anyNegatesZero xs

end

theorem anyNegatesZero_eq_false (es : List Expr) :
    anyNegatesZero es = false ↔ ∀ x ∈ es, x.negatesZero = false := by
  induction es with
  | nil => simp [anyNegatesZero]
  | cons x xs ih => simp [anyNegatesZero, ih]

theorem mem_nodes_self (e : Expr) : e ∈ e.nodes := by cases e <;> simp [nodes]

mutual

/-- Where there is no negative zero, none is negated. -/
theorem not_negatesZero_of_nodes (e : Expr) (h : ∀ x ∈ e.nodes, x.isNegativeZero = false) :
    e.negatesZero = false := by
  cases e with
  | unary op x =>
    simp only [nodes, List.forall_mem_cons] at h
    simp [negatesZero, h.2 x x.mem_nodes_self, not_negatesZero_of_nodes x h.2]
  | binary op x y =>
    simp only [nodes, List.forall_mem_cons, List.forall_mem_append] at h
    simp [negatesZero, not_negatesZero_of_nodes x h.2.1, not_negatesZero_of_nodes y h.2.2]
  | call f args =>
    simp only [nodes, List.forall_mem_cons] at h
    simp [negatesZero, not_anyNegatesZero_of_nodes args h.2]
  | inList x items negated =>
    simp only [nodes, List.forall_mem_cons, List.forall_mem_append] at h
    simp [negatesZero, not_negatesZero_of_nodes x h.2.1, not_anyNegatesZero_of_nodes items h.2.2]
  | _ => rfl

theorem not_anyNegatesZero_of_nodes (es : List Expr)
    (h : ∀ x ∈ nodesOfList es, x.isNegativeZero = false) : anyNegatesZero es = false := by
  cases es with
  | nil => rfl
  | cons x xs =>
    simp only [nodesOfList, List.forall_mem_append] at h
    simp [anyNegatesZero, not_negatesZero_of_nodes x h.1, not_anyNegatesZero_of_nodes xs h.2]

end

end Expr

namespace Visit

def isRefused : Visit → Bool
  | refused _ => true
  | captured _ _ => false

theorem ne_nil_of_takes {f : Func} {args : List Expr} (h : takes f args.length = true) :
    args ≠ [] := by
  rintro rfl
  cases f <;> simp [takes] at h

end Visit

namespace TextScope

theorem phrase_columnLexemes {s : TextScope} (hr : isWord s.rowName = true) (c : Column) :
    Phrase (s.columnLexemes c) True :=
  phrase_dotted (phrase_word hr) (word_allows_dot _) c.name

/-- The name of a setting has no quotes. -/
theorem not_mem_setting (space : SettingSpace) {name : Sql} (h : hasBareShape name = true) :
    '\'' ∉ space.setting name := by
  have bare {t : Sql} (ht : hasBareShape t = true) : '\'' ∉ t := fun hm => by
    have := isBareChar_of_hasBareShape ht _ hm
    revert this
    decide
  simp [SettingSpace.setting, bare h, bare (Setting.hasBareShape_of_isSettingName space.valid)]

theorem back_cast {v : Value} {type : String} (h : v.cast? = some type) :
    Back [symbol ':', symbol ':', keyword type] 0 := by
  apply back_of_isBack
  cases v <;> simp only [Value.cast?, reduceCtorEq, Option.some.injEq] at h <;> subst h <;> decide

theorem phrase_capturedLexemes {s : TextScope} {name : String} {v : Value}
    (h : ∀ x ∈ Visit.ofCaptured name v, x.isRefused = false) :
    Phrase (s.capturedLexemes name v) True := by
  unfold capturedLexemes
  unfold Visit.ofCaptured at h
  split
  · exact phrase_word (by decide)
  · next notNull =>
    have shape : hasBareShape (capturedKey name) = true := by
      rw [if_neg notNull] at h
      dsimp only at h
      split at h
      · next named => simpa using Setting.hasBareShape_of_isSettingName named
      · simp [Visit.isRefused] at h
    have front : Front [keyword "current_setting", openParen] 1 := front_of_isFront (by decide)
    rw [← string_of_not_mem (not_mem_setting s.space shape)]
    have call := (phrase_string (s.space.setting (capturedKey name))).between front back_paren
    cases e : v.cast? with
    | none => exact call
    | some type => exact call.behind (back_cast e)

theorem phrase_unaryLexemes {ls : List Lexeme} {p : Prop} (op : UnaryOp) (h : Phrase ls p) :
    Phrase (unaryLexemes op ls) ((op = .neg → (written ls).head? ≠ some '-') ∧ p) := by
  cases op with
  | not =>
    have front : Front [openParen, keyword "NOT", blank] 1 := front_of_isFront (by decide)
    exact (h.between front back_paren).congr (by simp)
  | neg => exact h.minus.paren.congr (by simp)
  | isNull =>
    have back : Back [blank, keyword "IS", blank, keyword "NULL", closeParen] 1 :=
      back_of_isBack (by decide)
    exact (h.between front_paren back).congr (by simp)
  | isNotNull =>
    have back : Back [blank, keyword "IS", blank, keyword "NOT", blank, keyword "NULL",
        closeParen] 1 := back_of_isBack (by decide)
    exact (h.between front_paren back).congr (by simp)

/-- Only a negative zero starts with a minus sign. -/
theorem head?_lexemes {s : TextScope} (hr : isWord s.rowName = true) (e : Expr) :
    (written (s.lexemes e)).head? = some '-' ↔ e.isNegativeZero = true := by
  cases e with
  | literal v => exact v.head?_lexemes
  | captured name v =>
    unfold lexemes capturedLexemes
    split <;> simp [keyword, Expr.isNegativeZero]
  | field member =>
    unfold lexemes
    obtain ⟨c, r, e, -, -, ne⟩ := exists_of_isWord hr
    cases s.entity.columnFor? member <;> simp [columnLexemes, Expr.isNegativeZero, e, ne]
  | call f args => cases f <;> simp [lexemes, Func.word, Expr.isNegativeZero]
  | inList x items negated =>
    unfold lexemes
    split
    · cases negated <;> simp [Expr.isNegativeZero]
    · simp [Expr.isNegativeZero]
  | _ => simp [lexemes, unaryLexemes, Expr.isNegativeZero]

theorem link_sign (op : BinaryOp) : Link (blank :: (op.lexemes ++ [blank])) := by
  cases op <;> exact link_of_isLink (by decide)

theorem link_in (negated : Bool) : Link (inWords negated) := by
  cases negated <;> exact link_of_isLink (by decide)

theorem front_call (f : Func) : Front [keyword f.word, openParen] 1 := by
  cases f <;> exact front_of_isFront (by decide)

theorem back_call (f : Func) : Back (f.tail ++ [closeParen]) 1 := by
  cases f <;> exact back_of_isBack (by decide)

variable {s : TextScope}

mutual

/-- The lexemes of an expression that can stand in a query are apart from each other, unless a
negative zero is negated. -/
theorem phrase_lexemes (hr : isWord s.rowName = true) (e : Expr)
    (h : ∀ v ∈ Visit.ofExpr s.entity e, v.isRefused = false) :
    Phrase (s.lexemes e) (e.negatesZero = false) := by
  cases e with
  | literal v => exact (v.phrase_lexemes).congr (by simp [Expr.negatesZero])
  | captured name v =>
    exact (phrase_capturedLexemes h).congr (by simp [Expr.negatesZero])
  | field member =>
    simp only [Visit.ofExpr, Visit.ofField] at h
    simp only [lexemes]
    cases e : s.entity.columnFor? member with
    | none => simp [e, Visit.isRefused] at h
    | some c => exact (phrase_columnLexemes hr c).congr (by simp [Expr.negatesZero])
  | unary op x =>
    refine (phrase_unaryLexemes op (phrase_lexemes hr x h)).congr ?_
    rw [ne_eq, head?_lexemes hr x]
    simp [Expr.negatesZero]
  | binary op x y =>
    simp only [Visit.ofExpr, List.forall_mem_append] at h
    have inner := (phrase_lexemes hr x h.1).link (phrase_lexemes hr y h.2) (link_sign op)
    rw [lexemes_binary]
    exact inner.paren.congr (by simp [Expr.negatesZero])
  | call f args =>
    simp only [Visit.ofExpr] at h
    split at h
    · next arity =>
      have ne := Visit.ne_nil_of_takes arity
      have inner := phrase_commaLexemes ne (phrase_each hr args h)
      rw [lexemes_call]
      exact (inner.between (front_call f) (back_call f)).congr
        (by simp [Expr.negatesZero, Expr.anyNegatesZero_eq_false])
    · simp [Visit.isRefused] at h
  | inList x items negated =>
    simp only [Visit.ofExpr] at h
    split at h
    · next empty =>
      rw [lexemes, if_pos empty]
      cases negated <;> exact (phrase_word (by decide)).congr (by simp [Expr.negatesZero, empty])
    · next some =>
      simp only [List.forall_mem_append] at h
      have ne : items ≠ [] := by simpa using some
      have list := (phrase_commaLexemes ne (phrase_each hr items h.2)).paren
      have inner := ((phrase_lexemes hr x h.1).link list (link_in negated)).paren
      rw [lexemes_inList s ne]
      exact inner.congr (by simp [Expr.negatesZero, Expr.anyNegatesZero_eq_false, ne])
  | init name bindings => simp [Visit.ofExpr, Visit.isRefused] at h

theorem phrase_each (hr : isWord s.rowName = true) (es : List Expr)
    (h : ∀ v ∈ Visit.ofExprs s.entity es, v.isRefused = false) :
    ∀ x ∈ es, Phrase (s.lexemes x) (x.negatesZero = false) := by
  cases es with
  | nil => simp
  | cons x xs =>
    simp only [Visit.ofExprs, List.forall_mem_append] at h
    simp only [List.forall_mem_cons]
    exact ⟨phrase_lexemes hr x h.1, phrase_each hr xs h.2⟩

end

end TextScope

/-! ### Queries -/

/-- A text is read as some lexemes if it has their tokens in this order, with balanced parentheses
and without semicolons, and only blanks stand between them. -/
def ReadsAs (sql : Sql) (ls : List Lexeme) : Prop :=
  ∃ scan, Scan.ofSql sql = .ok scan ∧
    scan.tokens.map (fun t => (t.kind, t.text)) = Scan.tokensOf ls ∧
    (∀ t ∈ scan.tokens, t.kind ≠ .semicolon ∧ t.before.all (· == ' ') = true) ∧
    scan.after.all (· == ' ') = true

/-- A minus sign in front of another one starts a comment. -/
theorem exists_comment {front back : List Lexeme} (apart : Apart (some '-') front)
    (twice : (written back).head? = some '-') {ls : List Lexeme}
    (h : readAll (written (front ++ symbol '-' :: back)) = (ls, none)) :
    ∃ t, .gap ('-' :: t) ∈ ls := by
  obtain ⟨r, e⟩ : ∃ r, written back = '-' :: r := by
    cases e : written back with
    | nil => simp [e] at twice
    | cons c r => exact ⟨r, by simpa [e] using twice⟩
  have comment : read '-' ('-' :: r) =
      .ok (.gap ('-' :: '-' :: r.takeWhile (· != '\n')), r.dropWhile (· != '\n')) := rfl
  rw [written_append, readAll_append (by simpa using apart)] at h
  simp only [written_cons, text_symbol, e, List.cons_append, List.nil_append,
    readAll_cons comment, Prod.mk.injEq] at h
  exact ⟨'-' :: r.takeWhile (· != '\n'), by simp [← h.1]⟩

/-- The text of a phrase is read as it was written exactly if its lexemes are apart. -/
theorem readsAs_iff {ls : List Lexeme} {sound : Prop} (h : Phrase ls sound) :
    ReadsAs (written ls) ls ↔ sound := by
  rw [← h.apart none breaks_none]
  constructor
  · rintro ⟨scan, e, -, tokens, after⟩
    obtain ⟨ms, text, apart, balanced, rfl⟩ := Scan.ofSql_eq_ok_iff.1 e
    rcases (h.loose none breaks_none).apart_or with apart | ⟨front, back, rfl, before, twice⟩
    · exact apart
    · exfalso
      obtain ⟨t, comment⟩ := exists_comment before (by simpa using twice)
        (readAll_eq_iff.2 ⟨text, apart⟩)
      have gaps := ((Scan.all_before_iff [] balanced).1
        ⟨fun t ht => (tokens t ht).2, after⟩).2 _ comment
      simp at gaps
  · intro apart
    have gaps := (Scan.all_before_iff (p := (· == ' ')) [] h.balanced).2
      ⟨rfl, fun g hg => by simpa [isPlain] using h.plain _ hg⟩
    have kinds := Scan.kinds_of_placed (p := (· ≠ .semicolon)) 0 [] ls
      fun kind t ht => by simpa [isPlain] using h.plain _ ht
    exact ⟨_, Scan.ofSql_eq_ok_iff.2 ⟨ls, rfl, apart, h.balanced, rfl⟩, Scan.map_placed [] h.balanced,
      fun t ht => ⟨kinds t ht, gaps.1 t ht⟩, gaps.2⟩

namespace Query

/-- Whether a negative zero is written right behind a minus sign anywhere in a query. -/
def negatesZero (q : Query) : Bool :=
  q.projection?.any Expr.negatesZero || q.filter?.any Expr.negatesZero ||
    q.orderBy.any fun t => t.expr.negatesZero

end Query

namespace Select

theorem isLower_toLower {c : Char} (h : c.isAlpha = true) : c.toLower.isLower = true := by
  simp only [Char.isAlpha, Char.isUpper, Char.isLower, Bool.or_eq_true, Bool.and_eq_true,
    decide_eq_true_eq] at h
  unfold Char.toLower
  split
  · next upper =>
    have offset : ('a'.val - 'A'.val).toNat = 32 := by decide
    have first : 'A'.val.toNat = 65 := by decide
    have last : 'Z'.val.toNat = 90 := by decide
    have first' : 'a'.val.toNat = 97 := by decide
    have last' : 'z'.val.toNat = 122 := by decide
    simp only [Char.isLower, Bool.and_eq_true, decide_eq_true_eq]
    simp only [ge_iff_le, UInt32.le_iff_toNat_le, UInt32.toNat_add] at *
    omega
  · next upper =>
    simp only [Char.isLower, Bool.and_eq_true, decide_eq_true_eq]
    exact h.resolve_left upper

/-- The rows are called by a letter. -/
theorem rowName_eq (table : String) : ∃ c, rowName table = [c] ∧ c.isLower = true := by
  unfold rowName
  split
  · next c found => exact ⟨_, rfl, isLower_toLower (List.find?_some found)⟩
  · exact ⟨_, rfl, by decide⟩

theorem isWord_rowName (table : String) : isWord (rowName table) = true := by
  obtain ⟨c, e, lower⟩ := rowName_eq table
  rw [e]
  exact isWord_of_hasBareShape (by simp [hasBareShape, isBareStart, lower])

variable {s : TextScope} {q : Query}

theorem phrase_clause {α : Type} {words : List Lexeme} (hw : Link words) {write : α → List Lexeme}
    {sound : α → Prop} {x? : Option α} (h : ∀ x ∈ x?, Phrase (write x) (sound x))
    {ls : List Lexeme} {p : Prop} (hl : Phrase ls p) :
    Phrase (ls ++ clauseLexemes words write x?) (p ∧ ∀ x ∈ x?, sound x) := by
  cases x? with
  | none => simpa [clauseLexemes] using hl
  | some x => exact (hl.link (h x rfl) hw).congr (by simp)

theorem link_blank : Link [blank] := link_of_isLink (by decide)

/-- Without columns there are two blanks behind SELECT. -/
theorem link_blanks : Link [.gap [' ', ' ']] := by
  refine ⟨⟨' ', [' '], rfl, rfl⟩, rfl, by decide, fun c hc => ?_⟩
  refine ⟨.blanks rfl rfl, fun d hd => ?_, trivial⟩
  obtain rfl : c = d := by simpa using hd
  simpa [allows] using hc

theorem phrase_sourceLexemes (hr : isWord s.rowName = true) : Phrase (sourceLexemes s) True := by
  have from_ : Phrase [keyword "FROM"] True := phrase_word (by decide)
  have alias_ : Link [blank, keyword "AS", blank] := link_of_isLink (by decide)
  exact (from_.link ((phrase_table s.entity.table).link (phrase_word hr) alias_) link_blank).congr
    (by simp)

theorem not_isRefused_of_selected {entity : Entity} {e : Expr}
    (h : ∀ v ∈ projectionVisits entity (some e), v.isRefused = false) :
    ∀ v ∈ Visit.ofExpr entity e, v.isRefused = false := by
  cases e with
  | init name bindings => simp [projectionVisits, Visit.isRefused] at h
  | _ => exact h

/-- What is selected, if anything is. -/
theorem phrase_columnLexemes (hr : isWord s.rowName = true)
    (ne : q.projection? = none → s.entity.columns ≠ [])
    (h : ∀ v ∈ projectionVisits s.entity q.projection?, v.isRefused = false) :
    Phrase (columnLexemes s q) (∀ e ∈ q.projection?, e.negatesZero = false) := by
  unfold columnLexemes
  cases e : q.projection? with
  | none =>
    have each : ∀ c ∈ s.entity.columns, Phrase (s.columnLexemes c) True := fun c _ =>
      s.phrase_columnLexemes hr c
    exact (phrase_commaLexemes (ne e) each).congr (by simp)
  | some x =>
    rw [e] at h
    exact (s.phrase_lexemes hr x (not_isRefused_of_selected h)).congr (by simp)

/-- The lexemes up to the name of the rows. -/
theorem phrase_front (hr : isWord s.rowName = true)
    (h : ∀ v ∈ projectionVisits s.entity q.projection?, v.isRefused = false) :
    Phrase (keyword "SELECT" :: (spaced (columnLexemes s q) ++ sourceLexemes s))
      (∀ e ∈ q.projection?, e.negatesZero = false) := by
  have select : Phrase [keyword "SELECT"] True := phrase_word (by decide)
  have source := phrase_sourceLexemes hr
  by_cases none : q.projection? = none ∧ s.entity.columns = []
  · simp only [columnLexemes, none.1, none.2, List.map_nil]
    exact (select.link source link_blanks).congr (by simp)
  · have columns := phrase_columnLexemes hr (fun e e' => none ⟨e, e'⟩) h
    have shape : keyword "SELECT" :: (spaced (columnLexemes s q) ++ sourceLexemes s) =
        [keyword "SELECT"] ++ ([blank] ++ (columnLexemes s q ++ ([blank] ++ sourceLexemes s))) := by
      simp [spaced, columns.ne_nil]
    rw [shape]
    exact (select.link (columns.link source link_blank) link_blank).congr (by simp)

theorem phrase_orderLexemes (hr : isWord s.rowName = true) {t : OrderTerm}
    (h : ∀ v ∈ Visit.ofExpr s.entity t.expr, v.isRefused = false) :
    Phrase (orderLexemes s t) (t.expr.negatesZero = false) := by
  have plain := s.phrase_lexemes hr t.expr h
  unfold orderLexemes
  cases t.descending with
  | true => exact plain.behind (back_of_isBack (by decide))
  | false => simpa using plain

theorem phrase_countLexemes (n : Nat) : Phrase (countLexemes n) True :=
  phrase_number (isNumber_toDigits n)

/-- The lexemes of a query are apart from each other, unless a negative zero is negated. -/
theorem phrase_lexemes (hr : isWord s.rowName = true)
    (h : ∀ v ∈ visits s.entity q, v.isRefused = false) :
    Phrase (lexemes s q) (q.negatesZero = false) := by
  simp only [visits, List.forall_mem_append, List.forall_mem_flatMap] at h
  obtain ⟨selected, filtered, ordered⟩ := h
  have filter : ∀ e ∈ q.filter?, Phrase (s.lexemes e) (e.negatesZero = false) := fun e he =>
    s.phrase_lexemes hr e (by simpa [Option.mem_def.1 he] using filtered)
  have order : ∀ terms ∈ orderTerms? q,
      Phrase (commaLexemes (terms.map (orderLexemes s))) (∀ t ∈ terms, t.expr.negatesZero = false) := by
    intro terms ht
    unfold orderTerms? at ht
    split at ht
    · cases ht
    · next some =>
      obtain rfl : q.orderBy = terms := by simpa using ht
      exact phrase_commaLexemes (by simpa using some) fun t ht =>
        phrase_orderLexemes hr (ordered t ht)
  have shape : lexemes s q = (((keyword "SELECT" :: (spaced (columnLexemes s q) ++ sourceLexemes s) ++
      clauseLexemes [blank, keyword "WHERE", blank] s.lexemes q.filter?) ++
      clauseLexemes [blank, keyword "ORDER", blank, keyword "BY", blank]
        (fun terms => commaLexemes (terms.map (orderLexemes s))) (orderTerms? q)) ++
      clauseLexemes [blank, keyword "LIMIT", blank] countLexemes q.limit?) ++
      clauseLexemes [blank, keyword "OFFSET", blank] countLexemes q.offset? := by
    simp [lexemes]
  rw [shape]
  have where_ : Link [blank, keyword "WHERE", blank] := link_of_isLink (by decide)
  have orderBy : Link [blank, keyword "ORDER", blank, keyword "BY", blank] :=
    link_of_isLink (by decide)
  have limit : Link [blank, keyword "LIMIT", blank] := link_of_isLink (by decide)
  have offset : Link [blank, keyword "OFFSET", blank] := link_of_isLink (by decide)
  have counts (n? : Option Nat) : ∀ n ∈ n?, Phrase (countLexemes n) True := fun n _ =>
    phrase_countLexemes n
  refine (phrase_clause offset (counts q.offset?) (phrase_clause limit (counts q.limit?)
    (phrase_clause orderBy order
      (phrase_clause where_ filter (phrase_front hr selected))))).congr ?_
  have terms : (∀ ts ∈ orderTerms? q, ∀ t ∈ ts, t.expr.negatesZero = false) ↔
      ∀ t ∈ q.orderBy, t.expr.negatesZero = false := by
    unfold orderTerms?
    split
    · next none => simp [List.isEmpty_iff.1 none]
    · simp
  rw [terms]
  unfold Query.negatesZero
  cases q.projection? <;> cases q.filter? <;> simp

theorem not_isRefused_of_ofVisits {vs : List Visit} {cs ds : Captures}
    (h : cs.ofVisits vs = .ok ds) : ∀ v ∈ vs, v.isRefused = false := by
  induction vs generalizing cs with
  | nil => simp
  | cons v vs ih =>
    cases v with
    | refused why => cases h
    | captured name value =>
      rw [Captures.ofVisits] at h
      cases e : cs.add name value with
      | error why => simp [e, bind, Except.bind] at h
      | ok es =>
        rw [e] at h
        simpa [Visit.isRefused] using ih h

/-- The SELECT statement of a query that can be written is read as it was written, unless a negative
zero stands behind a minus sign. Nothing else that the query holds matters. -/
theorem readsAs_writer_iff {space : SettingSpace} {entity : Entity} {q : Query} {sql : Sql}
    (h : writer space entity q = .ok sql) :
    ReadsAs (splitPrelude sql).2 (lexemes (scope space entity) q) ↔ q.negatesZero = false := by
  obtain ⟨captures, e, split⟩ := splitPrelude_writer h
  rw [split, ← written_lexemes]
  exact readsAs_iff (phrase_lexemes (isWord_rowName _) (not_isRefused_of_ofVisits e))

/-- A table of which the only column needs quotes. -/
def oddEntity : Entity :=
  ⟨"Odd", ⟨none, ⟨"odd", by decide, by decide⟩⟩,
    [{ member := "id", name := ⟨"i--d", by decide, by decide⟩, isKey := true }]⟩

/-- A text that looks like SQL is one token. -/
theorem readsAs_writer_quoted :
    writer {} oddEntity { filter? := some (.literal (.text "it's; -- (/*")) } =
        .ok "SELECT o.\"i--d\" FROM odd AS o WHERE 'it''s; -- (/*'".toList ∧
      ReadsAs (splitPrelude "SELECT o.\"i--d\" FROM odd AS o WHERE 'it''s; -- (/*'".toList).2
        (lexemes (scope {} oddEntity) { filter? := some (.literal (.text "it's; -- (/*")) }) :=
  ⟨rfl, (readsAs_writer_iff rfl).2 rfl⟩

/-- The negated negative zero. -/
def negatedZero : Query :=
  { filter? := some (.unary .neg (.literal (.float ⟨0x8000000000000000⟩))) }

/-- A negative zero behind a minus sign starts a comment. -/
theorem not_readsAs_negatedZero :
    writer {} oddEntity negatedZero =
        .ok "SELECT o.\"i--d\" FROM odd AS o WHERE (--0.0)".toList ∧
      Scan.ofSql "SELECT o.\"i--d\" FROM odd AS o WHERE (--0.0)".toList = .error .unbalancedOpen ∧
      ¬ ReadsAs (splitPrelude "SELECT o.\"i--d\" FROM odd AS o WHERE (--0.0)".toList).2
        (lexemes (scope {} oddEntity) negatedZero) := by
  have h : writer {} oddEntity negatedZero =
      .ok "SELECT o.\"i--d\" FROM odd AS o WHERE (--0.0)".toList := rfl
  have scan : Scan.ofSql "SELECT o.\"i--d\" FROM odd AS o WHERE (--0.0)".toList =
      .error .unbalancedOpen := by cbv
  refine ⟨h, scan, ?_⟩
  obtain ⟨captures, -, split⟩ := splitPrelude_writer h
  have select : text (scope {} oddEntity) negatedZero =
      "SELECT o.\"i--d\" FROM odd AS o WHERE (--0.0)".toList := rfl
  rw [split, select]
  rintro ⟨tokens, e, -⟩
  rw [scan] at e
  cases e

end Select

end BulkSql
