import BulkSql.Name
import BulkSql.Proofs.Trimming

/-!
Words, names and quoted texts as lexemes. A name is one token however it is written, and so is a text
between quotes whatever it holds.
-/
namespace BulkSql

namespace Lexeme

def blank : Lexeme := .gap [' ']

def openParen : Lexeme := .token .openParen ['(']

def closeParen : Lexeme := .token .closeParen [')']

def comma : Lexeme := .token .comma [',']

def dot : Lexeme := .token .dot ['.']

def symbol (c : Char) : Lexeme := .token .symbol [c]

def word (t : Sql) : Lexeme := .token .word t

def keyword (s : String) : Lexeme := word s.toList

/-- A text between single quotes. -/
def string (s : Sql) : Lexeme := .token .string (quoteLiteral s)

@[simp] theorem text_token (kind : TokenKind) (t : Sql) : (token kind t).text = t := rfl
@[simp] theorem text_blank : blank.text = [' '] := rfl
@[simp] theorem text_openParen : openParen.text = ['('] := rfl
@[simp] theorem text_closeParen : closeParen.text = [')'] := rfl
@[simp] theorem text_comma : comma.text = [','] := rfl
@[simp] theorem text_dot : dot.text = ['.'] := rfl
@[simp] theorem text_symbol (c : Char) : (symbol c).text = [c] := rfl
@[simp] theorem text_word (t : Sql) : (word t).text = t := rfl
@[simp] theorem text_keyword (s : String) : (keyword s).text = s.toList := rfl
@[simp] theorem text_string (s : Sql) : (string s).text = quoteLiteral s := rfl

/-- A character before which every token ends. -/
def isBreak (d : Char) : Bool := [' ', ')', ',', '(', ':'].contains d

theorem token_allows {kind : TokenKind} {t : Sql} {d : Char} (h : isBreak d = true) :
    (token kind t).allows d = true := by
  simp only [isBreak, List.contains_eq_mem, List.mem_cons, List.not_mem_nil, or_false,
    decide_eq_true_eq] at h
  unfold allows
  rcases h with rfl | rfl | rfl | rfl | rfl <;> cases kind <;> simp [isNumberPart, isWordPart]
    <;> split <;> simp_all

/-- Nothing follows, or a character before which every token ends. -/
def Breaks (next : Option Char) : Prop := ∀ d ∈ next, isBreak d = true

theorem breaks_none : Breaks none := nofun

theorem breaks_some {d : Char} (h : isBreak d = true) : Breaks (some d) := by simpa [Breaks] using h

/-! ### Words -/

/-- The characters of a word without blanks, of which the first is neither a digit nor a dollar
sign. -/
def isWord : Sql → Bool
  | [] => false
  | c :: t =>
    isWordPart c && !c.isDigit && c != '$' && t.all isWordPart && (c :: t).all (!isBlank ·)

theorem wellFormed_word {t : Sql} (h : isWord t = true) : (word t).WellFormed := by
  cases t with
  | nil => cases h
  | cons c t =>
    simp only [isWord, Bool.and_eq_true, Bool.not_eq_true', bne_iff_ne] at h
    exact .word h.1.1.1.1 h.1.1.1.2 h.1.1.2 h.1.2

theorem isSolid_word {t : Sql} (h : isWord t = true) : (word t).isSolid = true := by
  cases t with
  | nil => cases h
  | cons c t =>
    simp only [isWord, Bool.and_eq_true, List.all_eq_true, Bool.not_eq_true'] at h
    exact isSolid_of_text (Blank.trimEnd_of_all h.2)

theorem exists_of_isWord {t : Sql} (h : isWord t = true) :
    ∃ c r, t = c :: r ∧ isGap c = false ∧ c.isDigit = false ∧ c ≠ '-' := by
  cases t with
  | nil => cases h
  | cons c t =>
    simp only [isWord, Bool.and_eq_true, Bool.not_eq_true', bne_iff_ne] at h
    obtain ⟨⟨⟨⟨part, digit⟩, -⟩, -⟩, -⟩ := h
    exact ⟨c, t, rfl, not_isGap_of_isWordPart part, digit, ne_of_isWordPart part rfl⟩

theorem isWordPart_of_isBareChar {c : Char} (h : isBareChar c = true) : isWordPart c = true := by
  simp only [isBareChar, Bool.or_eq_true, beq_iff_eq] at h
  rcases h with ((rfl | rfl) | h) | h
  · rfl
  · rfl
  · simp [isWordPart, Char.isAlphanum, Char.isAlpha, h]
  · simp [isWordPart, Char.isAlphanum, h]

theorem not_isBlank_of_isBareChar {c : Char} (h : isBareChar c = true) : isBlank c = false := by
  simp only [isBareChar, Bool.or_eq_true, beq_iff_eq] at h
  rcases h with ((rfl | rfl) | h) | h
  · decide
  · decide
  · exact not_isBlank_of_isAlphanum (by simp [Char.isAlphanum, Char.isAlpha, h])
  · exact not_isBlank_of_isAlphanum (by simp [Char.isAlphanum, h])

theorem not_digit_of_isBareStart {c : Char} (h : isBareStart c = true) :
    isWordPart c = true ∧ c.isDigit = false ∧ c ≠ '$' := by
  simp only [isBareStart, Bool.or_eq_true, beq_iff_eq] at h
  rcases h with rfl | h
  · decide
  · refine ⟨isWordPart_of_isBareChar (by simp [isBareChar, h]), ?_, ?_⟩
    · simp only [Char.isLower, Char.isDigit, Bool.and_eq_true, decide_eq_true_eq,
        Bool.and_eq_false_imp, decide_eq_false_iff_not] at h ⊢
      have := h.1
      grind
    · rintro rfl
      cases h

theorem isBareChar_of_hasBareShape {t : Sql} (h : hasBareShape t = true) :
    ∀ c ∈ t, isBareChar c = true := by
  cases t with
  | nil => cases h
  | cons d t =>
    simp only [hasBareShape, Bool.and_eq_true, List.all_eq_true] at h
    simp only [List.forall_mem_cons]
    refine ⟨?_, h.2⟩
    have start := h.1
    simp only [isBareStart, isBareChar, Bool.or_eq_true] at start ⊢
    rcases start with start | start <;> simp [start]

theorem isWord_of_hasBareShape {t : Sql} (h : hasBareShape t = true) : isWord t = true := by
  have bare := isBareChar_of_hasBareShape h
  cases t with
  | nil => cases h
  | cons c t =>
    simp only [hasBareShape, Bool.and_eq_true, List.all_eq_true] at h
    obtain ⟨part, digit, dollar⟩ := not_digit_of_isBareStart h.1
    simp only [isWord, part, digit, bne_iff_ne.2 dollar, Bool.not_false, Bool.and_self,
      Bool.true_and, Bool.and_eq_true, List.all_eq_true, Bool.not_eq_true']
    exact ⟨fun d hd => isWordPart_of_isBareChar (h.2 d hd),
      fun d hd => not_isBlank_of_isBareChar (bare d hd)⟩

/-! ### Quoted texts -/

/-- A text with doubled quotes ends at the next quote. -/
theorem quotedTail_doubled (q : Char) (s : Sql) :
    quotedTail q false (Quoted.doubled q s ++ [q]) = some (Quoted.doubled q s ++ [q], []) := by
  induction s with
  | nil => simp [quotedTail]
  | cons c cs ih =>
    by_cases h : c = q
    · subst h
      simp [Quoted.doubled_cons_self, quotedTail, ih]
    · rw [Quoted.doubled_cons_of_ne h]
      cases e : Quoted.doubled q cs ++ [q] with
      | nil => simp at e
      | cons d r =>
        rw [e] at ih
        simp [e, quotedTail, h, ih]

theorem doubled_of_not_mem {q : Char} {s : Sql} (h : q ∉ s) : Quoted.doubled q s = s := by
  induction s with
  | nil => rfl
  | cons c cs ih =>
    simp only [List.mem_cons, not_or] at h
    rw [Quoted.doubled_cons_of_ne (Ne.symm h.1), ih h.2]

/-- Without quotes inside, a text is quoted as it is. -/
theorem string_of_not_mem {s : Sql} (h : '\'' ∉ s) :
    string s = .token .string ('\'' :: (s ++ ['\''])) := by
  simp [string, quoteLiteral, Quoted.quote, doubled_of_not_mem h]

theorem wellFormed_string (s : Sql) : (string s).WellFormed := .string (quotedTail_doubled '\'' s)

end Lexeme

open Lexeme

/-! ### Names -/

namespace Identifier

/-- The token of a name. -/
def lexeme (i : Identifier) : Lexeme := .token (if i.isBare then .word else .quotedName) i.toSql

@[simp] theorem text_lexeme (i : Identifier) : i.lexeme.text = i.toSql := rfl

theorem isWord_of_isBare {i : Identifier} (h : i.isBare = true) : isWord i.name.toList = true := by
  simp only [isBare, isBareName, Bool.and_eq_true] at h
  exact isWord_of_hasBareShape h.1

theorem wellFormed_lexeme (i : Identifier) : i.lexeme.WellFormed := by
  unfold lexeme
  cases h : i.isBare with
  | true =>
    rw [toSql_of_isBare h]
    exact wellFormed_word (isWord_of_isBare h)
  | false =>
    rw [toSql_of_not_isBare h]
    exact .quotedName (quotedTail_doubled '"' _)

theorem isSolid_lexeme (i : Identifier) : i.lexeme.isSolid = true := by
  cases h : i.isBare with
  | true =>
    rw [lexeme, toSql_of_isBare h, h]
    exact isSolid_word (isWord_of_isBare h)
  | false =>
    have form := i.wellFormed_lexeme
    rw [lexeme, h] at form ⊢
    exact form.isSolid (by decide) (by decide)

/-- A name starts with a letter, an underscore or a quote. -/
theorem exists_toSql_eq_cons (i : Identifier) :
    ∃ c r, i.toSql = c :: r ∧ isGap c = false ∧ c.isDigit = false ∧ c ≠ '-' := by
  cases h : i.isBare with
  | true =>
    rw [toSql_of_isBare h]
    exact exists_of_isWord (isWord_of_isBare h)
  | false =>
    rw [toSql_of_not_isBare h]
    exact ⟨'"', _, rfl, rfl, rfl, by decide⟩

theorem lexeme_allows_dot (i : Identifier) : i.lexeme.allows '.' = true := by
  unfold lexeme
  split <;> simp [allows, isWordPart]

end Identifier

namespace QualifiedName

/-- The tokens of a table name. -/
def lexemes (n : QualifiedName) : List Lexeme :=
  match n.schema with
  | none => [n.name.lexeme]
  | some schema => [schema.lexeme, dot, n.name.lexeme]

theorem written_lexemes (n : QualifiedName) : written n.lexemes = n.toSql := by
  cases h : n.schema <;> simp [lexemes, toSql, h]

end QualifiedName

end BulkSql
