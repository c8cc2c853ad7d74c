import BulkSql.Proofs.Rendering
import BulkSql.Sql.Reference

/-!
Moving the references of an expression. Of what is written over rows that are called by a letter only
the names of the rows are moved, and the result is what is written over the other name.
-/
namespace BulkSql

namespace Lexeme

open Scan (tokensOf placed trailing opened nesting)

/-! ### Moving among lexemes -/

/-- A token by itself. -/
def loneToken (t : TokenKind × Sql) : Token := ⟨t.1, [], t.2, 0, false⟩

/-- The text of some lexemes behind a token, with `target` in place of the references. -/
def moved (reference target : Sql) (previous : Option (TokenKind × Sql)) : List Lexeme → Sql
  | [] => []
  | .gap g :: ls => g ++ moved reference target previous ls
  | .token kind t :: ls =>
    (if (loneToken (kind, t)).refersTo reference (previous.map loneToken)
        ((tokensOf ls).head?.map loneToken) then target else t) ++
      moved reference target (some (kind, t)) ls

theorem refersTo_eq (reference : Sql) (previous next : Option Token) (t : Token) :
    t.refersTo reference previous next =
      (loneToken (t.kind, t.text)).refersTo reference
        ((previous.map fun u => (u.kind, u.text)).map loneToken)
        ((next.map fun u => (u.kind, u.text)).map loneToken) := by
  cases previous <;> cases next <;> rfl

theorem head?_placed {depth d : Nat} {before : Sql} {ls : List Lexeme}
    (h : opened depth ls = some d) :
    (placed depth before ls).head?.map (fun u => (u.kind, u.text)) = (tokensOf ls).head? := by
  rw [← Scan.map_placed before h, List.head?_map]

/-- Moving the references of the tokens is moving them among the lexemes. -/
theorem moved_placed (reference target : Sql) {depth d : Nat} (before : Sql) {ls : List Lexeme}
    (h : opened depth ls = some d) (previous : Option Token) :
    Token.moved reference target previous (placed depth before ls) ++ trailing before ls =
      before ++ moved reference target (previous.map fun u => (u.kind, u.text)) ls := by
  induction ls generalizing depth before previous with
  | nil => simp [placed, trailing, Token.moved, moved]
  | cons l ls ih =>
    cases l with
    | gap g =>
      rw [moved, ← List.append_assoc]
      exact ih (before ++ g) h previous
    | token kind t =>
      simp only [placed, opened, trailing] at h ⊢
      cases e : nesting depth kind with
      | none => simp [e] at h
      | some n =>
        rw [e] at h
        have rest := ih [] h (some ⟨kind, before, t, n.1, false⟩)
        simp only [Token.moved, List.append_assoc, rest, moved]
        rw [refersTo_eq, head?_placed h]
        rfl

/-- A token behind which a name can be a reference: it is no dot and ends no cast. -/
def isFree (t : TokenKind × Sql) : Bool :=
  t.1 != .dot && !(loneToken t).endsCast

/-- Behind a free token, what is moved among the lexemes `ls` makes `ms` of them, and the next token
is behind a free one again. -/
def Moves (reference target : Sql) (ls ms : List Lexeme) : Prop :=
  ∀ previous, (∀ t ∈ previous, isFree t = true) → ∀ rest, ∃ last, (∀ t ∈ last, isFree t = true) ∧
    moved reference target previous (ls ++ rest) = written ms ++ moved reference target last rest

section Moves

variable {reference target : Sql} {ls ms ls' ms' : List Lexeme}

theorem Moves.nil : Moves reference target [] [] := fun previous free _ => ⟨previous, free, rfl⟩

theorem Moves.append (h : Moves reference target ls ms) (h' : Moves reference target ls' ms') :
    Moves reference target (ls ++ ls') (ms ++ ms') := by
  intro previous free rest
  obtain ⟨last, free, e⟩ := h previous free (ls' ++ rest)
  obtain ⟨last', free', e'⟩ := h' last free rest
  exact ⟨last', free', by simp [e, e']⟩

theorem Moves.text (h : Moves reference target ls ms) :
    moved reference target none ls = written ms := by
  obtain ⟨last, -, e⟩ := h none (by simp) []
  simpa [moved] using e

/-- A token that is no name of a single character. -/
def isInertToken (t : TokenKind × Sql) : Bool :=
  t.1 != .quotedName && (t.1 != .word || t.2.length != 1)

/-- Whether nothing among some lexemes can be a reference, and the last token is free. -/
def isInert (ls : List Lexeme) : Bool :=
  (tokensOf ls).all isInertToken && (tokensOf ls).getLast?.all isFree

theorem isInert_append (h : isInert ls = true) (h' : isInert ms = true) :
    isInert (ls ++ ms) = true := by
  simp only [isInert, Bool.and_eq_true, Scan.tokensOf_append, List.all_append,
    List.getLast?_append] at h h' ⊢
  refine ⟨⟨h.1, h'.1⟩, ?_⟩
  cases e : (tokensOf ms).getLast? with
  | none => exact h.2
  | some t => simpa [e] using h'.2

theorem not_refersTo_of_isInertToken {t : TokenKind × Sql} (h : isInertToken t = true)
    (one : reference.length = 1) (previous next : Option Token) :
    (loneToken t).refersTo reference previous next = false := by
  obtain ⟨kind, s⟩ := t
  simp only [isInertToken, Bool.and_eq_true, Bool.or_eq_true, bne_iff_ne] at h
  obtain ⟨unquoted, long⟩ := h
  cases name : (loneToken (kind, s)).isName with
  | false => simp [Token.refersTo, name]
  | true =>
    obtain rfl : kind = .word := by simpa [loneToken, Token.isName, unquoted] using name
    have ne : (loneToken (.word, s)).meaning ≠ reference := by
      rintro rfl
      simp [loneToken, Token.meaning] at one
      simp [one] at long
    simp [Token.refersTo, ne]

theorem moved_of_isInertToken (one : reference.length = 1)
    (h : ∀ t ∈ tokensOf ls, isInertToken t = true) (previous : Option (TokenKind × Sql))
    (rest : List Lexeme) :
    moved reference target previous (ls ++ rest) =
      written ls ++ moved reference target ((tokensOf ls).getLast?.or previous) rest := by
  induction ls generalizing previous with
  | nil => simp [tokensOf]
  | cons l ls ih =>
    cases l with
    | gap g => simp [moved, tokensOf, text, ih h]
    | token kind t =>
      simp only [tokensOf, List.forall_mem_cons] at h
      have last : (tokensOf (.token kind t :: ls)).getLast?.or previous =
          (tokensOf ls).getLast?.or (some (kind, t)) := by
        simp [tokensOf, List.getLast?_cons]
      rw [last, List.cons_append, moved, not_refersTo_of_isInertToken h.1 one, ih h.2]
      simp [text]

theorem moves_of_isInert (one : reference.length = 1) (h : isInert ls = true) :
    Moves reference target ls ls := by
  simp only [isInert, Bool.and_eq_true, List.all_eq_true] at h
  refine fun previous free rest => ⟨_, fun t ht => ?_, moved_of_isInertToken one h.1 previous rest⟩
  cases e : (tokensOf ls).getLast? with
  | none => exact free t (by simpa [e] using ht)
  | some u =>
    obtain rfl : u = t := by simpa [e] using ht
    simpa [e] using h.2

/-- The name of the rows in front of a column is moved. -/
theorem moves_column {row : Sql} (h : row.map Char.toLower = reference) (i : Identifier) :
    Moves reference target [word row, dot, i.lexeme] [word target, dot, i.lexeme] := by
  intro previous free rest
  refine ⟨some (if i.isBare then .word else .quotedName, i.toSql), ?_, ?_⟩
  · intro t ht
    obtain rfl : (if i.isBare then .word else .quotedName, i.toSql) = t := by simpa using ht
    unfold isFree
    split <;> rfl
  · have unbound : (previous.map loneToken).any (fun p => p.kind == .dot || p.endsCast) = false := by
      cases previous with
      | none => rfl
      | some t =>
        have apart := free t rfl
        simp only [isFree, Bool.and_eq_true, bne_iff_ne, Bool.not_eq_true'] at apart
        have kind : (loneToken t).kind = t.1 := rfl
        simp [kind, apart]
    have moves : (loneToken (.word, row)).refersTo reference (previous.map loneToken)
        (some (loneToken (.dot, ['.']))) = true := by
      have meaning : (loneToken (.word, row)).meaning = reference := h
      simp only [Token.refersTo, meaning, unbound]
      simp [loneToken, Token.isName]
    have stays (t : TokenKind × Sql) (next : Option Token) : (loneToken t).refersTo reference
        (some (loneToken (.dot, ['.']))) next = false := by
      simp [Token.refersTo, loneToken]
    have sign (next : Option Token) : (loneToken (.dot, ['.'])).refersTo reference
        (some (loneToken (.word, row))) next = false := rfl
    simp [moved, word, dot, Identifier.lexeme, tokensOf, moves, stays, sign]

/-- What is moved part by part is moved as a whole. -/
theorem moves_commaLexemes {α : Type} {f g : α → List Lexeme} {xs : List α}
    (one : reference.length = 1) (h : ∀ x ∈ xs, Moves reference target (f x) (g x)) :
    Moves reference target (commaLexemes (xs.map f)) (commaLexemes (xs.map g)) := by
  simp only [commaLexemes_eq]
  induction xs with
  | nil => exact .nil
  | cons x xs ih =>
    simp only [List.forall_mem_cons] at h
    cases xs with
    | nil => simpa using h.1
    | cons y ys =>
      have comma : Moves reference target [comma, blank] [comma, blank] :=
        moves_of_isInert one (by decide)
      simpa using (h.1.append comma).append (ih h.2)

end Moves

end Lexeme

open Lexeme

/-! ### Values and expressions -/

namespace Value

theorem isInert_signedLexemes {ls : List Lexeme} (negative : Bool) (h : isInert ls = true) :
    isInert (signedLexemes negative ls) = true := by
  cases negative with
  | true =>
    have inner : isInert (ls ++ [closeParen]) = true := isInert_append h rfl
    exact isInert_append (rfl : isInert [openParen] = true) inner
  | false => exact h

theorem isInert_lexemes (v : Value) : isInert v.lexemes = true := by
  cases v with
  | bool b => cases b <;> rfl
  | int i => exact isInert_signedLexemes _ (by split <;> rfl)
  | float x =>
    have number : isInert (x.sign ++ x.numeral) = true := by
      obtain ⟨t, -, e | ⟨u, -, e⟩⟩ := x.numeral_eq <;> rw [e, Binary64.sign] <;> split <;> rfl
    simp only [lexemes]
    split
    · exact isInert_signedLexemes _ number
    · rfl
  | _ => rfl

end Value

namespace TextScope

theorem isInert_capturedLexemes (s : TextScope) (name : String) (v : Value) :
    isInert (s.capturedLexemes name v) = true := by
  unfold capturedLexemes
  split
  · rfl
  · cases v <;> rfl

/-- The scope with another name for the rows. -/
def moveTo (s : TextScope) (target : Sql) : TextScope := { s with rowName := target }

variable {s : TextScope} {target : Sql}

theorem moves_unaryLexemes {ls ms : List Lexeme} (one : s.rowName.length = 1) (op : UnaryOp)
    (h : Moves s.rowName target ls ms) :
    Moves s.rowName target (unaryLexemes op ls) (unaryLexemes op ms) := by
  have fixed (fs : List Lexeme) (h : isInert fs = true) : Moves s.rowName target fs fs :=
    moves_of_isInert one h
  cases op with
  | not =>
    exact (fixed [openParen, keyword "NOT", blank] rfl).append (h.append (fixed [closeParen] rfl))
  | neg => exact (fixed [openParen, minus] rfl).append (h.append (fixed [closeParen] rfl))
  | isNull =>
    exact (fixed [openParen] rfl).append (h.append
      (fixed [blank, keyword "IS", blank, keyword "NULL", closeParen] rfl))
  | isNotNull =>
    exact (fixed [openParen] rfl).append (h.append
      (fixed [blank, keyword "IS", blank, keyword "NOT", blank, keyword "NULL", closeParen] rfl))

mutual

/-- The expression over the rows of a query is moved as a whole. -/
theorem moves_lexemes (one : s.rowName.length = 1) (lower : s.rowName.map Char.toLower = s.rowName)
    (e : Expr) : Moves s.rowName target (s.lexemes e) ((s.moveTo target).lexemes e) := by
  have fixed (fs : List Lexeme) (h : isInert fs = true) : Moves s.rowName target fs fs :=
    moves_of_isInert one h
  cases e with
  | literal v => exact fixed _ v.isInert_lexemes
  | captured name v => exact fixed _ (s.isInert_capturedLexemes name v)
  | field member =>
    simp only [lexemes, moveTo]
    cases s.entity.columnFor? member with
    | none => exact .nil
    | some c => exact moves_column lower c.name
  | unary op x => exact moves_unaryLexemes one op (moves_lexemes one lower x)
  | binary op x y =>
    have sign : isInert (blank :: (op.lexemes ++ [blank])) = true := by cases op <;> rfl
    have whole := (fixed [openParen] rfl).append ((moves_lexemes one lower x).append
      ((fixed _ sign).append ((moves_lexemes one lower y).append (fixed [closeParen] rfl))))
    simpa [lexemes] using whole
  | call f args =>
    have front : isInert [keyword f.word, openParen] = true := by cases f <;> rfl
    have back : isInert (f.tail ++ [closeParen]) = true := by cases f <;> rfl
    have inner := moves_commaLexemes one (moves_each one lower args)
    simp only [lexemes, lexemesOfList_eq_map]
    exact (fixed _ front).append (inner.append (fixed _ back))
  | inList x items negated =>
    have list := moves_commaLexemes one (moves_each one lower items)
    have words : isInert (inWords negated ++ [openParen]) = true := by cases negated <;> rfl
    simp only [lexemes, lexemesOfList_eq_map]
    split
    · exact fixed _ (by cases negated <;> rfl)
    · have whole := (fixed [openParen] rfl).append ((moves_lexemes one lower x).append
        ((fixed _ words).append (list.append (fixed [closeParen, closeParen] rfl))))
      simpa using whole
  | init _ _ => exact .nil

theorem moves_each (one : s.rowName.length = 1) (lower : s.rowName.map Char.toLower = s.rowName)
    (es : List Expr) :
    ∀ x ∈ es, Moves s.rowName target (s.lexemes x) ((s.moveTo target).lexemes x) := by
  cases es with
  | nil => simp
  | cons x xs =>
    simp only [List.forall_mem_cons]
    exact ⟨moves_lexemes one lower x, moves_each one lower xs⟩

end

/-- The text of an expression, moved to another name, is the text of the expression over it. -/
theorem moveReference_text (one : s.rowName.length = 1)
    (lower : s.rowName.map Char.toLower = s.rowName) {e : Expr} (h : Phrase (s.lexemes e) True) :
    moveReference (s.text e) s.rowName target = .ok ((s.moveTo target).text e) := by
  have apart : Apart none (s.lexemes e) := (h.apart none breaks_none).2 trivial
  have read := Scan.ofSql_eq_ok_iff.2 ⟨_, s.written_lexemes e, apart, h.balanced, rfl⟩
  have moved := moved_placed s.rowName target [] h.balanced none
  rw [Option.map_none, (moves_lexemes one lower e).text, written_lexemes, List.nil_append] at moved
  simp only [moveReference, read, bind, Except.bind, moved]
  rfl

end TextScope

end BulkSql
