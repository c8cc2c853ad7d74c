import BulkSql.Proofs.Numeral
import BulkSql.Proofs.Phrase
import BulkSql.Select

/-!
The lexemes of values, expressions and queries, made from those of their parts. Their texts are those
that are written for a query.
-/
namespace BulkSql

open Lexeme

namespace Value

/-- A quoted text with a cast. -/
def castLexemes (s : Sql) (type : String) : List Lexeme :=
  [string s, symbol ':', symbol ':', keyword type]

/-- Parentheses around a number below zero. -/
def signedLexemes (negative : Bool) (ls : List Lexeme) : List Lexeme :=
  if negative then openParen :: (ls ++ [closeParen]) else ls

def lexemes : Value → List Lexeme
  | null => [keyword "NULL"]
  | bool b => [keyword (if b then "TRUE" else "FALSE")]
  | int i =>
    signedLexemes (i.toInt < 0)
      ((if i.toInt < 0 then [minus] else []) ++ [number (Nat.toDigits 10 i.toInt.natAbs)])
  | float x =>
    if x.isFinite then signedLexemes (x.key < 0) (x.sign ++ x.numeral)
    else castLexemes (floatText x) "float8"
  | text s => [string s.toList]
  | bytes b => castLexemes ('\\' :: 'x' :: Hex.text b) "bytea"
  | uuid u => castLexemes u.text "uuid"
  | timestamp t => castLexemes t.text "timestamptz"
  | json j => castLexemes j.text "jsonb"

theorem written_castLexemes (s : Sql) (type : String) :
    written (castLexemes s type) = castLiteral s type := by simp [castLexemes, castLiteral]

theorem written_signedLexemes (negative : Bool) (ls : List Lexeme) :
    written (signedLexemes negative ls) = signedLiteral negative (written ls) := by
  cases negative <;> simp [signedLexemes, signedLiteral]

theorem written_int (i : Int) :
    written ((if i < 0 then [minus] else []) ++ [number (Nat.toDigits 10 i.natAbs)]) =
      (toString i).toList := by
  rw [Int.toString_eq_repr, Int.repr_eq_if]
  by_cases h : i < 0
  · rw [if_pos h, if_neg (by omega), show i.natAbs = (-i).toNat by omega]
    simp
  · rw [if_neg h, if_pos (by omega), show i.natAbs = i.toNat by omega]
    simp

theorem written_lexemes (v : Value) : written v.lexemes = v.literal := by
  cases v with
  | null => rfl
  | bool b => cases b <;> rfl
  | int i =>
    rw [lexemes, written_signedLexemes, written_int]
    rfl
  | float x =>
    simp only [lexemes, literal]
    split
    · next h =>
      have finite : floatText x = floatNotation.finite x := by
        simp only [Binary64.isFinite, decide_eq_true_eq] at h
        have notNaN : x.isNaN = false := by
          simp only [Binary64.isNaN, decide_eq_false_iff_not]
          omega
        have notInfinite : x.isInfinite = false := by
          simp only [Binary64.isInfinite, beq_eq_false_iff_ne]
          omega
        simp [floatText, notNaN, notInfinite]
      rw [written_signedLexemes, Binary64.written_numeral, finite]
    · exact written_castLexemes _ _
  | text s => simp [lexemes, literal]
  | bytes b => exact written_castLexemes _ _
  | uuid u => exact written_castLexemes _ _
  | timestamp t => exact written_castLexemes _ _
  | json j => exact written_castLexemes _ _

end Value

namespace BinaryOp

def lexemes : BinaryOp → List Lexeme
  | and => [keyword "AND"]
  | or => [keyword "OR"]
  | op => op.sign.toList.map symbol

@[simp] theorem written_lexemes (op : BinaryOp) : written op.lexemes = op.sign.toList := by
  cases op <;> rfl

end BinaryOp

namespace Func

/-- The word in front of the arguments. -/
def word : Func → String
  | toText => "CAST"
  | lower => "lower"
  | upper => "upper"
  | trim => "btrim"
  | length => "char_length"
  | abs => "abs"
  | coalesce => "COALESCE"

/-- What stands behind the arguments. -/
def tail : Func → List Lexeme
  | toText => [blank, keyword "AS", blank, keyword "text"]
  | _ => []

theorem around_fst (f : Func) : f.around.1.toList = f.word.toList ++ ['('] := by cases f <;> rfl

theorem around_snd (f : Func) : f.around.2.toList = written f.tail ++ [')'] := by cases f <;> rfl

end Func

namespace TextScope

theorem written_commaLexemes (lss : List (List Lexeme)) :
    written (commaLexemes lss) = Expr.commaList (lss.map written) := by
  fun_induction commaLexemes lss with
  | case1 => rfl
  | case2 ls => rfl
  | case3 ls ms rest ih => simp [Expr.commaList, ih]

def columnLexemes (s : TextScope) (c : Column) : List Lexeme :=
  [Lexeme.word s.rowName, dot, c.name.lexeme]

def capturedLexemes (s : TextScope) (name : String) (value : Value) : List Lexeme :=
  if value.isNull then [keyword "NULL"]
  else
    keyword "current_setting" :: openParen ::
      .token .string ('\'' :: (s.space.setting (capturedKey name) ++ ['\''])) :: closeParen ::
      match value.cast? with
      | none => []
      | some type => [symbol ':', symbol ':', keyword type]

def unaryLexemes (op : UnaryOp) (ls : List Lexeme) : List Lexeme :=
  openParen ::
    match op with
    | .not => keyword "NOT" :: blank :: (ls ++ [closeParen])
    | .neg => minus :: (ls ++ [closeParen])
    | .isNull => ls ++ [blank, keyword "IS", blank, keyword "NULL", closeParen]
    | .isNotNull =>
      ls ++ [blank, keyword "IS", blank, keyword "NOT", blank, keyword "NULL", closeParen]

/-- The words between the tested value and the list. -/
def inWords (negated : Bool) : List Lexeme :=
  if negated then [blank, keyword "NOT", blank, keyword "IN", blank] else [blank, keyword "IN", blank]

mutual

/-- The lexemes of an expression, made from those of its parts. -/
def lexemes (s : TextScope) : Expr → List Lexeme
  | .literal v => v.lexemes
  | .captured name v => s.capturedLexemes name v
  | .field member => (s.entity.columnFor? member).elim [] s.columnLexemes
  | .unary op x => unaryLexemes op (s.lexemes x)
  | .binary op x y =>
    openParen :: (s.lexemes x ++ blank :: (op.lexemes ++ blank :: (s.lexemes y ++ [closeParen])))
  | .call f args =>
    keyword f.word :: openParen :: (commaLexemes (s.lexemesOfList args) ++ (f.tail ++ [closeParen]))
  | .inList x items negated =>
    if items.isEmpty then [keyword (if negated then "TRUE" else "FALSE")]
    else
      openParen :: (s.lexemes x ++ (inWords negated ++
        (openParen :: (commaLexemes (s.lexemesOfList items) ++ [closeParen, closeParen]))))
  | .init _ _ => []

def lexemesOfList (s : TextScope) : List Expr → List (List Lexeme)
  | [] => []
  | x :: xs => s.lexemes x :: s.lexemesOfList xs

end

theorem lexemesOfList_eq_map (s : TextScope) (es : List Expr) :
    s.lexemesOfList es = es.map s.lexemes := by
  induction es with
  | nil => rfl
  | cons x xs ih => simp [lexemesOfList, ih]

theorem lexemes_binary (s : TextScope) (op : BinaryOp) (x y : Expr) :
    s.lexemes (.binary op x y) = openParen ::
      ((s.lexemes x ++ ((blank :: (op.lexemes ++ [blank])) ++ s.lexemes y)) ++ [closeParen]) := by
  simp [lexemes]

theorem lexemes_call (s : TextScope) (f : Func) (args : List Expr) :
    s.lexemes (.call f args) = [keyword f.word, openParen] ++
      (commaLexemes (args.map s.lexemes) ++ (f.tail ++ [closeParen])) := by
  simp [lexemes, lexemesOfList_eq_map]

theorem lexemes_inList (s : TextScope) {x : Expr} {items : List Expr} (ne : items ≠ [])
    (negated : Bool) :
    s.lexemes (.inList x items negated) = openParen :: ((s.lexemes x ++ (inWords negated ++
      (openParen :: (commaLexemes (items.map s.lexemes) ++ [closeParen])))) ++ [closeParen]) := by
  cases negated <;> simp [lexemes, ne, inWords, lexemesOfList_eq_map]

theorem written_columnLexemes (s : TextScope) (c : Column) :
    written (s.columnLexemes c) = s.column c := by simp [columnLexemes, column]

theorem written_capturedLexemes (s : TextScope) (name : String) (value : Value) :
    written (s.capturedLexemes name value) = s.captured name value := by
  unfold capturedLexemes captured
  split
  · rfl
  · cases value.cast? <;> simp

theorem written_unaryLexemes (op : UnaryOp) (ls : List Lexeme) :
    written (unaryLexemes op ls) = unary op (written ls) := by
  cases op <;> simp [unaryLexemes, unary]

mutual

theorem written_lexemes (s : TextScope) (e : Expr) : written (s.lexemes e) = s.text e := by
  cases e with
  | literal v => simp only [lexemes, text, Value.written_lexemes]
  | captured name v => simp only [lexemes, text, written_capturedLexemes]
  | field member =>
    simp only [lexemes, text]
    cases s.entity.columnFor? member with
    | none => rfl
    | some c => exact written_columnLexemes s c
  | unary op x => simp only [lexemes, text, written_unaryLexemes, written_lexemes s x]
  | binary op x y => simp [lexemes, text, written_lexemes s x, written_lexemes s y]
  | call f args =>
    simp [lexemes, text, written_commaLexemes, written_lexemesOfList s args, Func.around_fst,
      Func.around_snd]
  | inList x items negated =>
    simp only [lexemes, text]
    split
    · cases negated <;> rfl
    · cases negated <;>
        simp [inWords, written_lexemes s x, written_commaLexemes, written_lexemesOfList s items]
  | init _ _ => rfl

theorem written_lexemesOfList (s : TextScope) (es : List Expr) :
    (s.lexemesOfList es).map written = s.texts es := by
  cases es with
  | nil => rfl
  | cons x xs => simp [lexemesOfList, texts, written_lexemes s x, written_lexemesOfList s xs]

end

end TextScope

namespace Select

/-- The selected columns, or the selected value. -/
def columnLexemes (s : TextScope) (q : Query) : List Lexeme :=
  match q.projection? with
  | none => commaLexemes (s.entity.columns.map s.columnLexemes)
  | some e => s.lexemes e

/-- What is selected, with blanks around it; without columns the two blanks are one gap. -/
def spaced (ls : List Lexeme) : List Lexeme :=
  if ls.isEmpty then [.gap [' ', ' ']] else blank :: (ls ++ [blank])

def sourceLexemes (s : TextScope) : List Lexeme :=
  keyword "FROM" :: blank :: (s.entity.table.lexemes ++
    [blank, keyword "AS", blank, Lexeme.word s.rowName])

def orderLexemes (s : TextScope) (t : OrderTerm) : List Lexeme :=
  s.lexemes t.expr ++ if t.descending then [blank, keyword "DESC"] else []

/-- A clause that may be missing. -/
def clauseLexemes {α : Type} (words : List Lexeme) (write : α → List Lexeme) :
    Option α → List Lexeme
  | none => []
  | some x => words ++ write x

/-- The terms that rows are ordered by, if there are any. -/
def orderTerms? (q : Query) : Option (List OrderTerm) :=
  if q.orderBy.isEmpty then none else some q.orderBy

def countLexemes (n : Nat) : List Lexeme := [number (Nat.toDigits 10 n)]

/-- The lexemes of the SELECT statement of a query, made from those of its parts. -/
def lexemes (s : TextScope) (q : Query) : List Lexeme :=
  keyword "SELECT" :: (spaced (columnLexemes s q) ++ (sourceLexemes s ++
    (clauseLexemes [blank, keyword "WHERE", blank] s.lexemes q.filter? ++
      (clauseLexemes [blank, keyword "ORDER", blank, keyword "BY", blank]
          (fun terms => commaLexemes (terms.map (orderLexemes s))) (orderTerms? q) ++
        (clauseLexemes [blank, keyword "LIMIT", blank] countLexemes q.limit? ++
          clauseLexemes [blank, keyword "OFFSET", blank] countLexemes q.offset?)))))

theorem written_columnLexemes (s : TextScope) (q : Query) :
    written (columnLexemes s q) = columns s q := by
  unfold columnLexemes columns
  cases q.projection? with
  | none =>
    have each : written ∘ s.columnLexemes = s.column := funext s.written_columnLexemes
    simp [TextScope.written_commaLexemes, each]
  | some e => exact s.written_lexemes e

theorem written_spaced (ls : List Lexeme) : written (spaced ls) = ' ' :: (written ls ++ [' ']) := by
  unfold spaced
  split
  · next h => simp [List.isEmpty_iff.1 h, Lexeme.text]
  · simp

theorem written_clauseLexemes {α : Type} (words : List Lexeme) (front : String)
    (hw : written words = front.toList) {write : α → List Lexeme} {text : α → Sql}
    (h : ∀ x, written (write x) = text x) (x? : Option α) :
    written (clauseLexemes words write x?) = clause front text x? := by
  cases x? <;> simp [clauseLexemes, clause, hw, h]

theorem written_orderLexemes (s : TextScope) (t : OrderTerm) :
    written (orderLexemes s t) = orderTerm s t := by
  unfold orderLexemes orderTerm
  cases t.descending <;> simp [s.written_lexemes]

theorem written_orderClause (s : TextScope) (q : Query) :
    written (clauseLexemes [blank, keyword "ORDER", blank, keyword "BY", blank]
      (fun terms => commaLexemes (terms.map (orderLexemes s))) (orderTerms? q)) =
      orderClause s q.orderBy := by
  have each : written ∘ orderLexemes s = orderTerm s := funext (written_orderLexemes s)
  unfold orderTerms? orderClause
  split <;> simp [clauseLexemes, TextScope.written_commaLexemes, each]

theorem written_countLexemes (n : Nat) : written (countLexemes n) = count n := by
  simp [countLexemes, count]

theorem written_sourceLexemes (s : TextScope) :
    written (sourceLexemes s) =
      "FROM ".toList ++ (s.entity.table.toSql ++ (" AS ".toList ++ s.rowName)) := by
  simp [sourceLexemes, QualifiedName.written_lexemes]

theorem written_lexemes (s : TextScope) (q : Query) : written (lexemes s q) = text s q := by
  have filter := written_clauseLexemes [blank, keyword "WHERE", blank] " WHERE " (by simp)
    s.written_lexemes q.filter?
  have limit := written_clauseLexemes [blank, keyword "LIMIT", blank] " LIMIT " (by simp)
    written_countLexemes q.limit?
  have offset := written_clauseLexemes [blank, keyword "OFFSET", blank] " OFFSET " (by simp)
    written_countLexemes q.offset?
  unfold lexemes text
  rw [written_cons, written_append, written_append, written_append, written_append, written_append,
    written_spaced, written_columnLexemes, written_sourceLexemes, filter, limit, offset,
    written_orderClause]
  simp

end Select

end BulkSql
