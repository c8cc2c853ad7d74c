import BulkSql.Sql.Token
import BulkSql.Text.Blank

/-!
A single SELECT statement as text: its tokens, and its text without the closing semicolon and
without blanks around it. The blanks that are taken off can be part of the last tokens; such a token
is cut, and an attempt to read it fails.
-/
namespace BulkSql

namespace Token

/-- The text of a token that is not cut. -/
def read (t : Token) : Except Error Sql := if t.cut then .error .cutToken else .ok t.text

/-- The name that a token means, if it is not cut. -/
def readMeaning (t : Token) : Except Error Sql := if t.cut then .error .cutToken else .ok t.meaning

/-- Whether the token is the bare word `keyword`; of other tokens than words the text is not read. -/
def reads (keyword : String) (t : Token) : Except Error Bool :=
  if t.kind = .word ∧ t.cut then .error .cutToken else .ok (t.isKeyword keyword)

/-- Whether the token is one of some bare words. -/
def readsAny (keywords : List String) (t : Token) : Except Error Bool :=
  if t.kind = .word ∧ t.cut then .error .cutToken else .ok (keywords.any t.isKeyword)

theorem reads_of_not_cut {t : Token} (h : t.cut = false) (keyword : String) :
    t.reads keyword = .ok (t.isKeyword keyword) := by simp [reads, h]

end Token

namespace Scan

/-- Without a semicolon at the end. -/
def withoutTerminator (s : Scan) : Scan :=
  match s.tokens.getLast? with
  | some t => if t.kind = .semicolon then ⟨s.tokens.dropLast, t.before⟩ else s
  | none => s

/-- Marks those of some tokens, given from the last to the first, of which the last `n` characters
are cut off. -/
def clip : Nat → List Token → List Token
  | 0, ts => ts
  | _ + 1, [] => []
  | n + 1, t :: ts => { t with cut := true } :: clip (n + 1 - (t.text.length + t.before.length)) ts

/-- The tokens, where the blanks at the end of the text are cut off. -/
def clipped (s : Scan) : List Token :=
  let blanks := s.text.length - (Blank.trimEnd s.text).length
  (clip (blanks - s.after.length) s.tokens.reverse).reverse

@[simp] theorem clip_zero (ts : List Token) : clip 0 ts = ts := by simp [clip]

end Scan

structure Body where
  tokens : List Token
  text : Sql
  deriving DecidableEq, Repr

namespace Body

/-- The statement in `s`, which is the only one there and starts with SELECT. -/
def ofSql (s : Sql) : Except Unsupported Body := do
  let scan ← Scan.ofSql (Blank.trimStart s)
  if !(scan.tokens.take 1).any (Token.isKeyword "select") then
    throw (.notSelect (.ofList (Blank.trim s)))
  if scan.tokens.dropLast.any fun t => t.kind == .semicolon then
    throw .severalStatements
  let scan := scan.withoutTerminator
  return ⟨scan.clipped, Blank.trimEnd scan.text⟩

end Body

namespace Token

/-- The tokens before and behind the first word `keyword` that is outside of all parentheses. -/
def splitAt? (keyword : String) : List Token → Except Error (Option (List Token × List Token))
  | [] => .ok none
  | t :: ts =>
    if t.depth = 0 then do
      if ← t.reads keyword then return some ([], ts)
      return (← splitAt? keyword ts).map fun (a, b) => (t :: a, b)
    else do
      return (← splitAt? keyword ts).map fun (a, b) => (t :: a, b)

end Token

end BulkSql
