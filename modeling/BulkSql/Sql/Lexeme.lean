import BulkSql.Error
import BulkSql.Text.Quoted

/-!
Lexemes of SQL text: the tokens, and what may stand between them. `Lexeme.read` takes one lexeme
off the front of a text, and loses nothing of it.
-/
namespace BulkSql

/-- Blanks between tokens; other white space belongs to words or is a symbol. -/
def isGap (c : Char) : Bool :=
  c == ' ' || c == '\t' || c == '\n' || c == '\x0c' || c == '\r'

/-- Characters inside a word; all that are not ASCII are. -/
def isWordPart (c : Char) : Bool := c.isAlphanum || c == '_' || c == '$' || 128 ≤ c.toNat

inductive TokenKind
  | word | quotedName | string | number | param
  | openParen | closeParen | comma | dot | semicolon | symbol
  deriving DecidableEq, Repr

inductive Lexeme
  /-- Blanks or a comment. -/
  | gap (text : Sql)
  | token (kind : TokenKind) (text : Sql)
  deriving DecidableEq, Repr

namespace Lexeme

open Split (push)

def text : Lexeme → Sql
  | gap t => t
  | token _ t => t

/-- Up to the quote that closes the text. A doubled quote closes nothing, and neither does a
character behind a backslash where these escape. -/
def quotedTail (quote : Char) (escapes : Bool) : Sql → Split
  | [] => none
  | [c] => if c = quote then some ([c], []) else none
  | c :: d :: r =>
    if escapes && c == '\\' then push c (push d (quotedTail quote escapes r))
    else if c = quote then
      if d = quote then push c (push d (quotedTail quote escapes r)) else some ([c], d :: r)
    else push c (quotedTail quote escapes (d :: r))

/-- Up to the end of a comment that has `depth` comments open around it. -/
def commentTail : (depth : Nat) → Sql → Split
  | _, [] => none
  | _, [_] => none
  | depth, c :: d :: r =>
    if c = '/' ∧ d = '*' then push c (push d (commentTail (depth + 1) r))
    else if c = '*' ∧ d = '/' then
      match depth with
      | 0 => some ([c, d], r)
      | depth + 1 => push c (push d (commentTail depth r))
    else push c (commentTail depth (d :: r))

/-- Up to the end of the first occurrence of `delimiter`. -/
def through (delimiter : Sql) : Sql → Split
  | [] => none
  | c :: r =>
    if delimiter.isPrefixOf (c :: r) then some (delimiter, (c :: r).drop delimiter.length)
    else push c (through delimiter r)

/-- The lexeme of a first part and a tail, which may be missing. -/
def closed (make : Sql → Lexeme) (fault : Unsupported) (start : Sql) :
    Split → Except Unsupported (Lexeme × Sql)
  | some (t, r) => .ok (make (start ++ t), r)
  | none => .error fault

/-- A character of the tag between the dollar signs of a dollar-quoted text. -/
def isTagChar (c : Char) : Bool := c.isAlphanum || c == '_'

/-- A dollar-quoted text, of which the first dollar sign is taken off. -/
def dollarQuoted (s : Sql) : Except Unsupported (Lexeme × Sql) :=
  match s.dropWhile isTagChar with
  | '$' :: r =>
    let delimiter := '$' :: (s.takeWhile isTagChar ++ ['$'])
    closed (.token .string) .unterminatedDollarQuote delimiter (through delimiter r)
  | _ => .error .strayDollar

/-- The lexeme of a first character and a run behind it. -/
def run (make : Sql → Lexeme) (p : Char → Bool) (c : Char) (r : Sql) :
    Except Unsupported (Lexeme × Sql) :=
  .ok (make (c :: r.takeWhile p), r.dropWhile p)

/-- Whether the next character is a digit. -/
def digitNext : Sql → Bool
  | c :: _ => c.isDigit
  | [] => false

/-- The token of a single character. -/
def single (kind : TokenKind) (c : Char) (r : Sql) : Except Unsupported (Lexeme × Sql) :=
  .ok (.token kind [c], r)

/-- The first lexeme of the text `c :: r`, and what is left. -/
def read (c : Char) (r : Sql) : Except Unsupported (Lexeme × Sql) :=
  if isGap c then run .gap isGap c r
  else
    match c, r with
    | '-', '-' :: r => run .gap (· != '\n') '-' ('-' :: r)
    | '/', '*' :: r => closed .gap .unterminatedComment ['/', '*'] (commentTail 0 r)
    | 'e', '\'' :: r => escapeString 'e' r
    | 'E', '\'' :: r => escapeString 'E' r
    | '\'', r => closed (.token .string) .unterminatedQuote ['\''] (quotedTail '\'' false r)
    | '"', r => closed (.token .quotedName) .unterminatedQuote ['"'] (quotedTail '"' false r)
    | '$', r =>
      if digitNext r then run (.token .param) Char.isDigit '$' r
      else dollarQuoted r
    | '(', r => single .openParen '(' r
    | ')', r => single .closeParen ')' r
    | ',', r => single .comma ',' r
    | ';', r => single .semicolon ';' r
    | c, r =>
      if c.isDigit || (c == '.' && digitNext r) then
        run (.token .number) (fun d => d.isAlphanum || d == '.') c r
      else if c = '.' then single .dot c r
      else if isWordPart c then run (.token .word) isWordPart c r
      else single .symbol c r
where
  escapeString (e : Char) (r : Sql) : Except Unsupported (Lexeme × Sql) :=
    closed (.token .string) .unterminatedQuote [e, '\''] (quotedTail '\'' true r)

/-! ### Nothing is lost -/

theorem quotedTail_covers (quote : Char) (escapes : Bool) (s : Sql) :
    Split.Covers s (quotedTail quote escapes s) := by
  fun_induction quotedTail quote escapes s with
  | case1 => exact .none _
  | case2 => exact .some rfl
  | case3 => exact .none _
  | case4 _ _ _ _ ih => exact (ih.push _).push _
  | case5 _ _ ih => exact (ih.push _).push _
  | case6 => exact .some rfl
  | case7 _ _ _ _ _ ih => exact ih.push _

theorem commentTail_covers (depth : Nat) (s : Sql) : Split.Covers s (commentTail depth s) := by
  fun_induction commentTail depth s with
  | case1 => exact .none _
  | case2 => exact .none _
  | case3 _ _ _ _ _ ih => exact (ih.push _).push _
  | case4 => exact .some rfl
  | case5 _ _ _ _ _ _ ih => exact (ih.push _).push _
  | case6 _ _ _ _ _ _ ih => exact ih.push _

theorem through_covers (delimiter s : Sql) : Split.Covers s (through delimiter s) := by
  fun_induction through delimiter s with
  | case1 => exact .none _
  | case2 c r h =>
    refine .some ?_
    obtain ⟨t, ht⟩ := List.isPrefixOf_iff_prefix.1 h
    rw [← ht]
    simp
  | case3 _ _ _ ih => exact ih.push _

/-- A lexeme that was read is not empty, and with the rest it is the whole text. -/
def Reads (s : Sql) (x : Except Unsupported (Lexeme × Sql)) : Prop :=
  ∀ l r, x = .ok (l, r) → l.text ++ r = s ∧ l.text ≠ []

theorem Reads.error (s : Sql) (e : Unsupported) : Reads s (.error e) := by simp [Reads]

theorem Reads.ok {s : Sql} {l : Lexeme} {r : Sql} (h : l.text ++ r = s) (ne : l.text ≠ []) :
    Reads s (.ok (l, r)) := by
  intro l' r' e
  simp only [Except.ok.injEq, Prod.mk.injEq] at e
  obtain ⟨rfl, rfl⟩ := e
  exact ⟨h, ne⟩

theorem run_reads {make : Sql → Lexeme} (hm : ∀ t, (make t).text = t) (p : Char → Bool) (c : Char)
    (r : Sql) : Reads (c :: r) (run make p c r) :=
  .ok (by simp [hm]) (by simp [hm])

theorem closed_reads {make : Sql → Lexeme} (hm : ∀ t, (make t).text = t) (fault : Unsupported)
    {start : Sql} (ne : start ≠ []) {s : Sql} {x : Split} (h : Split.Covers s x) :
    Reads (start ++ s) (closed make fault start x) := by
  match x, h with
  | none, _ => exact .error _ _
  | some (t, r), h => exact .ok (by simp [hm, h t r rfl]) (by simp [hm, ne])

theorem single_reads (kind : TokenKind) (c : Char) (r : Sql) :
    Reads (c :: r) (single kind c r) := .ok rfl (by simp [text])

theorem dollarQuoted_reads (s : Sql) : Reads ('$' :: s) (dollarQuoted s) := by
  unfold dollarQuoted
  split
  · next r e =>
    have ne : '$' :: (s.takeWhile isTagChar ++ ['$']) ≠ [] := by simp
    have whole : '$' :: (s.takeWhile isTagChar ++ ['$']) ++ r = '$' :: s := by simp [← e]
    rw [← whole]
    exact closed_reads (fun _ => rfl) _ ne (through_covers _ r)
  · exact .error _ _

theorem read_reads (c : Char) (r : Sql) : Reads (c :: r) (read c r) := by
  have gap : ∀ t, (Lexeme.gap t).text = t := fun _ => rfl
  have token : ∀ k t, (Lexeme.token k t).text = t := fun _ _ => rfl
  have escaped : ∀ e r, Reads (e :: '\'' :: r) (read.escapeString e r) := fun e r =>
    closed_reads (token _) _ (by simp) (quotedTail_covers _ _ r)
  unfold read
  split
  · exact run_reads gap _ _ _
  · split
    · exact run_reads gap _ _ _
    · exact closed_reads gap _ (by simp) (commentTail_covers _ _)
    · exact escaped _ _
    · exact escaped _ _
    · exact closed_reads (token _) _ (by simp) (quotedTail_covers _ _ _)
    · exact closed_reads (token _) _ (by simp) (quotedTail_covers _ _ _)
    · split
      · exact run_reads (token _) _ _ _
      · exact dollarQuoted_reads _
    · exact single_reads _ _ _
    · exact single_reads _ _ _
    · exact single_reads _ _ _
    · exact single_reads _ _ _
    · split
      · exact run_reads (token _) _ _ _
      · split
        · exact single_reads _ _ _
        · split
          · exact run_reads (token _) _ _ _
          · exact single_reads _ _ _

theorem length_lt_of_read {c : Char} {r : Sql} {l : Lexeme} {rest : Sql}
    (h : read c r = .ok (l, rest)) : rest.length < (c :: r).length := by
  obtain ⟨e, ne⟩ := read_reads c r l rest h
  rw [← e, List.length_append]
  have := List.length_pos_iff.2 ne
  omega

end Lexeme

end BulkSql
