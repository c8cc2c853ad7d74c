import BulkSql.Sql.Token

/-!
Tokens as spans of bytes. A cursor moves over the bytes of a text and looks at one of them and the
one behind it, whether or not a character starts there.
-/
namespace BulkSql

/-- A token by the bytes where it starts and stops. -/
structure Span where
  kind : TokenKind
  start : Nat
  stop : Nat
  /-- Parentheses open around the token. A parenthesis is not inside itself. -/
  depth : Nat
  deriving DecidableEq, Repr

namespace Cursor

/-- The bytes from the cursor on. -/
abbrev Bytes := List UInt8

def isDigit (b : UInt8) : Bool := '0'.toUInt8 ≤ b && b ≤ '9'.toUInt8

def isAlphanum (b : UInt8) : Bool :=
  isDigit b || ('A'.toUInt8 ≤ b && b ≤ 'Z'.toUInt8) || ('a'.toUInt8 ≤ b && b ≤ 'z'.toUInt8)

def isGap (b : UInt8) : Bool :=
  b == ' '.toUInt8 || b == '\t'.toUInt8 || b == '\n'.toUInt8 || b == '\x0c'.toUInt8 ||
    b == '\r'.toUInt8

/-- Bytes inside a word; all that are not ASCII are. -/
def isWordPart (b : UInt8) : Bool :=
  isAlphanum b || b == '_'.toUInt8 || b == '$'.toUInt8 || 0x80 ≤ b

def isNumberPart (b : UInt8) : Bool := isAlphanum b || b == '.'.toUInt8

def isTagPart (b : UInt8) : Bool := isAlphanum b || b == '_'.toUInt8

/-- Whether the cursor is at the byte of an ASCII character. -/
def isAt (c : Char) (bs : Bytes) : Bool := bs.head? == some c.toUInt8

def isAtDigit (bs : Bytes) : Bool := bs.head?.any isDigit

/-- Behind the quote that closes a text. A doubled quote closes nothing, and neither does a byte
behind a backslash where these escape. -/
def afterQuoted (quote : Char) (escapes : Bool) : Bytes → Option Bytes
  | [] => none
  | b :: bs =>
    if escapes && b == '\\'.toUInt8 then afterQuoted quote escapes (bs.drop 1)
    else if b == quote.toUInt8 then
      if isAt quote bs then afterQuoted quote escapes (bs.drop 1) else some bs
    else afterQuoted quote escapes bs
termination_by bs => bs.length
decreasing_by
  · exact Nat.lt_succ_of_le (List.drop_suffix 1 bs).length_le
  · exact Nat.lt_succ_of_le (List.drop_suffix 1 bs).length_le
  · exact Nat.lt_succ_self bs.length

/-- Behind a comment, of which `nesting` are open. -/
def afterComment (nesting : Nat) : Bytes → Option Bytes
  | b :: c :: bs =>
    if b == '/'.toUInt8 && c == '*'.toUInt8 then afterComment (nesting + 1) bs
    else if b == '*'.toUInt8 && c == '/'.toUInt8 then
      if nesting - 1 = 0 then some bs else afterComment (nesting - 1) bs
    else afterComment nesting (c :: bs)
  | _ => none

/-- Behind the first occurrence of some bytes. -/
def afterFirst (delimiter : Bytes) : Bytes → Option Bytes
  | [] => none
  | b :: bs =>
    if delimiter.isPrefixOf (b :: bs) then some ((b :: bs).drop delimiter.length)
    else afterFirst delimiter bs

/-- The bytes in front of the next dollar sign. -/
def tag (bs : Bytes) : Bytes := bs.takeWhile (· != '$'.toUInt8)

/-- Behind a dollar-quoted text, of which the first dollar sign is taken off. -/
def afterDollarQuoted (bs : Bytes) : Except Unsupported Bytes :=
  match bs.dropWhile (· != '$'.toUInt8) with
  | [] => .error .strayDollar
  | d :: body =>
    if (tag bs).all isTagPart then
      match afterFirst (d :: (tag bs ++ [d])) body with
      | some rest => .ok rest
      | none => .error .unterminatedDollarQuote
    else .error .strayDollar

/-- What was read up to the cursor: a token, or a blank or comment without a kind. -/
def ended (kind : Option TokenKind) (fault : Unsupported) :
    Option Bytes → Except Unsupported (Option TokenKind × Bytes)
  | some rest => .ok (kind, rest)
  | none => .error fault

/-- Moves the cursor from the byte `b` over a blank, a comment or a token. -/
def next (b : UInt8) (bs : Bytes) : Except Unsupported (Option TokenKind × Bytes) :=
  if isGap b then .ok (none, bs)
  else if b == '-'.toUInt8 && isAt '-' bs then .ok (none, bs.dropWhile (· != '\n'.toUInt8))
  else if b == '/'.toUInt8 && isAt '*' bs then
    ended none .unterminatedComment (afterComment 0 (b :: bs))
  else if b == '\''.toUInt8 then ended (some .string) .unterminatedQuote (afterQuoted '\'' false bs)
  else if (b == 'e'.toUInt8 || b == 'E'.toUInt8) && isAt '\'' bs then
    ended (some .string) .unterminatedQuote (afterQuoted '\'' true (bs.drop 1))
  else if b == '"'.toUInt8 then
    ended (some .quotedName) .unterminatedQuote (afterQuoted '"' false bs)
  else if b == '$'.toUInt8 && isAtDigit bs then .ok (some .param, bs.dropWhile isDigit)
  else if b == '$'.toUInt8 then (afterDollarQuoted bs).map fun rest => (some .string, rest)
  else if b == '('.toUInt8 then .ok (some .openParen, bs)
  else if b == ')'.toUInt8 then .ok (some .closeParen, bs)
  else if b == ','.toUInt8 then .ok (some .comma, bs)
  else if b == ';'.toUInt8 then .ok (some .semicolon, bs)
  else if b == '.'.toUInt8 && !isAtDigit bs then .ok (some .dot, bs)
  else if isDigit b || b == '.'.toUInt8 then .ok (some .number, bs.dropWhile isNumberPart)
  else if isWordPart b then .ok (some .word, bs.dropWhile isWordPart)
  else .ok (some .symbol, bs)

/-! ### The cursor moves forward -/

theorem length_of_afterQuoted {quote : Char} {escapes : Bool} {bs rest : Bytes}
    (h : afterQuoted quote escapes bs = some rest) : rest.length ≤ bs.length := by
  fun_induction afterQuoted quote escapes bs with
  | case1 => cases h
  | case2 b bs _ ih | case3 b bs _ _ _ ih =>
    have := ih h
    simp only [List.length_drop, List.length_cons] at this ⊢
    omega
  | case4 =>
    cases h
    simp
  | case5 b bs _ _ ih => exact Nat.le_succ_of_le (ih h)

theorem length_of_afterComment {nesting : Nat} {bs rest : Bytes}
    (h : afterComment nesting bs = some rest) : rest.length < bs.length := by
  fun_induction afterComment nesting bs with
  | case1 nesting b c bs _ ih | case3 nesting b c bs _ _ _ ih =>
    have := ih h
    simp only [List.length_cons]
    omega
  | case2 =>
    cases h
    simp only [List.length_cons]
    omega
  | case4 nesting b c bs _ _ ih => exact Nat.lt_succ_of_lt (ih h)
  | case5 => cases h

theorem length_of_afterFirst {delimiter bs rest : Bytes} (h : afterFirst delimiter bs = some rest) :
    rest.length ≤ bs.length := by
  fun_induction afterFirst delimiter bs with
  | case1 => cases h
  | case2 =>
    cases h
    simp
  | case3 b bs _ ih => exact Nat.le_succ_of_le (ih h)

theorem length_of_afterDollarQuoted {bs rest : Bytes} (h : afterDollarQuoted bs = .ok rest) :
    rest.length ≤ bs.length := by
  unfold afterDollarQuoted at h
  split at h
  · cases h
  · next d body e =>
    have shorter := (List.dropWhile_suffix (l := bs) (· != '$'.toUInt8)).length_le
    rw [e, List.length_cons] at shorter
    split at h
    · split at h
      · next found =>
        cases h
        have := length_of_afterFirst found
        omega
      · cases h
    · cases h

/-- No more than `n` bytes are left. -/
def Leaves (n : Nat) (x : Except Unsupported (Option TokenKind × Bytes)) : Prop :=
  ∀ kind rest, x = .ok (kind, rest) → rest.length ≤ n

namespace Leaves

variable {n : Nat} {kind : Option TokenKind} {x y : Except Unsupported (Option TokenKind × Bytes)}

theorem ok {rest : Bytes} (h : rest.length ≤ n) : Leaves n (.ok (kind, rest)) := by
  rintro _ _ e
  cases e
  exact h

theorem ended {fault : Unsupported} {x : Option Bytes}
    (h : ∀ rest, x = some rest → rest.length ≤ n) : Leaves n (Cursor.ended kind fault x) := by
  cases x with
  | none => exact fun _ _ e => nomatch e
  | some rest => exact .ok (h rest rfl)

theorem ite {p : Prop} [Decidable p] (hx : Leaves n x) (hy : Leaves n y) :
    Leaves n (if p then x else y) := by
  split
  · exact hx
  · exact hy

end Leaves

theorem leaves_next (b : UInt8) (bs : Bytes) : Leaves bs.length (next b bs) := by
  have run (kind : Option TokenKind) (p : UInt8 → Bool) :
      Leaves bs.length (.ok (kind, bs.dropWhile p)) := .ok (List.dropWhile_suffix p).length_le
  have one (kind : Option TokenKind) : Leaves bs.length (.ok (kind, bs)) := .ok (Nat.le_refl _)
  have comment : Leaves bs.length (ended none .unterminatedComment (afterComment 0 (b :: bs))) :=
    .ended fun rest h => Nat.le_of_lt_succ (length_of_afterComment h)
  have quoted (kind : Option TokenKind) (quote : Char) :
      Leaves bs.length (ended kind .unterminatedQuote (afterQuoted quote false bs)) :=
    .ended fun rest h => length_of_afterQuoted h
  have escaped (kind : Option TokenKind) (quote : Char) :
      Leaves bs.length (ended kind .unterminatedQuote (afterQuoted quote true (bs.drop 1))) :=
    .ended fun rest h => Nat.le_trans (length_of_afterQuoted h) (by simp)
  have dollar : Leaves bs.length ((afterDollarQuoted bs).map fun rest => (some .string, rest)) := by
    cases e : afterDollarQuoted bs with
    | error _ => exact fun _ _ e => nomatch e
    | ok rest => exact .ok (length_of_afterDollarQuoted e)
  exact .ite (one _) <| .ite (run _ _) <| .ite comment <| .ite (quoted _ _) <| .ite (escaped _ _) <|
    .ite (quoted _ _) <| .ite (run _ _) <| .ite dollar <| .ite (one _) <| .ite (one _) <|
    .ite (one _) <| .ite (one _) <| .ite (one _) <| .ite (run _ _) <| .ite (run _ _) (one _)

/-! ### A whole text -/

/-- The tokens from the cursor on in a text of `size` bytes; `depth` parentheses are open. -/
def spansFrom (size depth : Nat) : Bytes → Except Unsupported (List Span)
  | [] => if depth = 0 then .ok [] else .error .unbalancedOpen
  | b :: bs =>
    match _h : next b bs with
    | .error fault => .error fault
    | .ok (none, rest) => spansFrom size depth rest
    | .ok (some kind, rest) =>
      match Scan.nesting depth kind with
      | some (own, inner) =>
        (spansFrom size inner rest).map
          (⟨kind, size - (b :: bs).length, size - rest.length, own⟩ :: ·)
      | none => .error .unbalancedClose
termination_by bs => bs.length
decreasing_by all_goals exact Nat.lt_succ_of_le (leaves_next b bs _ _ _h)

def spans (bytes : Bytes) : Except Unsupported (List Span) := spansFrom bytes.length 0 bytes

end Cursor

end BulkSql
