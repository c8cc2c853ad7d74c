import BulkSql.Sql.Lexeme

/-!
A text as its tokens. A token keeps the blanks and comments before it, so the text can be put
together again, and the number of parentheses that are open around it.
-/
namespace BulkSql

namespace Lexeme

/-- The lexemes up to the first that cannot be read, and what is wrong with that one. -/
def readAll : Sql → List Lexeme × Option Unsupported
  | [] => ([], none)
  | c :: r =>
    match _h : read c r with
    | .ok (l, rest) => (l :: (readAll rest).1, (readAll rest).2)
    | .error fault => ([], some fault)
termination_by s => s.length
decreasing_by all_goals exact length_lt_of_read _h

end Lexeme

structure Token where
  kind : TokenKind
  /-- What stands between the token before and this one. -/
  before : Sql
  text : Sql
  /-- Parentheses open around the token. A parenthesis is not inside itself. -/
  depth : Nat
  /-- Whether trimming the text took off a part of the token. -/
  cut : Bool := false
  deriving DecidableEq, Repr

namespace Token

def isName (t : Token) : Bool := t.kind == .word || t.kind == .quotedName

/-- The name that a token means: bare words are folded to lower case. -/
def meaning (t : Token) : Sql :=
  if t.kind = .quotedName then Quoted.undoubled '"' (t.text.drop 1).dropLast
  else t.text.map Char.toLower

/-- Whether the token is the bare word `keyword`, in any case. -/
def isKeyword (keyword : String) (t : Token) : Bool :=
  t.kind == .word && t.text.map Char.toLower == keyword.toList

/-- The text from the first to the last of some tokens. -/
def textOf : List Token → Sql
  | [] => []
  | t :: ts => t.text ++ ts.flatMap fun u => u.before ++ u.text

end Token

/-- The tokens of a text, and what stands after the last one. -/
structure Scan where
  tokens : List Token
  after : Sql
  deriving DecidableEq, Repr

namespace Scan

def text (s : Scan) : Sql := s.tokens.flatMap (fun t => t.before ++ t.text) ++ s.after

def cons (t : Token) (s : Scan) : Scan := { s with tokens := t :: s.tokens }

@[simp] theorem text_cons (t : Token) (s : Scan) :
    (s.cons t).text = t.before ++ (t.text ++ s.text) := by simp [cons, text]

@[simp] theorem text_nil (after : Sql) : text ⟨[], after⟩ = after := by simp [text]

/-- The depth of a token behind which `depth` parentheses are open, and the number open after it. -/
def nesting (depth : Nat) : TokenKind → Option (Nat × Nat)
  | .openParen => some (depth, depth + 1)
  | .closeParen => if depth = 0 then none else some (depth - 1, depth - 1)
  | _ => some (depth, depth)

/-- The tokens among some lexemes; before them `depth` parentheses are open and `before` stands. -/
def collect (fault : Option Unsupported) (depth : Nat) (before : Sql) :
    List Lexeme → Except Unsupported Scan
  | [] =>
    match fault with
    | some e => .error e
    | none => if depth = 0 then .ok ⟨[], before⟩ else .error .unbalancedOpen
  | .gap g :: ls => collect fault depth (before ++ g) ls
  | .token kind t :: ls =>
    match nesting depth kind with
    | some (own, next) => (collect fault next [] ls).map (cons ⟨kind, before, t, own, false⟩)
    | none => .error .unbalancedClose

/-- Refuses texts with a lexeme that cannot be read, or with unbalanced parentheses. -/
def ofSql (s : Sql) : Except Unsupported Scan :=
  collect (Lexeme.readAll s).2 0 [] (Lexeme.readAll s).1

/-! ### Nothing is lost -/

theorem flatMap_readAll {s : Sql} (h : (Lexeme.readAll s).2 = none) :
    (Lexeme.readAll s).1.flatMap Lexeme.text = s := by
  fun_induction Lexeme.readAll s with
  | case1 => rfl
  | case2 c r l rest h' ih =>
    rw [List.flatMap_cons, ih h]
    exact (Lexeme.read_reads c r l rest h').1
  | case3 => simp at h

theorem text_of_collect {fault : Option Unsupported} {depth : Nat} {before : Sql}
    {ls : List Lexeme} {s : Scan} (h : collect fault depth before ls = .ok s) :
    fault = none ∧ s.text = before ++ ls.flatMap Lexeme.text := by
  induction ls generalizing depth before s with
  | nil =>
    cases fault with
    | some e => simp [collect] at h
    | none =>
      by_cases hd : depth = 0
      · simp only [collect, hd, if_pos, Except.ok.injEq] at h
        simp [← h]
      · simp [collect, hd] at h
  | cons l ls ih =>
    cases l with
    | gap g =>
      obtain ⟨hf, ht⟩ := ih h
      exact ⟨hf, by simp [ht, Lexeme.text]⟩
    | token kind t =>
      rw [collect] at h
      split at h
      · next own next _ =>
        cases e : collect fault next [] ls with
        | error e' => simp [e, Except.map] at h
        | ok s' =>
          simp only [e, Except.map, Except.ok.injEq] at h
          obtain ⟨hf, ht⟩ := ih e
          exact ⟨hf, by simp [← h, ht, Lexeme.text]⟩
      · simp at h

theorem text_of_ofSql {s : Sql} {x : Scan} (h : ofSql s = .ok x) : x.text = s := by
  obtain ⟨hf, ht⟩ := text_of_collect h
  rw [ht, List.nil_append, flatMap_readAll hf]

end Scan

end BulkSql
