import BulkSql.Text.Hex

/-!
TOML documents of the plainest shape: lines with a key and a text or an integer, blank lines and
comments. All other documents are refused, also well-formed ones.
-/
namespace BulkSql.Toml

open Split (push)

inductive Scalar
  | text (s : String)
  | integer (i : Int)
  deriving DecidableEq, Repr

/-- A part that was read, and what follows it. -/
abbrev Part (α : Type) := Option (α × List Char)

/-- Blanks inside a line. -/
def isSpace (c : Char) : Bool := c == ' ' || c == '\t'

/-- A character that stands for itself in texts and comments. -/
def isPlain (c : Char) : Bool := c == '\t' || (' '.toNat ≤ c.toNat && c != '\x7f')

/-- What follows the end of a line; a comment can stand before it. -/
def lineEnd? (s : List Char) : Option (List Char) :=
  let s := s.dropWhile isSpace
  let s := if s.head? = some '#' then s.dropWhile isPlain else s
  match s with
  | [] => some []
  | '\n' :: r => some r
  | '\r' :: '\n' :: r => some r
  | _ => none

/-! ### Texts -/

/-- A character that a backslash and a letter stand for. -/
def named? : Char → Option Char
  | 'b' => some '\x08'
  | 't' => some '\t'
  | 'n' => some '\n'
  | 'f' => some '\x0c'
  | 'r' => some '\r'
  | 'e' => some '\x1b'
  | '"' => some '"'
  | '\\' => some '\\'
  | _ => none

/-- How many digits of a character's number follow the letter. -/
def width? : Char → Option Nat
  | 'x' => some 2
  | 'u' => some 4
  | 'U' => some 8
  | _ => none

/-- The value of a digit, in bases up to sixteen. -/
def digit? (base : Nat) (c : Char) : Option Nat := (Hex.digit? c).filter (· < base)

/-- The character with a number in base sixteen. -/
def numbered? (digits : List Char) : Option Char := do
  let values ← digits.mapM (digit? 16)
  let n := values.foldl (fun n d => n * 16 + d) 0
  if n.isValidChar then some (.ofNat n) else none

/-- The character behind a backslash. -/
def escaped? : List Char → Part Char
  | [] => none
  | c :: r =>
    match named? c, width? c with
    | some d, _ => some (d, r)
    | none, some n =>
      if n ≤ r.length then (numbered? (r.take n)).map fun d => (d, r.drop n) else none
    | none, none => none

theorem escaped?_length {s r : List Char} {c : Char} (h : escaped? s = some (c, r)) :
    r.length < s.length := by
  unfold escaped? at h
  split at h
  · cases h
  · next d s =>
    split at h
    · cases h
      simp
    · next n _ _ =>
      split at h
      · obtain ⟨a, -, e⟩ := Option.map_eq_some_iff.1 h
        cases e
        simp only [List.length_drop, List.length_cons]
        omega
      · cases h
    · cases h

/-- A text up to its closing double quote. -/
def basic? : List Char → Part (List Char)
  | [] => none
  | c :: r =>
    if c = '"' then some ([], r)
    else if c = '\\' then
      match _h : escaped? r with
      | some (d, rest) => push d (basic? rest)
      | none => none
    else if isPlain c then push c (basic? r) else none
termination_by s => s.length
decreasing_by
  · have := escaped?_length _h
    simp only [List.length_cons]
    omega
  · simp

/-- A text up to its closing single quote. -/
def literal? : List Char → Part (List Char)
  | [] => none
  | c :: r =>
    if c = '\'' then some ([], r) else if isPlain c then push c (literal? r) else none

/-- A text that may have line ends. -/
def isLong (c : Char) (r : List Char) : Bool :=
  isPlain c || c == '\n' || (c == '\r' && r.head? == some '\n')

/-- Three quotes close a long text; of more than three, up to two belong to it. -/
def closing? (quote : Char) : List Char → Part (List Char)
  | a :: b :: c :: r =>
    if a = quote ∧ b = quote ∧ c = quote then
      let more := min 2 (r.takeWhile (· == quote)).length
      some (.replicate more quote, r.drop more)
    else none
  | _ => none

/-- Whether a backslash before this text hides the end of its line. -/
def hidesLineEnd (s : List Char) : Bool :=
  match s.dropWhile isSpace with
  | '\n' :: _ => true
  | '\r' :: '\n' :: _ => true
  | _ => false

/-- What follows blanks and line ends. -/
def afterGaps : List Char → List Char
  | [] => []
  | '\r' :: '\n' :: r => afterGaps r
  | c :: r => if isSpace c || c == '\n' then afterGaps r else c :: r

theorem afterGaps_length (s : List Char) : (afterGaps s).length ≤ s.length := by
  fun_induction afterGaps s with
  | case1 => exact Nat.le_refl _
  | case2 _ ih => exact Nat.le_succ_of_le (Nat.le_succ_of_le ih)
  | case3 _ _ _ _ ih => exact Nat.le_succ_of_le ih
  | case4 => exact Nat.le_refl _

/-- A long text up to its closing double quotes. -/
def longBasic? : List Char → Part (List Char)
  | [] => none
  | c :: r =>
    match closing? '"' (c :: r) with
    | some closed => some closed
    | none =>
      if c = '\\' then
        if hidesLineEnd r then longBasic? (afterGaps r)
        else
          match _h : escaped? r with
          | some (d, rest) => push d (longBasic? rest)
          | none => none
      else if isLong c r then push c (longBasic? r) else none
termination_by s => s.length
decreasing_by
  · have := afterGaps_length r
    simp only [List.length_cons]
    omega
  · have := escaped?_length _h
    simp only [List.length_cons]
    omega
  · simp

/-- A long text up to its closing single quotes. -/
def longLiteral? : List Char → Part (List Char)
  | [] => none
  | c :: r =>
    match closing? '\'' (c :: r) with
    | some closed => some closed
    | none => if isLong c r then push c (longLiteral? r) else none

/-- Without a line end at the front. -/
def afterLineEnd : List Char → List Char
  | '\n' :: r => r
  | '\r' :: '\n' :: r => r
  | s => s

/-- A text with its quotes; `long` texts stand between three quotes. -/
def quoted? (long : Bool) : List Char → Part (List Char)
  | '"' :: '"' :: '"' :: r => if long then longBasic? (afterLineEnd r) else none
  | '\'' :: '\'' :: '\'' :: r => if long then longLiteral? (afterLineEnd r) else none
  | '"' :: r => basic? r
  | '\'' :: r => literal? r
  | _ => none

/-! ### Integers -/

/-- The number behind digits that were read; an underscore stands between two digits. -/
def digitsFrom? (base : Nat) (n : Nat) : List Char → Option Nat
  | [] => some n
  | '_' :: c :: r => do digitsFrom? base (n * base + (← digit? base c)) r
  | c :: r => do digitsFrom? base (n * base + (← digit? base c)) r

def digits? (base : Nat) : List Char → Option Nat
  | [] => none
  | c :: r => do digitsFrom? base (← digit? base c) r

/-- A decimal number; zero starts no other. -/
def decimal? (s : List Char) : Option Nat :=
  if s.head? = some '0' ∧ s ≠ ['0'] then none else digits? 10 s

def integer? : List Char → Option Int
  | '0' :: 'x' :: r => (digits? 16 r).map Int.ofNat
  | '0' :: 'o' :: r => (digits? 8 r).map Int.ofNat
  | '0' :: 'b' :: r => (digits? 2 r).map Int.ofNat
  | '+' :: r => (decimal? r).map Int.ofNat
  | '-' :: r => (decimal? r).map fun n => -Int.ofNat n
  | r => (decimal? r).map Int.ofNat

/-! ### Documents -/

def isBareKey (c : Char) : Bool := c.isAlphanum || c == '_' || c == '-'

def key? (s : List Char) : Part (List Char) :=
  match quoted? false s with
  | some k => some k
  | none => if (s.takeWhile isBareKey).isEmpty then none
    else some (s.takeWhile isBareKey, s.dropWhile isBareKey)

/-- A character of a value without quotes. -/
def isBareValue (c : Char) : Bool := !isSpace c && c != '\n' && c != '\r' && c != '#'

def value? (s : List Char) : Part Scalar :=
  match quoted? true s with
  | some (t, r) => some (.text (.ofList t), r)
  | none => (integer? (s.takeWhile isBareValue)).map fun i => (.integer i, s.dropWhile isBareValue)

/-- A key and its value, up to the end of the line. -/
def entry? (s : List Char) : Option ((String × Scalar) × List Char) := do
  let (key, r) ← key? (s.dropWhile isSpace)
  match r.dropWhile isSpace with
  | '=' :: r =>
    let (value, r) ← value? (r.dropWhile isSpace)
    return ((.ofList key, value), ← lineEnd? r)
  | _ => none

/-- The entries of a document in their order. What is left gets shorter with each line. -/
def entries? (s : List Char) : Option (List (String × Scalar)) :=
  if s.isEmpty then some []
  else
    match lineEnd? s with
    | some r => if _h : r.length < s.length then entries? r else none
    | none =>
      match entry? s with
      | some (e, r) =>
        if _h : r.length < s.length then (entries? r).map (e :: ·) else none
      | none => none
termination_by s.length

/-- A document, which can start with a byte order mark. -/
def document? (s : String) : Option (List (String × Scalar)) :=
  match s.toList with
  | '\ufeff' :: r => entries? r
  | r => entries? r

end BulkSql.Toml
