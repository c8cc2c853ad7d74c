import BulkSql.Json
import BulkSql.Text.Hex

/-!
Reading JSON text. The grammar is the standard one; nesting is limited, and a number that is not a
64-bit integer is read with one rounding of its digits and one of its scaling.
-/
namespace BulkSql.Json

/-- What a reader of a part returns: the part, and the text after it. -/
abbrev Reader (α : Type) := Sql → Option (α × Sql)

def isSpace (c : Char) : Bool := c == ' ' || c == '\t' || c == '\n' || c == '\r'

def skipSpace (s : Sql) : Sql := s.dropWhile isSpace

/-! ### Numbers -/

def digitValue (c : Char) : Nat := c.toNat - '0'.toNat

/-- The digits that a 64-bit significand can take up, and how many are left over. -/
def gather : Nat → Sql → Nat × Nat
  | significand, [] => (significand, 0)
  | significand, c :: cs =>
    let next := significand * 10 + digitValue c
    if next < twoTo 64 then gather next cs else (significand, (c :: cs).length)

def powerOfTen (k : Nat) : Binary64 := .ofQuotient false (tenTo k) 1

/-- `significand * 10 ^ exponent` in one multiplication or division, or two divisions where the
power of ten is too small to be a number; nothing if the result is too large. -/
def scaled (significand : Nat) (exponent : Int) : Option Binary64 :=
  let x := Binary64.ofInt significand
  if significand = 0 then some x
  else if 308 < exponent then none
  else if 0 ≤ exponent then
    let y := x.mul (powerOfTen exponent.toNat)
    if y.isInfinite then none else some y
  else if -308 ≤ exponent then some (x.div (powerOfTen (-exponent).toNat))
  else if -616 ≤ exponent then
    some ((x.div (powerOfTen 308)).div (powerOfTen (-exponent - 308).toNat))
  else some (.ofMagnitude false 0)

/-- The digits of the exponent of a number with their sign, if it has one. -/
def exponentPart (s : Sql) : Option (Option (Bool × Sql) × Sql) :=
  match s with
  | 'e' :: rest | 'E' :: rest =>
    let (negative, rest) := match rest with
      | '+' :: r => (false, r)
      | '-' :: r => (true, r)
      | r => (false, r)
    let digits := rest.takeWhile Char.isDigit
    if digits = [] then none
    else some (some (negative, digits), rest.dropWhile Char.isDigit)
  | s => some (none, s)

/-- The digits after the point of a number, if it has one. -/
def fractionPart (s : Sql) : Option (Option Sql × Sql) :=
  match s with
  | '.' :: rest =>
    let digits := rest.takeWhile Char.isDigit
    if digits = [] then none else some (some digits, rest.dropWhile Char.isDigit)
  | s => some (none, s)

def natOfDigits (digits : Sql) : Nat := digits.foldl (fun n c => n * 10 + digitValue c) 0

/-- The value of a number from the digits of its parts. -/
def numberValue (negative : Bool) (whole : Sql) (fraction : Option Sql)
    (exponent : Option (Bool × Sql)) : Option Json :=
  let float (x : Binary64) : Json := .float (if negative then x.neg else x)
  let (significand, dropped) := gather 0 whole
  if fraction = none ∧ exponent = none ∧ dropped = 0 then
    if negative then
      if 0 < significand ∧ significand ≤ twoTo 63 then some (.integer (-significand))
      else some (float (.ofInt significand))
    else some (.integer significand)
  else
    let digits := fraction.getD []
    let (significand, unused) := gather significand digits
    let shift : Int := dropped - ((digits.length - unused : Nat) : Int)
    match exponent with
    | none => (scaled significand shift).map float
    | some (below, digits) =>
      let e : Int := natOfDigits digits
      if e < twoTo 31 then
        (scaled significand (if below then shift - e else shift + e)).map float
      else if significand ≠ 0 ∧ ¬ below then none
      else some (float (.ofMagnitude false 0))

/-- A number; its whole part has no leading zero. -/
def readNumber (s : Sql) : Option (Json × Sql) := do
  let (negative, s) := match s with
    | '-' :: r => (true, r)
    | r => (false, r)
  let whole := s.takeWhile Char.isDigit
  let leading := match whole with
    | '0' :: _ :: _ => true
    | _ => false
  if whole = [] ∨ leading then none
  else
    let (fraction, s) ← fractionPart (s.dropWhile Char.isDigit)
    let (exponent, s) ← exponentPart s
    return (← numberValue negative whole fraction exponent, s)

/-! ### Strings -/

def hex4 (a b c d : Char) : Option Nat := do
  return ((((← Hex.digit? a) * 16 + (← Hex.digit? b)) * 16 + (← Hex.digit? c)) * 16 + (← Hex.digit? d))

/-- The character that stands after a backslash of its own. -/
def shortEscape : Char → Option Char
  | '"' => some '"'
  | '\\' => some '\\'
  | '/' => some '/'
  | 'b' => some '\x08'
  | 'f' => some '\x0c'
  | 'n' => some '\n'
  | 'r' => some '\r'
  | 't' => some '\t'
  | _ => none

/-- A string after its opening quote. Surrogates stand in pairs only. -/
def stringTail : Sql → Option (Sql × Sql)
  | '"' :: rest => some ([], rest)
  | '\\' :: 'u' :: a :: b :: c :: d :: rest => do
    let n ← hex4 a b c d
    if 0xD800 ≤ n ∧ n < 0xDC00 then
      match rest with
      | '\\' :: 'u' :: a :: b :: c :: d :: rest =>
        let m ← hex4 a b c d
        if 0xDC00 ≤ m ∧ m < 0xE000 then
          let (cs, rest) ← stringTail rest
          return (Char.ofNat (0x10000 + (n - 0xD800) * 0x400 + (m - 0xDC00)) :: cs, rest)
        else none
      | _ => none
    else if 0xDC00 ≤ n ∧ n < 0xE000 then none
    else
      let (cs, rest) ← stringTail rest
      return (Char.ofNat n :: cs, rest)
  | '\\' :: e :: rest => do
    let c ← shortEscape e
    let (cs, rest) ← stringTail rest
    return (c :: cs, rest)
  | c :: rest =>
    if c.toNat < 0x20 then none
    else do
      let (cs, rest) ← stringTail rest
      return (c :: cs, rest)
  | [] => none

def readString (s : Sql) : Option (String × Sql) :=
  match s with
  | '"' :: rest => (stringTail rest).map fun (cs, rest) => (String.ofList cs, rest)
  | _ => none

/-! ### Documents -/

/-- The parts of a list up to its closing bracket, the first one already due. -/
def partsTail {α : Type} (close : Char) (part : Reader α) (s : Sql) : Option (List α × Sql) :=
  match part s with
  | none => none
  | some (x, rest) =>
    match skipSpace rest with
    | ',' :: rest' =>
      if rest'.length < s.length then
        (partsTail close part rest').map fun (xs, rest) => (x :: xs, rest)
      else none
    | c :: rest' => if c = close then some ([x], rest') else none
    | [] => none
termination_by s.length

/-- A list of parts between commas, after its opening bracket. -/
def parts {α : Type} (close : Char) (part : Reader α) (s : Sql) : Option (List α × Sql) :=
  match skipSpace s with
  | c :: rest => if c = close then some ([], rest) else partsTail close part (c :: rest)
  | [] => none

def readMember (value : Reader Json) (s : Sql) : Option ((String × Json) × Sql) := do
  let (key, rest) ← readString (skipSpace s)
  match skipSpace rest with
  | ':' :: rest =>
    let (v, rest) ← value rest
    return ((key, v), rest)
  | _ => none

def readWord (word : String) (value : Json) (s : Sql) : Option (Json × Sql) :=
  if word.toList.isPrefixOf s then some (value, s.drop word.length) else none

/-- A document with fewer than `depth` lists inside one another. -/
def readValue : (depth : Nat) → Reader Json
  | depth, s =>
    match skipSpace s with
    | 'n' :: rest => readWord "null" .null ('n' :: rest)
    | 't' :: rest => readWord "true" (.bool true) ('t' :: rest)
    | 'f' :: rest => readWord "false" (.bool false) ('f' :: rest)
    | '"' :: rest => (readString ('"' :: rest)).map fun (t, rest) => (.string t, rest)
    | '[' :: rest =>
      match depth with
      | 0 => none
      | depth + 1 => (parts ']' (readValue depth) rest).map fun (xs, rest) => (.array xs, rest)
    | c :: rest =>
      if c = '\x7b' then
        match depth with
        | 0 => none
        | depth + 1 => (parts '\x7d' (readMember (readValue depth)) rest).map fun (ms, rest) =>
            (.object (ms.foldl (fun sorted (k, v) => insertMember k v sorted) []), rest)
      else readNumber (c :: rest)
    | [] => none

/-- The lists that may be open at one time. -/
def depthLimit : Nat := 127

/-- The document that the whole text is. -/
def parse? (s : String) : Option Json :=
  match readValue depthLimit s.toList with
  | some (v, rest) => if skipSpace rest = [] then some v else none
  | none => none

end BulkSql.Json
