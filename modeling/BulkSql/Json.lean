import BulkSql.Decimal.Notation

/-!
JSON documents and their compact text. The members of an object are in the order of their keys,
each key once.
-/
namespace BulkSql

/-- A JSON document. Integers have 64 bits, signed or unsigned; all other numbers are floats. -/
inductive Json
  | null
  | bool (b : Bool)
  | integer (i : Int)
  | float (x : Binary64)
  | string (s : String)
  | array (items : List Json)
  | object (members : List (String × Json))

namespace Json

mutual

/-- Equality of documents; floats are equal as numbers, and an integer is never a float. -/
def same : Json → Json → Bool
  | null, null => true
  | bool a, bool b => a == b
  | integer i, integer j => i == j
  | float x, float y => x.numEq y
  | string s, string t => s == t
  | array xs, array ys => sameItems xs ys
  | object xs, object ys => sameMembers xs ys
  | _, _ => false

def sameItems : List Json → List Json → Bool
  | [], [] => true
  | x :: xs, y :: ys => same x y && sameItems xs ys
  | _, _ => false

def sameMembers : List (String × Json) → List (String × Json) → Bool
  | [], [] => true
  | (k, x) :: xs, (l, y) :: ys => k == l && same x y && sameMembers xs ys
  | _, _ => false

end

/-- A member put in its place; it takes the place of an earlier one of the same key. -/
def insertMember (key : String) (value : Json) : List (String × Json) → List (String × Json)
  | [] => [(key, value)]
  | (k, v) :: rest =>
    if key < k then (key, value) :: (k, v) :: rest
    else if key = k then (key, value) :: rest
    else (k, v) :: insertMember key value rest

/-- Floats are plain from `0.00001` up to `10 ^ 16`, and an exponent always has its sign. -/
def floatNotation : DecimalNotation := ⟨-5, 16, true, .even⟩

def hexDigit (n : Nat) : Char := Nat.digitChar (n % 16)

/-- Control characters, quotes and backslashes are escaped, nothing else. -/
def escaped (c : Char) : Sql :=
  match c with
  | '"' => ['\\', '"']
  | '\\' => ['\\', '\\']
  | '\x08' => ['\\', 'b']
  | '\x0c' => ['\\', 'f']
  | '\n' => ['\\', 'n']
  | '\r' => ['\\', 'r']
  | '\t' => ['\\', 't']
  | c =>
    if c.toNat < 0x20 then
      ['\\', 'u', '0', '0', hexDigit (c.toNat / 16), hexDigit c.toNat]
    else [c]

def stringText (s : String) : Sql := '"' :: (s.toList.flatMap escaped ++ ['"'])

mutual

/-- The document without any blanks. -/
def text : Json → Sql
  | null => "null".toList
  | bool b => (if b then "true" else "false").toList
  | integer i => (toString i).toList
  | float x => floatNotation.finite x
  | string s => stringText s
  | array items => '[' :: (itemsText items ++ [']'])
  | object members => '\x7b' :: (membersText members ++ ['\x7d'])

def itemsText : List Json → Sql
  | [] => []
  | [x] => text x
  | x :: y :: rest => text x ++ ',' :: itemsText (y :: rest)

def membersText : List (String × Json) → Sql
  | [] => []
  | [(k, v)] => stringText k ++ ':' :: text v
  | (k, v) :: m :: rest => stringText k ++ ':' :: (text v ++ ',' :: membersText (m :: rest))

end

end Json

end BulkSql
