import BulkSql.Text.Case.Table
import BulkSql.Text.Quoted
import BulkSql.Text.Word

/-!
Lower and upper case of texts by the Unicode mappings. One character can become several, and a
capital sigma at the end of a word becomes the final small one.
-/
namespace BulkSql.Case

namespace Shift

def covers (s : Shift) (n : Nat) : Bool :=
  s.first ≤ n && n ≤ s.last && (n - s.first) % s.step == 0

end Shift

/-- The characters that a code point is mapped to; itself, where no mapping is given. -/
def mapped (shifts : List Shift) (sequences : List (Nat × List Nat)) (n : Nat) : Sql :=
  match sequences.find? fun s => s.1 == n with
  | some (_, image) => image.map Char.ofNat
  | none =>
    match shifts.find? fun s => s.covers n with
    | some s => [Char.ofNat (n + s.distance).toNat]
    | none => [Char.ofNat n]

def lowerChar (c : Char) : Sql := mapped lowerShifts lowerSequences c.toNat

def upperChar (c : Char) : Sql := mapped upperShifts upperSequences c.toNat

def isCased (c : Char) : Bool := inRanges casedRanges c.toNat

def isIgnorable (c : Char) : Bool := inRanges ignorableRanges c.toNat

/-- Behind characters that do not count for case there is one that has case. -/
def meetsCased (s : Sql) : Bool :=
  match s.dropWhile isIgnorable with
  | c :: _ => isCased c
  | [] => false

/-- The lower case of a text that follows the reversed text `before`. -/
def lowerFrom (before : Sql) : Sql → Sql
  | [] => []
  | c :: rest =>
    (if c = 'Σ' then [if meetsCased before && !meetsCased rest then 'ς' else 'σ']
      else lowerChar c) ++ lowerFrom (c :: before) rest

def lower (s : Sql) : Sql := lowerFrom [] s

def upper (s : Sql) : Sql := s.flatMap upperChar

end BulkSql.Case
