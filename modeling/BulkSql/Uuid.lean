import BulkSql.Text.Hex

/-!
Universally unique identifiers: sixteen bytes, written in hexadecimal with hyphens.
-/
namespace BulkSql

structure Uuid where
  bytes : List UInt8
  length_bytes : bytes.length = 16
  deriving DecidableEq

namespace Uuid

/-- Groups of 8, 4, 4, 4 and 12 digits. -/
def text (u : Uuid) : Sql :=
  let group (start count : Nat) := Hex.text ((u.bytes.drop start).take count)
  group 0 4 ++ '-' :: group 4 2 ++ '-' :: group 6 2 ++ '-' :: group 8 2 ++ '-' :: group 10 6

/-- Reads the hyphenated form, in either case. -/
def parse? (s : String) : Option Uuid :=
  let cs := s.toList
  if cs.length = 36 ∧ ([8, 13, 18, 23].all fun i => cs[i]? == some '-') then
    match Hex.bytes? (cs.filter (· != '-')) with
    | some bytes => if h : bytes.length = 16 then some ⟨bytes, h⟩ else none
    | none => none
  else none

end Uuid

end BulkSql
