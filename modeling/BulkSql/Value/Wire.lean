import BulkSql.Text.Utf8
import BulkSql.Value

/-!
The binary form of parameters. The type that the server wants decides the form; a value that has
none for it is refused, and then nothing is written.
-/
namespace BulkSql

/-- The types of parameters. -/
inductive ParameterType
  | bool | bytea | char | int2 | int4 | int8 | oid | float4 | float8 | numeric
  | text | varchar | bpchar | name | unknown | json | jsonb | uuid | date | timestamp | timestamptz
  /-- Any other type, such as one of an extension, by its name. -/
  | other (name : String)
  deriving DecidableEq, Repr

namespace ParameterType

/-- The types that a text can be sent to. -/
def isText : ParameterType → Bool
  | text | varchar | bpchar | name | unknown => true
  | other t => ["citext", "ltree", "lquery", "ltxtquery"].contains t
  | _ => false

/-- What stands in front of the text of a parameter: its version, for types that have versions. -/
def version : ParameterType → List UInt8
  | jsonb => [1]
  | other t => if ["ltree", "lquery", "ltxtquery"].contains t then [1] else []
  | _ => []

end ParameterType

/-- Why a value is not sent. -/
inductive WireFault
  | wrongType
  | outOfRange
  deriving DecidableEq, Repr

namespace Wire

/-- The last `count` bytes of a number, most significant first. -/
def bigEndian : (count : Nat) → Nat → List UInt8
  | 0, _ => []
  | count + 1, n => UInt8.ofNat (n / Nat.pow 256 count) :: bigEndian count n

/-- Two's complement in `count` bytes. -/
def twosComplement (count : Nat) (i : Int) : List UInt8 :=
  bigEndian count (i % (Nat.pow 256 count : Nat)).toNat

def float4 (x : Binary64) : List UInt8 := bigEndian 4 x.toBinary32.toNat

/-- The bits of the binary32 number nearest to an integer. -/
def binary32OfInt (i : Int) : Nat :=
  (if i < 0 then twoTo 31 else 0) + if i = 0 then 0 else binary32.nearest i.natAbs 1

def float8 (x : Binary64) : List UInt8 := bigEndian 8 x.bits.toNat

/-- Days from 1970-01-01 to 2000-01-01. -/
def dayOffset : Int := 10957

/-- Writes a parameter to the end of a buffer, and answers whether it is NULL. -/
abbrev Writer := ExceptT WireFault (StateM (List UInt8)) Bool

def put (bytes : List UInt8) : Writer := do
  modify (· ++ bytes)
  return false

/-- Writes for a type that has this form, and is refused for any other. -/
def putIf (accepted : Bool) (bytes : List UInt8) : Writer :=
  if accepted then put bytes else throw .wrongType

/-- Writes an integer that has to fit into `count` bytes. -/
def putSized (count : Nat) (i : Int) : Writer :=
  let half := twoTo (8 * count - 1)
  if -(half : Int) ≤ i ∧ i < half then put (twosComplement count i) else throw .outOfRange

end Wire

namespace Value

open Wire

/-- Writes the value as a parameter of the given type. -/
def write : Value → ParameterType → Writer
  | .null, _ => return true
  | .bool b, type => putIf (type == .bool) [if b then 1 else 0]
  | .int i, .int2 => putSized 2 i.toInt
  | .int i, .int4 => putSized 4 i.toInt
  | .int i, .float4 => put (bigEndian 4 (binary32OfInt i.toInt))
  | .int i, .float8 => put (float8 (.ofInt i.toInt))
  | .int i, .text | .int i, .varchar | .int i, .bpchar => put (Utf8.bytes (toString i.toInt).toList)
  | .int i, type => putIf (type == .int8) (twosComplement 8 i.toInt)
  | .float x, .float4 => put (float4 x)
  | .float x, type => putIf (type == .float8) (float8 x)
  | .text s, type => putIf type.isText (type.version ++ Utf8.bytes s.toList)
  | .bytes b, type => putIf (type == .bytea) b
  | .uuid u, type => putIf (type == .uuid) u.bytes
  | .timestamp t, .timestamp => put (twosComplement 8 t.micros)
  | .timestamp t, .date => put (twosComplement 4 (t.days - dayOffset))
  | .timestamp t, type => putIf (type == .timestamptz) (twosComplement 8 t.micros)
  | .json j, type => putIf (type == .json || type == .jsonb) (type.version ++ Utf8.bytes j.text)

/-- The binary form of a value as a parameter of the given type; NULL has none. -/
def wire (v : Value) (type : ParameterType) : Except WireFault (Option (List UInt8)) :=
  match v.write type [] with
  | (.ok isNull, out) => .ok (if isNull then none else some out)
  | (.error fault, _) => .error fault

end Value

end BulkSql
