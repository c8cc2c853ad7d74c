import BulkSql.Error
import BulkSql.Pool.Address

/-!
Pools of connections. A new pool has no open connection.
-/
namespace BulkSql

structure Pool where
  address : Address
  maxSize : Nat
  openCount : Nat := 0
  deriving DecidableEq, Repr

namespace Pool

/-- The size of a pool for which none is asked. -/
def defaultSize : Nat := 16

/-- Bytes that a pool sets aside for each of its connections. -/
def slotSize : Nat := 512

/-- Whether the room for so many connections is less than half of the address space. -/
def hasRoom (maxSize : Nat) : Bool := maxSize * slotSize < 0x8000000000000000

def create (address : String) (maxSize : Nat) : Except Error Pool :=
  match Address.parse? address with
  | some a =>
    if hasRoom maxSize then .ok { address := a, maxSize } else .error (.poolSize maxSize)
  | none => .error (.connection "invalid connection string")

end Pool

end BulkSql
