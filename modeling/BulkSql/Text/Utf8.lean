import BulkSql.Text.Quoted

/-!
Texts measured in bytes of UTF-8.
-/
namespace BulkSql.Utf8

def size : Sql → Nat
  | [] => 0
  | c :: cs => c.utf8Size + size cs

/-- The bytes of a text. -/
def bytes (s : Sql) : List UInt8 := s.flatMap String.utf8EncodeChar

/-- The longest front part that takes up at most `n` bytes. -/
def fitting : Nat → Sql → Sql
  | _, [] => []
  | n, c :: cs => if c.utf8Size ≤ n then c :: fitting (n - c.utf8Size) cs else []

/-- A text of more than `n` bytes is cut between two characters, and three dots are put there. -/
def shortened (n : Nat) (s : Sql) : Sql :=
  if size s ≤ n then s else fitting n s ++ "...".toList

theorem size_fitting_le (n : Nat) (s : Sql) : size (fitting n s) ≤ n := by
  induction s generalizing n with
  | nil => simp [fitting, size]
  | cons c cs ih =>
    rw [fitting]
    split
    · have := ih (n - c.utf8Size)
      rw [size]
      omega
    · simp [size]

end BulkSql.Utf8
