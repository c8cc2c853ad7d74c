import Mathlib
import BulkSql.Statement

/-!
The numbers of the parameters of a statement, from the numbers of those in its parts.
-/
namespace BulkSql

namespace Fragment

theorem numbered_append (n : Nat) (ps qs : List Piece) :
    numbered n (ps ++ qs) = numbered n ps ++ numbered (n + ps.count .param) qs := by
  induction ps generalizing n with
  | nil => rfl
  | cons p ps ih =>
    cases p with
    | raw text => simp [numbered, ih]
    | param => simp [numbered, ih, Nat.add_comm, Nat.add_left_comm]

/-- Text in front has no number. -/
theorem numbered_raw_append (n : Nat) (text : Sql) (f : Fragment) :
    numbered n (raw text ++ f).pieces = text ++ numbered n f.pieces := rfl

@[simp] theorem sql_raw (text : Sql) : (raw text).sql = text := List.append_nil text

/-- A fragment between texts. -/
theorem sql_between (front back : Sql) (f : Fragment) :
    (raw front ++ (f ++ raw back)).sql = front ++ (f.sql ++ back) := by
  simp [sql, raw, numbered, numbered_append]

/-- The texts of fragments of which each stands behind the parameters of those before it. -/
def texts (n : Nat) : List Fragment → List Sql
  | [] => []
  | f :: fs => numbered n f.pieces :: texts (n + f.placeholderCount) fs

theorem commaList_cons_cons (f g : Fragment) (fs : List Fragment) :
    commaList (f :: g :: fs) = f ++ (raw ", ".toList ++ commaList (g :: fs)) := rfl

theorem numbered_commaList (n : Nat) (fs : List Fragment) :
    numbered n (commaList fs).pieces = ", ".toList.intercalate (texts n fs) := by
  induction fs generalizing n with
  | nil => rfl
  | cons f fs ih =>
    cases fs with
    | nil => simp [commaList, concat, texts]
    | cons g gs =>
      have rest := ih (n + f.placeholderCount)
      have comma : numbered (n + f.placeholderCount) (raw ", ".toList ++ commaList (g :: gs)).pieces =
          ", ".toList ++ numbered (n + f.placeholderCount) (commaList (g :: gs)).pieces := rfl
      rw [commaList_cons_cons, pieces_append, numbered_append, ← placeholderCount, comma, rest]
      simp [texts]

theorem params_commaList (fs : List Fragment) :
    (commaList fs).params = fs.flatMap Fragment.params := by
  induction fs with
  | nil => rfl
  | cons f fs ih =>
    cases fs with
    | nil => rfl
    | cons g gs =>
      rw [commaList_cons_cons, params_append, params_append, ih]
      rfl

theorem placeholderCount_commaList (fs : List Fragment) :
    (commaList fs).placeholderCount = (fs.map placeholderCount).sum := by
  induction fs with
  | nil => rfl
  | cons f fs ih =>
    cases fs with
    | nil => simp [commaList, concat, placeholderCount]
    | cons g gs =>
      rw [commaList_cons_cons, placeholderCount_append, placeholderCount_append, ih]
      simp

end Fragment

end BulkSql
