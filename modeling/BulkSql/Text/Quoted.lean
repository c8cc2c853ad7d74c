/-!
Parts taken off the front of a text, and text between quote characters: a quote inside it is written
twice. Reading undoes writing.
-/
namespace BulkSql

/-- SQL text, as the list of its characters. -/
abbrev Sql := List Char

/-- What a part of a text takes up, and what is left. -/
abbrev Split := Option (Sql × Sql)

namespace Split

/-- One more character in front of what is taken up. -/
def push (c : Char) (s : Split) : Split := s.map fun (t, r) => (c :: t, r)

@[simp] theorem push_none (c : Char) : push c none = none := rfl

@[simp] theorem push_some (c : Char) (t r : Sql) : push c (some (t, r)) = some (c :: t, r) := rfl

theorem push_eq_some_iff {c : Char} {x : Split} {t r : Sql} :
    push c x = some (t, r) ↔ ∃ u, t = c :: u ∧ x = some (u, r) := by
  rcases x with - | ⟨u, r'⟩
  · simp
  · simp only [push_some, Option.some.injEq, Prod.mk.injEq]
    grind

theorem push_eq_none_iff {c : Char} {x : Split} : push c x = none ↔ x = none := by
  cases x <;> simp [push]

/-- What is taken up and what is left are the whole text. -/
def Covers (s : Sql) (x : Split) : Prop := ∀ t r, x = some (t, r) → t ++ r = s

theorem Covers.push {s : Sql} {x : Split} (h : Covers s x) (c : Char) :
    Covers (c :: s) (push c x) := by
  intro t r e
  obtain ⟨u, rfl, known⟩ := push_eq_some_iff.1 e
  rw [List.cons_append, h u r known]

theorem Covers.none (s : Sql) : Covers s none := by simp [Covers]

theorem Covers.some {s t r : Sql} (h : t ++ r = s) : Covers s (some (t, r)) := by
  intro t' r' e
  simp only [Option.some.injEq, Prod.mk.injEq] at e
  obtain ⟨rfl, rfl⟩ := e
  exact h

end Split

namespace Quoted

/-- Each `q` is written twice. -/
def doubled (q : Char) : Sql → Sql
  | [] => []
  | c :: cs => if c = q then q :: q :: doubled q cs else c :: doubled q cs

/-- Each pair `qq` becomes one `q`, from left to right. -/
def undoubled (q : Char) : Sql → Sql
  | [] => []
  | [c] => [c]
  | c :: d :: cs =>
    if c = q ∧ d = q then q :: undoubled q cs else c :: undoubled q (d :: cs)

@[simp] theorem doubled_nil (q : Char) : doubled q [] = [] := rfl

theorem doubled_cons_self (q : Char) (cs : Sql) : doubled q (q :: cs) = q :: q :: doubled q cs := by
  simp [doubled]

theorem doubled_cons_of_ne {q c : Char} (h : c ≠ q) (cs : Sql) :
    doubled q (c :: cs) = c :: doubled q cs := by simp [doubled, h]

theorem undoubled_cons_of_ne {q c : Char} (h : c ≠ q) (cs : Sql) :
    undoubled q (c :: cs) = c :: undoubled q cs := by cases cs <;> simp [undoubled, h]

@[simp] theorem undoubled_doubled (q : Char) (s : Sql) : undoubled q (doubled q s) = s := by
  induction s with
  | nil => rfl
  | cons c cs ih =>
    by_cases h : c = q
    · subst h
      simp [doubled_cons_self, undoubled, ih]
    · rw [doubled_cons_of_ne h, undoubled_cons_of_ne h, ih]

/-- The text between two quotes. -/
def quote (q : Char) (s : Sql) : Sql := q :: (doubled q s ++ [q])

end Quoted

/-- A text as an SQL string literal. -/
def quoteLiteral (s : Sql) : Sql := Quoted.quote '\'' s

end BulkSql
