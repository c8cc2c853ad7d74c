import BulkSql.Sql.Lexeme
import BulkSql.Text.Blank
import BulkSql.Text.Word

/-!
Session settings in front of a query: `SET name = value;` or `SET name TO value;`, in any case.
`splitPrelude` takes a run of them off a text, `Setting.merge` joins runs so that no variable has
two values.
-/
namespace BulkSql

structure Setting where
  /-- The variable, in lower case. -/
  name : Sql
  /-- The value as it is written, with its quotes. -/
  value : Sql
  statement : Sql
  deriving DecidableEq, Repr

namespace Setting

/-- The line that sets a variable to a text. -/
def line (name text : Sql) : Sql :=
  "SET ".toList ++ (name ++ (" = ".toList ++ (quoteLiteral text ++ [';'])))

/-- The same letter in any case; the long s is an s. -/
def isLetter (lower c : Char) : Bool := c.toLower == lower || (lower == 's' && c == 'ſ')

/-- What follows the word SET and the blanks behind it. -/
def afterSet? : Sql → Option Sql
  | s :: e :: t :: c :: rest =>
    if isLetter 's' s && isLetter 'e' e && isLetter 't' t && isBlank c then
      some (Blank.trimStart rest)
    else none
  | _ => none

/-- What follows `=` or TO, with the blanks around it. -/
def afterAssign? (s : Sql) : Option Sql :=
  match Blank.trimStart s with
  | [] => none
  | c :: rest =>
    if c = '=' then some (Blank.trimStart rest)
    else
      match rest with
      | [] => none
      | d :: rest =>
        if isLetter 't' c && isLetter 'o' d then some (Blank.trimStart rest) else none

/-- A character of a value that has no quotes. -/
def isPlain (c : Char) : Bool := c != ';' && c != '\'' && !isBlank c

/-- A value, and what follows it. -/
def value? : Sql → Split
  | [] => none
  | c :: rest =>
    if c = '\'' then Split.push c (Lexeme.quotedTail c false rest)
    else if isPlain c then some (c :: rest.takeWhile isPlain, rest.dropWhile isPlain)
    else none

/-- What follows a semicolon, with the blanks before it. -/
def afterEnd? (s : Sql) : Option Sql :=
  match Blank.trimStart s with
  | [] => none
  | c :: rest => if c = ';' then some rest else none

/-- The value of an assignment behind the variable, and what follows its semicolon. -/
def assigned? (s : Sql) : Split := do
  let (value, rest) ← value? (← afterAssign? s)
  return (value, ← afterEnd? rest)

/-- A character of a variable's name. -/
def isNameChar (c : Char) : Bool := c == '@' || c == '.' || isWordChar c

/-- The longest name that has an assignment behind it, its value and the rest. The candidate is
given in reverse. -/
def named? : (reversed : Sql) → Sql → Option (Sql × Sql × Sql)
  | [], _ => none
  | c :: cs, rest =>
    match assigned? rest with
    | some (value, rest) => some ((c :: cs).reverse, value, rest)
    | none => named? cs (c :: rest)

/-- The setting at the front of a text, and what follows it. -/
def read? (s : Sql) : Option (Setting × Sql) := do
  let text := Blank.trimStart s
  let named ← afterSet? text
  let (name, value, rest) ←
    named? (named.takeWhile isNameChar).reverse (named.dropWhile isNameChar)
  return (⟨name.map Char.toLower, value, text.take (text.length - rest.length)⟩, rest)

/-! ### What is left is the end of the text -/

theorem trimStart_suffix (s : Sql) : Blank.trimStart s <:+ s := List.dropWhile_suffix _

theorem afterSet?_suffix {s r : Sql} (h : afterSet? s = some r) : r <:+ s := by
  unfold afterSet? at h
  split at h
  · next a e t c rest =>
    split at h
    · cases h
      exact (trimStart_suffix rest).trans ⟨[a, e, t, c], rfl⟩
    · cases h
  · cases h

theorem afterAssign?_suffix {s r : Sql} (h : afterAssign? s = some r) : r <:+ s := by
  unfold afterAssign? at h
  split at h
  · cases h
  · next c rest e =>
    have hs : c :: rest <:+ s := e ▸ trimStart_suffix s
    split at h
    · cases h
      exact (trimStart_suffix rest).trans ((List.suffix_cons c rest).trans hs)
    · split at h
      · cases h
      · next d rest =>
        split at h
        · cases h
          exact (trimStart_suffix rest).trans (List.IsSuffix.trans ⟨[c, d], rfl⟩ hs)
        · cases h

theorem value?_covers (s : Sql) : Split.Covers s (value? s) := by
  unfold value?
  split
  · exact .none _
  · split
    · exact (Lexeme.quotedTail_covers _ _ _).push _
    · split
      · exact .some (by simp)
      · exact .none _

theorem afterEnd?_length {s r : Sql} (h : afterEnd? s = some r) : r.length < s.length := by
  unfold afterEnd? at h
  split at h
  · cases h
  · next c rest e =>
    have := (e ▸ trimStart_suffix s : c :: rest <:+ s).length_le
    split at h
    · cases h
      exact this
    · cases h

theorem afterEnd?_suffix {s r : Sql} (h : afterEnd? s = some r) : r <:+ s := by
  unfold afterEnd? at h
  split at h
  · cases h
  · next c r' e =>
    have hs : c :: r' <:+ s := e ▸ trimStart_suffix s
    split at h
    · cases h
      exact (List.suffix_cons c _).trans hs
    · cases h

theorem assigned?_eq_some {s v r : Sql} (h : assigned? s = some (v, r)) :
    ∃ a b, afterAssign? s = some a ∧ value? a = some (v, b) ∧ afterEnd? b = some r := by
  simp only [assigned?, Option.bind_eq_bind, Option.bind_eq_some_iff, Option.pure_def,
    Option.some.injEq, Prod.exists, Prod.mk.injEq] at h
  obtain ⟨a, ha, v', b, hb, r', hr, rfl, rfl⟩ := h
  exact ⟨a, b, ha, hb, hr⟩

theorem assigned?_suffix {s v r : Sql} (h : assigned? s = some (v, r)) :
    r <:+ s ∧ r.length < s.length := by
  obtain ⟨a, b, ha, hb, hr⟩ := assigned?_eq_some h
  have hba : b <:+ a := ⟨v, value?_covers a v b hb⟩
  have hs := hba.trans (afterAssign?_suffix ha)
  exact ⟨(afterEnd?_suffix hr).trans hs, Nat.lt_of_lt_of_le (afterEnd?_length hr) hs.length_le⟩

theorem named?_suffix {cs s n v r : Sql} (h : named? cs s = some (n, v, r)) :
    r <:+ cs.reverse ++ s ∧ r.length < (cs.reverse ++ s).length := by
  induction cs generalizing s with
  | nil => simp [named?] at h
  | cons c cs ih =>
    rw [named?] at h
    split at h
    · next v' rest e =>
      cases h
      obtain ⟨hs, hl⟩ := assigned?_suffix e
      exact ⟨hs.trans (List.suffix_append _ _), by rw [List.length_append]; omega⟩
    · simpa using ih h

theorem read?_suffix {s r : Sql} {x : Setting} (h : read? s = some (x, r)) :
    x.statement ++ r = Blank.trimStart s ∧ r.length < s.length := by
  simp only [read?, Option.bind_eq_bind, Option.bind_eq_some_iff, Option.pure_def,
    Option.some.injEq, Prod.exists, Prod.mk.injEq] at h
  obtain ⟨a, ha, n, v, r', hn, rfl, rfl⟩ := h
  obtain ⟨hs, hl⟩ := named?_suffix hn
  rw [List.reverse_reverse, List.takeWhile_append_dropWhile] at hs hl
  have hs' := hs.trans (afterSet?_suffix ha)
  refine ⟨?_, Nat.lt_of_lt_of_le hl ((afterSet?_suffix ha).trans (trimStart_suffix s)).length_le⟩
  obtain ⟨t, ht⟩ := hs'
  simp [← ht]

/-- The longest run of settings at the front of a text, and what follows it. -/
def readAll (s : Sql) : List Setting × Sql :=
  match _h : read? s with
  | some (x, rest) => (x :: (readAll rest).1, (readAll rest).2)
  | none => ([], s)
termination_by s.length
decreasing_by all_goals exact (read?_suffix _h).2

/-! ### Joining -/

/-- Settings behind those joined before. One that is there already is not repeated; one that
disagrees ends the joining, and what was joined until then stays. -/
def merge : List Setting → List Setting → List Setting × Option Unsupported
  | joined, [] => (joined, none)
  | joined, s :: rest =>
    match joined.find? fun t => t.name == s.name with
    | none => merge (joined ++ [s]) rest
    | some t =>
      if t.value = s.value then merge joined rest
      else (joined, some (.settingTwice (.ofList s.name) (.ofList t.value) (.ofList s.value)))

/-- Joins settings, or says which variable has two values. -/
def join (joined incoming : List Setting) : Except Unsupported (List Setting) :=
  match merge joined incoming with
  | (settings, none) => .ok settings
  | (_, some fault) => .error fault

end Setting

/-- Whether a text starts with the word SELECT. -/
def startsSelect (s : Sql) : Bool :=
  (s.take 6).map Char.toLower == "select".toList &&
    match s.drop 6 with
    | [] => true
    | c :: _ => !isWordPart c

/-- The settings in front of a query and the query. Without settings, or where no SELECT follows
them, the whole text is the query. -/
def splitPrelude (s : Sql) : List Setting × Sql :=
  let (settings, rest) := Setting.readAll s
  let body := Blank.trimStart rest
  if settings.isEmpty || !startsSelect body then ([], s) else (settings, body)

end BulkSql
