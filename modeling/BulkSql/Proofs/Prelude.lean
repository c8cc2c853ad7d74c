import BulkSql.Proofs.Atom
import BulkSql.Select

/-!
The settings in front of a written query are read back, and what follows them is its SELECT
statement.
-/
namespace BulkSql

open Lexeme
open Split (push_some)

namespace Setting

/-- A character of the name of a setting that holds a captured value. -/
def isPlainName (c : Char) : Bool := c == '.' || (isBareChar c && c != '$')

theorem isPlainName_cases {c : Char} (h : isPlainName c = true) :
    c = '.' ∨ c = '_' ∨ c.isLower = true ∨ c.isDigit = true := by
  simp only [isPlainName, isBareChar, Bool.or_eq_true, Bool.and_eq_true, beq_iff_eq,
    bne_iff_ne] at h
  rcases h with rfl | ⟨((rfl | rfl) | h) | h, ne⟩
  · exact .inl rfl
  · exact .inr (.inl rfl)
  · exact absurd rfl ne
  · exact .inr (.inr (.inl h))
  · exact .inr (.inr (.inr h))

theorem toNat_of_isLower {c : Char} (h : c.isLower = true) : 97 ≤ c.toNat ∧ c.toNat ≤ 122 := by
  simp only [Char.isLower, Bool.and_eq_true, decide_eq_true_eq] at h
  have first : 'a'.val.toNat = 97 := by decide
  have last : 'z'.val.toNat = 122 := by decide
  simp only [ge_iff_le, UInt32.le_iff_toNat_le] at h
  have : c.toNat = c.val.toNat := rfl
  omega

theorem toNat_of_isDigit {c : Char} (h : c.isDigit = true) : 48 ≤ c.toNat ∧ c.toNat ≤ 57 := by
  simp only [Char.isDigit, Bool.and_eq_true, decide_eq_true_eq] at h
  have first : '0'.val.toNat = 48 := by decide
  have last : '9'.val.toNat = 57 := by decide
  simp only [ge_iff_le, UInt32.le_iff_toNat_le] at h
  have : c.toNat = c.val.toNat := rfl
  omega

theorem toLower_of_not_isUpper {c : Char} (h : c.toNat < 65 ∨ 90 < c.toNat) : c.toLower = c := by
  unfold Char.toLower
  rw [dif_neg]
  rintro ⟨h1, h2⟩
  have first : 'A'.val.toNat = 65 := by decide
  have last : 'Z'.val.toNat = 90 := by decide
  simp only [ge_iff_le, UInt32.le_iff_toNat_le] at h1 h2
  have : c.toNat = c.val.toNat := rfl
  omega

theorem toLower_of_isLower {c : Char} (h : c.isLower = true) : c.toLower = c := by
  have := toNat_of_isLower h
  exact toLower_of_not_isUpper (.inr (by omega))

theorem toLower_of_isDigit {c : Char} (h : c.isDigit = true) : c.toLower = c := by
  have := toNat_of_isDigit h
  exact toLower_of_not_isUpper (.inl (by omega))

theorem isPlainName_props {c : Char} (h : isPlainName c = true) :
    isNameChar c = true ∧ isBlank c = false ∧ c.toLower = c := by
  rcases isPlainName_cases h with rfl | rfl | h | h
  · decide
  · decide
  · obtain ⟨lo, hi⟩ := toNat_of_isLower h
    refine ⟨?_, ?_, toLower_of_isLower h⟩
    · simp [isNameChar, isWordChar, Char.isAlphanum, Char.isAlpha, h, show c.toNat < 128 by omega]
    · simp [isBlank]
      omega
  · obtain ⟨lo, hi⟩ := toNat_of_isDigit h
    refine ⟨?_, ?_, toLower_of_isDigit h⟩
    · simp [isNameChar, isWordChar, Char.isAlphanum, h, show c.toNat < 128 by omega]
    · simp [isBlank]
      omega

theorem hasBareShape_of_isSettingName {name : String} (h : isSettingName name = true) :
    hasBareShape name.toList = true := by
  simp only [isSettingName, isBareName, Bool.and_eq_true] at h
  exact h.1.1

theorem isPlainName_of_isSettingName {name : String} (h : isSettingName name = true) :
    ∀ c ∈ name.toList, isPlainName c = true := by
  intro c hc
  have bare := isBareChar_of_hasBareShape (hasBareShape_of_isSettingName h) c hc
  simp only [isSettingName, Bool.and_eq_true, Bool.not_eq_true', List.contains_eq_mem,
    decide_eq_false_iff_not] at h
  have ne : c ≠ '$' := by
    rintro rfl
    exact h.2 hc
  simp [isPlainName, bare, ne]

theorem isPlainName_setting (space : SettingSpace) {name : String} (h : isSettingName name = true) :
    space.setting name.toList ≠ [] ∧ ∀ c ∈ space.setting name.toList, isPlainName c = true := by
  refine ⟨by simp [SettingSpace.setting], ?_⟩
  simp only [SettingSpace.setting, List.forall_mem_append, List.forall_mem_cons]
  exact ⟨isPlainName_of_isSettingName space.valid, rfl, isPlainName_of_isSettingName h⟩

theorem trimStart_cons {c : Char} (h : isBlank c = false) (r : Sql) :
    Blank.trimStart (c :: r) = c :: r := by simp [Blank.trimStart, h]

theorem trimStart_blank {c : Char} (h : isBlank c = true) (r : Sql) :
    Blank.trimStart (c :: r) = Blank.trimStart r := by simp [Blank.trimStart, h]

/-- The value of a line, and what follows the semicolon. -/
theorem assigned?_line (text rest : Sql) :
    assigned? (" = ".toList ++ (quoteLiteral text ++ ';' :: rest)) = some (quoteLiteral text, rest) := by
  have value : quotedTail '\'' false (Quoted.doubled '\'' text ++ ['\''] ++ ';' :: rest) =
      some (Quoted.doubled '\'' text ++ ['\''], ';' :: rest) :=
    quotedTail_append (by decide) (quotedTail_doubled '\'' text) (by simp)
  have assign : afterAssign? (" = ".toList ++ (quoteLiteral text ++ ';' :: rest)) =
      some (quoteLiteral text ++ ';' :: rest) := by
    simp [afterAssign?, Blank.trimStart, isBlank, quoteLiteral, Quoted.quote]
  have ends : afterEnd? (';' :: rest) = some rest := by
    simp [afterEnd?, Blank.trimStart, isBlank]
  have read : value? (quoteLiteral text ++ ';' :: rest) = some (quoteLiteral text, ';' :: rest) := by
    simp only [quoteLiteral, Quoted.quote, List.cons_append, value?, if_true, value, push_some]
  simp only [assigned?, assign, read, ends, Option.bind_eq_bind, Option.bind_some, Option.pure_def]

/-- The longest name in front of an assignment is the whole of it. -/
theorem named?_of_assigned? {name s value rest : Sql} (ne : name ≠ [])
    (h : assigned? s = some (value, rest)) : named? name.reverse s = some (name, value, rest) := by
  cases e : name.reverse with
  | nil => simp at e; exact absurd e ne
  | cons c cs =>
    rw [named?, h]
    simp [← e]

/-- A line that sets a variable is read as it was written. -/
theorem read?_line {name : Sql} (ne : name ≠ []) (h : ∀ c ∈ name, isPlainName c = true)
    (text rest : Sql) :
    read? (line name text ++ rest) = some (⟨name, quoteLiteral text, line name text⟩, rest) := by
  let tail := " = ".toList ++ (quoteLiteral text ++ ';' :: rest)
  have whole : line name text ++ rest = 'S' :: 'E' :: 'T' :: ' ' :: (name ++ tail) := by
    simp [line, tail]
  have start : Blank.trimStart (line name text ++ rest) = line name text ++ rest := by
    rw [whole]
    exact trimStart_cons rfl _
  have named : Blank.trimStart (name ++ tail) = name ++ tail := by
    obtain ⟨c, n, rfl⟩ := List.exists_cons_of_ne_nil ne
    exact trimStart_cons (isPlainName_props (h c (by simp))).2.1 _
  have set : afterSet? (line name text ++ rest) = some (name ++ tail) := by
    rw [whole]
    exact congrArg some named
  have all : ∀ c ∈ name, isNameChar c = true := fun c hc => (isPlainName_props (h c hc)).1
  have lower : name.map Char.toLower = name :=
    (List.map_congr_left fun c hc => (isPlainName_props (h c hc)).2.2).trans (List.map_id' _)
  have stop : isNameChar ' ' = false := by decide
  have front : (name ++ tail).takeWhile isNameChar = name := by
    rw [List.takeWhile_append_of_pos all]
    simp [tail, stop]
  have back : (name ++ tail).dropWhile isNameChar = tail := by
    rw [List.dropWhile_append_of_pos all]
    simp [tail, stop]
  have value := named?_of_assigned? ne (assigned?_line text rest)
  simp only [read?, start, set, front, back, value, Option.bind_eq_bind, Option.bind_some,
    Option.pure_def, lower, tail]
  simp

/-- A blank in front of a setting does not matter. -/
theorem read?_blank {c : Char} (h : isBlank c = true) (s : Sql) : read? (c :: s) = read? s := by
  simp only [read?, trimStart_blank h]

theorem readAll_some {s rest : Sql} {x : Setting} (h : read? s = some (x, rest)) :
    readAll s = (x :: (readAll rest).1, (readAll rest).2) := by
  rw [readAll]
  split <;> simp_all

theorem readAll_none {s : Sql} (h : read? s = none) : readAll s = ([], s) := by
  rw [readAll]
  split <;> simp_all

theorem readAll_blank {c : Char} (h : isBlank c = true) (s : Sql) :
    (readAll (c :: s)).1 = (readAll s).1 ∧
      Blank.trimStart (readAll (c :: s)).2 = Blank.trimStart (readAll s).2 := by
  cases e : read? s with
  | none =>
    rw [readAll_none e, readAll_none ((read?_blank h s).trans e)]
    exact ⟨rfl, trimStart_blank h s⟩
  | some x =>
    rw [readAll_some e, readAll_some ((read?_blank h s).trans e)]
    exact ⟨rfl, rfl⟩

/-- Lines in front of a text are read as they were written, up to the text. -/
theorem readAll_lines {xs : List (Sql × Sql)}
    (h : ∀ x ∈ xs, x.1 ≠ [] ∧ ∀ c ∈ x.1, isPlainName c = true) {s : Sql} (hs : read? s = none) :
    (readAll (xs.flatMap (fun x => line x.1 x.2 ++ ['\n']) ++ s)).1 =
        xs.map (fun x => ⟨x.1, quoteLiteral x.2, line x.1 x.2⟩) ∧
      Blank.trimStart (readAll (xs.flatMap (fun x => line x.1 x.2 ++ ['\n']) ++ s)).2 =
        Blank.trimStart s := by
  induction xs with
  | nil => simp [readAll_none hs]
  | cons x xs ih =>
    simp only [List.forall_mem_cons] at h
    obtain ⟨settings, rest⟩ := ih h.2
    have first := readAll_some (read?_line h.1.1 h.1.2 x.2
      ('\n' :: (xs.flatMap (fun x => line x.1 x.2 ++ ['\n']) ++ s)))
    obtain ⟨settings', rest'⟩ := readAll_blank (c := '\n') (by decide)
      (xs.flatMap (fun x => line x.1 x.2 ++ ['\n']) ++ s)
    have whole : (x :: xs).flatMap (fun x => line x.1 x.2 ++ ['\n']) ++ s = line x.1 x.2 ++
        '\n' :: (xs.flatMap (fun x => line x.1 x.2 ++ ['\n']) ++ s) := by simp
    rw [whole, first]
    exact ⟨by rw [settings', settings]; rfl, by rw [rest', rest]⟩

end Setting

/-! ### Written queries -/

namespace Visit

/-- A captured value that is read has a name that can be one of a setting. -/
def IsNamed (v : Visit) : Prop := ∀ name value, v = captured name value → isSettingName name = true

theorem isNamed_ofCaptured (name : String) (value : Value) :
    ∀ v ∈ ofCaptured name value, v.IsNamed := by
  unfold ofCaptured
  split
  · simp
  · dsimp only
    split
    · next h =>
      rintro v hv name value rfl
      obtain ⟨rfl, rfl⟩ : name = _ ∧ value = _ := by simpa using hv
      exact h
    · rintro v hv name value rfl
      simp at hv

mutual

theorem isNamed_ofExpr (entity : Entity) (e : Expr) : ∀ v ∈ ofExpr entity e, v.IsNamed := by
  cases e with
  | literal v => simp [ofExpr]
  | captured name v => exact isNamed_ofCaptured name v
  | field member =>
    unfold ofExpr ofField
    split
    · simp
    · rintro v hv name value rfl
      simp at hv
  | unary op x => exact isNamed_ofExpr entity x
  | binary op x y =>
    simp only [ofExpr, List.forall_mem_append]
    exact ⟨isNamed_ofExpr entity x, isNamed_ofExpr entity y⟩
  | call f args =>
    unfold ofExpr
    split
    · exact isNamed_ofExprs entity args
    · rintro v hv name value rfl
      simp at hv
  | inList x items negated =>
    unfold ofExpr
    split
    · simp
    · simp only [List.forall_mem_append]
      exact ⟨isNamed_ofExpr entity x, isNamed_ofExprs entity items⟩
  | init n bindings =>
    rintro v hv name value rfl
    simp [ofExpr] at hv

theorem isNamed_ofExprs (entity : Entity) (es : List Expr) :
    ∀ v ∈ ofExprs entity es, v.IsNamed := by
  cases es with
  | nil => simp [ofExprs]
  | cons x xs =>
    simp only [ofExprs, List.forall_mem_append]
    exact ⟨isNamed_ofExpr entity x, isNamed_ofExprs entity xs⟩

end

end Visit

namespace Captures

/-- A new name is put behind the others; an old one changes nothing. -/
theorem add_cases {cs ds : Captures} {name : String} {value : Value}
    (added : cs.add name value = .ok ds) :
    ((∀ c ∈ cs, c.1 ≠ name) ∧ ds = cs ++ [(name, value)]) ∨
      (∃ c ∈ cs, c.1 = name ∧ c.2.same value = true) ∧ ds = cs := by
  unfold add at added
  split at added
  · next fresh =>
    simp only [List.find?_eq_none, beq_iff_eq] at fresh
    exact .inl ⟨fresh, (Except.ok.inj added).symm⟩
  · next c earlier found =>
    split at added
    · next same =>
      have own : c = name := by simpa using List.find?_some found
      exact .inr ⟨⟨_, List.mem_of_find?_eq_some found, own, same⟩, (Except.ok.inj added).symm⟩
    · cases added

/-- What a use of a new name keeps, all visits keep. -/
theorem ofVisits_preserves {P : Captures → Prop} {vs : List Visit} {cs ds : Captures}
    (keeps : ∀ es name value, Visit.captured name value ∈ vs → P es → (∀ c ∈ es, c.1 ≠ name) →
      P (es ++ [(name, value)]))
    (start : P cs) (visited : cs.ofVisits vs = .ok ds) : P ds := by
  induction vs generalizing cs with
  | nil => exact Except.ok.inj visited ▸ start
  | cons v vs ih =>
    have later {es : Captures} (pes : P es) (rest : es.ofVisits vs = .ok ds) : P ds :=
      ih (fun es name value mem => keeps es name value (List.mem_cons_of_mem v mem)) pes rest
    cases v with
    | refused why => cases visited
    | captured name value =>
      obtain ⟨es, added, rest⟩ := bind_eq_ok_iff.1 visited
      obtain ⟨fresh, rfl⟩ | ⟨-, rfl⟩ := add_cases added
      · exact later (keeps cs name value List.mem_cons_self start fresh) rest
      · exact later start rest

end Captures

namespace Select

theorem isNamed_visits (entity : Entity) (q : Query) : ∀ v ∈ visits entity q, v.IsNamed := by
  simp only [visits, List.forall_mem_append, List.forall_mem_flatMap]
  refine ⟨?_, ?_, fun t _ => Visit.isNamed_ofExpr entity t.expr⟩
  · unfold projectionVisits
    split
    · simp
    · rintro v hv name value rfl
      simp at hv
    · exact Visit.isNamed_ofExpr entity _
  · cases q.filter? with
    | none => simp
    | some e => exact Visit.isNamed_ofExpr entity e

theorem isSettingName_of_ofVisits {vs : List Visit} (named : ∀ v ∈ vs, v.IsNamed)
    {captures : Captures} (h : Captures.ofVisits [] vs = .ok captures) :
    ∀ c ∈ captures, isSettingName c.1 = true := by
  refine Captures.ofVisits_preserves (P := fun cs => ∀ c ∈ cs, isSettingName c.1 = true)
    (fun cs name value mem old _ => ?_) (by simp) h
  simp only [List.forall_mem_append]
  exact ⟨old, by simpa using named _ mem name value rfl⟩

/-- The setting of a captured value. -/
def setting (space : SettingSpace) (c : String × Value) : Setting :=
  ⟨space.setting c.1.toList, quoteLiteral (c.2.text?.getD []),
    Setting.line (space.setting c.1.toList) (c.2.text?.getD [])⟩

/-- The text of a query is a statement, and starts with no setting. -/
theorem selects_text (s : TextScope) (q : Query) :
    Blank.trimStart (text s q) = text s q ∧ Setting.read? (text s q) = none ∧
      startsSelect (text s q) = true := by
  obtain ⟨rest, start⟩ : ∃ rest, text s q =
      'S' :: 'E' :: 'L' :: 'E' :: 'C' :: 'T' :: ' ' :: rest := ⟨_, rfl⟩
  rw [start]
  refine ⟨Setting.trimStart_cons (by decide) _, ?_, by simp [startsSelect, isWordPart]⟩
  simp [Setting.read?, Setting.trimStart_cons, isBlank, Setting.afterSet?, Setting.isLetter]

/-- The settings of captured values are read back in front of a statement. -/
theorem splitPrelude_preludeText {space : SettingSpace} {captures : Captures}
    (names : ∀ c ∈ captures, isSettingName c.1 = true) {select : Sql}
    (trimmed : Blank.trimStart select = select) (noSetting : Setting.read? select = none)
    (selects : startsSelect select = true) :
    splitPrelude (preludeText space captures ++ select) =
      (captures.map (setting space), select) := by
  let lines := captures.map fun c => (space.setting c.1.toList, c.2.text?.getD [])
  have plain : ∀ x ∈ lines, x.1 ≠ [] ∧ ∀ c ∈ x.1, Setting.isPlainName c = true := by
    intro x hx
    obtain ⟨c, hc, rfl⟩ := List.mem_map.1 hx
    exact Setting.isPlainName_setting space (names c hc)
  have prelude : preludeText space captures =
      lines.flatMap fun x => Setting.line x.1 x.2 ++ ['\n'] := by
    simp [preludeText, lines, List.flatMap_map]
  obtain ⟨settings, tail⟩ := Setting.readAll_lines plain noSetting
  rw [← prelude] at settings tail
  have read : (Setting.readAll (preludeText space captures ++ select)).1 =
      captures.map (setting space) := by
    rw [settings]
    simp [lines, setting]
  unfold splitPrelude
  cases captures with
  | nil => simp [preludeText, Setting.readAll_none noSetting]
  | cons c cs => simp [read, tail, trimmed, selects]

/-- The settings in front of a written query and its SELECT statement are told apart. -/
theorem splitPrelude_writer {space : SettingSpace} {entity : Entity} {q : Query} {sql : Sql}
    (h : writer space entity q = .ok sql) :
    ∃ captures, Captures.ofVisits [] (visits entity q) = .ok captures ∧
      splitPrelude sql = (captures.map (setting space), text (scope space entity) q) := by
  unfold writer at h
  cases e : Captures.ofVisits [] (visits entity q) with
  | error why => simp [e, bind, Except.bind] at h
  | ok captures =>
    obtain rfl : preludeText space captures ++ text (scope space entity) q = sql := by
      simpa [e, bind, Except.bind, pure, Except.pure] using h
    obtain ⟨trimmed, noSetting, selects⟩ := selects_text (scope space entity) q
    have names := isSettingName_of_ofVisits (isNamed_visits entity q) e
    exact ⟨captures, rfl, splitPrelude_preludeText names trimmed noSetting selects⟩

end Select

end BulkSql
