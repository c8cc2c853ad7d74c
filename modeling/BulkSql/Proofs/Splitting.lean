import BulkSql.Proofs.Prelude
import BulkSql.Proofs.Trimming

/-!
What the settings in front of a text are, and what follows them. A statement that sets a variable
ends at the first semicolon outside of quotes, however its name and its value are told apart. So the
statements in front of a text are the same for every way to read them, and the longest run of them
continues every other one.
-/
namespace BulkSql

open Lexeme
open Split (push_eq_some_iff)

/-- Some blanks. -/
def IsBlanks (s : Sql) : Prop := ∀ c ∈ s, isBlank c = true

namespace Blank

theorem trimStart_append {gap : Sql} (h : IsBlanks gap) (s : Sql) :
    trimStart (gap ++ s) = trimStart s := List.dropWhile_append_of_pos h

theorem exists_trimStart (s : Sql) : ∃ gap, s = gap ++ trimStart s ∧ IsBlanks gap :=
  ⟨s.takeWhile isBlank, List.takeWhile_append_dropWhile.symm, fun _ => List.mem_takeWhile_imp⟩

end Blank

/-- The text starts with a character, which is no blank. -/
def IsFlush (s : Sql) : Prop := ∃ c r, s = c :: r ∧ isBlank c = false

theorem IsFlush.trimStart_append {s : Sql} (h : IsFlush s) (r : Sql) :
    Blank.trimStart (s ++ r) = s ++ r := by
  obtain ⟨c, t, rfl, solid⟩ := h
  exact Setting.trimStart_cons solid (t ++ r)

theorem IsFlush.of_front {s t : Sql} (h : IsFlush s) (front : t <+: s) (ne : t ≠ []) :
    IsFlush t := by
  obtain ⟨c, r, rfl, solid⟩ := h
  obtain ⟨d, t, rfl⟩ := List.exists_cons_of_ne_nil ne
  exact ⟨d, t, rfl, (List.cons_prefix_cons.1 front).1 ▸ solid⟩

theorem Blank.isFlush_trimStart {s : Sql} (ne : trimStart s ≠ []) : IsFlush (trimStart s) :=
  ⟨_, _, (List.cons_head_tail ne).symm, List.head_dropWhile_not isBlank ne⟩

namespace Setting

/-! ### Statements that set a variable -/

/-- The word SET, in any case. -/
def IsSet (word : Sql) : Prop :=
  ∃ s e t, word = [s, e, t] ∧ isLetter 's' s = true ∧ isLetter 'e' e = true ∧ isLetter 't' t = true

/-- The sign `=` or the word TO, in any case. -/
def IsAssign (sign : Sql) : Prop :=
  sign = ['='] ∨ ∃ t o, sign = [t, o] ∧ isLetter 't' t = true ∧ isLetter 'o' o = true

/-- A quoted text, or characters of which none is a quote, a semicolon or a blank. -/
def IsValue (value : Sql) : Prop :=
  (∃ text, value = quoteLiteral text) ∨ value ≠ [] ∧ ∀ c ∈ value, isPlain c = true

def IsName (name : Sql) : Prop := name ≠ [] ∧ ∀ c ∈ name, isNameChar c = true

/-- What stands behind the name of a variable that is set to a value. -/
def Assigns (value tail : Sql) : Prop :=
  ∃ gap sign gap' last, tail = gap ++ (sign ++ (gap' ++ (value ++ (last ++ [';'])))) ∧
    IsBlanks gap ∧ IsAssign sign ∧ IsBlanks gap' ∧ IsValue value ∧ IsBlanks last

/-- A statement that sets a variable to a value. -/
def Sets (name value statement : Sql) : Prop :=
  ∃ word gap tail, statement = word ++ (gap ++ (name ++ tail)) ∧ IsSet word ∧ gap ≠ [] ∧
    IsBlanks gap ∧ IsName name ∧ Assigns value tail

/-- Statements that set variables stand in front of a text, with blanks before each of them; `rest`
follows the last one. -/
inductive Leads : List Sql → Sql → Sql → Prop
  | nil (s : Sql) : Leads [] s s
  | cons {gap name value statement s rest : Sql} {run : List Sql} (blanks : IsBlanks gap)
      (sets : Sets name value statement) (later : Leads run s rest) :
      Leads (statement :: run) (gap ++ (statement ++ s)) rest

variable {s r name value statement tail rest : Sql} {c : Char}

theorem getLast?_of_sets (h : Sets name value statement) : statement.getLast? = some ';' := by
  obtain ⟨word, gap, tail, rfl, -, -, -, -, gap₁, sign, gap₂, gap₃, rfl, -⟩ := h
  simp [← List.append_assoc]

theorem infix_of_sets (h : Sets name value statement) : value <:+: statement := by
  obtain ⟨word, gap, tail, rfl, -, -, -, -, gap₁, sign, gap₂, gap₃, rfl, -⟩ := h
  exact ⟨word ++ (gap ++ (name ++ (gap₁ ++ (sign ++ gap₂)))), gap₃ ++ [';'], by simp⟩

/-! ### Characters -/

theorem isLetter_cases {lower : Char} (alpha : lower.isAlpha = true)
    (h : isLetter lower c = true) : c.isAlphanum = true ∨ c = 'ſ' := by
  simp only [isLetter, Bool.or_eq_true, beq_iff_eq, Bool.and_eq_true] at h
  rcases h with rfl | ⟨-, rfl⟩
  · rw [Char.isAlpha_toLower_eq_isAlpha] at alpha
    exact .inl (by simp [Char.isAlphanum, alpha])
  · exact .inr rfl

/-- A letter of a keyword is no blank and no sign. -/
theorem isLetter_props {lower : Char} (alpha : lower.isAlpha = true)
    (h : isLetter lower c = true) : isBlank c = false ∧ c ≠ '\'' ∧ c ≠ ';' ∧ c ≠ '=' := by
  rcases isLetter_cases alpha h with alphanum | rfl
  · refine ⟨not_isBlank_of_isAlphanum alphanum, ?_, ?_, ?_⟩ <;>
      · rintro rfl
        cases alphanum
  · decide

/-- A character of a name is no blank: none of the ranges of word characters has one. -/
theorem not_isBlank_of_isNameChar (h : isNameChar c = true) : isBlank c = false := by
  simp only [isNameChar, Bool.or_eq_true, beq_iff_eq] at h
  rcases h with (rfl | rfl) | word
  · decide
  · decide
  · unfold isWordChar at word
    split at word
    · simp only [Bool.or_eq_true, beq_iff_eq] at word
      rcases word with alphanum | rfl
      · exact not_isBlank_of_isAlphanum alphanum
      · decide
    · next wide =>
      have apart : ∀ n ∈ [0x85, 0xA0, 0x1680, 0x2028, 0x2029, 0x202F, 0x205F, 0x3000] ++
          List.range' 0x2000 11, inRanges Word.ranges n = false := by decide +kernel
      refine Bool.eq_false_iff.2 fun blank => ?_
      have mem : c.toNat ∈ [0x85, 0xA0, 0x1680, 0x2028, 0x2029, 0x202F, 0x205F, 0x3000] ++
          List.range' 0x2000 11 := by
        simp only [isBlank, Bool.or_eq_true, Bool.and_eq_true, beq_iff_eq,
          decide_eq_true_eq] at blank
        simp only [List.mem_append, List.mem_cons, List.not_mem_nil, List.mem_range'_1, or_false]
        omega
      rw [apart _ mem] at word
      cases word

/-! ### What is read is a statement -/

theorem afterAssign?_eq_some (h : afterAssign? s = some r) :
    ∃ gap sign gap', s = gap ++ (sign ++ (gap' ++ r)) ∧ IsBlanks gap ∧ IsAssign sign ∧
      IsBlanks gap' := by
  obtain ⟨gap, e, blanks⟩ := Blank.exists_trimStart s
  unfold afterAssign? at h
  split at h
  · cases h
  · next c rest start =>
    rw [start] at e
    split at h
    · next equals =>
      cases h
      obtain ⟨gap', e', blanks'⟩ := Blank.exists_trimStart rest
      exact ⟨gap, ['='], gap', by rw [List.singleton_append, ← e', ← equals, e], blanks, .inl rfl,
        blanks'⟩
    · split at h
      · cases h
      · next d rest =>
        split at h
        · next letters =>
          cases h
          rw [Bool.and_eq_true] at letters
          obtain ⟨gap', e', blanks'⟩ := Blank.exists_trimStart rest
          exact ⟨gap, [c, d], gap', by rw [← e', e]; rfl, blanks,
            .inr ⟨c, d, rfl, letters⟩, blanks'⟩
        · cases h

/-- A quoted text that is read has no quote in it that is not doubled. -/
theorem exists_doubled_of_quotedTail {q : Char} {t : Sql} (h : quotedTail q false s = some (t, r)) :
    ∃ text, t = Quoted.doubled q text ++ [q] := by
  fun_induction quotedTail q false s generalizing t with
  | case1 => cases h
  | case2 =>
    cases h
    exact ⟨[], rfl⟩
  | case3 => cases h
  | case4 _ _ _ escaped => cases escaped
  | case5 _ _ ih =>
    obtain ⟨u, rfl, hu⟩ := push_eq_some_iff.1 h
    obtain ⟨v, rfl, hv⟩ := push_eq_some_iff.1 hu
    obtain ⟨text, rfl⟩ := ih hv
    exact ⟨q :: text, by rw [Quoted.doubled_cons_self]; rfl⟩
  | case6 =>
    cases h
    exact ⟨[], rfl⟩
  | case7 c _ _ _ other ih =>
    obtain ⟨u, rfl, hu⟩ := push_eq_some_iff.1 h
    obtain ⟨text, rfl⟩ := ih hu
    exact ⟨c :: text, by rw [Quoted.doubled_cons_of_ne other]; rfl⟩

theorem isValue_of_value? (h : value? s = some (value, r)) : IsValue value := by
  unfold value? at h
  split at h
  · cases h
  · next c rest =>
    split at h
    · next quote =>
      obtain ⟨t, rfl, ht⟩ := push_eq_some_iff.1 h
      obtain ⟨text, rfl⟩ := exists_doubled_of_quotedTail ht
      exact .inl ⟨text, by rw [quote]; rfl⟩
    · split at h
      · next plain =>
        cases h
        exact .inr ⟨by simp, List.forall_mem_cons.2 ⟨plain, fun _ => List.mem_takeWhile_imp⟩⟩
      · cases h

theorem exists_of_afterEnd? (h : afterEnd? s = some r) :
    ∃ gap, s = gap ++ ';' :: r ∧ IsBlanks gap := by
  obtain ⟨gap, e, blanks⟩ := Blank.exists_trimStart s
  unfold afterEnd? at h
  split at h
  · cases h
  · next c rest start =>
    split at h
    · next ends =>
      cases h
      exact ⟨gap, by rw [e, start, ends], blanks⟩
    · cases h

theorem exists_of_assigned? (h : assigned? s = some (value, r)) :
    ∃ tail, s = tail ++ r ∧ Assigns value tail := by
  obtain ⟨a, b, assign, read, ends⟩ := assigned?_eq_some h
  obtain ⟨gap, sign, gap', rfl, blanks, signs, blanks'⟩ := afterAssign?_eq_some assign
  obtain ⟨last, rfl, ending⟩ := exists_of_afterEnd? ends
  obtain rfl := value?_covers a value _ read
  exact ⟨gap ++ (sign ++ (gap' ++ (value ++ (last ++ [';'])))), by simp,
    gap, sign, gap', last, rfl, blanks, signs, blanks', isValue_of_value? read, ending⟩

theorem exists_of_named? {cs : Sql} (h : named? cs s = some (name, value, r)) :
    ∃ more, cs.reverse = name ++ more ∧ name ≠ [] ∧ assigned? (more ++ s) = some (value, r) := by
  induction cs generalizing s with
  | nil => cases h
  | cons c cs ih =>
    rw [named?] at h
    split at h
    · next v rest found =>
      cases h
      exact ⟨[], by simp, by simp, found⟩
    · obtain ⟨more, front, ne, found⟩ := ih h
      exact ⟨more ++ [c], by simp [front], ne, by simpa using found⟩

theorem exists_of_afterSet? (h : afterSet? s = some r) :
    ∃ word gap, s = word ++ (gap ++ r) ∧ IsSet word ∧ gap ≠ [] ∧ IsBlanks gap := by
  unfold afterSet? at h
  split at h
  · next a b c d rest =>
    split at h
    · next letters =>
      cases h
      simp only [Bool.and_eq_true] at letters
      obtain ⟨⟨⟨s, e⟩, t⟩, blank⟩ := letters
      obtain ⟨gap, split, blanks⟩ := Blank.exists_trimStart rest
      exact ⟨[a, b, c], d :: gap, congrArg (a :: b :: c :: d :: ·) split, ⟨a, b, c, rfl, s, e, t⟩,
        by simp, List.forall_mem_cons.2 ⟨blank, blanks⟩⟩
    · cases h
  · cases h

/-- What is read off the front of a text is a statement that sets a variable. -/
theorem exists_of_read? {x : Setting} (h : read? s = some (x, r)) :
    Blank.trimStart s = x.statement ++ r ∧
      ∃ name, x.name = name.map Char.toLower ∧ Sets name x.value x.statement := by
  have whole := (read?_suffix h).1.symm
  refine ⟨whole, ?_⟩
  simp only [read?, Option.bind_eq_bind, Option.bind_eq_some_iff, Option.pure_def,
    Option.some.injEq, Prod.exists, Prod.mk.injEq] at h
  obtain ⟨named, set, name, value, rest, found, rfl, rfl⟩ := h
  obtain ⟨word, gap, text, isSet, ne, blanks⟩ := exists_of_afterSet? set
  obtain ⟨more, front, some, assigned⟩ := exists_of_named? found
  obtain ⟨tail, behind, assigns⟩ := exists_of_assigned? assigned
  refine ⟨name, rfl, word, gap, tail, ?_, isSet, ne, blanks, ⟨some, fun c hc => ?_⟩, assigns⟩
  · rw [← List.takeWhile_append_dropWhile (p := isNameChar) (l := named), ← List.reverse_reverse
      (named.takeWhile isNameChar), front, List.append_assoc, behind] at text
    refine (List.append_left_inj rest).1 ?_
    rw [← whole, text]
    simp
  · rw [List.reverse_reverse] at front
    exact List.mem_takeWhile_imp (front ▸ List.mem_append_left more hc)

/-! ### Every statement is read -/

theorem IsValue.isFlush (h : IsValue value) : IsFlush value := by
  rcases h with ⟨text, rfl⟩ | ⟨ne, plain⟩
  · exact ⟨'\'', _, rfl, by decide⟩
  · obtain ⟨c, r, rfl⟩ := List.exists_cons_of_ne_nil ne
    have solid := plain c List.mem_cons_self
    simp only [isPlain, Bool.and_eq_true, Bool.not_eq_true'] at solid
    exact ⟨c, r, rfl, solid.2⟩

theorem IsName.isFlush (h : IsName name) : IsFlush name := by
  obtain ⟨c, r, rfl⟩ := List.exists_cons_of_ne_nil h.1
  exact ⟨c, r, rfl, not_isBlank_of_isNameChar (h.2 c List.mem_cons_self)⟩

theorem IsSet.isFlush {word : Sql} (h : IsSet word) : IsFlush word := by
  obtain ⟨s, e, t, rfl, hs, -, -⟩ := h
  exact ⟨s, [e, t], rfl, (isLetter_props (by decide) hs).1⟩

theorem afterAssign?_of_isAssign {gap sign gap' : Sql} (blanks : IsBlanks gap)
    (signs : IsAssign sign) (blanks' : IsBlanks gap') (start : IsFlush value) (r : Sql) :
    afterAssign? (gap ++ (sign ++ (gap' ++ (value ++ r)))) = some (value ++ r) := by
  have tail : Blank.trimStart (gap' ++ (value ++ r)) = value ++ r := by
    rw [Blank.trimStart_append blanks', start.trimStart_append]
  rw [afterAssign?, Blank.trimStart_append blanks]
  rcases signs with rfl | ⟨t, o, rfl, ht, ho⟩
  · rw [List.singleton_append, trimStart_cons (by decide)]
    exact congrArg some tail
  · obtain ⟨solid, -, -, other⟩ := isLetter_props (by decide) ht
    rw [List.cons_append, trimStart_cons solid]
    simp [other, ht, ho, tail]

/-- A value ends at a blank or a semicolon. -/
theorem value?_append (h : IsValue value) (stop : ∀ c ∈ r.head?, c = ';' ∨ isBlank c = true) :
    value? (value ++ r) = some (value, r) := by
  rcases h with ⟨text, rfl⟩ | ⟨ne, plain⟩
  · have ends : r.head? ≠ some '\'' := fun quote => by
      rcases stop '\'' quote with e | blank
      · cases e
      · cases blank
    have tail := quotedTail_append (by decide) (quotedTail_doubled '\'' text) ends
    rw [quoteLiteral, Quoted.quote, List.cons_append, value?, if_pos rfl, tail]
    rfl
  · have stops : ∀ c ∈ r.head?, isPlain c = false := fun c hc => by
      rcases stop c hc with rfl | blank
      · rfl
      · simp [isPlain, blank]
    have run : r.takeWhile isPlain = [] ∧ r.dropWhile isPlain = r := by
      cases r with
      | nil => exact ⟨rfl, rfl⟩
      | cons c r => simp [stops c rfl]
    obtain ⟨c, v, rfl⟩ := List.exists_cons_of_ne_nil ne
    rw [List.forall_mem_cons] at plain
    have other : c ≠ '\'' := by
      rintro rfl
      cases plain.1
    rw [List.cons_append, value?, if_neg other, if_pos plain.1,
      List.takeWhile_append_of_pos plain.2, List.dropWhile_append_of_pos plain.2, run.1, run.2,
      List.append_nil]

theorem afterEnd?_append {gap : Sql} (blanks : IsBlanks gap) (r : Sql) :
    afterEnd? (gap ++ ';' :: r) = some r := by
  rw [afterEnd?, Blank.trimStart_append blanks, trimStart_cons (by decide)]
  rfl

theorem assigned?_append (h : Assigns value tail) (r : Sql) :
    assigned? (tail ++ r) = some (value, r) := by
  obtain ⟨gap, sign, gap', last, rfl, blanks, signs, blanks', isValue, ending⟩ := h
  have assign := afterAssign?_of_isAssign blanks signs blanks' isValue.isFlush (last ++ ';' :: r)
  have read : value? (value ++ (last ++ ';' :: r)) = some (value, last ++ ';' :: r) := by
    refine value?_append isValue fun c hc => ?_
    cases last with
    | nil => exact .inl (Option.some.inj hc).symm
    | cons d last =>
      obtain rfl : d = c := Option.some.inj hc
      exact .inr (ending d List.mem_cons_self)
  have whole : gap ++ (sign ++ (gap' ++ (value ++ (last ++ [';'])))) ++ r =
      gap ++ (sign ++ (gap' ++ (value ++ (last ++ ';' :: r)))) := by simp
  simp only [assigned?, whole, assign, read, afterEnd?_append ending r, Option.bind_eq_bind,
    Option.bind_some, Option.pure_def]

theorem afterSet?_of_isSet {word gap : Sql} (h : IsSet word) (ne : gap ≠ []) (blanks : IsBlanks gap)
    (start : IsFlush name) (r : Sql) :
    afterSet? (word ++ (gap ++ (name ++ r))) = some (name ++ r) := by
  obtain ⟨s, e, t, rfl, hs, he, ht⟩ := h
  obtain ⟨c, gap, rfl⟩ := List.exists_cons_of_ne_nil ne
  have blanks := List.forall_mem_cons.1 blanks
  simp [afterSet?, hs, he, ht, blanks.1, Blank.trimStart_append blanks.2, start.trimStart_append]

/-- A name is found if some name has an assignment behind it. -/
theorem isSome_named? {front back : Sql} (ne : front ≠ [])
    (h : (assigned? (back.reverse ++ s)).isSome) : (named? (back ++ front) s).isSome := by
  induction back generalizing s with
  | nil =>
    obtain ⟨c, cs, rfl⟩ := List.exists_cons_of_ne_nil ne
    obtain ⟨⟨value, rest⟩, found⟩ := Option.isSome_iff_exists.1 h
    rw [List.nil_append, named?]
    simp only [List.reverse_nil, List.nil_append] at found
    simp [found]
  | cons c back ih =>
    rw [List.cons_append, named?]
    cases assigned? s with
    | some found => rfl
    | none => exact ih (by simpa using h)

/-! ### The end of a statement -/

/-- What follows the first semicolon outside of quotes. -/
def behind? : (quoted : Bool) → Sql → Option Sql
  | _, [] => none
  | quoted, c :: r =>
    if c = '\'' then behind? (!quoted) r
    else if c = ';' ∧ quoted = false then some r else behind? quoted r

theorem behind?_append {part : Sql} (h : ∀ c ∈ part, c ≠ '\'' ∧ c ≠ ';') (r : Sql) :
    behind? false (part ++ r) = behind? false r := by
  induction part with
  | nil => rfl
  | cons c part ih =>
    rw [List.forall_mem_cons] at h
    simp [behind?, h.1, ih h.2]

theorem behind?_of_blanks {gap : Sql} (h : IsBlanks gap) (r : Sql) :
    behind? false (gap ++ r) = behind? false r := by
  refine behind?_append (fun c hc => ?_) r
  have blank := h c hc
  constructor <;>
    · rintro rfl
      cases blank

theorem behind?_doubled (text r : Sql) :
    behind? true (Quoted.doubled '\'' text ++ '\'' :: r) = behind? false r := by
  induction text with
  | nil => simp [behind?]
  | cons c text ih =>
    by_cases quote : c = '\''
    · subst quote
      simp [Quoted.doubled_cons_self, behind?, ih]
    · simp [Quoted.doubled_cons_of_ne quote, behind?, quote, ih]

theorem behind?_of_isValue (h : IsValue value) (r : Sql) :
    behind? false (value ++ r) = behind? false r := by
  rcases h with ⟨text, rfl⟩ | ⟨-, plain⟩
  · simp [quoteLiteral, Quoted.quote, behind?, behind?_doubled]
  · refine behind?_append (fun c hc => ?_) r
    have own := plain c hc
    simp only [isPlain, Bool.and_eq_true, bne_iff_ne] at own
    exact ⟨own.1.2, own.1.1⟩

theorem behind?_of_isAssign {sign : Sql} (h : IsAssign sign) (r : Sql) :
    behind? false (sign ++ r) = behind? false r := by
  rcases h with rfl | ⟨t, o, rfl, ht, ho⟩
  · rfl
  · obtain ⟨-, ht₁, ht₂, -⟩ := isLetter_props (by decide) ht
    obtain ⟨-, ho₁, ho₂, -⟩ := isLetter_props (by decide) ho
    exact behind?_append (by simp [ht₁, ht₂, ho₁, ho₂]) r

/-- A statement ends at the first semicolon that is not quoted. -/
theorem behind?_of_sets (h : Sets name value statement) (r : Sql) :
    behind? false (statement ++ r) = some r := by
  obtain ⟨word, gap, tail, rfl, ⟨s, e, t, rfl, hs, he, ht⟩, -, blanks, isName, gap₁, sign, gap₂,
    gap₃, rfl, blanks₁, signs, blanks₂, isValue, blanks₃⟩ := h
  have letters : ∀ c ∈ [s, e, t], c ≠ '\'' ∧ c ≠ ';' := by
    obtain ⟨-, hs₁, hs₂, -⟩ := isLetter_props (by decide) hs
    obtain ⟨-, he₁, he₂, -⟩ := isLetter_props (by decide) he
    obtain ⟨-, ht₁, ht₂, -⟩ := isLetter_props (by decide) ht
    simp [hs₁, hs₂, he₁, he₂, ht₁, ht₂]
  have names : ∀ c ∈ name, c ≠ '\'' ∧ c ≠ ';' := fun c hc => by
    have own := isName.2 c hc
    constructor <;>
      · rintro rfl
        cases own
  simp only [List.append_assoc, behind?_append letters, behind?_of_blanks blanks,
    behind?_append names, behind?_of_blanks blanks₁, behind?_of_isAssign signs,
    behind?_of_blanks blanks₂, behind?_of_isValue isValue, behind?_of_blanks blanks₃]
  rfl

/-- Where a statement that sets a variable stands in front, some setting is read: the search for a
name comes to the name of the statement, if it does not stop before. -/
theorem isSome_read? (start : Blank.trimStart s = statement ++ r) (h : Sets name value statement) :
    (read? s).isSome := by
  obtain ⟨word, gap, tail, rfl, isSet, ne, blanks, isName, assigns⟩ := h
  have set := afterSet?_of_isSet isSet ne blanks isName.isFlush (tail ++ r)
  have whole : word ++ (gap ++ (name ++ tail)) ++ r = word ++ (gap ++ (name ++ (tail ++ r))) := by
    simp
  have assigned : (assigned? (((tail ++ r).takeWhile isNameChar).reverse.reverse ++
      (tail ++ r).dropWhile isNameChar)).isSome := by
    rw [List.reverse_reverse, List.takeWhile_append_dropWhile, assigned?_append assigns]
    rfl
  have named := isSome_named? (List.reverse_ne_nil_iff.2 isName.1) assigned
  rw [← List.reverse_append, ← List.takeWhile_append_of_pos isName.2,
    ← List.dropWhile_append_of_pos isName.2] at named
  obtain ⟨found, e⟩ := Option.isSome_iff_exists.1 named
  rw [read?, start, whole, set]
  simp [e]

/-- A statement that sets a variable is read off the front of a text, behind blanks. -/
theorem read?_of_sets {gap : Sql} (blanks : IsBlanks gap) (h : Sets name value statement)
    (r : Sql) : ∃ x, read? (gap ++ (statement ++ r)) = some (x, r) ∧ x.statement = statement := by
  have ends := behind?_of_sets h r
  have start : Blank.trimStart (gap ++ (statement ++ r)) = statement ++ r := by
    obtain ⟨word, gap', tail, rfl, isSet, -⟩ := h
    rw [Blank.trimStart_append blanks, List.append_assoc, isSet.isFlush.trimStart_append]
  obtain ⟨⟨x, rest⟩, found⟩ := Option.isSome_iff_exists.1 (isSome_read? start h)
  obtain ⟨whole, own, -, sets⟩ := exists_of_read? found
  -- both statements end at the same semicolon
  rw [start] at whole
  rw [whole, behind?_of_sets sets] at ends
  obtain rfl := Option.some.inj ends
  exact ⟨x, found, (List.append_cancel_right whole).symm⟩

/-! ### Runs -/

/-- The settings that are read stand in front of the text. -/
theorem leads_readAll (s : Sql) :
    Leads ((readAll s).1.map Setting.statement) s (readAll s).2 := by
  fun_induction readAll s with
  | case1 s x rest found ih =>
    obtain ⟨whole, name, -, sets⟩ := exists_of_read? found
    obtain ⟨gap, e, blanks⟩ := Blank.exists_trimStart s
    rw [e, whole]
    exact .cons blanks sets ih
  | case2 s none => exact .nil s

/-- What is read continues every run of statements in front of the text. -/
theorem Leads.exists_more {run : List Sql} (h : Leads run s rest) :
    ∃ more, (readAll s).1.map Setting.statement = run ++ more ∧ Leads more rest (readAll s).2 := by
  induction h with
  | nil s => exact ⟨_, rfl, leads_readAll s⟩
  | @cons gap name value statement s rest run blanks sets later ih =>
    obtain ⟨more, front, continues⟩ := ih
    obtain ⟨x, found, rfl⟩ := read?_of_sets blanks sets s
    rw [readAll_some found]
    exact ⟨more, congrArg (x.statement :: ·) front, continues⟩

/-- The longest run of statements in front of a text: it continues every other one. -/
def IsLongest (run : List Sql) (s rest : Sql) : Prop :=
  Leads run s rest ∧ ∀ run' rest', Leads run' s rest' →
    ∃ more, run = run' ++ more ∧ Leads more rest' rest

theorem isLongest_readAll (s : Sql) :
    IsLongest ((readAll s).1.map Setting.statement) s (readAll s).2 :=
  ⟨leads_readAll s, fun _ _ h => h.exists_more⟩

/-- What is read of a setting is part of its statement. -/
theorem sets_of_mem_readAll {x : Setting} (h : x ∈ (readAll s).1) :
    ∃ name, x.name = name.map Char.toLower ∧ Sets name x.value x.statement := by
  fun_induction readAll s with
  | case1 s y rest found ih =>
    rcases List.mem_cons.1 h with rfl | later
    · exact (exists_of_read? found).2
    · exact ih later
  | case2 => cases h

end Setting

/-! ### The word SELECT -/

/-- The text starts with the word SELECT, in any case. -/
def Selects (s : Sql) : Prop :=
  ∃ word rest, s = word ++ rest ∧ word.map Char.toLower = "select".toList ∧
    ∀ c ∈ rest.head?, isWordPart c = false

/-- Behind blanks the text starts with the word SELECT. -/
def SelectFollows (s : Sql) : Prop := ∃ gap body, s = gap ++ body ∧ IsBlanks gap ∧ Selects body

theorem startsSelect_iff {s : Sql} : startsSelect s = true ↔ Selects s := by
  rw [startsSelect, Bool.and_eq_true, beq_iff_eq]
  constructor
  · rintro ⟨word, stop⟩
    refine ⟨s.take 6, s.drop 6, (List.take_append_drop 6 s).symm, word, fun c hc => ?_⟩
    obtain ⟨r, behind⟩ := List.head?_eq_some_iff.1 hc
    rw [behind] at stop
    simpa using stop
  · rintro ⟨word, rest, rfl, select, stop⟩
    have six : word.length = 6 := by simpa using congrArg List.length select
    rw [← six, List.take_left, List.drop_left]
    refine ⟨select, ?_⟩
    cases rest with
    | nil => rfl
    | cons c rest => simp [stop c rfl]

/-- A text whose third letter is that of SELECT starts with no setting. -/
theorem Setting.read?_of_select {word : Sql} (select : word.map Char.toLower = "select".toList)
    (rest : Sql) : Blank.trimStart (word ++ rest) = word ++ rest ∧ read? (word ++ rest) = none := by
  have letters : "select".toList = ['s', 'e', 'l', 'e', 'c', 't'] := rfl
  rw [letters] at select
  obtain ⟨s, w, rfl, hs, select⟩ := List.map_eq_cons_iff.1 select
  obtain ⟨e, w, rfl, -, select⟩ := List.map_eq_cons_iff.1 select
  obtain ⟨l, w, rfl, hl, -⟩ := List.map_eq_cons_iff.1 select
  have first : isLetter 's' s = true := by simp [isLetter, hs]
  have solid : isBlank s = false := (isLetter_props (by decide) first).1
  have other : isLetter 't' l = false := by simp [isLetter, hl]
  have start := trimStart_cons solid (e :: l :: w ++ rest)
  refine ⟨start, ?_⟩
  have set : afterSet? (s :: e :: l :: (w ++ rest)) = none := by
    cases w ++ rest <;> simp [afterSet?, other]
  simp only [read?, List.cons_append] at start ⊢
  rw [start, set]
  rfl

theorem splitPrelude_of_read? {s : Sql} (h : Setting.read? s = none) :
    splitPrelude s = ([], s) := by
  simp [splitPrelude, Setting.readAll_none h]

theorem selectFollows_iff {s : Sql} :
    SelectFollows s ↔ startsSelect (Blank.trimStart s) = true := by
  rw [startsSelect_iff]
  constructor
  · rintro ⟨gap, body, rfl, blanks, select⟩
    rw [Blank.trimStart_append blanks]
    obtain ⟨word, rest, rfl, letters, stop⟩ := select
    rw [(Setting.read?_of_select letters rest).1]
    exact ⟨word, rest, rfl, letters, stop⟩
  · intro select
    obtain ⟨gap, e, blanks⟩ := Blank.exists_trimStart s
    exact ⟨gap, _, e, blanks, select⟩

instance (s : Sql) : Decidable (SelectFollows s) := decidable_of_iff _ selectFollows_iff.symm

/-- The settings in front of a text are told apart from it if there are some and SELECT follows. -/
theorem splitPrelude_eq (s : Sql) :
    splitPrelude s =
      if (Setting.readAll s).1 = [] ∨ ¬ SelectFollows (Setting.readAll s).2 then ([], s)
      else ((Setting.readAll s).1, Blank.trimStart (Setting.readAll s).2) := by
  simp [selectFollows_iff, splitPrelude, List.isEmpty_iff]

/-- Nothing of a text is lost when the settings in front of it are told apart. Where there are none,
or SELECT does not follow the longest run of them, and only then, the whole text is the query and no
settings are told apart. Otherwise that run is what is told apart, but for the blanks before each
statement and behind the last one, and what is left has no settings in front. -/
theorem splitPrelude_cases (s : Sql) :
    ∃ run rest, Setting.IsLongest run s rest ∧
      (splitPrelude s = ([], s) ↔ run = [] ∨ ¬ SelectFollows rest) ∧
      (splitPrelude s = ([], s) ∨
        ∃ settings body gap, splitPrelude s = (settings, body) ∧ settings ≠ [] ∧
          settings.map Setting.statement = run ∧ rest = gap ++ body ∧ IsBlanks gap ∧
          (∀ x ∈ settings, x.statement.getLast? = some ';' ∧ x.value <:+: x.statement ∧
            ∃ name, x.name = name.map Char.toLower ∧ Setting.Sets name x.value x.statement) ∧
          Selects body ∧ splitPrelude body = ([], body)) := by
  refine ⟨_, _, Setting.isLongest_readAll s, ?_⟩
  rw [splitPrelude_eq, List.map_eq_nil_iff]
  split
  · next whole => exact ⟨iff_of_true rfl whole, .inl rfl⟩
  · next split =>
    have told : (Setting.readAll s).1 ≠ [] := fun none => split (.inl none)
    refine ⟨iff_of_false (fun whole => told (Prod.mk.inj whole).1) split, .inr ?_⟩
    obtain ⟨gap, e, blanks⟩ := Blank.exists_trimStart (Setting.readAll s).2
    rw [not_or, not_not] at split
    have selects := startsSelect_iff.1 (selectFollows_iff.1 split.2)
    refine ⟨_, _, gap, rfl, told, rfl, e, blanks, fun x hx => ?_, selects, ?_⟩
    · obtain ⟨name, lower, sets⟩ := Setting.sets_of_mem_readAll hx
      exact ⟨Setting.getLast?_of_sets sets, Setting.infix_of_sets sets, name, lower, sets⟩
    · obtain ⟨word, rest, body, letters, -⟩ := selects
      rw [body]
      exact splitPrelude_of_read? (Setting.read?_of_select letters rest).2

/-- A value can look like the next statement, which it is not. -/
theorem splitPrelude_cases_quoted :
    ∃ run rest, Setting.IsLongest run "SET a.b TO 'x; SET c = ''d'';' ;\n select(1)".toList rest ∧
      run.length = 1 ∧ SelectFollows rest := by
  have split : splitPrelude "SET a.b TO 'x; SET c = ''d'';' ;\n select(1)".toList =
      ([⟨"a.b".toList, "'x; SET c = ''d'';'".toList, "SET a.b TO 'x; SET c = ''d'';' ;".toList⟩],
        "select(1)".toList) := by decide +kernel
  obtain ⟨run, rest, longest, -, whole |
      ⟨settings, body, gap, e, -, rfl, rfl, blanks, -, selects, -⟩⟩ :=
    splitPrelude_cases "SET a.b TO 'x; SET c = ''d'';' ;\n select(1)".toList
  · rw [split] at whole
    cases whole
  · refine ⟨_, _, longest, ?_, gap, body, rfl, blanks, selects⟩
    rw [split] at e
    obtain ⟨rfl, -⟩ := Prod.mk.inj e
    rfl

end BulkSql
