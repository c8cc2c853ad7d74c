import BulkSql.Proofs.Integrity
import BulkSql.Proofs.Numbering
import BulkSql.Proofs.Slicing

/-!
Statements as text around the places of values. The text between the places is given by its lexemes,
so that it can be read without the numbers of the parameters, and these can be told from it.
-/
namespace BulkSql

/-! ### Parameters among lexemes -/

namespace Lexeme

/-- The parameter with number `n`. -/
def parameter (n : Nat) : Lexeme := .token .param (Fragment.placeholder n)

def isParam : Lexeme → Bool
  | gap _ => false
  | token kind _ => kind == .param

@[simp] theorem isParam_token (kind : TokenKind) (t : Sql) :
    (token kind t).isParam = (kind == .param) := rfl
@[simp] theorem isParam_blank : blank.isParam = false := rfl
@[simp] theorem isParam_openParen : openParen.isParam = false := rfl
@[simp] theorem isParam_closeParen : closeParen.isParam = false := rfl
@[simp] theorem isParam_comma : comma.isParam = false := rfl
@[simp] theorem isParam_dot : dot.isParam = false := rfl
@[simp] theorem isParam_symbol (c : Char) : (symbol c).isParam = false := rfl
@[simp] theorem isParam_minus : minus.isParam = false := rfl
@[simp] theorem isParam_word (t : Sql) : (word t).isParam = false := rfl
@[simp] theorem isParam_keyword (s : String) : (keyword s).isParam = false := rfl

def hasParam (ls : List Lexeme) : Bool := ls.any isParam

@[simp] theorem hasParam_nil : hasParam [] = false := rfl

@[simp] theorem hasParam_cons (l : Lexeme) (ls : List Lexeme) :
    hasParam (l :: ls) = (l.isParam || hasParam ls) := rfl

@[simp] theorem hasParam_append (ls ms : List Lexeme) :
    hasParam (ls ++ ms) = (hasParam ls || hasParam ms) := List.any_append

theorem hasParam_intercalate {sep : List Lexeme} (clean : hasParam sep = false)
    {parts : List (List Lexeme)} (h : ∀ ls ∈ parts, hasParam ls = false) :
    hasParam (sep.intercalate parts) = false := by
  induction parts with
  | nil => rfl
  | cons ls parts ih =>
    rw [List.forall_mem_cons] at h
    cases parts with
    | nil => simpa using h.1
    | cons ms rest =>
      rw [List.intercalate_cons_cons]
      simp [h.1, clean, ih h.2]

theorem hasParam_commaLexemes {parts : List (List Lexeme)}
    (h : ∀ ls ∈ parts, hasParam ls = false) : hasParam (commaLexemes parts) = false := by
  rw [commaLexemes_eq]
  exact hasParam_intercalate rfl h

@[simp] theorem written_parameter (n : Nat) :
    written [parameter n] = Fragment.placeholder n := by simp [parameter]

theorem isDigit_of_mem_toString {n : Nat} {c : Char} (h : c ∈ (toString n).toList) :
    c.isDigit = true := by
  rw [Nat.toString_eq_repr, Nat.toList_repr] at h
  exact Nat.isDigit_of_mem_toDigits (by decide) (by decide) h

theorem phrase_parameter (n : Nat) : Phrase [parameter n] True := by
  have ne : (toString n).toList ≠ [] := by
    rw [Nat.toString_eq_repr, Nat.toList_repr]
    exact Nat.toDigits_ne_nil
  have form : (parameter n).WellFormed := by
    refine .param ?_ (List.all_eq_true.2 fun c hc => isDigit_of_mem_toString hc)
    obtain ⟨c, r, e⟩ := List.exists_cons_of_ne_nil ne
    rw [e]
    exact isDigit_of_mem_toString (e ▸ List.mem_cons_self)
  exact phrase_token form ⟨'$', _, rfl, rfl⟩ (form.isSolid (by decide) (by decide)) rfl (by decide)

end Lexeme

open Lexeme

/-! ### Slots -/

/-- A part of a statement: text, or the place of a value. -/
inductive Slot
  | text (ls : List Lexeme)
  | value (v : Value)

namespace Slot

def value? : Slot → Option Value
  | text _ => none
  | value v => some v

/-- Whether there is no parameter in the text. -/
def isClean : Slot → Bool
  | text ls => !hasParam ls
  | value _ => true

/-- The values of some slots, in the order of their places. -/
def values (slots : List Slot) : List Value := slots.filterMap value?

/-- The lexemes of slots behind `n` parameters. -/
def lexemes (n : Nat) : List Slot → List Lexeme
  | [] => []
  | text ls :: slots => ls ++ lexemes n slots
  | value _ :: slots => parameter (n + 1) :: lexemes (n + 1) slots

@[simp] theorem values_nil : values [] = [] := rfl

@[simp] theorem values_text (ls : List Lexeme) (slots : List Slot) :
    values (text ls :: slots) = values slots := rfl

@[simp] theorem values_value (v : Value) (slots : List Slot) :
    values (value v :: slots) = v :: values slots := rfl

@[simp] theorem values_append (a b : List Slot) : values (a ++ b) = values a ++ values b :=
  List.filterMap_append

@[simp] theorem lexemes_nil (n : Nat) : lexemes n [] = [] := rfl

@[simp] theorem lexemes_text (n : Nat) (ls : List Lexeme) (slots : List Slot) :
    lexemes n (text ls :: slots) = ls ++ lexemes n slots := rfl

@[simp] theorem lexemes_value (n : Nat) (v : Value) (slots : List Slot) :
    lexemes n (value v :: slots) = parameter (n + 1) :: lexemes (n + 1) slots := rfl

theorem lexemes_append (n : Nat) (a b : List Slot) :
    lexemes n (a ++ b) = lexemes n a ++ lexemes (n + (values a).length) b := by
  induction a generalizing n with
  | nil => rfl
  | cons slot a ih =>
    cases slot with
    | text ls => simp [ih]
    | value v => simp [ih, Nat.add_assoc, Nat.add_comm 1]

/-- Parts with a comma and a blank between them. -/
def commas (parts : List (List Slot)) : List Slot := [text [comma, blank]].intercalate parts

@[simp] theorem commas_singleton (part : List Slot) : commas [part] = part := by simp [commas]

theorem commas_cons_cons (part next : List Slot) (rest : List (List Slot)) :
    commas (part :: next :: rest) = part ++ text [comma, blank] :: commas (next :: rest) := by
  simp [commas]

theorem values_commas (parts : List (List Slot)) : values (commas parts) = parts.flatMap values := by
  induction parts with
  | nil => rfl
  | cons part parts ih =>
    cases parts with
    | nil => simp
    | cons next rest => simp [commas_cons_cons, ih]

/-- Slots that can stand between others: their text has no parameter, and they are a phrase whatever
the numbers of their parameters are. -/
structure Sound (slots : List Slot) : Prop where
  clean : ∀ slot ∈ slots, slot.isClean = true
  phrase : ∀ n, Phrase (lexemes n slots) True

variable {a b : List Slot} {ls : List Lexeme}

theorem sound_value (v : Value) : Sound [value v] :=
  ⟨by simp [isClean], fun n => phrase_parameter (n + 1)⟩

theorem sound_text (h : Phrase ls True) (clean : hasParam ls = false) : Sound [text ls] :=
  ⟨by simp [isClean, clean], fun n => by simpa using h⟩

/-- Slots with fixed text between them. -/
theorem Sound.link (ha : Sound a) (hb : Sound b) (between : Link ls) (clean : hasParam ls = false) :
    Sound (a ++ text ls :: b) := by
  refine ⟨?_, fun n => ?_⟩
  · rw [List.forall_mem_append, List.forall_mem_cons]
    exact ⟨ha.clean, by simp [isClean, clean], hb.clean⟩
  · rw [lexemes_append]
    exact ((ha.phrase n).link (hb.phrase _) between).congr (by simp)

/-- Slots in parentheses. -/
theorem Sound.paren (h : Sound a) : Sound (text [openParen] :: (a ++ [text [closeParen]])) := by
  refine ⟨?_, fun n => ?_⟩
  · rw [List.forall_mem_cons, List.forall_mem_append]
    exact ⟨rfl, h.clean, by simp [isClean]⟩
  · rw [lexemes_text, lexemes_append]
    exact (h.phrase n).paren

theorem sound_commas {α : Type} {f : α → List Slot} {xs : List α} (ne : xs ≠ [])
    (h : ∀ x ∈ xs, Sound (f x)) : Sound (commas (xs.map f)) := by
  induction xs with
  | nil => exact absurd rfl ne
  | cons x xs ih =>
    rw [List.forall_mem_cons] at h
    cases xs with
    | nil => simpa using h.1
    | cons y ys =>
      rw [List.map_cons, List.map_cons, commas_cons_cons]
      exact h.1.link (ih (by simp) h.2) link_comma rfl

end Slot

/-! ### Fragments of statements -/

namespace Fragment

/-- A fragment is laid out in slots: it binds their values, and it has their text wherever it
stands. -/
structure Lays (f : Fragment) (slots : List Slot) : Prop where
  text : ∀ n, numbered n f.pieces = written (Slot.lexemes n slots)
  params : f.params = Slot.values slots
  count : f.placeholderCount = f.params.length

variable {f g : Fragment} {a b : List Slot}

theorem lays_raw {ls : List Lexeme} {text : Sql} (h : written ls = text) :
    Lays (raw text) [.text ls] := ⟨fun n => by simp [raw, numbered, h], rfl, rfl⟩

theorem lays_bind (v : Value) : Lays (bind v) [.value v] :=
  ⟨fun n => by simp [bind, numbered, parameter], rfl, rfl⟩

theorem Lays.append (hf : f.Lays a) (hg : g.Lays b) : (f ++ g).Lays (a ++ b) := by
  refine ⟨fun n => ?_, ?_, ?_⟩
  · have places : f.pieces.count .param = (Slot.values a).length := hf.count.trans (by rw [hf.params])
    rw [pieces_append, numbered_append, places, hf.text, hg.text, Slot.lexemes_append,
      written_append]
  · rw [params_append, hf.params, hg.params, Slot.values_append]
  · rw [placeholderCount_append, params_append, List.length_append, hf.count, hg.count]

theorem lays_commaList {α : Type} {f : α → Fragment} {slots : α → List Slot} {xs : List α}
    (h : ∀ x ∈ xs, (f x).Lays (slots x)) :
    (commaList (xs.map f)).Lays (Slot.commas (xs.map slots)) := by
  induction xs with
  | nil => exact ⟨fun _ => rfl, rfl, rfl⟩
  | cons x xs ih =>
    rw [List.forall_mem_cons] at h
    cases xs with
    | nil => simpa [commaList, concat] using h.1
    | cons y ys =>
      rw [List.map_cons, List.map_cons, commaList_cons_cons, List.map_cons, List.map_cons,
        Slot.commas_cons_cons]
      have comma : (raw ", ".toList).Lays [.text [Lexeme.comma, blank]] := lays_raw rfl
      exact h.1.append (comma.append (ih h.2))

end Fragment

/-! ### Where parameters stand -/

namespace Slot

open Scan (tokensOf placed trailing opened nesting)

theorem filter_tokensOf {ls : List Lexeme} (clean : hasParam ls = false) :
    (tokensOf ls).filter (fun t => t.1 = .param) = [] := by
  induction ls with
  | nil => rfl
  | cons l ls ih =>
    simp only [hasParam_cons, Bool.or_eq_false_iff] at clean
    cases l with
    | gap g => exact ih clean.2
    | token kind t =>
      have other : kind ≠ .param := by simpa using clean.1
      simp [tokensOf, other, ih clean.2]

/-- The parameters among the lexemes of slots are those of the values, in their order. -/
theorem filter_tokensOf_lexemes {slots : List Slot} (clean : ∀ slot ∈ slots, slot.isClean = true)
    (n : Nat) : (tokensOf (lexemes n slots)).filter (fun t => t.1 = .param) =
      (List.range' (n + 1) (values slots).length).map fun i => (.param, Fragment.placeholder i) := by
  induction slots generalizing n with
  | nil => rfl
  | cons slot slots ih =>
    rw [List.forall_mem_cons] at clean
    have rest := ih clean.2
    cases slot with
    | text ls =>
      have own : hasParam ls = false := by simpa [isClean] using clean.1
      simp [filter_tokensOf own, rest]
    | value v => simp [tokensOf, parameter, rest, List.range'_succ]

/-- The parameter of a value stands where the value does. -/
theorem exists_placed {front behind : List Slot} {v : Value}
    (balanced : opened 0 (lexemes 0 (front ++ value v :: behind)) = some 0) :
    ∃ ts t us, placed 0 [] (lexemes 0 (front ++ value v :: behind)) = ts ++ t :: us ∧
      t.kind = .param ∧ t.text = Fragment.placeholder ((values front).length + 1) ∧
      Token.laid ts ++ t.before = written (lexemes 0 front) := by
  rw [lexemes_append, Nat.zero_add, lexemes_value] at balanced ⊢
  rw [Scan.opened_append] at balanced
  obtain ⟨depth, opens, -⟩ := Option.bind_eq_some_iff.1 balanced
  have whole := Scan.text_placed [] opens
  rw [Scan.placed_append [] _ opens]
  exact ⟨_, _, _, rfl, rfl, rfl, by simpa [Scan.text, Token.laid] using whole⟩

end Slot

namespace Statement

open Slot (values lexemes)

/-- A statement binds each value where it stands among some slots. The text of the slots has no
parameter, the parameters that are read in the statement are numbered from one, and the statement is
never refused for another number of places than values. -/
structure Binds (s : Statement) (slots : List Slot) : Prop where
  clean : ∀ slot ∈ slots, slot.isClean = true
  text : s.sql = written (lexemes 0 slots)
  params : s.params = values slots
  places : s.placeholderCount = s.params.length
  read : ∃ scan, Scan.ofSql s.sql = .ok scan ∧
    (scan.tokens.filter fun t => t.kind = .param).map Token.text =
      (List.range' 1 s.params.length).map Fragment.placeholder ∧
    ∀ front v behind, slots = front ++ .value v :: behind →
      s.params[(values front).length]? = some v ∧
      ∃ ts t us, scan.tokens = ts ++ t :: us ∧ t.kind = .param ∧
        t.text = Fragment.placeholder ((values front).length + 1) ∧
        Token.laid ts ++ t.before = written (lexemes 0 front)
  aligned : ∀ limit kind table m n,
    s.validate limit ≠ .error (.validation (.misalignedParameters kind table m n))

/-- A statement that is laid out in sound slots binds their values. -/
theorem binds_of_lays {s : Statement} {slots : List Slot} (lays : s.body.Lays slots)
    (sound : Slot.Sound slots) : s.Binds slots := by
  have phrase := sound.phrase 0
  have text : s.sql = written (lexemes 0 slots) := lays.text 0
  have params : s.params = values slots := lays.params
  have places : s.placeholderCount = s.params.length := lays.count
  refine ⟨sound.clean, text, params, places, ?_, fun limit kind table m n => ?_⟩
  · have scanned := Scan.ofSql_eq_ok_iff.2
      ⟨_, text.symm, (phrase.apart none breaks_none).2 trivial, phrase.balanced, rfl⟩
    refine ⟨_, scanned, ?_, ?_⟩
    · have tokens := Scan.map_placed [] phrase.balanced
      have numbers := Slot.filter_tokensOf_lexemes sound.clean 0
      rw [← tokens, List.filter_map, ← params] at numbers
      have texts := congrArg (List.map Prod.snd) numbers
      simpa [List.map_map, Function.comp_def] using texts
    · rintro front v behind rfl
      exact ⟨by simp [params], Slot.exists_placed phrase.balanced⟩
  · rw [validate, if_neg (not_not_intro places)]
    split <;> simp

end Statement

end BulkSql
