import BulkSql.Proofs.Lexeme
import BulkSql.Proofs.Traversal

/-!
The tokens of a text from its lexemes, and how they change where the lexemes are put between others.
-/
namespace BulkSql

namespace Token

/-- The token without what stands before it. -/
def bare (t : Token) : Token := { t with before := [] }

/-- The token inside `n` more parentheses. -/
def deeper (n : Nat) (t : Token) : Token := { t with depth := t.depth + n }

@[simp] theorem deeper_zero (t : Token) : t.deeper 0 = t := rfl

end Token

namespace Scan

open Lexeme (written Apart readAll readAll_eq_iff)

/-- The number of parentheses that are open behind some lexemes, unless one was closed that was not
open. -/
def opened (depth : Nat) : List Lexeme → Option Nat
  | [] => some depth
  | .gap _ :: ls => opened depth ls
  | .token kind _ :: ls =>
    match nesting depth kind with
    | some (_, next) => opened next ls
    | none => none

/-- The tokens among some lexemes, up to a parenthesis that was not open. -/
def placed (depth : Nat) (before : Sql) : List Lexeme → List Token
  | [] => []
  | .gap g :: ls => placed depth (before ++ g) ls
  | .token kind t :: ls =>
    match nesting depth kind with
    | some (own, next) => ⟨kind, before, t, own, false⟩ :: placed next [] ls
    | none => []

/-- What stands behind the last token. -/
def trailing (before : Sql) : List Lexeme → Sql
  | [] => before
  | .gap g :: ls => trailing (before ++ g) ls
  | .token _ _ :: ls => trailing [] ls

theorem collect_eq_ok_iff {fault : Option Unsupported} {depth : Nat} {before : Sql}
    {ls : List Lexeme} {s : Scan} :
    collect fault depth before ls = .ok s ↔
      fault = none ∧ opened depth ls = some 0 ∧
        s = ⟨placed depth before ls, trailing before ls⟩ := by
  induction ls generalizing depth before s with
  | nil =>
    cases fault with
    | some e => simp [collect]
    | none =>
      by_cases h : depth = 0
      · simp [collect, opened, placed, trailing, h, eq_comm]
      · simp [collect, opened, h]
  | cons l ls ih =>
    cases l with
    | gap g => exact ih
    | token kind t =>
      simp only [collect, opened, placed, trailing]
      cases nesting depth kind with
      | none => simp
      | some n =>
        simp only [map_eq_ok_iff, ih]
        constructor
        · rintro ⟨_, ⟨hf, ho, rfl⟩, rfl⟩
          exact ⟨hf, ho, rfl⟩
        · rintro ⟨hf, ho, rfl⟩
          exact ⟨_, ⟨hf, ho, rfl⟩, rfl⟩

/-- The tokens of a text are those among its lexemes, whose parentheses have to be balanced. -/
theorem ofSql_eq_ok_iff {t : Sql} {s : Scan} :
    ofSql t = .ok s ↔
      ∃ ls, written ls = t ∧ Apart none ls ∧ opened 0 ls = some 0 ∧
        s = ⟨placed 0 [] ls, trailing [] ls⟩ := by
  unfold ofSql
  rw [collect_eq_ok_iff]
  constructor
  · rintro ⟨hf, ho, rfl⟩
    have whole : readAll t = ((readAll t).1, none) := by rw [← hf]
    obtain ⟨e, apart⟩ := readAll_eq_iff.1 whole
    exact ⟨_, e, apart, ho, rfl⟩
  · rintro ⟨ls, e, apart, ho, rfl⟩
    have whole := readAll_eq_iff.2 ⟨e, apart⟩
    simp [whole, ho]

theorem opened_append (depth : Nat) (ls ms : List Lexeme) :
    opened depth (ls ++ ms) = (opened depth ls).bind fun d => opened d ms := by
  induction ls generalizing depth with
  | nil => rfl
  | cons l ls ih =>
    cases l with
    | gap g => exact ih depth
    | token kind t =>
      simp only [List.cons_append, opened]
      cases nesting depth kind with
      | none => rfl
      | some n => exact ih n.2

theorem trailing_append (before : Sql) (ls ms : List Lexeme) :
    trailing before (ls ++ ms) = trailing (trailing before ls) ms := by
  induction ls generalizing before with
  | nil => rfl
  | cons l ls ih =>
    cases l with
    | gap g => exact ih _
    | token kind t => exact ih _

theorem placed_append {depth d : Nat} (before : Sql) {ls : List Lexeme} (ms : List Lexeme)
    (h : opened depth ls = some d) :
    placed depth before (ls ++ ms) =
      placed depth before ls ++ placed d (trailing before ls) ms := by
  induction ls generalizing depth before with
  | nil =>
    obtain rfl : depth = d := by simpa [opened] using h
    rfl
  | cons l ls ih =>
    cases l with
    | gap g => exact ih _ h
    | token kind t =>
      simp only [List.cons_append, placed, opened, trailing] at h ⊢
      cases e : nesting depth kind with
      | none => simp [e] at h
      | some n =>
        rw [e] at h
        simp [ih [] h]

theorem nesting_add (depth n : Nat) {kind : TokenKind} {own next : Nat}
    (h : nesting depth kind = some (own, next)) :
    nesting (depth + n) kind = some (own + n, next + n) := by
  cases kind <;> simp only [nesting, Option.some.injEq, Prod.mk.injEq] at h ⊢ <;> try omega
  split at h
  · cases h
  · simp only [Option.some.injEq, Prod.mk.injEq] at h
    rw [if_neg (by omega)]
    simp only [Option.some.injEq, Prod.mk.injEq]
    omega

theorem count_of_nesting {depth own next : Nat} {kind : TokenKind}
    (h : nesting depth kind = some (own, next)) :
    next + (if kind = .closeParen then 1 else 0) = depth + if kind = .openParen then 1 else 0 := by
  cases kind with
  | closeParen =>
    rw [nesting] at h
    split at h
    · cases h
    · cases h
      simp only [if_true, reduceCtorEq, if_false]
      omega
  | _ =>
    cases h
    rfl

theorem own_of_nesting {depth own next : Nat} {kind : TokenKind}
    (h : nesting depth kind = some (own, next)) :
    own + (if kind = .closeParen then 1 else 0) = depth := by
  cases kind with
  | closeParen =>
    rw [nesting] at h
    split at h
    · cases h
    · cases h
      rw [if_pos rfl]
      omega
  | _ =>
    cases h
    rfl

theorem opened_add {depth d : Nat} (n : Nat) {ls : List Lexeme} (h : opened depth ls = some d) :
    opened (depth + n) ls = some (d + n) := by
  induction ls generalizing depth with
  | nil =>
    obtain rfl : depth = d := by simpa [opened] using h
    rfl
  | cons l ls ih =>
    cases l with
    | gap g => exact ih h
    | token kind t =>
      simp only [opened] at h ⊢
      cases e : nesting depth kind with
      | none => simp [e] at h
      | some m =>
        rw [e] at h
        rw [nesting_add depth n e]
        exact ih h

/-- Inside more parentheses the tokens are the same, but deeper. -/
theorem placed_add {depth d : Nat} (n : Nat) (before : Sql) {ls : List Lexeme}
    (h : opened depth ls = some d) :
    placed (depth + n) before ls = (placed depth before ls).map (Token.deeper n) := by
  induction ls generalizing depth before with
  | nil => rfl
  | cons l ls ih =>
    cases l with
    | gap g => exact ih _ h
    | token kind t =>
      simp only [placed, opened] at h ⊢
      cases e : nesting depth kind with
      | none => simp [e] at h
      | some m =>
        rw [e] at h
        rw [nesting_add depth n e]
        simp [ih [] h, Token.deeper]

/-! ### Tokens without what stands between them -/

/-- The tokens among some lexemes, by kind and text. -/
def tokensOf : List Lexeme → List (TokenKind × Sql)
  | [] => []
  | .gap _ :: ls => tokensOf ls
  | .token kind t :: ls => (kind, t) :: tokensOf ls

@[simp] theorem tokensOf_append (ls ms : List Lexeme) :
    tokensOf (ls ++ ms) = tokensOf ls ++ tokensOf ms := by
  induction ls with
  | nil => rfl
  | cons l ls ih => cases l <;> simp [tokensOf, ih]

/-- Tokens with nothing before them, by kind and text, up to a parenthesis that was not open. -/
def arranged (depth : Nat) : List (TokenKind × Sql) → List Token
  | [] => []
  | (kind, t) :: ts =>
    match nesting depth kind with
    | some (own, next) => ⟨kind, [], t, own, false⟩ :: arranged next ts
    | none => []

/-- Without what stands before them, tokens are given by their kinds and texts. -/
theorem map_bare_placed (depth : Nat) (before : Sql) (ls : List Lexeme) :
    (placed depth before ls).map Token.bare = arranged depth (tokensOf ls) := by
  induction ls generalizing depth before with
  | nil => rfl
  | cons l ls ih =>
    cases l with
    | gap g => exact ih _ _
    | token kind t =>
      simp only [placed, tokensOf, arranged]
      cases nesting depth kind with
      | none => rfl
      | some n => simp [Token.bare, ih]

/-- The text of the tokens among some lexemes. -/
def tokenText (ls : List Lexeme) : Sql := (tokensOf ls).flatMap Prod.snd

@[simp] theorem tokenText_nil : tokenText [] = [] := rfl

@[simp] theorem tokenText_gap (g : Sql) (ls : List Lexeme) :
    tokenText (.gap g :: ls) = tokenText ls := rfl

@[simp] theorem tokenText_token (kind : TokenKind) (t : Sql) (ls : List Lexeme) :
    tokenText (.token kind t :: ls) = t ++ tokenText ls := rfl

@[simp] theorem tokenText_append (ls ms : List Lexeme) :
    tokenText (ls ++ ms) = tokenText ls ++ tokenText ms := by simp [tokenText]

theorem map_placed {depth d : Nat} (before : Sql) {ls : List Lexeme}
    (h : opened depth ls = some d) :
    (placed depth before ls).map (fun t => (t.kind, t.text)) = tokensOf ls := by
  induction ls generalizing depth before with
  | nil => rfl
  | cons l ls ih =>
    cases l with
    | gap g => exact ih _ h
    | token kind t =>
      simp only [placed, opened, tokensOf] at h ⊢
      cases e : nesting depth kind with
      | none => simp [e] at h
      | some n =>
        rw [e] at h
        simp [ih [] h]

/-- What stands between tokens is what stands in the gaps among the lexemes. -/
theorem all_before_iff {p : Char → Bool} {depth d : Nat} (before : Sql) {ls : List Lexeme}
    (h : opened depth ls = some d) :
    (∀ t ∈ placed depth before ls, t.before.all p) ∧ (trailing before ls).all p ↔
      before.all p ∧ ∀ g, .gap g ∈ ls → g.all p := by
  induction ls generalizing depth before with
  | nil => simp [placed, trailing]
  | cons l ls ih =>
    cases l with
    | gap g =>
      refine (ih (before ++ g) h).trans ?_
      simp only [List.all_append, Bool.and_eq_true, List.mem_cons, Lexeme.gap.injEq, and_assoc,
        or_imp, forall_and, forall_eq]
    | token kind t =>
      simp only [placed, trailing, opened] at h ⊢
      cases e : nesting depth kind with
      | none => simp [e] at h
      | some n =>
        rw [e] at h
        have rest := ih [] h
        rw [List.forall_mem_cons, and_assoc, rest]
        simp

theorem kinds_of_placed {p : TokenKind → Prop} (depth : Nat) (before : Sql) (ls : List Lexeme)
    (h : ∀ kind t, .token kind t ∈ ls → p kind) : ∀ t ∈ placed depth before ls, p t.kind := by
  induction ls generalizing depth before with
  | nil => simp [placed]
  | cons l ls ih =>
    have rest := fun depth before =>
      ih depth before fun kind t ht => h kind t (List.mem_cons_of_mem _ ht)
    cases l with
    | gap g => exact rest _ _
    | token kind t =>
      simp only [placed]
      cases nesting depth kind with
      | none => simp
      | some n =>
        simp only [List.forall_mem_cons]
        exact ⟨h kind t (by simp), rest _ _⟩

end Scan

end BulkSql
