import BulkSql.Proofs.Bytes
import BulkSql.Proofs.Cutting

/-!
What separates the tokens of a text: blanks, and comments that are complete. Comments can stand in
each other.
-/
namespace BulkSql

namespace Lexeme

open Split (push push_eq_some_iff)

/-! ### Comments -/

/-- Text up to the mark that closes the comment it stands in. Comments inside are closed before. -/
inductive Closes : Sql → Prop
  | mark : Closes ['*', '/']
  | nested {t r} (ht : Closes t) (hr : Closes r) : Closes ('/' :: '*' :: (t ++ r))
  | char {c r} (opens : ¬ ['/', '*'] <+: c :: r) (closes : ¬ ['*', '/'] <+: c :: r)
    (hr : Closes r) : Closes (c :: r)

/-- Text that closes `depth` comments around the one it stands in, and then that one. -/
def ClosesAll : (depth : Nat) → Sql → Prop
  | 0, t => Closes t
  | depth + 1, t => ∃ u r, t = u ++ r ∧ Closes u ∧ ClosesAll depth r

theorem ClosesAll.of_nested {depth : Nat} {t : Sql} (h : ClosesAll (depth + 1) t) :
    ClosesAll depth ('/' :: '*' :: t) := by
  obtain ⟨u, r, rfl, hu, hr⟩ := h
  cases depth with
  | zero => exact .nested hu hr
  | succ depth =>
    obtain ⟨v, w, rfl, hv, hw⟩ := hr
    exact ⟨'/' :: '*' :: (u ++ v), w, by simp, .nested hu hv, hw⟩

theorem Closes.exists_cons {t : Sql} (h : Closes t) : ∃ c d r, t = c :: d :: r := by
  induction h with
  | mark => exact ⟨_, _, _, rfl⟩
  | nested => exact ⟨_, _, _, rfl⟩
  | char _ _ _ ih =>
    obtain ⟨c, d, r, rfl⟩ := ih
    exact ⟨_, _, _, rfl⟩

theorem ClosesAll.of_char {depth : Nat} {c : Char} {r : Sql} (opens : ¬ ['/', '*'] <+: c :: r)
    (closes : ¬ ['*', '/'] <+: c :: r) (h : ClosesAll depth r) : ClosesAll depth (c :: r) := by
  cases depth with
  | zero => exact .char opens closes h
  | succ depth =>
    obtain ⟨u, w, rfl, hu, hw⟩ := h
    -- a mark of two characters is no longer than what closes a comment
    have front {m : Sql} (hm : m <+: c :: u) : m <+: c :: (u ++ w) := hm.trans ⟨w, rfl⟩
    exact ⟨c :: u, w, rfl, .char (mt front opens) (mt front closes) hu, hw⟩

theorem pair_prefix_iff {a b c d : Char} {r : Sql} :
    [a, b] <+: c :: d :: r ↔ c = a ∧ d = b := by
  simp [List.cons_prefix_cons, eq_comm]

theorem closesAll_of_commentTail {depth : Nat} {s t r : Sql}
    (h : commentTail depth s = some (t, r)) : ClosesAll depth t := by
  fun_induction commentTail depth s generalizing t with
  | case1 => cases h
  | case2 => cases h
  | case3 depth c d rest opens ih =>
    obtain ⟨u, rfl, hu⟩ := push_eq_some_iff.1 h
    obtain ⟨v, rfl, hv⟩ := push_eq_some_iff.1 hu
    obtain ⟨rfl, rfl⟩ := opens
    exact (ih hv).of_nested
  | case4 c d rest _ closes =>
    obtain ⟨rfl, rfl⟩ := closes
    obtain ⟨rfl, -⟩ := Prod.mk.inj (Option.some.inj h)
    exact .mark
  | case5 c d rest _ closes depth ih =>
    obtain ⟨u, rfl, hu⟩ := push_eq_some_iff.1 h
    obtain ⟨v, rfl, hv⟩ := push_eq_some_iff.1 hu
    obtain ⟨rfl, rfl⟩ := closes
    exact ⟨['*', '/'], v, rfl, .mark, ih hv⟩
  | case6 depth c d rest opens closes ih =>
    obtain ⟨u, rfl, hu⟩ := push_eq_some_iff.1 h
    have whole : u ++ r = d :: rest := commentTail_covers _ _ _ _ hu
    have front {m : Sql} (hm : m <+: c :: u) : m <+: c :: d :: rest :=
      hm.trans ⟨r, by rw [← whole, List.cons_append]⟩
    exact .of_char (fun hm => opens (pair_prefix_iff.1 (front hm)))
      (fun hm => closes (pair_prefix_iff.1 (front hm))) (ih hu)

/-- Behind text that closes a comment the comments around it are open. -/
theorem Closes.commentTail_append {t : Sql} (h : Closes t) (r : Sql) :
    commentTail 0 (t ++ r) = some (t, r) ∧
      ∀ depth, commentTail (depth + 1) (t ++ r) =
        (commentTail depth r).map fun p => (t ++ p.1, p.2) := by
  induction h generalizing r with
  | mark =>
    refine ⟨rfl, fun depth => ?_⟩
    have step : commentTail (depth + 1) (['*', '/'] ++ r) =
        push '*' (push '/' (commentTail depth r)) := rfl
    rw [step]
    cases commentTail depth r <;> rfl
  | @nested t u _ _ outer inner =>
    have step (depth : Nat) : commentTail depth ('/' :: '*' :: (t ++ u) ++ r) =
        push '/' (push '*' (commentTail (depth + 1) (t ++ (u ++ r)))) := by
      rw [← List.append_assoc]
      rfl
    constructor
    · rw [step, (outer _).2, (inner r).1]
      rfl
    · intro depth
      rw [step, (outer _).2, (inner r).2]
      cases commentTail depth r <;> simp
  | @char c t opens closes ht ih =>
    obtain ⟨d, e, t, rfl⟩ := ht.exists_cons
    have step (depth : Nat) : commentTail depth (c :: d :: e :: t ++ r) =
        push c (commentTail depth (d :: e :: t ++ r)) := by
      have noOpen : ¬ (c = '/' ∧ d = '*') := mt pair_prefix_iff.2 opens
      have noClose : ¬ (c = '*' ∧ d = '/') := mt pair_prefix_iff.2 closes
      exact (commentTail.eq_def depth (c :: d :: (e :: t ++ r))).trans
        ((if_neg noOpen).trans (if_neg noClose))
    constructor
    · rw [step, (ih r).1]
      rfl
    · intro depth
      rw [step, (ih r).2]
      cases commentTail depth r <;> rfl

/-- The rest of a comment is what closes it. -/
theorem commentTail_eq_some_iff {s t r : Sql} :
    commentTail 0 s = some (t, r) ↔ t ++ r = s ∧ Closes t := by
  constructor
  · exact fun h => ⟨commentTail_covers _ _ _ _ h, closesAll_of_commentTail h⟩
  · rintro ⟨rfl, h⟩
    exact (h.commentTail_append r).1

/-! ### Between tokens -/

/-- Blanks and comments. Behind the last token the text may end in a comment to the end of the
line. -/
inductive Separates (last : Bool) : Sql → Prop
  | nil : Separates last []
  | blank {c r} (hc : isGap c = true) (hr : Separates last r) : Separates last (c :: r)
  | line {t r} (ht : '\n' ∉ t) (hr : Separates last r) :
    Separates last ('-' :: '-' :: (t ++ '\n' :: r))
  | block {t r} (ht : Closes t) (hr : Separates last r) : Separates last ('/' :: '*' :: (t ++ r))
  | lastLine {t} (hl : last = true) (ht : '\n' ∉ t) : Separates last ('-' :: '-' :: t)

namespace Separates

variable {last : Bool} {r : Sql}

theorem of_blanks {t : Sql} (ht : t.all isGap = true) (hr : Separates last r) :
    Separates last (t ++ r) := by
  induction t with
  | nil => exact hr
  | cons c t ih =>
    rw [List.all_cons, Bool.and_eq_true] at ht
    exact .blank ht.1 (ih ht.2)

theorem of_lineEnd (h : Separates last ('\n' :: r)) : Separates last r := by
  cases h with
  | blank _ hr => exact hr

/-- Lexemes without a kind, in front of one that is no line end. -/
theorem of_apart {next : Option Char} {gs : List Lexeme} (apart : Apart next gs)
    (gaps : ∀ l ∈ gs, l.kind? = none) (solid : next ≠ some '\n') :
    Separates next.isNone (written gs) := by
  induction gs with
  | nil => exact .nil
  | cons l gs ih =>
    rw [List.forall_mem_cons] at gaps
    obtain ⟨hl, ha, hs⟩ := apart
    have rest := ih hs gaps.2
    rw [written_cons]
    cases hl with
    | blanks hc ht => exact .blank hc (of_blanks ht rest)
    | @lineComment t ht =>
      have inside : '\n' ∉ t := fun mem => by simpa using List.all_eq_true.1 ht _ mem
      have ends (d : Char) (hd : d ∈ (written gs).head?.or next) : d = '\n' := by
        simpa [allows] using ha d hd
      -- only the end of the line or of the text can be behind
      cases e : written gs with
      | cons d r =>
        obtain rfl : d = '\n' := ends d (by simp [e])
        exact .line inside (of_lineEnd (e ▸ rest))
      | nil =>
        rw [text, List.append_nil]
        cases next with
        | none => exact .lastLine rfl inside
        | some d => exact absurd (congrArg some (ends d (by simp [e]))) solid
    | blockComment ht => exact .block (closesAll_of_commentTail ht) rest
    | _ => cases gaps.1

end Separates

end Lexeme

namespace Scan

open Lexeme (Separates written)

/-- Behind the last token there are lexemes without a kind only. -/
theorem exists_trailing (ls : List Lexeme) :
    ∃ ks gs, ls = ks ++ gs ∧ (∀ l ∈ gs, l.kind? = none) ∧ trailing [] ls = written gs := by
  induction ls using List.reverseRecOn with
  | nil => exact ⟨[], [], rfl, by simp, rfl⟩
  | append_singleton ls l ih =>
    cases l with
    | token kind t =>
      exact ⟨ls ++ [.token kind t], [], by simp, by simp, by simp [trailing_append, trailing]⟩
    | gap g =>
      obtain ⟨ks, gs, rfl, gaps, e⟩ := ih
      refine ⟨ks, gs ++ [.gap g], by simp, ?_, ?_⟩
      · rw [List.forall_mem_append, List.forall_mem_singleton]
        exact ⟨gaps, rfl⟩
      · rw [trailing_append, e, trailing, trailing, Lexeme.written_append]
        simp [Lexeme.text]

variable {s : Sql} {scan : Scan}

theorem separates_before (h : ofSql s = .ok scan) :
    ∀ t ∈ scan.tokens, Separates false t.before := by
  obtain ⟨ls, -, apart, balanced, rfl⟩ := ofSql_eq_ok_iff.1 h
  intro t ht
  obtain ⟨front, behind, e⟩ := List.append_of_mem ht
  obtain ⟨us, ms, m, n, rfl, -, -, before, -⟩ := exists_split balanced e
  obtain ⟨ks, gs, rfl, gaps, written⟩ := exists_trailing us
  obtain ⟨c, r, first, solid, -⟩ := (Lexeme.apart_append.1 apart).2.1.exists_head
  have apart' := (Lexeme.apart_append.1 (Lexeme.apart_append.1 apart).1).2
  rw [Lexeme.written_cons, Lexeme.text, first] at apart'
  rw [← before, written]
  refine Separates.of_apart apart' gaps ?_
  rintro e
  obtain rfl : c = '\n' := Option.some.inj e
  cases solid

theorem separates_after (h : ofSql s = .ok scan) : Separates true scan.after := by
  obtain ⟨ls, -, apart, -, rfl⟩ := ofSql_eq_ok_iff.1 h
  obtain ⟨ks, gs, rfl, gaps, written⟩ := exists_trailing ls
  rw [written]
  exact Separates.of_apart (Lexeme.apart_append.1 apart).2 gaps nofun

end Scan

end BulkSql
