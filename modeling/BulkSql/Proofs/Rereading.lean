import BulkSql.Proofs.Slicing

/-!
The tokens of a statement and those of its text, read once more. The text has the same tokens up to
the first that is cut, and what is left of that one.
-/
namespace BulkSql

/-- A token that is cut, and so a word or a symbol. -/
def Token.IsLost (t : Token) : Prop := t.cut = true ∧ (t.kind = .word ∨ t.kind = .symbol)

/-- The tokens of a statement, and those of its text: the tokens that are cut are gone, but for what
is left of a word. -/
inductive Rereads : List Token → List Token → Prop
  | gone {ts : List Token} (lost : ∀ t ∈ ts, t.IsLost) : Rereads ts []
  | left {t : Token} {ts : List Token} (text : Sql) (lost : ∀ u ∈ t :: ts, u.IsLost)
      (word : t.kind = .word) : Rereads (t :: ts) [{ t with text := text, cut := false }]
  | kept {t : Token} {ts us : List Token} (uncut : t.cut = false) (later : Rereads ts us) :
      Rereads (t :: ts) (t :: us)

namespace Rereads

variable {ts us front behind : List Token} {t : Token}

theorem nil : Rereads [] [] := .gone (by simp)

theorem append_left (uncut : ∀ t ∈ front, t.cut = false) (h : Rereads ts us) :
    Rereads (front ++ ts) (front ++ us) := by
  induction front with
  | nil => exact h
  | cons t front ih =>
    rw [List.forall_mem_cons] at uncut
    exact .kept uncut.1 (ih uncut.2)

theorem refl (uncut : ∀ t ∈ ts, t.cut = false) : Rereads ts ts := by
  simpa using append_left uncut nil

theorem concat (h : Rereads ts us) (lost : t.IsLost) : Rereads (ts ++ [t]) us := by
  induction h with
  | gone before => exact .gone (by simpa [or_imp, forall_and, lost] using before)
  | left text before word =>
    exact .left text (by simpa [or_imp, forall_and, lost] using before) word
  | kept uncut _ ih => exact .kept uncut ih

theorem cons_cases (h : Rereads (t :: ts) us) :
    (∀ u ∈ t :: ts, u.IsLost) ∨ t.cut = false ∧ ∃ rest, us = t :: rest ∧ Rereads ts rest := by
  cases h with
  | gone lost => exact .inl lost
  | left _ lost => exact .inl lost
  | kept uncut later => exact .inr ⟨uncut, _, rfl, later⟩

/-- A token that is not cut stays where it is. -/
theorem uncons (h : Rereads (t :: ts) us) (uncut : t.cut = false) :
    ∃ rest, us = t :: rest ∧ Rereads ts rest := by
  rcases h.cons_cases with lost | ⟨-, later⟩
  · simp [(lost t List.mem_cons_self).1] at uncut
  · exact later

/-- Up to a token that is not cut the tokens are the same. -/
theorem split (h : Rereads (front ++ t :: behind) us) (uncut : t.cut = false) :
    (∀ u ∈ front, u.cut = false) ∧ ∃ rest, us = front ++ t :: rest ∧ Rereads behind rest := by
  induction front generalizing us with
  | nil => exact ⟨nofun, h.uncons uncut⟩
  | cons f front ih =>
    rcases h.cons_cases with lost | ⟨own, us, rfl, later⟩
    · simp [(lost t (by simp)).1] at uncut
    · obtain ⟨all, rest, rfl, continues⟩ := ih later
      exact ⟨List.forall_mem_cons.2 ⟨own, all⟩, rest, rfl, continues⟩

theorem uncut_of_kind (h : Rereads ts us) (ht : t ∈ ts) (word : t.kind ≠ .word)
    (symbol : t.kind ≠ .symbol) : t.cut = false := by
  have kept : ¬ t.IsLost := fun lost => lost.2.elim word symbol
  induction h with
  | gone lost => exact absurd (lost t ht) kept
  | left _ lost => exact absurd (lost t ht) kept
  | kept uncut _ ih =>
    rcases List.mem_cons.1 ht with rfl | ht
    · exact uncut
    · exact ih ht

theorem exists_kind (h : Rereads ts us) : ∀ u ∈ us, ∃ t ∈ ts, u.kind = t.kind := by
  induction h with
  | gone => nofun
  | left => simp
  | kept _ _ ih =>
    refine List.forall_mem_cons.2 ⟨⟨_, List.mem_cons_self, rfl⟩, fun u hu => ?_⟩
    obtain ⟨t, ht, same⟩ := ih u hu
    exact ⟨t, List.mem_cons_of_mem _ ht, same⟩

end Rereads

/-! ### The tokens of the text -/

/-- Only a word can have blanks at its end and other characters before them. -/
theorem Lexeme.WellFormed.kind_of_trimEnd_ne {kind : TokenKind} {t : Sql}
    (form : (Lexeme.token kind t).WellFormed) (solid : Blank.trimEnd t ≠ [])
    (cut : Blank.trimEnd t ≠ t) : kind = .word := by
  rcases form.trimEnd_cases with same | ⟨c, same⟩ | ⟨g, same, -⟩ | ⟨g, same⟩ | ⟨w, same⟩
  · exact absurd (congrArg Lexeme.text same) cut
  · cases same
    obtain ⟨u, b, left, none⟩ := Lexeme.exists_trimEnd_cons solid
    rw [(List.append_eq_nil_iff.1 none.symm).1] at left
    exact absurd left cut
  · cases same
  · cases same
  · cases same
    rfl

namespace Scan

open Lexeme (written Apart Trimmed)

variable {ls : List Lexeme} {d : Nat}

theorem clip_pos {n : Nat} (h : 0 < n) (t : Token) (ts : List Token) :
    clip n (t :: ts) =
      { t with cut := true } :: clip (n - (t.text.length + t.before.length)) ts := by
  cases n with
  | zero => cases h
  | succ n => rfl

/-- The number of characters that are cut off the tokens among some lexemes. -/
def cutOff (ls : List Lexeme) : Nat :=
  (written ls).length - (Blank.trimEnd (written ls)).length - (trailing [] ls).length

theorem clipped_placed (h : opened 0 ls = some d) :
    clipped ⟨placed 0 [] ls, trailing [] ls⟩ =
      (clip (cutOff ls) (placed 0 [] ls).reverse).reverse := by
  have whole := text_placed [] h
  rw [List.nil_append] at whole
  rw [clipped, whole, cutOff]

/-- A gap at the end takes nothing off the tokens. -/
theorem cutOff_gap (ls : List Lexeme) (g : Sql) :
    cutOff (ls ++ [.gap g]) = if Blank.trimEnd g = [] then cutOff ls else 0 := by
  have le := Blank.length_trimEnd_le (written ls)
  have le' := Blank.length_trimEnd_le g
  simp only [cutOff, Blank.trimEnd_append, Lexeme.text, Lexeme.written_append,
    Lexeme.written_cons, Lexeme.written_nil, trailing_append, trailing, List.length_append,
    List.append_nil]
  split
  · omega
  · rw [List.length_append]
    omega

theorem cutOff_token (ls : List Lexeme) (kind : TokenKind) (t : Sql) :
    cutOff (ls ++ [.token kind t]) =
      if Blank.trimEnd t = [] then
        (written ls).length - (Blank.trimEnd (written ls)).length + t.length
      else t.length - (Blank.trimEnd t).length := by
  have le := Blank.length_trimEnd_le (written ls)
  simp only [cutOff, Blank.trimEnd_append, Lexeme.text, Lexeme.written_append,
    Lexeme.written_cons, Lexeme.written_nil, trailing_append, trailing, List.length_append,
    List.append_nil, List.length_nil]
  split
  · omega
  · rw [List.length_append]
    omega

/-- Of a last token that is not all blank the blanks at its end are cut off. -/
theorem rereads_clip {ts : List Token} (uncut : ∀ u ∈ ts, u.cut = false) {t : Token}
    (whole : t.cut = false) (word : Blank.trimEnd t.text ≠ t.text → t.kind = .word) :
    Rereads (clip (t.text.length - (Blank.trimEnd t.text).length) (t :: ts.reverse)).reverse
      (ts ++ [{ t with text := Blank.trimEnd t.text }]) := by
  by_cases solid : Blank.trimEnd t.text = t.text
  · rw [solid, Nat.sub_self, clip_zero, List.reverse_cons, List.reverse_reverse]
    exact Rereads.refl (by simpa [or_imp, forall_and, whole] using uncut)
  · obtain ⟨blanks, e, -⟩ := Blank.exists_trimEnd t.text
    have longer := congrArg List.length e
    have some : blanks ≠ [] := by
      rintro rfl
      exact solid (by rw [← e.trans (List.append_nil _)])
    have pos := List.length_pos_iff.2 some
    rw [List.length_append] at longer
    have none : t.text.length - (Blank.trimEnd t.text).length -
        (t.text.length + t.before.length) = 0 := by omega
    rw [clip_pos (by omega), none, clip_zero, List.reverse_cons, List.reverse_reverse]
    refine Rereads.append_left uncut ?_
    rw [whole]
    exact .left _ (by simp [Token.IsLost, word solid]) (word solid)

/-- What is left of the lexemes of a text has the tokens that are not cut. -/
theorem exists_rereads (apart : Apart none ls) (h : opened 0 ls = some d) :
    ∃ ks lost, Trimmed ls ks lost ∧
      Rereads (clip (cutOff ls) (placed 0 [] ls).reverse).reverse (placed 0 [] ks) := by
  induction ls using List.reverseRecOn generalizing d with
  | nil =>
    exact ⟨[], [], ⟨rfl, trivial, rfl, rfl, by simp, fun _ => rfl⟩,
      .gone (by simp [cutOff, placed])⟩
  | append_singleton ls l ih =>
    obtain ⟨front, form, -⟩ := Lexeme.apart_append.1 apart
    obtain ⟨e, opens, next⟩ := Option.bind_eq_some_iff.1 (opened_append 0 ls [l] ▸ h)
    have uncut := cut_of_placed 0 [] ls
    have tokens := placed_append [] [l] opens
    cases l with
    | gap g =>
      rw [placed, placed, List.append_nil] at tokens
      rw [cutOff_gap, tokens]
      split
      · next blank =>
        obtain ⟨ks, lost, trimmed, again⟩ := ih front.none opens
        exact ⟨ks, lost, trimmed.gap blank, again⟩
      · next solid =>
        obtain ⟨lost, trimmed⟩ := Lexeme.exists_trimmed_concat (by simpa using front) form solid
        refine ⟨_, lost, trimmed, ?_⟩
        rw [clip_zero, List.reverse_reverse, placed_append [] _ opens]
        simpa [Lexeme.trimEnd, placed] using Rereads.refl uncut
    | token kind t =>
      simp only [opened] at next
      cases nest : nesting e kind with
      | none => simp [nest] at next
      | some own =>
        rw [placed, nest] at tokens
        rw [cutOff_token, tokens, List.reverse_append]
        have pos := List.length_pos_iff.2 form.text_ne
        simp only [Lexeme.text] at pos
        split
        · next blank =>
          -- the token is cut as a whole, and takes what stands before it along
          obtain ⟨ks, lost, trimmed, again⟩ := ih front.none opens
          refine ⟨ks, lost ++ t, trimmed.token form blank, ?_⟩
          have left : (written ls).length - (Blank.trimEnd (written ls)).length + t.length -
              (t.length + (trailing [] ls).length) = cutOff ls := by
            rw [cutOff]
            omega
          simp only [placed, List.reverse_singleton, List.singleton_append]
          rw [clip_pos (by omega), left, List.reverse_cons]
          exact again.concat ⟨rfl, form.kind_of_blank blank⟩
        · next solid =>
          obtain ⟨lost, trimmed⟩ := Lexeme.exists_trimmed_concat (by simpa using front) form solid
          refine ⟨_, lost, trimmed, ?_⟩
          rw [placed_append [] _ opens, Lexeme.trimEnd, placed, nest]
          exact rereads_clip (t := ⟨kind, trailing [] ls, t, own.1, false⟩) uncut rfl
            (form.kind_of_trimEnd_ne solid)

end Scan

/-- The text of a statement has those of its tokens that are not cut. -/
theorem Body.exists_rereads {s : Sql} {body : Body} (h : ofSql s = .ok body) :
    ∃ scan, Scan.ofSql body.text = .ok scan ∧ Rereads body.tokens scan.tokens := by
  obtain ⟨whole, read, rfl⟩ := exists_scan h
  obtain ⟨ls, apart, balanced, e⟩ := Scan.exists_withoutTerminator read
  obtain ⟨ks, lost, trimmed, again⟩ := Scan.exists_rereads apart balanced
  have text := Scan.text_placed [] balanced
  rw [List.nil_append] at text
  refine ⟨_, Scan.ofSql_eq_ok_iff.2
    ⟨ks, ?_, trimmed.apart, trimmed.opened.trans balanced, rfl⟩, ?_⟩
  · rw [trimmed.text, e, text]
  · rw [e, Scan.clipped_placed balanced]
    exact again

end BulkSql
