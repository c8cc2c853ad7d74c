import BulkSql.Proofs.Atom
import BulkSql.Proofs.Occurrence
import BulkSql.Proofs.Reading

/-!
How an expression reads once its references are moved. The new name is put between the neighbours of
the old one with nothing around it: where these touch it, they may be read as one token with it.
-/
namespace BulkSql

namespace Token

/-- A token as a lexeme. -/
def lexeme (t : Token) : Lexeme := .token t.kind t.text

/-- A token, or the word in its place if it is marked. -/
def renamed (target : Sql) (t : Token × Bool) : Token :=
  if t.2 then { t.1 with kind := .word, text := target } else t.1

/-- Whether two tokens become one where `target` is put in place of those that are marked. -/
def merges (target : Sql) (t u : Token × Bool) : Bool :=
  u.1.before.isEmpty &&
    match t.2, u.2 with
    | false, false => false
    | true, true => true
    -- A number goes on with letters and digits, but not with an underscore.
    | false, true => t.1.kind == .word || (t.1.kind == .number && target.head? != some '_')
    -- The word `e` and a quote start a text with escapes.
    | true, false => u.1.text.head?.any fun c => isWordPart c || (c == '\'' && target == ['e'])

@[simp] theorem renamed_false (target : Sql) (t : Token) : renamed target (t, false) = t := rfl

@[simp] theorem renamed_true (target : Sql) (t : Token) :
    renamed target (t, true) = { t with kind := .word, text := target } := rfl

end Token

namespace Lexeme

open Scan (nesting opened placed trailing tokensOf)
open Token (renamed merges substituted)

/-! ### The word that is put in -/

/-- A bare name starts with a letter or an underscore and is lower case. -/
theorem exists_of_hasBareShape {t : Sql} (h : hasBareShape t = true) :
    ∃ c r, t = c :: r ∧ isWordPart c = true ∧ c.isDigit = false ∧ (c = '_' ∨ c.isAlphanum = true) ∧
      t ≠ ['E'] := by
  cases t with
  | nil => cases h
  | cons c r =>
    simp only [hasBareShape, Bool.and_eq_true] at h
    obtain ⟨part, digit, -⟩ := not_digit_of_isBareStart h.1
    refine ⟨c, r, rfl, part, digit, ?_, ?_⟩
    · have start := h.1
      simp only [isBareStart, Bool.or_eq_true, beq_iff_eq] at start
      exact start.imp_right fun lower => by simp [Char.isAlphanum, Char.isAlpha, lower]
    · rintro e
      obtain ⟨rfl, -⟩ := List.cons.inj e
      exact absurd h.1 (by decide)

section Neighbours

variable {target : Sql}

theorem wellFormed_renamed (bare : hasBareShape target = true) {t : Token × Bool}
    (h : t.1.lexeme.WellFormed) : (renamed target t).lexeme.WellFormed := by
  obtain ⟨t, mark⟩ := t
  cases mark with
  | false => exact h
  | true => exact wellFormed_word (isWord_of_hasBareShape bare)

/-- What starts a gap ends any word. -/
theorem word_allows_gap {g : Sql} (h : (gap g).WellFormed) (t : Sql) :
    ∀ d ∈ g.head?, (token .word t).allows d = true := by
  intro d hd
  cases h with
  | @blanks c r hc =>
    obtain rfl : c = d := by simpa using hd
    have part : isWordPart c = false := by
      by_contra part
      simp [not_isGap_of_isWordPart (by simpa using part)] at hc
    have quote : c ≠ '\'' := by
      rintro rfl
      cases hc
    simp [allows, part, quote]
  | lineComment =>
    obtain rfl : '-' = d := by simpa using hd
    simp [allows, isWordPart]
  | blockComment =>
    obtain rfl : '/' = d := by simpa using hd
    simp [allows, isWordPart]

/-- A gap or a symbol that can be in front of a token can be in front of a word. -/
theorem allows_word {l : Lexeme} (h : l.WellFormed)
    (loose : ∀ kind t, l = .token kind t → kind = .symbol) {c d : Char} (ok : l.allows c = true)
    (hc : isGap c = false) (hd : isWordPart d = true) : l.allows d = true := by
  have ne {e : Char} (he : isWordPart e = false) : d ≠ e := ne_of_isWordPart hd he
  cases h with
  | blanks hb => simp [allows_blanks hb, not_isGap_of_isWordPart hd]
  | lineComment =>
    obtain rfl : c = '\n' := by simpa [allows] using ok
    cases hc
  | blockComment => rfl
  | symbol => simp [allows, ne (e := '-') rfl, ne (e := '*') rfl]
  | _ => cases loose _ _ rfl

/-- The first lexeme of a text is the only one that can be followed by what is behind it. -/
theorem eq_of_text_eq {l m : Lexeme} {r s : Sql} (hl : l.WellFormed) (hm : m.WellFormed)
    (behind : ∀ d ∈ r.head?, l.allows d = true) (behind' : ∀ d ∈ s.head?, m.allows d = true)
    (e : l.text ++ r = m.text ++ s) : l = m ∧ r = s := by
  obtain ⟨c, t, head⟩ := List.exists_cons_of_ne_nil hl.text_ne
  have read : read c (t ++ r) = .ok (l, r) := read_of_wellFormed hl (by simp [head]) behind
  rw [read_of_wellFormed hm (by simp [← e, head]) behind'] at read
  simpa [eq_comm] using read

/-- No token but a symbol starts as a gap does. -/
theorem append_ne_gap {kind : TokenKind} {t g : Sql} (h : (token kind t).WellFormed)
    (hk : kind ≠ .symbol) (hg : (gap g).WellFormed) (r s : Sql) : t ++ r ≠ g ++ s := by
  obtain ⟨c, t, rfl, blank, signs⟩ := h.exists_head
  obtain ⟨line, block⟩ := signs hk
  intro e
  cases hg with
  | blanks hb =>
    obtain ⟨rfl, -⟩ := List.cons.inj e
    simp [blank] at hb
  | lineComment => exact line (List.cons.inj e).1
  | blockComment => exact block (List.cons.inj e).1

/-- Behind a token the word can stand, unless the token is a word or a number that goes on. -/
theorem allows_target_iff (bare : hasBareShape target = true) {kind : TokenKind} {t : Sql}
    (h : (token kind t).WellFormed) :
    (∀ c ∈ target.head?, (token kind t).allows c = true) ↔
      (kind == .word || (kind == .number && target.head? != some '_')) = false := by
  obtain ⟨c, r, rfl, part, digit, start, -⟩ := exists_of_hasBareShape bare
  have ne {d : Char} (hd : isWordPart d = false) : c ≠ d := ne_of_isWordPart part hd
  simp only [List.head?_cons, Option.mem_some_iff, forall_eq']
  cases h with
  | string => simp [allows, ne (d := '\'') rfl]
  | escapeString he =>
    rcases he with rfl | rfl <;> simp [allows, ne (d := '\'') rfl]
  | dollarString => simp [allows]
  | quotedName => simp [allows, ne (d := '"') rfl]
  | number =>
    rcases start with rfl | start
    · simp [allows, isNumberPart]
    · have underscore : c ≠ '_' := by
        rintro rfl
        cases start
      simp [allows, isNumberPart, start, underscore]
  | word => simp [allows, part]
  | symbol => simp [allows, ne (d := '-') rfl, ne (d := '*') rfl]
  | _ => simp [allows, digit]

/-- What can follow a token still can, where one of the two or both are replaced, unless they
merge. -/
theorem allows_renamed_iff (bare : hasBareShape target = true) {t u : Token × Bool}
    (ht : t.1.lexeme.WellFormed) (touch : u.1.before = [])
    (ok : ∀ d ∈ u.1.text.head?, t.1.lexeme.allows d = true) :
    (∀ d ∈ (renamed target u).text.head?, (renamed target t).lexeme.allows d = true) ↔
      merges target t u = false := by
  obtain ⟨c, r, e, part, -, -, upper⟩ := exists_of_hasBareShape bare
  obtain ⟨t, left⟩ := t
  obtain ⟨u, right⟩ := u
  rw [merges, touch, List.isEmpty_nil, Bool.true_and]
  cases left <;> cases right
  case false.false => exact iff_of_true ok rfl
  case false.true => exact allows_target_iff bare ht
  case true.true =>
    refine iff_of_false (fun h => ?_) Bool.noConfusion
    have := h c (by simp [e])
    simp [Token.lexeme, allows, part] at this
  case true.false =>
    have escape : (target == ['E']) = false := beq_false_of_ne upper
    have word (d : Char) : (token .word target).allows d =
        !(isWordPart d || (d == '\'' && target == ['e'])) := by
      rw [allows, escape, Bool.or_false, Bool.not_or]
    cases head : u.text.head? with
    | none => simp [head]
    | some d =>
      simp only [Token.renamed_false, Token.renamed_true, Token.lexeme, head, Option.mem_some_iff,
        forall_eq', word, Option.any_some, Bool.not_eq_true']

end Neighbours

/-! ### Lexemes with a word in place of some tokens -/

/-- The lexemes `ms` are `ls` with the word `target` in place of those tokens that are marked;
before them `depth` parentheses are open and `before` stands. -/
inductive Renames (target : Sql) :
    Nat → Sql → List Lexeme → List (Token × Bool) → List Lexeme → Prop
  | nil {depth before} : Renames target depth before [] [] []
  | gap {depth before g ls ts ms} (rest : Renames target depth (before ++ g) ls ts ms) :
    Renames target depth before (.gap g :: ls) ts (.gap g :: ms)
  | token {depth before kind t own next mark ls ts ms}
    (nests : nesting depth kind = some (own, next))
    (named : mark = true → kind = .word ∨ kind = .quotedName)
    (rest : Renames target next [] ls ts ms) :
    Renames target depth before (.token kind t :: ls) ((⟨kind, before, t, own, false⟩, mark) :: ts)
      ((renamed target (⟨kind, before, t, own, false⟩, mark)).lexeme :: ms)

theorem exists_renames (target : Sql) {depth d : Nat} {before : Sql} {ls : List Lexeme}
    {ts : List (Token × Bool)} (balanced : opened depth ls = some d)
    (e : ts.map Prod.fst = placed depth before ls)
    (named : ∀ t ∈ ts, t.2 = true → t.1.isName = true) :
    ∃ ms, Renames target depth before ls ts ms := by
  induction ls generalizing depth before ts with
  | nil =>
    obtain rfl := List.map_eq_nil_iff.1 e
    exact ⟨_, .nil⟩
  | cons l ls ih =>
    cases l with
    | gap g =>
      obtain ⟨ms, rest⟩ := ih balanced e named
      exact ⟨_, .gap rest⟩
    | token kind t =>
      simp only [opened, placed] at balanced e
      cases nests : nesting depth kind with
      | none => simp [nests] at balanced
      | some n =>
        rw [nests] at balanced e
        obtain ⟨⟨u, mark⟩, us, rfl, rfl, tail⟩ := List.map_eq_cons_iff.1 e
        simp only [List.forall_mem_cons] at named
        obtain ⟨ms, rest⟩ := ih balanced tail named.2
        refine ⟨_, .token nests (fun marked => ?_) rest⟩
        simpa [Token.isName] using named.1 marked

/-- A word opens no parenthesis, and neither did the name in its place. -/
theorem nesting_renamed {target before t : Sql} {depth own next : Nat} {kind : TokenKind}
    {mark : Bool} (nests : nesting depth kind = some (own, next))
    (named : mark = true → kind = .word ∨ kind = .quotedName) :
    nesting depth (renamed target (⟨kind, before, t, own, false⟩, mark)).kind =
      some (own, next) := by
  cases mark with
  | false => exact nests
  | true => rcases named rfl with rfl | rfl <;> exact nests

namespace Renames

variable {target before : Sql} {depth : Nat} {ls ms : List Lexeme} {ts : List (Token × Bool)}

theorem written_eq (h : Renames target depth before ls ts ms) :
    before ++ written ms = substituted target ts ++ trailing before ls := by
  induction h with
  | nil => simp [trailing]
  | @gap _ before g _ _ _ _ ih => simpa [trailing, Lexeme.text] using ih
  | @token _ before kind t _ _ mark _ _ _ _ _ _ ih =>
    rw [List.nil_append] at ih
    cases mark <;> simp [trailing, Token.lexeme, Lexeme.text, ih]

theorem opened_eq (h : Renames target depth before ls ts ms) :
    opened depth ms = opened depth ls := by
  induction h with
  | nil => rfl
  | gap _ ih => exact ih
  | token nests named _ ih => simp [opened, Token.lexeme, nesting_renamed nests named, nests, ih]

theorem placed_eq (h : Renames target depth before ls ts ms) :
    placed depth before ms = ts.map (renamed target) := by
  induction h with
  | nil => rfl
  | gap _ ih => exact ih
  | @token _ _ _ _ _ _ mark _ _ _ nests named _ ih =>
    simp only [placed, Token.lexeme, nesting_renamed nests named, ih, List.map_cons]
    cases mark <;> rfl

theorem trailing_eq (h : Renames target depth before ls ts ms) :
    trailing before ms = trailing before ls := by
  induction h with
  | nil => rfl
  | gap _ ih => exact ih
  | token _ _ _ ih => exact ih

/-- Behind a gap, a token has something before it. -/
theorem before_ne (h : Renames target depth before ls ts ms) (ne : before ≠ []) :
    ∀ t ∈ ts.head?, t.1.before ≠ [] := by
  induction h with
  | nil => nofun
  | gap _ ih => exact ih (by simp [ne])
  | token => simpa using ne

/-- The text starts as before, or with the word in place of a token. -/
theorem head?_written (h : Renames target depth before ls ts ms) (bare : hasBareShape target = true)
    (apart : Apart none ls) :
    (written ms).head? = (written ls).head? ∨
      (written ms).head? = target.head? ∧ ∃ c ∈ (written ls).head?, isGap c = false := by
  cases h with
  | nil => exact .inl rfl
  | gap =>
    obtain ⟨c, r, e⟩ := List.exists_cons_of_ne_nil apart.1.text_ne
    simp [e]
  | @token _ _ kind t own _ mark =>
    obtain ⟨c, r, rfl, blank, -⟩ := apart.1.exists_head
    obtain ⟨d, r', rfl, -⟩ := exists_of_hasBareShape bare
    cases mark with
    | false => exact .inl rfl
    | true => exact .inr ⟨rfl, c, rfl, blank⟩

/-- A gap or a symbol stays apart from what is behind it. -/
theorem allows_head (h : Renames target depth before ls ts ms) (bare : hasBareShape target = true)
    {l : Lexeme} (apart : Apart none (l :: ls))
    (loose : ∀ kind t, l = .token kind t → kind = .symbol) :
    ∀ d ∈ (written ms).head?, l.allows d = true := by
  intro d hd
  obtain ⟨form, ok, rest⟩ := apart
  rcases h.head?_written bare rest with same | ⟨moved, c, hc, blank⟩
  · exact ok d (by simpa [← same] using hd)
  · obtain ⟨e, r, rfl, part, -⟩ := exists_of_hasBareShape bare
    obtain rfl : e = d := by simpa [moved] using hd
    exact allows_word form loose (ok c (by simpa using hc)) blank part

/-- What is behind a token can follow it, if it does not merge with the next token. -/
theorem allows_next_iff {t : Token × Bool} (h : Renames target depth [] ls ts ms)
    (bare : hasBareShape target = true) (apart : Apart none (t.1.lexeme :: ls)) :
    (∀ d ∈ (written ms).head?, (renamed target t).lexeme.allows d = true) ↔
      ∀ u ∈ ts.head?, merges target t u = false := by
  obtain ⟨form, ok, rest⟩ := apart
  cases h with
  | nil => simp
  | gap behind =>
    refine iff_of_true (fun d hd => ?_) fun u hu => ?_
    · obtain ⟨c, r, rfl⟩ := List.exists_cons_of_ne_nil rest.1.text_ne
      obtain ⟨t, mark⟩ := t
      cases mark with
      | false => exact ok d hd
      | true => exact word_allows_gap rest.1 target d hd
    · have ne := behind.before_ne rest.1.text_ne u hu
      simp [merges, ne]
  | @token _ _ kind t' own _ mark =>
    have first : ∀ d ∈ t'.head?, t.1.lexeme.allows d = true := fun d hd =>
      ok d (by simp [text, Option.mem_def.1 hd])
    have pair := allows_renamed_iff bare (u := (⟨kind, [], t', own, false⟩, mark)) form rfl first
    obtain ⟨c, r, e⟩ := List.exists_cons_of_ne_nil (wellFormed_renamed bare
      (t := (⟨kind, [], t', own, false⟩, mark)) rest.1).text_ne
    simp only [List.head?_cons, Option.mem_some_iff, forall_eq', written_cons, e]
    simp [← pair, show (renamed target _).text = c :: r from e]

/-- The lexemes are apart if no two tokens merge, and only then. -/
theorem apart_iff (h : Renames target depth before ls ts ms) (bare : hasBareShape target = true)
    (apart : Apart none ls) :
    Apart none ms ↔ ts.IsChain fun t u => merges target t u = false := by
  induction h with
  | nil => simp
  | @gap _ _ g _ _ _ rest ih =>
    have ok := rest.allows_head bare apart nofun
    rw [apart_cons, ih apart.2.2]
    exact ⟨fun h => h.2.2, fun h => ⟨apart.1, by simpa using ok, h⟩⟩
  | @token _ before kind t own _ mark _ _ _ _ _ rest ih =>
    have behind := rest.allows_next_iff (t := (⟨kind, before, t, own, false⟩, mark)) bare apart
    rw [apart_cons, ih apart.2.2, List.isChain_cons, Option.or_none, behind]
    exact and_iff_right (wellFormed_renamed bare apart.1)

/-- No other lexemes of the same text have the same tokens. -/
theorem unique (h : Renames target depth before ls ts ms) (bare : hasBareShape target = true)
    (apart : Apart none ls) {ks : List Lexeme} (apart' : Apart none ks)
    (text : written ks = written ms) (same : tokensOf ks = tokensOf ms) : ks = ms := by
  -- Tokens of `ms` may merge, so that its text alone does not give it back: where they are the
  -- first of `ks` as well, they are taken off both, and no gap of `ks` starts where a token does.
  induction h generalizing ks with
  | nil =>
    cases ks with
    | nil => rfl
    | cons k ks => simp [apart'.1.text_ne] at text
  | gap rest ih =>
    cases ks with
    | nil => simp [apart.1.text_ne] at text
    | cons k ks =>
      rw [written_cons, written_cons] at text
      obtain ⟨rfl, behind⟩ := eq_of_text_eq apart'.1 apart.1 (by simpa using apart'.2.1)
        (rest.allows_head bare apart nofun) text
      rw [ih apart.2.2 apart'.2.2 behind same]
  | @token _ before kind t own _ mark _ _ _ _ named rest ih =>
    have form := wellFormed_renamed bare (t := (⟨kind, before, t, own, false⟩, mark)) apart.1
    cases ks with
    | nil => simp [form.text_ne] at text
    | cons k ks =>
      rw [written_cons, written_cons] at text
      cases k with
      | token =>
        obtain ⟨first, tail⟩ := List.cons.inj same
        obtain ⟨rfl, rfl⟩ := Prod.mk.inj first
        rw [ih apart.2.2 apart'.2.2 (List.append_cancel_left text) tail]
        rfl
      | gap =>
        cases mark with
        | true => exact absurd text.symm (append_ne_gap form nofun apart'.1 _ _)
        | false =>
          by_cases symbol : kind = .symbol
          · -- A symbol opens no comment with what is behind it now: it did not before.
            have behind := rest.allows_head bare apart fun _ _ e => by
              cases e
              exact symbol
            cases (eq_of_text_eq apart'.1 form (by simpa using apart'.2.1) behind text).1
          · exact absurd text.symm (append_ne_gap form symbol apart'.1 _ _)

end Renames

end Lexeme

namespace Token

variable {reference target : Sql}

theorem isName_of_mem_marked {front ts : List Token} {t : Token × Bool}
    (h : t ∈ marked (moves reference) front ts) (marked : t.2 = true) : t.1.isName = true := by
  obtain ⟨a, b, -, mark⟩ := exists_of_mem_marked h
  rw [marked, moves, refersTo] at mark
  simp only [Bool.true_eq, Bool.and_eq_true] at mark
  exact mark.1.1.1

/-- What a token makes of the names next to it does not change: the one behind it is a member or a
type, or the one in front of it is a function. -/
theorem neighbour_renamed {t : Token × Bool} (named : t.2 = true → t.1.isName = true) :
    ((renamed target t).kind == .dot || (renamed target t).endsCast) =
        (t.1.kind == .dot || t.1.endsCast) ∧
      ((renamed target t).kind == .openParen) = (t.1.kind == .openParen) := by
  obtain ⟨⟨kind, before, text, depth, cut⟩, mark⟩ := t
  cases mark with
  | false => exact ⟨rfl, rfl⟩
  | true =>
    have name : kind = .word ∨ kind = .quotedName := by simpa [isName] using named rfl
    rcases name with rfl | rfl <;> exact ⟨rfl, rfl⟩

theorem moves_renamed {a b : List (Token × Bool)}
    (named : ∀ t ∈ a ++ b, t.2 = true → t.1.isName = true) (t : Token) :
    moves reference (a.map (renamed target)) t (b.map (renamed target)) =
      moves reference (a.map Prod.fst) t (b.map Prod.fst) := by
  have front : ((a.map (renamed target)).getLast?.any fun p => p.kind == .dot || p.endsCast) =
      (a.map Prod.fst).getLast?.any fun p => p.kind == .dot || p.endsCast := by
    rw [List.getLast?_map, List.getLast?_map]
    cases last : a.getLast? with
    | none => rfl
    | some u =>
      exact (neighbour_renamed (named u (List.mem_append_left b (List.mem_of_getLast? last)))).1
  have behind : ((b.map (renamed target)).head?.any fun n => n.kind == .openParen) =
      (b.map Prod.fst).head?.any fun n => n.kind == .openParen := by
    rw [List.head?_map, List.head?_map]
    cases first : b.head? with
    | none => rfl
    | some u =>
      exact (neighbour_renamed (named u (List.mem_append_right a (List.mem_of_head? first)))).2
  rw [moves, moves, refersTo, refersTo, front, behind]

/-- Nothing is moved a second time. -/
theorem not_moves_again (bare : hasBareShape target = true) (ne : target ≠ reference)
    {ts a b : List Token} {t : Token}
    (h : (marked (moves reference) [] ts).map (renamed target) = a ++ t :: b) :
    moves reference a t b = false := by
  have named : ∀ x ∈ marked (moves reference) [] ts, x.2 = true → x.1.isName = true :=
    fun x hx => isName_of_mem_marked hx
  obtain ⟨front, rest, e, rfl, tail⟩ := List.map_eq_append_iff.1 h
  obtain ⟨⟨u, mark⟩, behind, rfl, rfl, rfl⟩ := List.map_eq_cons_iff.1 tail
  cases mark with
  | true =>
    have meaning : (renamed target (u, true)).meaning = target := by
      simp [Token.meaning, Lexeme.map_toLower_of_hasBareShape bare]
    rw [moves, refersTo, meaning, beq_false_of_ne ne, Bool.and_false, Bool.false_and,
      Bool.false_and]
  | false =>
    rw [renamed_false, moves_renamed fun x hx => named x ?_]
    · exact (mark_of_marked e).symm
    · rw [e]
      rcases List.mem_append.1 hx with hx | hx <;> simp [hx]

end Token

namespace Scan

/-- The tokens of an expression, each with whether it is moved. -/
def marks (s : Scan) (reference : Sql) : List (Token × Bool) :=
  Token.marked (Token.moves reference) [] s.tokens

/-- The scan with the word `target` in place of each token that is moved. -/
def renamed (s : Scan) (reference target : Sql) : Scan :=
  ⟨(s.marks reference).map (Token.renamed target), s.after⟩

/-- No token merges with the next one where the references are moved. -/
def KeepsApart (s : Scan) (reference target : Sql) : Prop :=
  (s.marks reference).IsChain fun t u => Token.merges target t u = false

instance (s : Scan) (reference target : Sql) : Decidable (s.KeepsApart reference target) :=
  inferInstanceAs (Decidable (List.IsChain _ _))

end Scan

open Lexeme (written)
open Scan (placed trailing tokensOf)

/-- An expression with its references moved reads as the same tokens, with the word `target` in
place of those that are moved, if no token merges with the next one, and only then. What stands
between the tokens is the same as well then, and moving the references again changes nothing. -/
theorem reads_moved_iff {expression reference : Sql} {target : String} {scan : Scan}
    (read : Scan.ofSql expression = .ok scan) (bare : isBareName target = true) :
    ∃ moved, MovesTo expression reference target.toList moved ∧
      ((∃ s, Scan.ofSql moved = .ok s ∧ s.tokens.map Token.bare =
          (scan.renamed reference target.toList).tokens.map Token.bare) ↔
        scan.KeepsApart reference target.toList) ∧
      (scan.KeepsApart reference target.toList →
        Scan.ofSql moved = .ok (scan.renamed reference target.toList) ∧
          (target.toList ≠ reference → ∀ again, MovesTo moved reference again moved)) := by
  have shape : hasBareShape target.toList = true := by
    rw [isBareName, Bool.and_eq_true] at bare
    exact bare.1
  obtain ⟨ls, rfl, apart, balanced, rfl⟩ := Scan.ofSql_eq_ok_iff.1 read
  obtain ⟨ms, renames⟩ := Lexeme.exists_renames target.toList balanced
    (Token.map_fst_marked (Token.moves reference) [] _) fun t ht => Token.isName_of_mem_marked ht
  have text : written ms =
      Scan.replacing ⟨placed 0 [] ls, trailing [] ls⟩ target.toList (Token.moves reference) :=
    (List.nil_append _).symm.trans renames.written_eq
  have moves : MovesTo (written ls) reference target.toList (written ms) :=
    text ▸ movesTo_of_moveReference (moveReference_eq read reference target.toList)
  have reads (kept : Scan.KeepsApart ⟨placed 0 [] ls, trailing [] ls⟩ reference target.toList) :
      Scan.ofSql (written ms) =
        .ok (Scan.renamed ⟨placed 0 [] ls, trailing [] ls⟩ reference target.toList) := by
    refine Scan.ofSql_eq_ok_iff.2 ⟨ms, rfl, (renames.apart_iff shape apart).2 kept, ?_, ?_⟩
    · rw [renames.opened_eq, balanced]
    · rw [renames.placed_eq, renames.trailing_eq]
      rfl
  refine ⟨written ms, moves, ⟨?_, fun kept => ⟨_, reads kept, rfl⟩⟩, fun kept => ⟨reads kept, ?_⟩⟩
  · rintro ⟨s, read', same⟩
    obtain ⟨ks, e, apart', balanced', rfl⟩ := Scan.ofSql_eq_ok_iff.1 read'
    have tokens : tokensOf ks = tokensOf ms := by
      have pairs := congrArg (List.map fun t => (t.kind, t.text)) same
      rw [List.map_map, List.map_map] at pairs
      rw [← Scan.map_placed [] balanced', ← Scan.map_placed [] (renames.opened_eq.trans balanced),
        renames.placed_eq]
      exact pairs
    obtain rfl := renames.unique shape apart apart' e tokens
    exact (renames.apart_iff shape apart).1 apart'
  · intro ne again
    have none : ∀ t ∈ Token.marked (Token.moves reference) []
        (Scan.renamed ⟨placed 0 [] ls, trailing [] ls⟩ reference target.toList).tokens,
        t.2 = false := fun t ht => by
      obtain ⟨a, b, e, mark⟩ := Token.exists_of_mem_marked ht
      exact mark.trans (Token.not_moves_again shape ne e)
    have same := moveReference_eq (reads kept) reference again
    rw [Scan.replacing, Token.substituted_of_none none, Token.map_fst_marked, ← Scan.text_eq_laid,
      Scan.text_of_ofSql (reads kept)] at same
    exact movesTo_of_moveReference same

/-- A quoted name touches the member behind it, and both references are moved. -/
theorem reads_moved_quoted :
    MovesTo "\"c\".b + c.a".toList ['c'] "ut1".toList "ut1.b + ut1.a".toList ∧
      ∀ again, MovesTo "ut1.b + ut1.a".toList ['c'] again "ut1.b + ut1.a".toList := by
  let scan : Scan :=
    ⟨[⟨.quotedName, [], "\"c\"".toList, 0, false⟩, ⟨.dot, [], ['.'], 0, false⟩,
      ⟨.word, [], ['b'], 0, false⟩, ⟨.symbol, [' '], ['+'], 0, false⟩,
      ⟨.word, [' '], ['c'], 0, false⟩, ⟨.dot, [], ['.'], 0, false⟩,
      ⟨.word, [], ['a'], 0, false⟩], []⟩
  have read : Scan.ofSql "\"c\".b + c.a".toList = .ok scan := by cbv
  have apart : scan.KeepsApart ['c'] "ut1".toList := by decide
  obtain ⟨moved, moves, -, kept⟩ :=
    @reads_moved_iff _ ['c'] "ut1" _ read (by decide)
  obtain ⟨reads, again⟩ := kept apart
  obtain rfl : (scan.renamed ['c'] "ut1".toList).text = moved := Scan.text_of_ofSql reads
  exact ⟨moves, again (by decide)⟩

/-- A keyword that touches a quoted name becomes one word with the name in its place. -/
theorem not_reads_moved_keyword :
    isBareName "ut1" = true ∧ (∃ scan, Scan.ofSql "NOT\"c\".flag".toList = .ok scan ∧
      scan.tokens.length = 4) ∧
      MovesTo "NOT\"c\".flag".toList ['c'] "ut1".toList "NOTut1.flag".toList ∧
        ∃ s, Scan.ofSql "NOTut1.flag".toList = .ok s ∧ s.tokens.length = 3 := by
  let scan : Scan :=
    ⟨[⟨.word, [], "NOT".toList, 0, false⟩, ⟨.quotedName, [], "\"c\"".toList, 0, false⟩,
      ⟨.dot, [], ['.'], 0, false⟩, ⟨.word, [], "flag".toList, 0, false⟩], []⟩
  have read : Scan.ofSql "NOT\"c\".flag".toList = .ok scan := by cbv
  have reads : Scan.ofSql "NOTut1.flag".toList = .ok
      ⟨[⟨.word, [], "NOTut1".toList, 0, false⟩, ⟨.dot, [], ['.'], 0, false⟩,
        ⟨.word, [], "flag".toList, 0, false⟩], []⟩ := by cbv
  have fused : scan.replacing "ut1".toList (Token.moves ['c']) = "NOTut1.flag".toList := by decide
  refine ⟨by decide, ⟨scan, read, rfl⟩, ?_, _, reads, rfl⟩
  rw [← fused]
  exact movesTo_of_moveReference (moveReference_eq read _ _)

end BulkSql
