import BulkSql.Proofs.Rereading

/-!
Parts of a text from one token to another. Where no parentheses are open before a part and behind it,
the part has the same tokens by itself as it has in the text.
-/
namespace BulkSql

/-- By itself the text has some tokens of a longer one, but for what stands between them. -/
def ReadsAlone (s : Sql) (ts : List Token) : Prop :=
  ∃ scan, Scan.ofSql s = .ok scan ∧ scan.tokens.map Token.bare = ts.map Token.bare

/-- The number of parentheses that are open behind some tokens, unless one was closed that was not
open. -/
def Token.openedBy (depth : Nat) : List Token → Option Nat
  | [] => some depth
  | t :: ts =>
    match Scan.nesting depth t.kind with
    | some (_, next) => openedBy next ts
    | none => none

theorem Token.openedBy_map_bare (depth : Nat) (ts : List Token) :
    openedBy depth (ts.map bare) = openedBy depth ts := by
  induction ts generalizing depth with
  | nil => rfl
  | cons t ts ih => simp only [List.map_cons, openedBy, bare, ih]

/-- Without parentheses among some tokens none is opened or closed. -/
theorem Token.openedBy_of_flat (depth : Nat) {ts : List Token}
    (flat : ∀ t ∈ ts, t.kind ≠ .openParen ∧ t.kind ≠ .closeParen) :
    openedBy depth ts = some depth := by
  induction ts with
  | nil => rfl
  | cons t ts ih =>
    rw [List.forall_mem_cons] at flat
    have stays : Scan.nesting depth t.kind = some (depth, depth) := by
      cases e : t.kind <;> simp_all [Scan.nesting]
    rw [openedBy, stays]
    exact ih flat.2

namespace Scan

open Lexeme (written Apart)

/-! ### Depths -/

section Depth

variable {depth d own next : Nat} {kind : TokenKind} {before : Sql} {ls : List Lexeme}
  {front behind : List Token} {t : Token}

theorem eq_of_nesting (h : nesting depth kind = some (own, next)) (ne : kind ≠ .closeParen) :
    own = depth := by
  cases kind <;> simp_all [nesting]

theorem next_of_nesting (h : nesting depth kind = some (own, next)) (ne : kind ≠ .openParen) :
    next = own := by
  cases kind with
  | openParen => exact absurd rfl ne
  | closeParen =>
    rw [nesting] at h
    split at h
    · cases h
    · cases h
      rfl
  | _ =>
    cases h
    rfl

/-- The lexemes of a text are split where its tokens are. -/
theorem exists_split (h : opened depth ls = some d)
    (e : placed depth before ls = front ++ t :: behind) :
    ∃ ks ms m n, ls = ks ++ .token t.kind t.text :: ms ∧ opened depth ks = some m ∧
      placed depth before ks = front ∧ trailing before ks = t.before ∧
      nesting m t.kind = some (t.depth, n) ∧ opened n ms = some d ∧ placed n [] ms = behind := by
  induction ls generalizing depth before front with
  | nil => simp [placed] at e
  | cons l ls ih =>
    cases l with
    | gap g =>
      obtain ⟨ks, ms, m, n, rfl, rest⟩ := ih h e
      exact ⟨.gap g :: ks, ms, m, n, rfl, rest⟩
    | token kind w =>
      simp only [opened, placed] at h e
      cases nest : nesting depth kind with
      | none => simp [nest] at h
      | some own =>
        simp only [nest] at h e
        cases front with
        | nil =>
          obtain ⟨rfl, rfl⟩ := List.cons.inj e
          exact ⟨[], ls, depth, own.2, rfl, rfl, rfl, rfl, nest, h, rfl⟩
        | cons f front =>
          obtain ⟨rfl, behind⟩ := List.cons.inj e
          obtain ⟨ks, ms, m, n, rfl, opens, tokens, rest⟩ := ih h behind
          refine ⟨.token kind w :: ks, ms, m, n, rfl, ?_, ?_, rest⟩
          · simpa only [opened, nest] using opens
          · simp only [placed, nest, tokens]

theorem openedBy_placed (before : Sql) (h : opened depth ls = some d) :
    Token.openedBy depth (placed depth before ls) = some d := by
  induction ls generalizing depth before with
  | nil => exact h
  | cons l ls ih =>
    cases l with
    | gap g => exact ih _ h
    | token kind w =>
      simp only [opened, placed] at h ⊢
      cases nest : nesting depth kind with
      | none => simp [nest] at h
      | some own =>
        simp only [nest] at h ⊢
        rw [Token.openedBy, nest]
        exact ih [] h

theorem opened_of_placed_nil (h : opened depth ls = some d) (none : placed depth before ls = []) :
    depth = d := by
  have balance := openedBy_placed before h
  rw [none] at balance
  exact Option.some.inj balance

/-- Behind the last token as many parentheses are open as around it. -/
theorem eq_depth_of_last (h : opened depth ls = some d)
    (e : placed depth before ls = front ++ [t]) (ne : t.kind ≠ .openParen) : d = t.depth := by
  obtain ⟨ks, ms, m, n, rfl, -, -, -, nest, opens, none⟩ := exists_split h e
  rw [← next_of_nesting nest ne, opened_of_placed_nil opens none]

/-- Before the first token as many parentheses are open as around it. -/
theorem eq_depth_of_first (h : opened depth ls = some d)
    (e : placed depth before ls = t :: behind) (ne : t.kind ≠ .closeParen) : depth = t.depth := by
  rw [← List.nil_append (t :: behind)] at e
  obtain ⟨ks, ms, m, n, rfl, opens, none, -, nest, -, -⟩ := exists_split h e
  rw [opened_of_placed_nil opens none, eq_of_nesting nest ne]

end Depth

/-! ### Parts -/

section Part

variable {depth d : Nat} {before : Sql} {ls : List Lexeme} {front ts behind : List Token}
  {t : Token}

theorem laid_placed (h : opened depth ls = some d) (last : trailing before ls = []) :
    Token.laid (placed depth before ls) = before ++ written ls := by
  have whole := text_placed before h
  rwa [last, text_eq_laid, List.append_nil] at whole

/-- The lexemes up to the last one of some tokens. -/
theorem exists_upTo (h : opened depth ls = some d) (e : placed depth [] ls = ts ++ behind) :
    ∃ ms ns n, ls = ms ++ ns ∧ opened depth ms = some n ∧ placed depth [] ms = ts ∧
      trailing [] ms = [] ∧ opened n ns = some d ∧ placed n [] ns = behind := by
  rcases List.eq_nil_or_concat ts with rfl | ⟨init, last, rfl⟩
  · exact ⟨[], ls, depth, rfl, rfl, rfl, rfl, h, e⟩
  · rw [List.concat_eq_append, List.append_assoc] at e
    obtain ⟨ks, ms, m, n, rfl, opens, tokens, stood, nest, opens', tokens'⟩ := exists_split h e
    have uncut : last.cut = false := cut_of_placed depth [] _ last (by rw [e]; simp)
    refine ⟨ks ++ [.token last.kind last.text], ms, n, by simp, ?_, ?_, ?_, opens', tokens'⟩
    · simp [opened_append, opens, opened, nest]
    · simp [placed_append [] _ opens, tokens, placed, nest, stood, ← uncut]
    · simp [trailing_append, trailing]

/-- The lexemes of a part. As many parentheses are open before it as around a token in front of it,
and as many behind it as around a token there. -/
theorem exists_part (apart : Apart none ls) (h : opened depth ls = some d)
    (e : placed depth [] ls = front ++ (t :: ts ++ behind)) :
    ∃ ms m n, Apart none ms ∧ opened m ms = some n ∧ placed m t.before ms = t :: ts ∧
      written ms = Token.textOf (t :: ts) ∧
      (∀ init f, front = init ++ [f] → f.kind ≠ .openParen → m = f.depth) ∧
      ∀ b rest, behind = b :: rest → b.kind ≠ .closeParen → n = b.depth := by
  rw [← List.append_assoc] at e
  obtain ⟨us, ns, n, rfl, opens, tokens, last, opens', tokens'⟩ := exists_upTo h e
  obtain ⟨ks, ms, m, k, rfl, start, front', stood, nest, inside, rest⟩ := exists_split opens tokens
  have uncut : t.cut = false := cut_of_placed depth [] _ t (by rw [tokens]; simp)
  have gapless : trailing [] ms = [] := by simpa [trailing_append, trailing] using last
  refine ⟨.token t.kind t.text :: ms, m, n, ?_, ?_, ?_, ?_, ?_, ?_⟩
  · exact (Lexeme.apart_append.1 (Lexeme.apart_append.1 apart).1).2.none
  · simpa only [opened, nest] using inside
  · simp [placed, nest, rest, ← uncut]
  · have tail := laid_placed inside gapless
    rw [rest, List.nil_append] at tail
    rw [Lexeme.written_cons, ← tail]
    rfl
  · rintro init f rfl ne
    exact eq_depth_of_last start front' ne
  · rintro b bs rfl ne
    exact eq_depth_of_first opens' tokens' ne

theorem readsAlone_of_apart (apart : Apart none ls) (h : opened 0 ls = some 0)
    (e : placed 0 before ls = ts) : ReadsAlone (written ls) ts := by
  refine ⟨_, ofSql_eq_ok_iff.2 ⟨ls, rfl, apart, h, rfl⟩, ?_⟩
  rw [← e, map_bare_placed, map_bare_placed]

end Part

end Scan

/-- What has its tokens by itself has balanced parentheses. -/
theorem ReadsAlone.balanced {s : Sql} {ts : List Token} (h : ReadsAlone s ts) :
    Token.openedBy 0 ts = some 0 := by
  obtain ⟨scan, read, same⟩ := h
  obtain ⟨ls, -, -, balanced, rfl⟩ := Scan.ofSql_eq_ok_iff.1 read
  rw [← Token.openedBy_map_bare, ← same, Token.openedBy_map_bare]
  exact Scan.openedBy_placed [] balanced

namespace Body

open Lexeme (written Apart)

variable {s : Sql} {body : Body} {front ts behind : List Token} {f t : Token}

/-! ### Statements -/

theorem exists_lexemes (h : ofSql s = .ok body) :
    ∃ ls, Apart none ls ∧ Scan.opened 0 ls = some 0 ∧
      Scan.placed 0 [] ls = body.tokens.map Token.whole ∧
      body.text = Blank.trimEnd (written ls) := by
  obtain ⟨scan, read, rfl⟩ := exists_scan h
  have uncut := fun t ht => (Scan.wellFormed_withoutTerminator read t ht).1
  obtain ⟨ls, apart, balanced, e⟩ := Scan.exists_withoutTerminator read
  refine ⟨ls, apart, balanced, ?_, ?_⟩
  · rw [Scan.map_whole_clipped uncut, e]
  · have text := Scan.text_placed [] balanced
    rw [e]
    exact congrArg Blank.trimEnd text

/-- A part of a statement behind one of its tokens. -/
theorem exists_part (h : ofSql s = .ok body)
    (e : body.tokens = front ++ f :: (t :: ts ++ behind)) (uncut : ∀ u ∈ t :: ts, u.cut = false)
    (opens : f.kind ≠ .openParen) :
    ∃ ms n, Apart none ms ∧ Scan.opened f.depth ms = some n ∧
      Scan.placed f.depth t.before ms = t :: ts ∧ written ms = Token.textOf (t :: ts) ∧
      ∀ b rest, behind = b :: rest → b.kind ≠ .closeParen → n = b.depth := by
  obtain ⟨ls, apart, balanced, tokens, -⟩ := exists_lexemes h
  have split : Scan.placed 0 [] ls =
      (front.map Token.whole ++ [f.whole]) ++ (t :: ts ++ behind.map Token.whole) := by
    rw [tokens, e, ← Token.map_whole_of_not_cut uncut]
    simp [Token.whole]
  obtain ⟨ms, m, n, apart', inside, same, text, before, after⟩ :=
    Scan.exists_part apart balanced split
  obtain rfl : m = f.depth := before _ f.whole rfl opens
  refine ⟨ms, n, apart', inside, same, text, ?_⟩
  rintro b rest rfl ne
  exact after b.whole _ (List.map_cons) ne

/-- The text of a statement, read again, has the same tokens up to one that is not cut. -/
theorem exists_scan_text (h : ofSql s = .ok body) (e : body.tokens = front ++ t :: behind)
    (uncut : t.cut = false) :
    ∃ scan rest, Scan.ofSql body.text = .ok scan ∧ scan.tokens = front ++ t :: rest := by
  obtain ⟨scan, read, again⟩ := exists_rereads h
  obtain ⟨-, rest, tokens, -⟩ := (e ▸ again).split uncut
  exact ⟨scan, rest, read, tokens⟩

end Body

end BulkSql
