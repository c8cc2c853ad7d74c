import BulkSql.Proofs.Projecting
import BulkSql.Proofs.Reading
import BulkSql.Proofs.Sources
import BulkSql.Proofs.Splitting

/-!
Taking apart the statement of a query text once more. None of the tokens that are cut was read, so
what was found the first time is found again, and there are no settings in front any more.
-/
namespace BulkSql

/-! ### The text of a statement -/

theorem Blank.not_isBlank_of_trimEnd {s : Sql} (h : trimEnd s = s) :
    ∀ c ∈ s.getLast?, isBlank c = false := by
  intro c hc
  have ne : s ≠ [] := List.getLast?_isSome.1 (Option.isSome_iff_exists.2 ⟨c, hc⟩)
  have last := List.rdropWhile_eq_self_iff.1 h ne
  rw [List.getLast?_eq_some_getLast ne] at hc
  simpa [← Option.some.inj hc] using last

/-- The text of a scan without its terminator is a first part of the text. -/
theorem Scan.text_withoutTerminator (s : Scan) : s.withoutTerminator.text <+: s.text := by
  unfold withoutTerminator
  split
  · next t last =>
    split
    · obtain ⟨front, e⟩ := List.getLast?_eq_some_iff.1 last
      simp only [text, e, List.dropLast_concat]
      exact ⟨t.text ++ s.after, by simp⟩
    · exact List.prefix_refl _
  · exact List.prefix_refl _

namespace Body

variable {s : Sql} {body : Body}

/-- There are no blanks around the text of a statement. -/
theorem isFlush_text (h : ofSql s = .ok body) :
    IsFlush body.text ∧ Blank.trimEnd body.text = body.text := by
  obtain ⟨⟨t, ts, e, select, -⟩, -⟩ := exists_select h
  have uncut := not_cut_of_isKeyword h (e ▸ List.mem_cons_self) (by decide) select
  have some : body.text ≠ [] := fun none => by
    have first : Token.laid ([] ++ [t]) <+: body.text := (laid_prefix_iff h e).2 uncut
    rw [none, List.prefix_nil, List.nil_append, Token.laid_cons, List.append_eq_nil_iff,
      List.append_eq_nil_iff] at first
    simp [Token.isKeyword, first.2.1] at select
  obtain ⟨whole, read, rfl⟩ := exists_scan h
  have start : whole.text = Blank.trimStart s := Scan.text_of_ofSql read
  obtain ⟨blanks, left, -⟩ := Blank.exists_trimEnd whole.withoutTerminator.text
  have front : Blank.trimEnd whole.withoutTerminator.text <+: Blank.trimStart s :=
    start ▸ List.IsPrefix.trans ⟨blanks, left.symm⟩ whole.text_withoutTerminator
  exact ⟨(Blank.isFlush_trimStart (front.ne_nil some)).of_front front some,
    List.rdropWhile_idempotent _ _⟩

end Body

/-! ### The settings in front of the text -/

/-- A comment is no setting. -/
theorem Setting.read?_of_not_isLetter {c : Char} (solid : isBlank c = false)
    (other : isLetter 's' c = false) (r : Sql) : read? (c :: r) = none := by
  have set : afterSet? (c :: r) = none := by
    unfold afterSet?
    split
    · next e =>
      obtain ⟨rfl, -⟩ := List.cons.inj e
      simp [other]
    · rfl
  rw [read?, trimStart_cons solid, set]
  rfl

/-- There are no settings in front of a text whose first token is SELECT. -/
theorem splitPrelude_of_ofSql {s : Sql} (flush : IsFlush s) {scan : Scan}
    (read : Scan.ofSql s = .ok scan) {t : Token} {ts : List Token} (first : scan.tokens = t :: ts)
    (select : t.isKeyword "select" = true) : splitPrelude s = ([], s) := by
  refine splitPrelude_of_read? ?_
  obtain ⟨c, r, rfl, solid⟩ := flush
  obtain ⟨ls, text, apart, balanced, rfl⟩ := Scan.ofSql_eq_ok_iff.1 read
  cases ls with
  | nil => cases first
  | cons l ls =>
    rw [Lexeme.written_cons] at text
    cases l with
    | gap g =>
      -- the gap is a comment, for the text does not start with blanks
      cases apart.1 with
      | blanks gap _ =>
        rw [(List.cons.inj text).1] at gap
        simp [Lexeme.isBlank_of_isGap gap] at solid
      | lineComment _ =>
        obtain ⟨rfl, -⟩ := List.cons.inj text
        exact Setting.read?_of_not_isLetter (by decide) (by decide) _
      | blockComment _ =>
        obtain ⟨rfl, -⟩ := List.cons.inj text
        exact Setting.read?_of_not_isLetter (by decide) (by decide) _
    | token kind w =>
      simp only [Scan.placed, Scan.opened] at first balanced
      cases nest : Scan.nesting 0 kind with
      | none => simp [nest] at balanced
      | some own =>
        simp only [nest] at first
        obtain ⟨rfl, -⟩ := List.cons.inj first
        simp only [Token.isKeyword, Bool.and_eq_true, beq_iff_eq] at select
        rw [← text]
        exact (Setting.read?_of_select select.2 _).2

/-! ### What is found again -/

/-- A query in parentheses goes up to the first parenthesis that closes them. -/
theorem Source.item_of_paren {t close : Token} {inside behind : List Token}
    (paren : t.kind = .openParen)
    (others : ∀ u ∈ inside, (!(u.kind == .closeParen && u.depth == t.depth)) = true)
    (closes : close.kind = .closeParen ∧ close.depth = t.depth) :
    item (t :: (inside ++ close :: behind)) =
      .ok (Token.textOf (t :: (inside ++ [close])), none, behind) := by
  have run : (inside ++ close :: behind).takeWhile
      (fun u => !(u.kind == .closeParen && u.depth == t.depth)) = inside := by
    rw [List.takeWhile_append_of_pos others, List.takeWhile_cons_of_neg (by simp [closes]),
      List.append_nil]
  simp only [item, if_pos paren, run, List.drop_left]

/-- The name behind AS is the alias. -/
theorem Source.aliasToken_as {t name : Token} (whole : t.cut = false)
    (as : t.isKeyword "as" = true) (named : name.isName = true) (ts : List Token) :
    aliasToken (t :: name :: ts) = .ok (some name, ts) := by
  simp only [aliasToken, Token.reads_of_not_cut whole, bind, Except.bind, as, if_true, named]
  rfl

theorem Source.exists_of_aliasToken {t : Token} {ts rest : List Token} {named : Option Token}
    (as : t.isKeyword "as" = true) (h : aliasToken (t :: ts) = .ok (named, rest)) :
    ∃ name, ts = name :: rest ∧ named = some name ∧ name.isName = true := by
  obtain ⟨is, read, h⟩ := bind_eq_ok_iff.1 h
  obtain rfl := (Token.reads_eq_ok_iff.1 read).2.symm.trans as
  simp only [if_true] at h
  split at h
  · next name ts =>
    split at h
    · next isName =>
      cases h
      exact ⟨_, rfl, rfl, isName⟩
    · cases h
  · cases h

/-- Without AS it depends on one token only whether that is the alias. -/
theorem Source.exists_aliasToken {t : Token} (read : t.kind = .word → t.cut = false)
    (other : t.isKeyword "as" = false) :
    ∃ own : Bool, ∀ ts,
      aliasToken (t :: ts) = .ok (if own then (some t, ts) else (none, t :: ts)) := by
  have as : t.reads "as" = .ok false := Token.reads_eq_ok_iff.2 ⟨read, other⟩
  have tail : t.readsAny sourceTailWords = .ok (sourceTailWords.any t.isKeyword) :=
    Token.readsAny_eq_ok_iff.2 ⟨read, rfl⟩
  simp only [aliasToken, as, tail, bind, Except.bind, Bool.false_eq_true, if_false]
  split
  · exact ⟨true, fun _ => rfl⟩
  · split
    · cases sourceTailWords.any t.isKeyword with
      | true => exact ⟨false, fun _ => rfl⟩
      | false => exact ⟨true, fun _ => rfl⟩
    · exact ⟨false, fun _ => rfl⟩

namespace Rereads

variable {ts us front behind rest : List Token}

theorem splitAt? {keyword : String} (h : Rereads ts us)
    (found : Token.splitAt? keyword ts = .ok (some (front, behind))) :
    ∃ behind', Token.splitAt? keyword us = .ok (some (front, behind')) ∧
      Rereads behind behind' := by
  obtain ⟨t, rfl, is, outside, whole, other⟩ := Token.splitAt?_cases found
  obtain ⟨uncut, behind', rfl, later⟩ := h.split whole
  exact ⟨behind', Token.splitAt?_append uncut other whole outside is, later⟩

theorem nameParts (h : Rereads ts us) (uncut : ∀ u ∈ (Source.nameParts ts).1, u.cut = false) :
    ∃ rest, Source.nameParts us = ((Source.nameParts ts).1, rest) ∧
      Rereads (Source.nameParts ts).2 rest := by
  fun_induction Source.nameParts ts generalizing us with
  | case1 =>
    cases h
    exact ⟨[], rfl, .nil⟩
  | case2 t =>
    refine ⟨us, ?_, h⟩
    cases h with
    | gone => rfl
    | left => rfl
    | kept _ later =>
      cases later
      rfl
  | case3 dot part rest is ih =>
    simp only [List.forall_mem_cons] at uncut
    obtain ⟨us, rfl, second⟩ := h.uncons uncut.1
    obtain ⟨us, rfl, third⟩ := second.uncons uncut.2.1
    obtain ⟨rest', again, left⟩ := ih third uncut.2.2
    refine ⟨rest', ?_, left⟩
    rw [Source.nameParts, if_pos is, again]
  | case4 dot part rest other =>
    refine ⟨us, ?_, h⟩
    cases h with
    | gone => rfl
    | left => rfl
    | kept _ later =>
      -- what is left of a word is a name as before
      cases later with
      | gone => rfl
      | left => exact if_neg other
      | kept => exact if_neg other

/-- The source is read again, for its last token was read. -/
theorem item {text : Sql} {name : Option Sql} (h : Rereads ts us)
    (found : Source.item ts = .ok (text, name, rest)) :
    ∃ rest', Source.item us = .ok (text, name, rest') ∧ Rereads rest rest' := by
  cases ts with
  | nil => cases found
  | cons t ts =>
    rcases Source.item_cases found with
      ⟨paren, inside, close, rfl, others, closes, level, rfl, rfl⟩ |
      ⟨table, named, rfl, rfl, meaning, read, rfl⟩
    · have uncut : close.cut = false :=
        h.uncut_of_kind (by simp) (by simp [closes]) (by simp [closes])
      rw [← List.cons_append] at h
      obtain ⟨-, rest', rfl, left⟩ := h.split uncut
      exact ⟨rest', Source.item_of_paren paren others ⟨closes, level⟩, left⟩
    · have last := Source.cons_eq_concat t (Source.nameParts ts).1
      have whole : t :: ts = (t :: (Source.nameParts ts).1).dropLast ++
          (Source.nameParts ts).1.getLastD t :: (Source.nameParts ts).2 := by
        rw [List.append_cons, ← last, List.cons_append, Source.nameParts_append]
      have known := (Token.readMeaning_eq_ok_iff.1 read).1
      have uncut : ∀ u ∈ t :: (Source.nameParts ts).1, u.cut = false := by
        rw [last, List.forall_mem_append]
        exact ⟨((whole ▸ h : Rereads _ us).split known).1, by simpa using known⟩
      rw [List.forall_mem_cons] at uncut
      obtain ⟨us, rfl, later⟩ := h.uncons uncut.1
      obtain ⟨rest', again, left⟩ := later.nameParts uncut.2
      refine ⟨rest', ?_, left⟩
      simp only [Source.item, if_neg table, if_pos named, again]
      exact map_eq_ok_iff.2 ⟨_, read, rfl⟩

/-- The word behind the source is read, so that it is not cut. -/
theorem aliasToken {named : Option Token} (h : Rereads ts us)
    (found : Source.aliasToken ts = .ok (named, rest)) (uncut : ∀ t ∈ named, t.cut = false) :
    ∃ rest', Source.aliasToken us = .ok (named, rest') ∧ Rereads rest rest' := by
  have stops {t : Token} {b : Bool} (lost : t.IsLost) (word : t.kind = .word)
      (read : t.reads "as" = .ok b) : False := by
    rw [Token.reads, if_pos ⟨word, lost.1⟩] at read
    cases read
  cases h with
  | gone lost =>
    cases ts with
    | nil =>
      cases found
      exact ⟨[], rfl, .nil⟩
    | cons t ts =>
      have own := lost t List.mem_cons_self
      rcases own.2 with word | symbol
      · obtain ⟨_, read, -⟩ := bind_eq_ok_iff.1 found
        exact (stops own word read).elim
      · have other : t.isKeyword "as" = false := by simp [Token.isKeyword, symbol]
        obtain ⟨is, all⟩ := Source.exists_aliasToken (by simp [symbol]) other
        rw [all] at found
        cases is with
        | true =>
          cases found
          simp [own.1] at uncut
        | false =>
          cases found
          exact ⟨[], rfl, .gone lost⟩
  | @left t ts text lost word =>
    obtain ⟨_, read, -⟩ := bind_eq_ok_iff.1 found
    exact (stops (lost t List.mem_cons_self) word read).elim
  | @kept t ts us whole later =>
    cases as : t.isKeyword "as" with
    | true =>
      obtain ⟨name, rfl, rfl, isName⟩ := Source.exists_of_aliasToken as found
      obtain ⟨us, rfl, behind⟩ := later.uncons (uncut name rfl)
      exact ⟨us, Source.aliasToken_as whole as isName us, behind⟩
    | false =>
      obtain ⟨is, all⟩ := Source.exists_aliasToken (fun _ => whole) as
      rw [all] at found ⊢
      cases is with
      | true =>
        cases found
        exact ⟨us, rfl, later⟩
      | false =>
        cases found
        exact ⟨t :: us, rfl, .kept whole later⟩

theorem checkSingle (h : Rereads ts us) (single : Source.checkSingle ts = .ok ()) :
    Source.checkSingle us = .ok () := by
  cases h with
  | gone => rfl
  | @left t ts text lost word =>
    have inside : ¬ t.depth = 0 := fun outside => by
      have stops : t.readsAny joinWords = .error .cutToken :=
        if_pos ⟨word, (lost t List.mem_cons_self).1⟩
      simp only [Source.checkSingle, if_pos outside, word, stops] at single
      cases single
    exact if_neg inside
  | kept => exact single

theorem ofTokens {source : Source} (h : Rereads ts us) (read : Source.ofTokens ts = .ok source) :
    Source.ofTokens us = .ok source := by
  obtain ⟨text, table, behind, named, rest, found, aliased, single, uncut, rfl⟩ :=
    Source.ofTokens_eq_ok_iff.1 read
  obtain ⟨behind', found', later⟩ := h.item found
  obtain ⟨rest', aliased', later⟩ := later.aliasToken aliased uncut
  exact Source.ofTokens_eq_ok_iff.2 ⟨text, table, behind', named, rest', found', aliased',
    later.checkSingle single, uncut, rfl⟩

end Rereads

/-! ### Parentheses -/

namespace Token

/-- Every parenthesis that is closed was open before, and all that are open are closed. -/
def Balanced (ts : List Token) : Prop :=
  (∀ us, us <+: ts →
    us.countP (·.kind = .closeParen) ≤ us.countP (·.kind = .openParen)) ∧
  ts.countP (·.kind = .closeParen) = ts.countP (·.kind = .openParen)

theorem countP_of_openedBy {depth d : Nat} {ts : List Token} (h : openedBy depth ts = some d) :
    ts.countP (·.kind = .closeParen) + d = ts.countP (·.kind = .openParen) + depth := by
  induction ts generalizing depth with
  | nil =>
    obtain rfl : depth = d := Option.some.inj h
    rfl
  | cons t ts ih =>
    rw [openedBy] at h
    split at h
    · next own next nest =>
      have rest := ih h
      have step := Scan.count_of_nesting nest
      simp only [List.countP_cons, decide_eq_true_eq]
      omega
    · cases h

theorem openedBy_append (depth : Nat) (ts us : List Token) :
    openedBy depth (ts ++ us) = (openedBy depth ts).bind fun d => openedBy d us := by
  induction ts generalizing depth with
  | nil => rfl
  | cons t ts ih =>
    simp only [List.cons_append, openedBy]
    split
    · exact ih _
    · rfl

theorem balanced_of_openedBy {ts : List Token} (h : openedBy 0 ts = some 0) : Balanced ts := by
  refine ⟨?_, by simpa using countP_of_openedBy h⟩
  rintro us ⟨vs, rfl⟩
  rw [openedBy_append] at h
  obtain ⟨d, opens, -⟩ := Option.bind_eq_some_iff.1 h
  have count := countP_of_openedBy opens
  omega

end Token

/-! ### Query texts -/

/-- The parentheses of a text that has tokens are balanced. -/
theorem Scan.balanced_of_ofSql {s : Sql} {scan : Scan} (h : ofSql s = .ok scan) :
    Token.Balanced scan.tokens := by
  obtain ⟨ls, -, -, balanced, rfl⟩ := ofSql_eq_ok_iff.1 h
  exact Token.balanced_of_openedBy (openedBy_placed [] balanced)

/-- The text of a statement is one of a statement again, without settings in front. -/
theorem Body.exists_again {s : Sql} {body : Body} (h : ofSql s = .ok body) :
    ∃ t ts after, Scan.ofSql body.text = .ok ⟨t :: ts, after⟩ ∧ t.isKeyword "select" = true ∧
      (∀ u ∈ t :: ts, u.kind ≠ .semicolon) ∧ Rereads body.tokens (t :: ts) ∧
      splitPrelude body.text = ([], body.text) ∧ ofSql body.text = .ok ⟨t :: ts, body.text⟩ := by
  obtain ⟨⟨t, rest, e, select, -⟩, unended⟩ := exists_select h
  obtain ⟨⟨us, after⟩, read, again⟩ := exists_rereads h
  obtain ⟨flush, finish⟩ := isFlush_text h
  have uncut := not_cut_of_isKeyword h (e ▸ List.mem_cons_self) (by decide) select
  obtain ⟨ts, rfl, -⟩ := (e ▸ again : Rereads (t :: rest) us).uncons uncut
  have none : ∀ u ∈ t :: ts, u.kind ≠ .semicolon := fun u hu => by
    obtain ⟨v, hv, same⟩ := again.exists_kind u hu
    exact same ▸ unended v hv
  refine ⟨t, ts, after, read, select, none, again, splitPrelude_of_ofSql flush read rfl select, ?_⟩
  exact Scan.body_of_ofSql read (by simpa using flush.trimStart_append []) finish rfl select none

namespace DerivedQuery

/-- The statement of a query text is a normal form: taken apart again it has no settings, the same
text and the same alias of its source. -/
theorem ofSql_body {s : Sql} {q : DerivedQuery} (h : ofSql s = .ok q) :
    ofSql q.body = .ok ⟨[], q.body, q.sourceAlias?⟩ ∧
      (∀ c ∈ q.body.head?, isBlank c = false) ∧ (∀ c ∈ q.body.getLast?, isBlank c = false) ∧
      ∃ t ts after, Scan.ofSql q.body = .ok ⟨t :: ts, after⟩ ∧ t.isKeyword "select" = true ∧
        (∀ u ∈ t :: ts, u.kind ≠ .semicolon) ∧ Token.Balanced (t :: ts) := by
  unfold ofSql at h
  generalize splitPrelude s = split at h
  obtain ⟨body, made, h⟩ := bind_eq_ok_iff.1 h
  obtain ⟨_ | ⟨front, behind⟩, found, h⟩ := bind_eq_ok_iff.1 h
  · cases h
  · obtain ⟨source, read, rfl⟩ := map_eq_ok_iff.1 h
    replace made := mapError_eq_ok_iff.1 made
    obtain ⟨t, ts, after, tokens, select, unended, again, plain, same⟩ := Body.exists_again made
    obtain ⟨⟨c, r, text, solid⟩, finish⟩ := Body.isFlush_text made
    obtain ⟨behind', found', later⟩ := again.splitAt? found
    have source' := later.ofTokens read
    refine ⟨?_, ?_, ?_, t, ts, after, tokens, select, unended, Scan.balanced_of_ofSql tokens⟩
    · simp only [ofSql, plain, same, found', source', bind, Except.bind, Except.mapError]
      rfl
    · simp [text, solid]
    · exact Blank.not_isBlank_of_trimEnd finish

/-- A cut word, the semicolon and a comment behind it are left off once. -/
theorem ofSql_body_cut :
    ofSql "SET a.b TO 'x;';\nselect t.x FROM t AS u WHERE t.y\u00a0; -- end".toList =
        .ok ⟨[⟨"a.b".toList, "'x;'".toList, "SET a.b TO 'x;';".toList⟩],
          "select t.x FROM t AS u WHERE t.y".toList, some ['u']⟩ ∧
      ofSql "select t.x FROM t AS u WHERE t.y".toList =
        .ok ⟨[], "select t.x FROM t AS u WHERE t.y".toList, some ['u']⟩ := by
  have read : ofSql "SET a.b TO 'x;';\nselect t.x FROM t AS u WHERE t.y\u00a0; -- end".toList =
      .ok ⟨[⟨"a.b".toList, "'x;'".toList, "SET a.b TO 'x;';".toList⟩],
        "select t.x FROM t AS u WHERE t.y".toList, some ['u']⟩ := by decide +kernel
  exact ⟨read, (ofSql_body read).1⟩

end DerivedQuery

end BulkSql
