import BulkSql.Proofs.Cutting
import BulkSql.Proofs.Decomposition

/-!
What a projection is taken from. Its expression and its source are parts of the tokens of the
statement, which have the same tokens by themselves.
-/
namespace BulkSql

namespace Token

/-- A word outside of all parentheses. -/
def IsOuterWord (t : Token) : Prop := t.kind = .word ∧ t.depth = 0

theorem IsOuterWord.of_isKeyword {keyword : String} {t : Token} (h : t.isKeyword keyword = true)
    (outside : t.depth = 0) : t.IsOuterWord := ⟨kind_of_isKeyword h, outside⟩

end Token

/-- Without its terminator a text with one semicolon at most, which is at its end, has none. -/
theorem Scan.tokens_withoutTerminator {scan : Scan} {t : Token} {ts : List Token}
    (e : scan.tokens = t :: ts) (word : t.kind = .word)
    (single : ∀ u ∈ scan.tokens.dropLast, u.kind ≠ .semicolon) :
    (∃ us, scan.withoutTerminator.tokens = t :: us) ∧
      ∀ u ∈ scan.withoutTerminator.tokens, u.kind ≠ .semicolon := by
  obtain ⟨init, last, whole⟩ : ∃ init last, scan.tokens = init ++ [last] := by
    simpa [e] using List.eq_nil_or_concat (t :: ts)
  rw [whole, List.dropLast_concat] at single
  have final : scan.tokens.getLast? = some last := by rw [whole, List.getLast?_concat]
  simp only [withoutTerminator, final]
  split
  · next semicolon =>
    rw [whole, List.dropLast_concat]
    refine ⟨?_, single⟩
    rw [whole] at e
    cases init with
    | nil =>
      obtain ⟨rfl, -⟩ := List.cons.inj e
      simp [word] at semicolon
    | cons u us =>
      obtain ⟨rfl, -⟩ := List.cons.inj e
      exact ⟨us, rfl⟩
  · next other =>
    refine ⟨⟨ts, e⟩, fun u hu => ?_⟩
    rw [whole] at hu
    rcases List.mem_append.1 hu with hu | hu
    · exact single u hu
    · rwa [List.mem_singleton.1 hu]

namespace Body

/-- A statement starts with SELECT, and has no semicolon. -/
theorem exists_select {s : Sql} {body : Body} (h : ofSql s = .ok body) :
    (∃ t ts, body.tokens = t :: ts ∧ t.isKeyword "select" = true ∧ t.depth = 0) ∧
      ∀ t ∈ body.tokens, t.kind ≠ .semicolon := by
  obtain ⟨t, ts, scan, read, e, select, single, rfl⟩ := ofSql_eq_ok_iff.1 h
  have uncut := fun u hu => (Scan.wellFormed_withoutTerminator read u hu).1
  have whole := Scan.map_whole_clipped uncut
  obtain ⟨⟨us, first⟩, none⟩ :=
    Scan.tokens_withoutTerminator e (Token.kind_of_isKeyword select) single
  obtain ⟨ls, -, balanced, tokens⟩ := Scan.exists_withoutTerminator read
  refine ⟨?_, fun u hu => ?_⟩
  · rw [first] at whole
    obtain ⟨t', us', e', rfl, -⟩ := List.map_eq_cons_iff.1 whole
    refine ⟨t', us', e', select, ?_⟩
    rw [tokens] at first
    exact (Scan.eq_depth_of_first balanced first
      (by simp [Token.kind_of_isKeyword select])).symm
  · exact none u.whole (whole ▸ List.mem_map_of_mem hu)

/-- What stands between two words outside of all parentheses has its tokens by itself. -/
theorem readsAlone_between {s : Sql} {body : Body} (h : ofSql s = .ok body)
    {front ts behind : List Token} {f b : Token}
    (e : body.tokens = front ++ f :: (ts ++ b :: behind)) (ne : ts ≠ []) (before : f.IsOuterWord)
    (after : b.IsOuterWord) (uncut : b.cut = false) : ReadsAlone (Token.textOf ts) ts := by
  have all : ∀ u ∈ ts, u.cut = false := by
    have split : body.tokens = (front ++ f :: ts) ++ b :: behind := by simp [e]
    exact fun u hu => not_cut_of_before h split uncut u (by simp [hu])
  obtain ⟨t, us, rfl⟩ := List.exists_cons_of_ne_nil ne
  obtain ⟨ls, n, apart, opens, own, text, level⟩ := exists_part h e all (by simp [before.1])
  obtain rfl : n = b.depth := level b behind rfl (by simp [after.1])
  rw [before.2, after.2] at opens
  rw [before.2] at own
  rw [← text]
  exact Scan.readsAlone_of_apart apart opens own

end Body

namespace Source

/-- A query in parentheses, or the name of a table. -/
inductive IsItem : List Token → Prop
  | query {t close inside} (opens : t.kind = .openParen) (closes : close.kind = .closeParen)
    (level : close.depth = t.depth) : IsItem (t :: (inside ++ [close]))
  | table {t parts} (named : t.isName = true)
    (names : ∀ u ∈ parts, u.isName = true ∨ u.kind = .dot) : IsItem (t :: parts)

theorem nameParts_kinds (ts : List Token) :
    ∀ u ∈ (nameParts ts).1, u.isName = true ∨ u.kind = .dot := by
  fun_induction nameParts ts with
  | case1 => simp
  | case2 => simp
  | case3 dot part rest parts ih => simpa [parts] using ih
  | case4 => simp

theorem isItem_of_item {ts rest : List Token} {text : Sql} {name : Option Sql}
    (h : item ts = .ok (text, name, rest)) :
    ∃ source, ts = source ++ rest ∧ text = Token.textOf source ∧ IsItem source := by
  cases ts with
  | nil => cases h
  | cons t ts =>
    rcases item_cases h with ⟨paren, inside, close, rfl, -, closes, level, text, -⟩ |
        ⟨-, named, rfl, text, -⟩
    · exact ⟨t :: (inside ++ [close]), by simp, text, .query paren closes level⟩
    · exact ⟨t :: (nameParts ts).1, by simp [nameParts_append], text,
        .table named (nameParts_kinds ts)⟩

theorem not_paren_of_isPart {u : Token} (h : u.isName = true ∨ u.kind = .dot) :
    u.kind ≠ .openParen ∧ u.kind ≠ .closeParen := by
  simp only [Token.isName, Bool.or_eq_true, beq_iff_eq] at h
  obtain (h | h) | h := h <;> simp [h]

/-- Behind an item as many parentheses are open as before it. -/
theorem IsItem.level {before : Sql} {ls : List Lexeme} {n : Nat} {source : List Token}
    (h : IsItem source) (opens : Scan.opened 0 ls = some n)
    (e : Scan.placed 0 before ls = source) : n = 0 := by
  cases h with
  | @query t close inside opened closes level =>
    have first : 0 = t.depth := Scan.eq_depth_of_first opens e (by simp [opened])
    rw [← List.cons_append] at e
    have last : n = close.depth := Scan.eq_depth_of_last opens e (by simp [closes])
    rw [last, level, ← first]
  | table named names =>
    have balance := Scan.openedBy_placed before opens
    rw [e, Token.openedBy_of_flat] at balance
    · exact (Option.some.inj balance).symm
    · exact List.forall_mem_cons.2 ⟨not_paren_of_isPart (.inl named),
        fun u hu => not_paren_of_isPart (names u hu)⟩

/-- The item at the front of the tokens behind FROM has its tokens by itself. -/
theorem exists_readsAlone {s : Sql} {body : Body} (h : Body.ofSql s = .ok body)
    {front ts rest : List Token} {f : Token} (e : body.tokens = front ++ f :: ts)
    (before : f.IsOuterWord) {text : Sql} {name : Option Sql}
    (found : item ts = .ok (text, name, rest)) :
    ∃ init last, ts = init ++ last :: rest ∧ last.cut = false ∧
      ReadsAlone text (init ++ [last]) := by
  obtain ⟨source, split, -, shape⟩ := isItem_of_item found
  obtain ⟨init, last, whole, rfl, read⟩ := exists_of_item found
  obtain rfl : source = init ++ [last] := by
    rw [whole, List.append_cons, List.append_left_inj] at split
    exact split.symm
  have tokens : body.tokens = (front ++ f :: init) ++ last :: rest := by simp [e, whole]
  have uncut : last.cut = false :=
    read.elim id (Body.not_cut_of_closeParen h (by simp [tokens]))
  refine ⟨init, last, whole, uncut, ?_⟩
  have all : ∀ u ∈ init ++ [last], u.cut = false := by
    intro u hu
    rcases List.mem_append.1 hu with hu | hu
    · exact Body.not_cut_of_before h tokens uncut u (by simp [hu])
    · rwa [List.mem_singleton.1 hu]
  obtain ⟨t, us, same⟩ : ∃ t us, init ++ [last] = t :: us := List.exists_cons_of_ne_nil (by simp)
  rw [same] at shape all ⊢
  have parts : body.tokens = front ++ f :: (t :: us ++ rest) := by simp [tokens, ← same]
  obtain ⟨ls, n, apart, opens, own, text, -⟩ := Body.exists_part h parts all (by simp [before.1])
  rw [before.2] at opens own
  obtain rfl := shape.level opens own
  rw [← text]
  exact Scan.readsAlone_of_apart apart opens own

theorem exists_item_of_ofTokens {ts : List Token} {source : Source} (h : ofTokens ts = .ok source) :
    ∃ name rest, item ts = .ok (source.text, name, rest) := by
  obtain ⟨text, name, rest, named, rest', found, -, -, -, rfl⟩ := ofTokens_eq_ok_iff.1 h
  exact ⟨name, rest, found⟩

end Source

namespace Projection

/-- The selected column is not empty, has no quantifier, and is a single one. -/
theorem of_checkColumn {ts : List Token} (h : checkColumn ts = .ok ()) :
    ∃ t us, ts = t :: us ∧ t.isKeyword "distinct" = false ∧ t.isKeyword "all" = false ∧
      ∀ u ∈ ts, u.depth = 0 → u.kind ≠ .comma := by
  unfold checkColumn at h
  split at h
  · cases h
  · next t us =>
    split at h
    · cases h
    · next plain =>
      split at h
      · cases h
      · next single =>
        simp only [Bool.or_eq_true, not_or, Bool.not_eq_true] at plain
        exact ⟨t, us, rfl, plain.1, plain.2, by simpa using single⟩

/-- The last two of the tokens are AS and an alias, or there is no alias. -/
theorem splitAlias_cases (ts : List Token) :
    splitAlias ts = (ts, none) ∨ ∃ front word name, front ≠ [] ∧ ts = front ++ [word, name] ∧
      word.isKeyword "as" = true ∧ word.depth = 0 ∧ name.isName = true ∧
      splitAlias ts = (front, some name) := by
  unfold splitAlias
  split
  · next name word t us e =>
    have e : ts = (t :: us).reverse ++ [word, name] := by
      simpa using congrArg List.reverse e
    split
    · next named =>
      simp only [Bool.and_eq_true, decide_eq_true_eq] at named
      exact .inr ⟨_, word, name, by simp, e, named.1.2, named.1.1, named.2, rfl⟩
    · exact .inl rfl
  · exact .inl rfl

/-- The tokens of a statement that selects a single column. -/
structure Layout where
  select : Token
  expression : List Token
  named : List Token
  fromWord : Token
  source : List Token
  rest : List Token

/-- The tokens in their order. -/
def Layout.tokens (l : Layout) : List Token :=
  l.select :: (l.expression ++ (l.named ++ l.fromWord :: (l.source ++ l.rest)))

/-- The word AS and the alias of a column, where it has one. -/
inductive Names : List Token → Option Sql → Prop
  | none : Names [] none
  | some {word name} (as : word.isKeyword "as" = true) (outside : word.depth = 0)
    (named : name.isName = true) : Names [word, name] (some name.text)

/-- What the tokens of a statement show of the projection that is taken from it. -/
structure Layout.Shows (l : Layout) (p : Projection) : Prop where
  select : l.select.isKeyword "select" = true
  named : Names l.named p.columnAlias?
  fromWord : l.fromWord.isKeyword "from" = true ∧ l.fromWord.depth = 0
  expression : ReadsAlone p.expression l.expression
  source : ReadsAlone p.source.text l.source
  nonempty : l.expression ≠ []
  balanced : Token.openedBy 0 l.expression = some 0
  single : ∀ t ∈ l.expression, t.depth = 0 → t.kind ≠ .comma ∧ t.isKeyword "from" = false
  unended : ∀ t ∈ l.expression, t.kind ≠ .semicolon
  plain : ∀ t ∈ l.expression.head?, t.isKeyword "distinct" = false ∧ t.isKeyword "all" = false

/-- The selected column is its expression and its alias. -/
theorem exists_expression {s : Sql} {body : Body} (h : Body.ofSql s = .ok body)
    {f b : Token} {column behind : List Token} (e : body.tokens = f :: (column ++ b :: behind))
    (ne : column ≠ []) (before : f.IsOuterWord) (after : b.IsOuterWord) (uncut : b.cut = false) :
    ∃ expression named, column = expression ++ named ∧ expression ≠ [] ∧
      Names named ((splitAlias column).2.map Token.text) ∧
      ReadsAlone (Token.textOf (splitAlias column).1) expression := by
  rw [← List.nil_append (f :: _)] at e
  obtain whole | ⟨expression, word, name, ne', rfl, as, outside, named, whole⟩ :=
    splitAlias_cases column
  · rw [whole]
    exact ⟨column, [], (List.append_nil column).symm, ne, .none,
      Body.readsAlone_between h e ne before after uncut⟩
  · rw [whole]
    refine ⟨expression, [word, name], rfl, ne', .some as outside named, ?_⟩
    have uncut' : word.cut = false := by
      have split : body.tokens = (f :: (expression ++ [word, name])) ++ b :: behind := by simp [e]
      exact Body.not_cut_of_before h split uncut word (by simp)
    have split : body.tokens = [] ++ f :: (expression ++ word :: (name :: b :: behind)) := by
      simp [e]
    exact Body.readsAlone_between h split ne' before (.of_isKeyword as outside) uncut'

theorem exists_realias {p : Projection} {ts : List Token} (h : ReadsAlone p.expression ts)
    (target : Sql) : ∃ moved, p.realias target = .ok moved := by
  obtain ⟨scan, read, -⟩ := h
  unfold realias
  split
  · exact ⟨_, rfl⟩
  · exact ⟨_, by rw [moveReference, read]; rfl⟩

/-- The tokens of the statement show what the projection is made of. -/
theorem exists_layout {s : Sql} {p : Projection} (h : ofSql s = .ok p) :
    ∃ body, Body.ofSql (splitPrelude s).2 = .ok body ∧ ∃ l : Layout, l.Shows p ∧
      body.tokens = l.tokens ∧ ∃ init last, l.source = init ++ [last] ∧ last.cut = false := by
  obtain ⟨body, front, behind, source, made, found, checked, read, rfl⟩ := ofSql_eq_ok_iff.1 h
  obtain ⟨b, whole, fromWord, outside, uncut, before⟩ := Token.splitAt?_cases found
  obtain ⟨⟨f, ts, first, select, outside'⟩, unended⟩ := Body.exists_select made
  obtain ⟨t, us, filled, distinct, all, single⟩ := of_checkColumn checked
  -- the statement starts with SELECT, and its column is what stands from there to FROM
  obtain ⟨g, column, rfl⟩ : ∃ g column, front = g :: column :=
    List.exists_cons_of_ne_nil fun none => by simp [none] at filled
  obtain ⟨rfl, -⟩ := List.cons.inj (whole.symm.trans first)
  simp only [List.drop_one, List.tail_cons] at filled single ⊢
  have start := Token.IsOuterWord.of_isKeyword select outside'
  have stop := Token.IsOuterWord.of_isKeyword fromWord outside
  have ne : column ≠ [] := filled ▸ List.cons_ne_nil t us
  obtain ⟨expression, named, parts, nonempty, names, reads⟩ :=
    exists_expression made whole ne start stop uncut
  obtain ⟨name, rest, item⟩ := Source.exists_item_of_ofTokens read
  obtain ⟨init, last, behind', uncut', source'⟩ := Source.exists_readsAlone made whole stop item
  refine ⟨body, made, ⟨g, expression, named, b, init ++ [last], rest⟩, ?_, ?_, init, last, rfl,
    uncut'⟩
  · have within : expression ⊆ column := parts ▸ List.subset_append_left expression named
    refine ⟨select, names, ⟨fromWord, outside⟩, reads, source', nonempty, reads.balanced,
      fun u hu level => ?_, fun u hu => ?_, ?_⟩
    · exact ⟨single u (within hu) level, before u (List.mem_cons_of_mem g (within hu)) level⟩
    · exact unended u (by simp [whole, within hu])
    · obtain ⟨v, vs, rfl⟩ := List.exists_cons_of_ne_nil nonempty
      obtain ⟨rfl, -⟩ := List.cons.inj (filled.symm.trans parts)
      rintro _ ⟨⟩
      exact ⟨distinct, all⟩
  · simp [whole, Layout.tokens, parts, behind']

/-- The tokens of a projection's statement are SELECT, its expression, its alias if it has one,
FROM, its source, and the rest. By themselves the expression and the source have the same tokens.
The expression is a single column, and its references to the source can be moved to any name. -/
theorem tokens_of_projection {s : Sql} {p : Projection} (h : ofSql s = .ok p) :
    (∃ body, Body.ofSql (splitPrelude s).2 = .ok body ∧
      ∃ l : Layout, l.Shows p ∧ body.tokens = l.tokens ∧
        ∃ scan rest, Scan.ofSql body.text = .ok scan ∧
          scan.tokens = { l with rest := rest }.tokens) ∧
    ∀ target, ∃ moved, p.realias target = .ok moved := by
  obtain ⟨body, made, l, shows', tokens, init, last, source, uncut⟩ := exists_layout h
  refine ⟨⟨body, made, l, shows', tokens, ?_⟩, exists_realias shows'.expression⟩
  have split : body.tokens =
      (l.select :: (l.expression ++ (l.named ++ l.fromWord :: init))) ++ last :: l.rest := by
    simp [tokens, Layout.tokens, source]
  obtain ⟨scan, rest, read, same⟩ := Body.exists_scan_text made split uncut
  exact ⟨scan, rest, read, by simp [same, Layout.tokens, source]⟩

/-- The first FROM is inside of parentheses, and the comment is no part of the expression. -/
theorem tokens_of_projection_nested :
    let s := "SELECT (SELECT max(x.n) FROM x) + i.n AS top -- all\nFROM public.items AS i;".toList
    ∃ p, ofSql s = .ok p ∧ p.expression = "(SELECT max(x.n) FROM x) + i.n".toList ∧
      p.columnAlias? = some "top".toList ∧ p.source.text = "public.items".toList ∧
      (∃ body, Body.ofSql (splitPrelude s).2 = .ok body ∧ ∃ l : Layout, l.Shows p ∧
        body.tokens = l.tokens) ∧ ∃ moved, p.realias "ut1".toList = .ok moved := by
  intro s
  have taken : ofSql s = .ok ⟨[], "(SELECT max(x.n) FROM x) + i.n".toList, some "top".toList,
      ⟨"public.items".toList, some ['i'], some ['i']⟩⟩ := by decide +kernel
  obtain ⟨⟨body, made, l, shows', tokens, -⟩, realias⟩ := tokens_of_projection taken
  exact ⟨_, taken, rfl, rfl, rfl, ⟨body, made, l, shows', tokens⟩, realias _⟩

end Projection

end BulkSql
