import BulkSql.Proofs.Decomposition

/-!
Whether a query text reads a single source. A further source is looked for right behind the first
one and its alias, and nowhere else: what continues a source hides the ones behind it.
-/
namespace BulkSql

/-- A keyword is made of letters, so that it is never cut. -/
theorem Body.not_cut_of_isKeyword {s : Sql} {body : Body} (h : ofSql s = .ok body) {t : Token}
    (ht : t ∈ body.tokens) {keyword : String} (letters : keyword.toList.all Char.isAlpha = true)
    (reads : t.isKeyword keyword = true) : t.cut = false := by
  refine Bool.eq_false_iff.2 fun cut => ?_
  obtain ⟨-, u, c, text, blank, -⟩ := exists_blank_of_cut h ht cut
  simp only [Token.isKeyword, Bool.and_eq_true, beq_iff_eq] at reads
  have mem : c.toLower ∈ keyword.toList := by
    rw [← reads.2, text]
    simp
  have alpha : c.isAlpha = true := by
    rw [← Char.isAlpha_toLower_eq_isAlpha]
    exact List.all_eq_true.1 letters _ mem
  have alphanum : c.isAlphanum = true := by simp [Char.isAlphanum, alpha]
  rw [Lexeme.not_isBlank_of_isAlphanum alphanum] at blank
  cases blank

namespace Source

/-- The words that start the clause behind a FROM clause. -/
def clauseWords : List String :=
  ["where", "group", "having", "window", "order", "limit", "offset", "fetch", "for", "union",
   "intersect", "except"]

/-- Whether a token starts a further source. -/
def startsFurther (t : Token) : Bool :=
  t.depth == 0 && (t.kind == .comma || joinWords.any t.isKeyword)

/-- Whether a token ends a FROM clause. -/
def endsFrom (t : Token) : Bool := t.depth == 0 && clauseWords.any t.isKeyword

/-- The rest of a FROM clause. -/
def remainder (rest : List Token) : List Token := rest.takeWhile fun t => !endsFrom t

/-- There is no further source in the rest of a FROM clause. -/
def Single (rest : List Token) : Prop := ∀ t ∈ remainder rest, startsFurther t = false

/-- The tokens behind a source and its alias. -/
def beyond (tokens : List Token) : Except Error (List Token) := do
  let (_, _, rest) ← item tokens
  let (_, rest) ← aliasToken rest
  return rest

variable {ts rest : List Token}

theorem beyond_subset (h : beyond ts = .ok rest) : rest ⊆ ts := by
  obtain ⟨⟨text, table, behind⟩, found, h⟩ := bind_eq_ok_iff.1 h
  obtain ⟨⟨named, behind'⟩, aliased, rfl⟩ := map_eq_ok_iff.1 h
  obtain ⟨init, last, rfl, -⟩ := exists_of_item found
  refine List.Subset.trans (List.append_subset.1 (aliasToken_subset aliased)).2 ?_
  exact List.subset_append_of_subset_right _ (List.subset_cons_self _ _)

/-- What is looked for right behind a source and its alias is a further source. -/
theorem checkSingle_cons {t : Token} (uncut : t.kind = .word → t.cut = false) (rest : List Token) :
    checkSingle (t :: rest) =
      if startsFurther t then .error (.unsupported .severalSources) else .ok () := by
  have read : t.readsAny joinWords = .ok (joinWords.any t.isKeyword) :=
    Token.readsAny_eq_ok_iff.2 ⟨uncut, rfl⟩
  by_cases outside : t.depth = 0
  · rw [checkSingle, if_pos outside, startsFurther, beq_iff_eq.2 outside, Bool.true_and]
    by_cases comma : t.kind = .comma
    · rw [if_pos comma, beq_iff_eq.2 comma, Bool.true_or]
      rfl
    · rw [if_neg comma, read, beq_false_of_ne comma, Bool.false_or]
      rfl
  · rw [checkSingle, if_neg outside, startsFurther, beq_false_of_ne outside, Bool.false_and]
    rfl

theorem not_startsFurther_of_checkSingle {t : Token} (h : checkSingle (t :: rest) = .ok ()) :
    startsFurther t = false := by
  by_cases outside : t.depth = 0
  · have uncut : t.kind = .word → t.cut = false := fun word => by
      refine Bool.eq_false_iff.2 fun cut => ?_
      have stops : t.readsAny joinWords = .error .cutToken := if_pos ⟨word, cut⟩
      rw [checkSingle, if_pos outside, if_neg (by simp [word]), stops] at h
      cases h
    rw [checkSingle_cons uncut] at h
    cases further : startsFurther t with
    | false => rfl
    | true => simp [further] at h
  · rw [startsFurther, beq_false_of_ne outside, Bool.false_and]

/-- What is behind the first token of the rest decides whether there is a further source, if that
token starts none. -/
theorem single_iff_tail (h : ∀ t ∈ rest.head?, startsFurther t = false) :
    Single rest ↔ ∀ t ∈ (remainder rest).tail, startsFurther t = false := by
  cases rest with
  | nil => rfl
  | cons t rest =>
    cases ends : endsFrom t with
    | true => simp [Single, remainder, ends]
    | false => simp [Single, remainder, ends, h t rfl]

/-- A text with a single source has a rest, and no further source at once. -/
theorem exists_of_ofTokens {source : Source} (h : ofTokens ts = .ok source) :
    ∃ rest, beyond ts = .ok rest ∧ ∀ t ∈ rest.head?, startsFurther t = false := by
  obtain ⟨text, table, behind, named, rest, found, aliased, single, -, -⟩ :=
    ofTokens_eq_ok_iff.1 h
  refine ⟨rest, bind_eq_ok_iff.2 ⟨_, found, map_eq_ok_iff.2 ⟨_, aliased, rfl⟩⟩, ?_⟩
  cases rest with
  | nil => nofun
  | cons t rest => simpa using not_startsFurther_of_checkSingle single

/-- A further source at once is refused. -/
theorem ofTokens_of_startsFurther {t : Token} (h : beyond ts = .ok (t :: rest))
    (further : startsFurther t = true) (uncut : t.kind = .word → t.cut = false) :
    ofTokens ts = .error (.unsupported .severalSources) := by
  obtain ⟨⟨text, table, behind⟩, found, h⟩ := bind_eq_ok_iff.1 h
  obtain ⟨⟨named, behind'⟩, aliased, rfl⟩ := map_eq_ok_iff.1 h
  have single := checkSingle_cons uncut rest
  rw [further] at single
  simp only [ofTokens, found, bind, Except.bind, aliased, single, if_true]

/-! ### Query texts -/

/-- The tokens behind the source of a query text and its alias. -/
def behindSource (s : Sql) : Except Error (List Token) := do
  let body ← (Body.ofSql (splitPrelude s).2).mapError .unsupported
  match ← Token.splitAt? "from" body.tokens with
  | none => throw (.unsupported .noFrom)
  | some (_, behind) => beyond behind

theorem behindSource_of_splitAt? {s : Sql} {body : Body} {front behind : List Token}
    (made : Body.ofSql (splitPrelude s).2 = .ok body)
    (found : Token.splitAt? "from" body.tokens = .ok (some (front, behind))) :
    behindSource s = beyond behind := by
  simp only [behindSource, made, found, bind, Except.bind, Except.mapError]

theorem exists_of_derived {s : Sql} {q : DerivedQuery} (h : DerivedQuery.ofSql s = .ok q) :
    ∃ rest, behindSource s = .ok rest ∧ ∀ t ∈ rest.head?, startsFurther t = false := by
  obtain ⟨body, front, behind, source, made, found, read, rfl⟩ := DerivedQuery.ofSql_eq_ok_iff.1 h
  obtain ⟨rest, last, first⟩ := exists_of_ofTokens read
  exact ⟨rest, behindSource_of_splitAt? made found ▸ last, first⟩

theorem exists_of_projection {s : Sql} {p : Projection} (h : Projection.ofSql s = .ok p) :
    ∃ rest, behindSource s = .ok rest ∧ ∀ t ∈ rest.head?, startsFurther t = false := by
  obtain ⟨body, front, behind, source, made, found, -, read, rfl⟩ := Projection.ofSql_eq_ok_iff.1 h
  obtain ⟨rest, last, first⟩ := exists_of_ofTokens read
  exact ⟨rest, behindSource_of_splitAt? made found ▸ last, first⟩

/-- A query text with a further source right behind the first one is refused for it, unless it is
refused for the column that it selects. -/
theorem refused_of_behindSource {s : Sql} {t : Token} (h : behindSource s = .ok (t :: rest))
    (further : startsFurther t = true) :
    DerivedQuery.ofSql s = .error (.unsupported .severalSources) ∧
      ∃ why, Projection.ofSql s = .error (.unsupported why) := by
  unfold behindSource at h
  unfold DerivedQuery.ofSql Projection.ofSql
  generalize splitPrelude s = split at h ⊢
  obtain ⟨body, made, h⟩ := bind_eq_ok_iff.1 h
  obtain ⟨_ | ⟨front, behind⟩, found, last⟩ := bind_eq_ok_iff.1 h
  · cases last
  · have mem : t ∈ body.tokens :=
      Token.splitAt?_subset found (beyond_subset last List.mem_cons_self)
    have uncut : t.kind = .word → t.cut = false := fun word => by
      simp only [startsFurther, Bool.and_eq_true, Bool.or_eq_true, word,
        List.any_eq_true] at further
      obtain ⟨-, e | ⟨keyword, join, reads⟩⟩ := further
      · cases e
      · have letters : ∀ w ∈ joinWords, w.toList.all Char.isAlpha = true := by decide
        exact Body.not_cut_of_isKeyword (mapError_eq_ok_iff.1 made) mem (letters keyword join) reads
    have refused := ofTokens_of_startsFurther last further uncut
    simp only [made, bind, Except.bind, found, refused]
    refine ⟨trivial, ?_⟩
    cases Projection.checkColumn (front.drop 1) with
    | error why => exact ⟨why, rfl⟩
    | ok => exact ⟨_, rfl⟩

/-- Of the tokens behind the source of a query text and its alias the first one is looked at: if it
starts a further source the text is refused. A text that is taken apart has a single source if none
of the other tokens in its FROM clause starts a further one, and only then. -/
theorem single_iff (s : Sql) :
    (∀ rest, behindSource s = .ok rest → (∃ t ∈ rest.head?, startsFurther t = true) →
      DerivedQuery.ofSql s = .error (.unsupported .severalSources) ∧
        ∃ why, Projection.ofSql s = .error (.unsupported why)) ∧
    ((∃ q, DerivedQuery.ofSql s = .ok q) ∨ (∃ p, Projection.ofSql s = .ok p) →
      ∃ rest, behindSource s = .ok rest ∧
        (Single rest ↔ ∀ t ∈ (remainder rest).tail, startsFurther t = false)) := by
  refine ⟨?_, fun accepted => ?_⟩
  · rintro (- | ⟨t, rest⟩) behind ⟨u, hu, further⟩
    · cases hu
    · obtain rfl := Option.some.inj hu
      exact refused_of_behindSource behind further
  · obtain ⟨rest, behind, first⟩ : ∃ rest, behindSource s = .ok rest ∧
        ∀ t ∈ rest.head?, startsFurther t = false := by
      rcases accepted with ⟨q, h⟩ | ⟨p, h⟩
      · exact exists_of_derived h
      · exact exists_of_projection h
    exact ⟨rest, behind, single_iff_tail first⟩

/-- The commas behind a sampled table are inside parentheses or in another clause. -/
theorem single_sampled :
    ∃ q rest, DerivedQuery.ofSql
        "SELECT a.x FROM a TABLESAMPLE pick (1, 2) ORDER BY 1, 2".toList = .ok q ∧
      behindSource "SELECT a.x FROM a TABLESAMPLE pick (1, 2) ORDER BY 1, 2".toList = .ok rest ∧
      Single rest := by
  have accepted : DerivedQuery.ofSql
      "SELECT a.x FROM a TABLESAMPLE pick (1, 2) ORDER BY 1, 2".toList =
        .ok ⟨[], "SELECT a.x FROM a TABLESAMPLE pick (1, 2) ORDER BY 1, 2".toList, none⟩ := by
    decide +kernel
  obtain ⟨rest, behind, single⟩ :=
    (single_iff "SELECT a.x FROM a TABLESAMPLE pick (1, 2) ORDER BY 1, 2".toList).2
      (.inl ⟨_, accepted⟩)
  have tokens : behindSource "SELECT a.x FROM a TABLESAMPLE pick (1, 2) ORDER BY 1, 2".toList =
      .ok [⟨.word, [' '], "TABLESAMPLE".toList, 0, false⟩, ⟨.word, [' '], "pick".toList, 0, false⟩,
        ⟨.openParen, [' '], ['('], 0, false⟩, ⟨.number, [], ['1'], 1, false⟩,
        ⟨.comma, [], [','], 1, false⟩, ⟨.number, [' '], ['2'], 1, false⟩,
        ⟨.closeParen, [], [')'], 0, false⟩, ⟨.word, [' '], "ORDER".toList, 0, false⟩,
        ⟨.word, [' '], "BY".toList, 0, false⟩, ⟨.number, [' '], ['1'], 0, false⟩,
        ⟨.comma, [], [','], 0, false⟩, ⟨.number, [' '], ['2'], 0, false⟩] := by decide +kernel
  obtain rfl := Except.ok.inj (tokens.symm.trans behind)
  exact ⟨_, _, accepted, behind, single.2 (by decide)⟩

/-- A sampled table hides the source behind it, so that the text is taken apart as if it had a
single one. -/
theorem not_single_sampled :
    (∃ q, DerivedQuery.ofSql "SELECT a.x FROM a TABLESAMPLE SYSTEM (1), b".toList = .ok q) ∧
      (∃ p, Projection.ofSql "SELECT a.x FROM a TABLESAMPLE SYSTEM (1), b".toList = .ok p) ∧
      ∃ rest, behindSource "SELECT a.x FROM a TABLESAMPLE SYSTEM (1), b".toList = .ok rest ∧
        ¬ Single rest := by
  have derived : DerivedQuery.ofSql "SELECT a.x FROM a TABLESAMPLE SYSTEM (1), b".toList =
      .ok ⟨[], "SELECT a.x FROM a TABLESAMPLE SYSTEM (1), b".toList, none⟩ := by decide +kernel
  have projection : Projection.ofSql "SELECT a.x FROM a TABLESAMPLE SYSTEM (1), b".toList =
      .ok ⟨[], "a.x".toList, none, ⟨['a'], none, some ['a']⟩⟩ := by decide +kernel
  have tokens : behindSource "SELECT a.x FROM a TABLESAMPLE SYSTEM (1), b".toList =
      .ok [⟨.word, [' '], "TABLESAMPLE".toList, 0, false⟩,
        ⟨.word, [' '], "SYSTEM".toList, 0, false⟩, ⟨.openParen, [' '], ['('], 0, false⟩,
        ⟨.number, [], ['1'], 1, false⟩, ⟨.closeParen, [], [')'], 0, false⟩,
        ⟨.comma, [], [','], 0, false⟩, ⟨.word, [' '], ['b'], 0, false⟩] := by decide +kernel
  refine ⟨⟨_, derived⟩, ⟨_, projection⟩, _, tokens, fun single => ?_⟩
  exact absurd (single ⟨.comma, [], [','], 0, false⟩ (by decide)) (by decide)

end Source

end BulkSql
