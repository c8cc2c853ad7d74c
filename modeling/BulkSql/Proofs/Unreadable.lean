import BulkSql.Proofs.Traversal
import BulkSql.Sql.Derived
import BulkSql.Sql.Projection

/-!
Reading a query text fails with a reason why it is not supported, or where a cut token was to be
read, and in no other way. What can be read is made of the parts that are found in the text.
-/
namespace BulkSql

/-- An error of a text that cannot be read. -/
def Error.IsUnreadable (e : Error) : Prop := e.isUnsupported = true ∨ e = .cutToken

/-- A reading that has a result or finds the text unreadable. -/
def Reading {α : Type} (x : Except Error α) : Prop := ∀ e, x = .error e → e.IsUnreadable

namespace Reading

variable {α β : Type}

theorem ok (a : α) : Reading (.ok a : Except Error α) := nofun

theorem unsupported (why : Unsupported) : Reading (.error (.unsupported why) : Except Error α) := by
  rintro _ ⟨⟩
  exact .inl rfl

theorem cutToken : Reading (.error .cutToken : Except Error α) := by
  rintro _ ⟨⟩
  exact .inr rfl

theorem mapError (x : Except Unsupported α) : Reading (x.mapError .unsupported) := by
  intro e h
  obtain ⟨why, -, rfl⟩ := mapError_eq_error_iff.1 h
  exact .inl rfl

theorem bind {x : Except Error α} {f : α → Except Error β} (hx : Reading x)
    (hf : ∀ a, Reading (f a)) : Reading (x >>= f) := by
  intro e h
  rcases bind_eq_error_iff.1 h with h | ⟨a, -, h⟩
  · exact hx e h
  · exact hf a e h

theorem bind_of_eq {x : Except Error α} {f : α → Except Error β} {a : α} (h : x = .ok a)
    (ha : Reading (f a)) : Reading (x >>= f) := h ▸ ha

theorem map {x : Except Error α} (f : α → β) (hx : Reading x) : Reading (f <$> x) := by
  cases x with
  | error e => exact fun _ h => hx _ (congrArg _ (Except.error.inj h))
  | ok a => exact ok (f a)

/-! ### Tokens -/

theorem token (t : Token) : Reading t.read := by
  unfold Token.read
  split
  · exact cutToken
  · exact ok _

theorem meaning (t : Token) : Reading t.readMeaning := by
  unfold Token.readMeaning
  split
  · exact cutToken
  · exact ok _

theorem keyword (t : Token) (keyword : String) : Reading (t.reads keyword) := by
  unfold Token.reads
  split
  · exact cutToken
  · exact ok _

theorem keywords (t : Token) (keywords : List String) : Reading (t.readsAny keywords) := by
  unfold Token.readsAny
  split
  · exact cutToken
  · exact ok _

theorem splitAt? (word : String) (ts : List Token) : Reading (Token.splitAt? word ts) := by
  induction ts with
  | nil => exact ok _
  | cons t ts ih =>
    unfold Token.splitAt?
    split
    · refine (keyword t word).bind fun found => ?_
      cases found with
      | true => exact ok _
      | false => exact ih.bind fun _ => ok _
    · exact ih.bind fun _ => ok _

/-! ### Sources -/

theorem item (ts : List Token) : Reading (Source.item ts) := by
  unfold Source.item
  split
  · exact unsupported _
  · split
    · dsimp only
      split
      · exact unsupported _
      · exact ok _
    · split
      · exact (meaning _).bind fun _ => ok _
      · exact (token _).bind fun _ => unsupported _

theorem aliasToken (ts : List Token) : Reading (Source.aliasToken ts) := by
  unfold Source.aliasToken
  split
  · exact ok _
  · next t rest =>
    refine (keyword t "as").bind fun found => ?_
    cases found with
    | true =>
      simp only [if_true]
      split
      · split
        · exact ok _
        · exact unsupported _
      · exact unsupported _
    | false =>
      simp only [Bool.false_eq_true, if_false]
      split
      · exact ok _
      · split
        · refine (keywords t _).bind fun found => ?_
          cases found with
          | true => exact ok _
          | false => exact ok _
        · exact ok _

theorem checkSingle (ts : List Token) : Reading (Source.checkSingle ts) := by
  have refused {α : Type} : Reading (.error (.unsupported .severalSources) : Except Error α) :=
    unsupported _
  unfold Source.checkSingle
  split
  · exact ok _
  · next t rest =>
    split
    · have more : Reading (t.readsAny joinWords >>= fun found =>
          if found then .error (.unsupported .severalSources) else .ok ()) :=
        (keywords t _).bind fun found => by cases found with
          | true => exact refused
          | false => exact ok _
      split
      · exact refused
      · exact more
    · exact ok _

theorem source (ts : List Token) : Reading (Source.ofTokens ts) := by
  refine (item ts).bind fun _ => (aliasToken _).bind fun found => (checkSingle _).bind fun _ => ?_
  split
  · exact ok _
  · exact (token _).bind fun _ => (meaning _).bind fun _ => ok _

/-! ### Query texts -/

theorem derived (s : Sql) : Reading (DerivedQuery.ofSql s) := by
  refine (mapError _).bind fun body => (splitAt? _ _).bind fun found => ?_
  split
  · exact unsupported _
  · exact (source _).bind fun _ => ok _

theorem projection (s : Sql) : Reading (Projection.ofSql s) := by
  refine (mapError _).bind fun body => (splitAt? _ _).bind fun found => ?_
  split
  · exact unsupported _
  · exact (mapError _).bind fun _ => (source _).bind fun _ => ok _

end Reading

/-! ### Texts that can be read -/

theorem Token.read_eq_ok_iff {t : Token} {text : Sql} :
    t.read = .ok text ↔ t.cut = false ∧ t.text = text := by
  cases h : t.cut <;> simp [read, h]

theorem Token.readMeaning_eq_ok_iff {t : Token} {name : Sql} :
    t.readMeaning = .ok name ↔ t.cut = false ∧ t.meaning = name := by
  cases h : t.cut <;> simp [readMeaning, h]

/-- A keyword is looked for in tokens that are not cut, and in those that are no words. -/
theorem Token.reads_eq_ok_iff {keyword : String} {t : Token} {b : Bool} :
    t.reads keyword = .ok b ↔ (t.kind = .word → t.cut = false) ∧ t.isKeyword keyword = b := by
  by_cases word : t.kind = .word <;> cases cut : t.cut <;> simp [reads, word, cut]

theorem Token.readsAny_eq_ok_iff {keywords : List String} {t : Token} {b : Bool} :
    t.readsAny keywords = .ok b ↔
      (t.kind = .word → t.cut = false) ∧ keywords.any t.isKeyword = b := by
  by_cases word : t.kind = .word <;> cases cut : t.cut <;> simp [readsAny, word, cut]

/-- What a source is made of: a table or a query, and an alias that is not cut. -/
theorem Source.ofTokens_eq_ok_iff {ts : List Token} {source : Source} :
    ofTokens ts = .ok source ↔
      ∃ text table rest named rest', item ts = .ok (text, table, rest) ∧
        aliasToken rest = .ok (named, rest') ∧ checkSingle rest' = .ok () ∧
        (∀ t ∈ named, t.cut = false) ∧
        source = ⟨text, named.map Token.text, (named.map Token.meaning).or table⟩ := by
  constructor
  · intro h
    obtain ⟨⟨text, table, rest⟩, found, h⟩ := bind_eq_ok_iff.1 h
    obtain ⟨⟨named, rest'⟩, aliased, h⟩ := bind_eq_ok_iff.1 h
    obtain ⟨_, single, h⟩ := bind_eq_ok_iff.1 h
    refine ⟨text, table, rest, named, rest', found, aliased, single, ?_⟩
    cases named with
    | none => exact ⟨nofun, (Except.ok.inj h).symm⟩
    | some t =>
      obtain ⟨own, read, h⟩ := bind_eq_ok_iff.1 h
      obtain ⟨meaning, read', rfl⟩ := map_eq_ok_iff.1 h
      obtain ⟨uncut, rfl⟩ := Token.read_eq_ok_iff.1 read
      obtain ⟨-, rfl⟩ := Token.readMeaning_eq_ok_iff.1 read'
      exact ⟨by simpa using uncut, rfl⟩
  · rintro ⟨text, table, rest, named, rest', found, aliased, single, uncut, rfl⟩
    refine bind_eq_ok_iff.2 ⟨_, found, bind_eq_ok_iff.2 ⟨_, aliased, ?_⟩⟩
    refine bind_eq_ok_iff.2 ⟨(), single, ?_⟩
    cases named with
    | none => rfl
    | some t =>
      have own := uncut t rfl
      exact bind_eq_ok_iff.2 ⟨_, Token.read_eq_ok_iff.2 ⟨own, rfl⟩,
        map_eq_ok_iff.2 ⟨_, Token.readMeaning_eq_ok_iff.2 ⟨own, rfl⟩, rfl⟩⟩

namespace DerivedQuery

/-- What a query text that can stand as a derived table is made of. -/
theorem ofSql_eq_ok_iff {s : Sql} {q : DerivedQuery} :
    ofSql s = .ok q ↔
      ∃ body front behind source, Body.ofSql (splitPrelude s).2 = .ok body ∧
        Token.splitAt? "from" body.tokens = .ok (some (front, behind)) ∧
        Source.ofTokens behind = .ok source ∧
        q = ⟨(splitPrelude s).1, body.text, source.alias?⟩ := by
  unfold ofSql
  generalize splitPrelude s = split
  constructor
  · intro h
    obtain ⟨body, made, h⟩ := bind_eq_ok_iff.1 h
    obtain ⟨_ | ⟨front, behind⟩, found, h⟩ := bind_eq_ok_iff.1 h
    · cases h
    · obtain ⟨source, read, rfl⟩ := map_eq_ok_iff.1 h
      exact ⟨body, front, behind, source, mapError_eq_ok_iff.1 made, found, read, rfl⟩
  · rintro ⟨body, front, behind, source, made, found, read, rfl⟩
    exact bind_eq_ok_iff.2 ⟨body, mapError_eq_ok_iff.2 made,
      bind_eq_ok_iff.2 ⟨_, found, map_eq_ok_iff.2 ⟨source, read, rfl⟩⟩⟩

theorem prelude_of_ofSql {s : Sql} {q : DerivedQuery} (h : ofSql s = .ok q) :
    q.prelude = (splitPrelude s).1 := by
  obtain ⟨body, front, behind, source, -, -, -, rfl⟩ := ofSql_eq_ok_iff.1 h
  rfl

end DerivedQuery

namespace Projection

/-- What a query text that selects a single column is made of. -/
theorem ofSql_eq_ok_iff {s : Sql} {p : Projection} :
    ofSql s = .ok p ↔
      ∃ body front behind source, Body.ofSql (splitPrelude s).2 = .ok body ∧
        Token.splitAt? "from" body.tokens = .ok (some (front, behind)) ∧
        checkColumn (front.drop 1) = .ok () ∧ Source.ofTokens behind = .ok source ∧
        p = ⟨(splitPrelude s).1, Token.textOf (splitAlias (front.drop 1)).1,
          (splitAlias (front.drop 1)).2.map Token.text, source⟩ := by
  unfold ofSql
  generalize splitPrelude s = split
  constructor
  · intro h
    obtain ⟨body, made, h⟩ := bind_eq_ok_iff.1 h
    obtain ⟨_ | ⟨front, behind⟩, found, h⟩ := bind_eq_ok_iff.1 h
    · cases h
    · obtain ⟨_, checked, h⟩ := bind_eq_ok_iff.1 h
      obtain ⟨source, read, e⟩ := map_eq_ok_iff.1 h
      exact ⟨body, front, behind, source, mapError_eq_ok_iff.1 made, found,
        mapError_eq_ok_iff.1 checked, read, e.symm⟩
  · rintro ⟨body, front, behind, source, made, found, checked, read, rfl⟩
    exact bind_eq_ok_iff.2 ⟨body, mapError_eq_ok_iff.2 made, bind_eq_ok_iff.2 ⟨_, found,
      bind_eq_ok_iff.2 ⟨(), mapError_eq_ok_iff.2 checked, map_eq_ok_iff.2 ⟨source, read, rfl⟩⟩⟩⟩

theorem prelude_of_ofSql {s : Sql} {p : Projection} (h : ofSql s = .ok p) :
    p.prelude = (splitPrelude s).1 := by
  obtain ⟨body, front, behind, source, -, -, -, -, rfl⟩ := ofSql_eq_ok_iff.1 h
  rfl

end Projection

end BulkSql
