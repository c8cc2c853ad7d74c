import BulkSql.Proofs.Reading

/-!
Names and texts read back from the form in which they stand in a statement. A name is one token that
means the name, a table name behind FROM is the source, and a quoted text is one string. So two names
or texts are never written alike.
-/
namespace BulkSql

open Lexeme
open Scan (placed trailing)
open Select (nameToken placed_name isName_nameToken readMeaning_nameToken item_placed)

/-- The words that the parts of a query text are told apart by. -/
def queryWords : List String := ["select", "from", "as", "distinct", "all", "where"]

/-- A text that is read as one token, without anything around it. -/
structure ReadsAsOne (s : Sql) (t : Token) : Prop where
  scan : Scan.ofSql s = .ok ⟨[t], []⟩
  before : t.before = []
  text : t.text = s

theorem ReadsAsOne.unique {s : Sql} {t u : Token} (ht : ReadsAsOne s t) (hu : ReadsAsOne s u) :
    t = u := by
  have scans := ht.scan.symm.trans hu.scan
  simpa using scans

/-- Behind the last token of a phrase nothing is left. -/
theorem Lexeme.Phrase.scan {ls : List Lexeme} (h : Phrase ls True) :
    Scan.ofSql (written ls) = .ok ⟨placed 0 [] ls, []⟩ :=
  Scan.ofSql_eq_ok_iff.2
    ⟨ls, rfl, (h.apart none breaks_none).2 trivial, h.balanced, by rw [h.trailing_eq]⟩

/-! ### Names -/

namespace Identifier

theorem readsAsOne (i : Identifier) : ReadsAsOne i.toSql (nameToken [] i) where
  scan := by
    have scan := (phrase_name i).scan
    rwa [placed_name, written_cons, written_nil, List.append_nil] at scan
  before := rfl
  text := rfl

theorem meaning_nameToken (before : Sql) (i : Identifier) :
    (nameToken before i).meaning = i.name.toList :=
  Except.ok.inj (readMeaning_nameToken before i)

theorem eq_of_name {i j : Identifier} (h : i.name.toList = j.name.toList) : i = j := by
  cases i
  cases j
  simpa [String.toList_inj] using h

theorem toSql_injective : Function.Injective toSql := by
  intro i j same
  have token := i.readsAsOne.unique (same ▸ j.readsAsOne)
  refine eq_of_name ?_
  rw [← meaning_nameToken [] i, token, meaning_nameToken]

/-- A text that is accepted as a name is kept as it is. -/
theorem name_of_ofString {name : String} {i : Identifier} (h : ofString name = .ok i) :
    i.name = name := by
  unfold ofString at h
  split at h
  · cases h
  · split at h
    · cases h
    · exact congrArg Identifier.name (Except.ok.inj h).symm

end Identifier

/-! ### Table names -/

namespace QualifiedName

/-- The tokens of a table name behind a blank. -/
def tokens (n : QualifiedName) : List Token := placed 0 [] (blank :: n.lexemes)

/-- Behind FROM a table name keeps its tokens. -/
theorem scan_from (n : QualifiedName) :
    Scan.ofSql ("FROM ".toList ++ n.toSql) =
      .ok ⟨⟨.word, [], "FROM".toList, 0, false⟩ :: n.tokens, []⟩ := by
  have phrase : Phrase ([keyword "FROM"] ++ ([blank] ++ n.lexemes)) True :=
    ((phrase_word (by decide)).link (phrase_table n) (link_of_isLink (by decide))).congr
      (and_self_iff.trans Iff.rfl)
  have scan := phrase.scan
  simp only [written_append, written_lexemes] at scan
  exact scan

/-- A table name is the source, and nothing follows it. -/
theorem item_tokens (n : QualifiedName) :
    Source.item n.tokens = .ok (n.toSql, some n.name.name.toList, []) := by
  have stop : ∀ t ∈ (Scan.placed 0 [] []).head?, t.kind ≠ .dot := nofun
  have item := item_placed n stop
  rwa [List.append_nil] at item

theorem source_tokens (n : QualifiedName) :
    Source.ofTokens n.tokens = .ok ⟨n.toSql, none, some n.name.name.toList⟩ := by
  rw [Source.ofTokens, n.item_tokens]
  rfl

theorem tokens_eq (n : QualifiedName) :
    n.tokens = match n.schema with
      | none => [nameToken [' '] n.name]
      | some schema =>
        [nameToken [' '] schema, ⟨.dot, [], ['.'], 0, false⟩, nameToken [] n.name] := by
  unfold tokens lexemes
  cases n.schema with
  | none => exact placed_name [' '] n.name []
  | some schema =>
    refine (placed_name [' '] schema _).trans (congrArg (nameToken [' '] schema :: ·) ?_)
    exact congrArg (⟨.dot, [], ['.'], 0, false⟩ :: ·) (placed_name [] n.name [])

theorem toSql_injective : Function.Injective toSql := by
  intro m n same
  have read := m.scan_from
  rw [same, n.scan_from] at read
  have tokens : n.tokens = m.tokens := by simpa using read
  have meanings := congrArg (List.map Token.meaning) tokens
  rw [tokens_eq, tokens_eq] at meanings
  obtain ⟨schema, name⟩ := m
  obtain ⟨schema', name'⟩ := n
  cases schema <;> cases schema' <;>
    simp only [List.map_cons, List.map_nil, Identifier.meaning_nameToken, List.cons.injEq] at meanings
  case none.none => rw [Identifier.eq_of_name meanings.1]
  case none.some => cases meanings.2
  case some.none => cases meanings.2
  case some.some =>
    rw [Identifier.eq_of_name meanings.1, Identifier.eq_of_name meanings.2.2.1]

end QualifiedName

/-! ### Texts -/

theorem readsAsOne_quoteLiteral (s : Sql) :
    ReadsAsOne (quoteLiteral s) ⟨.string, [], quoteLiteral s, 0, false⟩ where
  scan := by
    have scan := (phrase_string s).scan
    rwa [written_cons, written_nil, List.append_nil] at scan
  before := rfl
  text := rfl

/-- What is between the quotes, with each doubled quote taken once. -/
theorem undoubled_quoteLiteral (s : Sql) :
    Quoted.undoubled '\'' ((quoteLiteral s).drop 1).dropLast = s := by
  simp [quoteLiteral, Quoted.quote]

theorem quoteLiteral_injective : Function.Injective quoteLiteral :=
  fun s t same => by rw [← undoubled_quoteLiteral s, same, undoubled_quoteLiteral]

/-- A name that is accepted is written as one token, which is a name, means the name that was given
and is no keyword of a query. Behind FROM the name of a table, with or without a schema, is read as
the source, up to its end, and it is its own last part that columns are qualified with. A text is
written as one string, which holds it. So no two names, tables or texts are written alike. -/
theorem reads_back :
    (∀ name i, Identifier.ofString name = .ok i →
      ∃ t, ReadsAsOne i.toSql t ∧ t.isName = true ∧ t.meaning = name.toList ∧
        ∀ w ∈ queryWords, t.isKeyword w = false) ∧
    (∀ n : QualifiedName, ∃ ts,
      Scan.ofSql ("FROM ".toList ++ n.toSql) =
        .ok ⟨⟨.word, [], "FROM".toList, 0, false⟩ :: ts, []⟩ ∧
      Source.item ts = .ok (n.toSql, some n.name.name.toList, []) ∧
      Source.ofTokens ts = .ok ⟨n.toSql, none, some n.name.name.toList⟩) ∧
    (∀ s, ∃ t, ReadsAsOne (quoteLiteral s) t ∧ t.kind = .string ∧
      Quoted.undoubled '\'' (t.text.drop 1).dropLast = s) ∧
    Function.Injective Identifier.toSql ∧ Function.Injective QualifiedName.toSql ∧
    Function.Injective quoteLiteral := by
  refine ⟨fun name i accepted => ⟨_, i.readsAsOne, (isName_nameToken [] i).2, ?_, fun w hw => ?_⟩,
    fun n => ⟨n.tokens, n.scan_from, n.item_tokens, n.source_tokens⟩,
    fun s => ⟨_, readsAsOne_quoteLiteral s, rfl, undoubled_quoteLiteral s⟩,
    Identifier.toSql_injective, QualifiedName.toSql_injective, quoteLiteral_injective⟩
  · rw [Identifier.meaning_nameToken, Identifier.name_of_ofString accepted]
  · have reserved : ∀ w ∈ queryWords, w ∈ reservedWords := by decide
    exact not_isKeyword_name i (reserved w hw)

/-- A name that is a keyword, and one with quotes and a dot in it. -/
theorem reads_back_names :
    (∃ i t, Identifier.ofString "select" = .ok i ∧ ReadsAsOne i.toSql t ∧
      t.text = "\"select\"".toList ∧ t.meaning = "select".toList ∧ t.isKeyword "select" = false) ∧
    ∃ i t, Identifier.ofString "é\".\"$" = .ok i ∧ ReadsAsOne i.toSql t ∧
      t.text = "\"é\"\".\"\"$\"".toList ∧ t.meaning = "é\".\"$".toList := by
  constructor
  · have accepted : Identifier.ofString "select" = .ok ⟨"select", by decide, by decide⟩ := rfl
    obtain ⟨t, one, -, meaning, keyword⟩ := reads_back.1 _ _ accepted
    exact ⟨_, t, accepted, one, one.text.trans (by decide +kernel), meaning,
      keyword _ (by decide)⟩
  · have accepted : Identifier.ofString "é\".\"$" = .ok ⟨"é\".\"$", by decide, by decide⟩ := rfl
    obtain ⟨t, one, -, meaning, -⟩ := reads_back.1 _ _ accepted
    exact ⟨_, t, accepted, one, one.text.trans (by decide +kernel), meaning⟩

end BulkSql
