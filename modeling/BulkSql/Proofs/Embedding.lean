import BulkSql.Proofs.Numbering
import BulkSql.Proofs.Phrase
import BulkSql.Proofs.Trimming
import BulkSql.Proofs.Unreadable
import BulkSql.Statement.Delete
import BulkSql.Statement.Update

/-!
A query text between parentheses. Its tokens are read there as they are by themselves, unless the text
ends in a line comment or in a word of which the last characters are blanks. What a DELETE and an
UPDATE write around a query can stand there.
-/
namespace BulkSql

namespace Lexeme

/-! ### Texts that end in a line comment -/

def isLineComment : Lexeme → Bool
  | .gap ('-' :: _) => true
  | _ => false

/-- Whether what follows a text would be a part of a comment. -/
def endsInComment (s : Sql) : Bool := (readAll s).1.getLast?.any isLineComment

theorem endsInComment_written {ls : List Lexeme} (h : Apart none ls) :
    endsInComment (written ls) = ls.getLast?.any isLineComment := by
  rw [endsInComment, readAll_eq_iff.2 ⟨rfl, h⟩]

theorem WellFormed.exists_of_isLineComment {l : Lexeme} (h : l.WellFormed)
    (hl : l.isLineComment = true) : ∃ t, l = gap ('-' :: '-' :: t) := by
  cases h with
  | @blanks c t hc _ =>
    unfold isLineComment at hl
    split at hl
    · next e =>
      cases e
      cases hc
    · cases hl
  | @lineComment t _ => exact ⟨t, rfl⟩
  | _ => cases hl

/-- Blanks, and no comment. -/
def isBlanks : Lexeme → Bool
  | .gap (c :: _) => isGap c
  | _ => false

/-- Only in a line comment a sign before which every token ends is not read as itself, and a blank
behind blanks. -/
theorem WellFormed.allows_break {l : Lexeme} (h : l.WellFormed) (hl : l.isLineComment = false)
    {d : Char} (hd : isBreak d = true) (behind : l.isBlanks = true → isGap d = false) :
    l.allows d = true := by
  cases h with
  | blanks hc _ => rw [allows_blanks hc, behind hc, Bool.not_false]
  | lineComment _ => cases hl
  | blockComment _ => rfl
  | _ => exact token_allows hd

theorem apart_break {ls : List Lexeme} (h : Apart none ls)
    (hl : ls.getLast?.any isLineComment = false) {d : Char} (hd : isBreak d = true)
    (plain : isGap d = false) : Apart (some d) ls := by
  refine h.followed fun l last c hc => ?_
  obtain rfl : d = c := by simpa using hc
  have form : l.WellFormed := h.wellFormed l (List.mem_of_getLast? last)
  exact form.allows_break (by simpa [last] using hl) hd fun _ => plain

/-- The line behind a line comment is a part of it. -/
theorem readAll_lineComment {front : List Lexeme} {t : Sql}
    (h : Apart none (front ++ [gap ('-' :: '-' :: t)])) (s : Sql) :
    readAll (written front ++ '-' :: '-' :: (t ++ s)) =
      (front ++ gap ('-' :: '-' :: (t ++ s.takeWhile (· != '\n'))) ::
        (readAll (s.dropWhile (· != '\n'))).1, (readAll (s.dropWhile (· != '\n'))).2) := by
  obtain ⟨apart, form, -⟩ := apart_append.1 h
  have line : t.all (· != '\n') = true := by
    cases form with
    | blanks hc _ => cases hc
    | lineComment ht => exact ht
  have apart' : Apart (s.dropWhile (· != '\n')).head?
      (front ++ [gap ('-' :: '-' :: (t ++ s.takeWhile (· != '\n')))]) := by
    refine apart_append.2 ⟨by simpa [text] using apart, .lineComment (by simp [line]), ?_, trivial⟩
    intro d hd
    have stop := List.head?_dropWhile_not (· != '\n') s
    simp_all [allows]
  have read := readAll_append apart'
  simpa [text] using read

end Lexeme

namespace Scan

open Lexeme (written Apart Trimmed openParen closeParen isLineComment readAll readAll_eq_iff)

/-! ### Tokens inside of parentheses -/

/-- The text is read as `lead`, the tokens `inside` in parentheses, and `more`. -/
def Encloses (lead more : List Lexeme) (inside : List Token) (s : Sql) : Prop :=
  ∃ scan, ofSql s = .ok scan ∧
    scan.tokens.map Token.bare =
      arranged 0 (tokensOf lead) ++
        (⟨.openParen, [], ['('], 0, false⟩ :: inside.map (fun t => t.bare.deeper 1) ++
          (⟨.closeParen, [], [')'], 0, false⟩ :: arranged 0 (tokensOf more)))

theorem flatMap_text_bare (ts : List Token) :
    (ts.map Token.bare).flatMap Token.text = ts.flatMap Token.text := by
  rw [List.flatMap_map]
  rfl

theorem flatMap_text_placed {depth d : Nat} {before : Sql} {ls : List Lexeme}
    (h : opened depth ls = some d) :
    (placed depth before ls).flatMap Token.text = tokenText ls := by
  rw [tokenText, ← map_placed before h, List.flatMap_map]

theorem flatMap_text_arranged {ls : List Lexeme} {d : Nat} (h : opened 0 ls = some d) :
    (arranged 0 (tokensOf ls)).flatMap Token.text = tokenText ls := by
  rw [← map_bare_placed 0 [] ls, flatMap_text_bare, flatMap_text_placed h]

theorem count_tokenText_le (c : Char) (ls : List Lexeme) :
    (tokenText ls).count c ≤ (written ls).count c := by
  induction ls with
  | nil => simp
  | cons l ls ih =>
    cases l with
    | gap g =>
      simp only [tokenText_gap, Lexeme.written_cons, List.count_append]
      omega
    | token kind t =>
      simp only [tokenText_token, Lexeme.written_cons, List.count_append, Lexeme.text]
      omega

theorem count_tokenText {c : Char} {ls : List Lexeme} (h : ∀ g, .gap g ∈ ls → c ∉ g) :
    (tokenText ls).count c = (written ls).count c := by
  induction ls with
  | nil => simp
  | cons l ls ih =>
    have rest := ih fun g hg => h g (List.mem_cons_of_mem _ hg)
    cases l with
    | gap g =>
      simp [rest, Lexeme.text, List.count_eq_zero_of_not_mem (h g (by simp))]
    | token kind t => simp [rest, Lexeme.text]

section Encloses

variable {lead more ls ks : List Lexeme} {lost : Sql}

/-- Inside of parentheses tokens are the same, but deeper. -/
theorem map_deeper_placed (balanced : opened 0 ls = some 0) :
    (placed 0 [] ls).map (fun t => t.bare.deeper 1) = arranged 1 (tokensOf ls) := by
  rw [← map_bare_placed 1 [], ← Nat.zero_add 1, placed_add 1 [] balanced, List.map_map]
  rfl

/-- A text that does not end in a line comment is read in parentheses as it is by itself. -/
theorem encloses_of_apart (first : Apart (some '(') lead) (flat : opened 0 lead = some 0)
    (inner : Apart none ks) (balanced : opened 0 ks = some 0)
    (ends : ks.getLast?.any isLineComment = false) (last : Apart none more)
    (flat' : opened 0 more = some 0) :
    Encloses lead more (placed 0 [] ks)
      (written lead ++ '(' :: (written ks ++ ')' :: written more)) := by
  have deeper : opened 1 ks = some 1 := opened_add 1 balanced
  refine ⟨_, ofSql_eq_ok_iff.2 ⟨lead ++ (openParen :: (ks ++ closeParen :: more)), ?_, ?_, ?_, rfl⟩,
    ?_⟩
  · simp
  · refine Lexeme.apart_append.2 ⟨by simpa using first, .openParen, fun _ _ => rfl, ?_⟩
    refine Lexeme.apart_append.2 ⟨?_, .closeParen, fun _ _ => rfl, last⟩
    simpa using Lexeme.apart_break inner ends rfl rfl
  · simp [opened_append, flat, opened, openParen, closeParen, nesting, deeper, flat']
  · simp only [placed_append _ _ flat, List.map_append, map_bare_placed, openParen, placed, nesting,
      placed_append _ _ deeper, closeParen, List.map_cons, map_deeper_placed balanced]
    simp [Token.bare, map_bare_placed]

/-- The tokens of a text that encloses others are written with the same characters. -/
theorem Encloses.tokenText {s : Sql} (h : Encloses lead more (placed 0 [] ls) s)
    (flat : opened 0 lead = some 0) (balanced : opened 0 ls = some 0)
    (flat' : opened 0 more = some 0) :
    ∃ ms, readAll s = (ms, none) ∧
      Scan.tokenText ms =
        Scan.tokenText lead ++ '(' :: (Scan.tokenText ls ++ ')' :: Scan.tokenText more) := by
  obtain ⟨scan, read, tokens⟩ := h
  obtain ⟨ms, text, apart, opens, rfl⟩ := ofSql_eq_ok_iff.1 read
  refine ⟨ms, readAll_eq_iff.2 ⟨text, apart⟩, ?_⟩
  have inside : ((placed 0 [] ls).map fun t => t.bare.deeper 1).flatMap Token.text =
      Scan.tokenText ls := by
    rw [List.flatMap_map]
    exact flatMap_text_placed balanced
  have texts := congrArg (List.flatMap Token.text) tokens
  rw [flatMap_text_bare, flatMap_text_placed opens] at texts
  simpa [flatMap_text_arranged flat, flatMap_text_arranged flat', inside] using texts

/-- Behind a line comment the parenthesis is lost. -/
theorem not_encloses_of_isLineComment (first : Apart (some '(') lead)
    (flat : opened 0 lead = some 0) (trimmed : Trimmed ls ks lost) (balanced : opened 0 ls = some 0)
    (flat' : opened 0 more = some 0) (gaps : ∀ g, .gap g ∈ more → ')' ∉ g)
    (ends : ks.getLast?.any isLineComment = true) :
    ¬ Encloses lead more (placed 0 [] ls)
      (written lead ++ '(' :: (written ks ++ ')' :: written more)) := by
  intro h
  obtain ⟨ms, read, tokens⟩ := h.tokenText flat balanced flat'
  obtain ⟨front, t, rfl⟩ : ∃ front t, ks = front ++ [.gap ('-' :: '-' :: t)] := by
    obtain ⟨l, last, comment⟩ : ∃ l, ks.getLast? = some l ∧ isLineComment l = true := by
      simpa [Option.any_eq_true] using ends
    obtain ⟨front, rfl⟩ := List.getLast?_eq_some_iff.1 last
    obtain ⟨t, rfl⟩ := (Lexeme.apart_append.1 trimmed.apart).2.1.exists_of_isLineComment comment
    exact ⟨front, t, rfl⟩
  have text : written lead ++ '(' :: (written (front ++ [.gap ('-' :: '-' :: t)]) ++
      ')' :: written more) =
      written (lead ++ openParen :: front) ++ '-' :: '-' :: (t ++ ')' :: written more) := by
    simp [Lexeme.text, openParen]
  have apart : Apart none ((lead ++ openParen :: front) ++ [.gap ('-' :: '-' :: t)]) := by
    rw [List.append_assoc]
    exact Lexeme.apart_append.2 ⟨by simpa using first, .openParen, fun _ _ => rfl, trimmed.apart⟩
  have line : (')' :: written more).dropWhile (· != '\n') = (written more).dropWhile (· != '\n') :=
    rfl
  rw [text, Lexeme.readAll_lineComment apart, line] at read
  obtain ⟨ns, fault, next⟩ : ∃ ns fault, readAll ((written more).dropWhile (· != '\n')) = (ns, fault) :=
    ⟨_, _, rfl⟩
  simp only [next, Prod.mk.injEq] at read
  obtain ⟨rfl, rfl⟩ := read
  -- the comment takes up one parenthesis more than the gaps of the query do
  have counts := congrArg (List.count ')') tokens
  simp [trimmed.tokenText, openParen, count_tokenText gaps] at counts
  have fewer : (tokenText ns).count ')' ≤ (written more).count ')' :=
    calc (tokenText ns).count ')' ≤ (written ns).count ')' := count_tokenText_le ')' ns
      _ = ((written more).dropWhile (· != '\n')).count ')' := by rw [(readAll_eq_iff.1 next).1]
      _ ≤ (written more).count ')' := (List.dropWhile_sublist _).count_le ')'
  omega

/-- A text is enclosed as it is by itself, if no token is cut and it does not end in a line comment,
and only then. -/
theorem encloses_iff (first : Apart (some '(') lead) (flat : opened 0 lead = some 0)
    (trimmed : Trimmed ls ks lost) (balanced : opened 0 ls = some 0) (last : Apart none more)
    (flat' : opened 0 more = some 0) (gaps : ∀ g, .gap g ∈ more → ')' ∉ g) :
    Encloses lead more (placed 0 [] ls)
        (written lead ++ '(' :: (written ks ++ ')' :: written more)) ↔
      lost = [] ∧ ks.getLast?.any isLineComment = false := by
  have balancedKs : opened 0 ks = some 0 := trimmed.opened.trans balanced
  cases ends : ks.getLast?.any isLineComment with
  | true =>
    simpa using not_encloses_of_isLineComment first flat trimmed balanced flat' gaps ends
  | false =>
    have read := encloses_of_apart first flat trimmed.apart balancedKs ends last flat'
    constructor
    · intro h
      obtain ⟨ms, e, tokens⟩ := h.tokenText flat balanced flat'
      obtain ⟨ms', e', tokens'⟩ := read.tokenText flat balancedKs flat'
      obtain rfl : ms = ms' := congrArg Prod.fst (e.symm.trans e')
      rw [tokens, trimmed.tokenText] at tokens'
      exact ⟨by simpa using tokens', rfl⟩
    · rintro ⟨rfl, -⟩
      have inside := map_deeper_placed balancedKs
      rw [trimmed.kept rfl, ← map_deeper_placed balanced] at inside
      rwa [Encloses, inside] at read

/-- Trimming the text cuts no token and leaves no line comment at its end. -/
def Intact (s : Scan) : Prop :=
  (∀ t ∈ s.clipped, t.cut = false) ∧ Lexeme.endsInComment (Blank.trimEnd s.text) = false

/-- A statement is enclosed as it is by itself if its text is intact, and only then. -/
theorem encloses_iff_intact {t : Sql} {s : Scan} (read : ofSql t = .ok s)
    (first : Apart (some '(') lead) (flat : opened 0 lead = some 0) (last : Apart none more)
    (flat' : opened 0 more = some 0) (gaps : ∀ g, .gap g ∈ more → ')' ∉ g) :
    Encloses lead more s.withoutTerminator.tokens (written lead ++
        '(' :: (Blank.trimEnd s.withoutTerminator.text ++ ')' :: written more)) ↔
      s.withoutTerminator.Intact := by
  obtain ⟨ls, apart, balanced, e⟩ := exists_withoutTerminator read
  obtain ⟨ks, lost, trimmed⟩ := Lexeme.exists_trimmed apart
  have text : s.withoutTerminator.text = written ls := by
    rw [e, text_placed [] balanced, List.nil_append]
  have uncut : (∀ t ∈ s.withoutTerminator.clipped, t.cut = false) ↔ lost = [] := by
    have tokens : ∀ t ∈ s.withoutTerminator.tokens, t.cut = false := e ▸ cut_of_placed 0 [] ls
    rw [forall_clipped_iff tokens, text, ← trimmed.text, e, trimmed.cut, not_ne_iff]
  rw [Intact, uncut, text, ← trimmed.text, Lexeme.endsInComment_written trimmed.apart, e]
  exact encloses_iff first flat trimmed balanced last flat' gaps

end Encloses

end Scan

namespace Options

open Lexeme (isWord)

theorem isWord_of_isBareName {name : String} (h : isBareName name = true) :
    isWord name.toList = true := by
  simp only [isBareName, Bool.and_eq_true] at h
  exact Lexeme.isWord_of_hasBareShape h.1

/-- The names that a statement uses are words. -/
theorem isWord_of_validate {o : Options} (h : o.validate = .ok ()) :
    isWord o.updateAlias.toList = true ∧ isWord o.joinAlias.toList = true := by
  obtain ⟨bare, bare', -⟩ := validate_eq_ok_iff.1 h
  exact ⟨isWord_of_isBareName bare, isWord_of_isBareName bare'⟩

end Options

/-- The keys are the key columns, if there are any. -/
theorem Entity.keys_eq_ok_iff {entity : Entity} {keys : List Column} :
    entity.keys = .ok keys ↔ entity.columns.filter Column.isKey = keys ∧ keys ≠ [] := by
  unfold Entity.keys
  split
  · next none =>
    rw [none]
    exact ⟨nofun, fun h => absurd h.1.symm h.2⟩
  · next c cs some =>
    rw [some]
    exact ⟨fun h => Except.ok.inj h ▸ ⟨rfl, List.cons_ne_nil c cs⟩, fun h => congrArg _ h.1⟩

theorem Entity.keys_ne_nil {entity : Entity} {keys : List Column} (h : entity.keys = .ok keys) :
    keys ≠ [] := (keys_eq_ok_iff.1 h).2

/-- The SELECT statement of a query text, without a semicolon at its end. -/
def DerivedQuery.select (query : Sql) : Except Unsupported Scan :=
  (Scan.ofSql (Blank.trimStart (splitPrelude query).2)).map Scan.withoutTerminator

namespace Statement

open Lexeme
open Scan (opened Encloses)

/-! ### The text around the query -/

/-- The table under the name that the statement uses. -/
def targetLexemes (options : Options) (entity : Entity) : List Lexeme :=
  entity.table.lexemes ++ ([blank, keyword "AS", blank] ++ [word options.updateAlias.toList])

/-- What stands before the query in a DELETE. -/
def deleteLexemes (options : Options) (entity : Entity) : List Lexeme :=
  [keyword "DELETE", blank, keyword "FROM", blank] ++
    (targetLexemes options entity ++ [blank, keyword "USING", blank])

/-- What stands before the query behind the assignments of an UPDATE. -/
def fromLexemes : List Lexeme := [blank, keyword "FROM", blank]

/-- A column of a table or query that is called `name`. -/
def qualifiedLexemes (name : String) (c : Column) : List Lexeme :=
  [word name.toList, dot, c.name.lexeme]

/-- The equation of a key column. -/
def equationLexemes (options : Options) (c : Column) : List Lexeme :=
  qualifiedLexemes options.updateAlias c ++
    ([blank, symbol '=', blank] ++ qualifiedLexemes options.joinAlias c)

/-- One equation for each key column. -/
def keyLexemes (options : Options) (keys : List Column) : List Lexeme :=
  [blank, keyword "AND", blank].intercalate (keys.map (equationLexemes options))

/-- What stands behind the query. -/
def conditionLexemes (options : Options) (keys : List Column) : List Lexeme :=
  [blank, keyword "AS", blank] ++ ([word options.joinAlias.toList] ++
    ([blank, keyword "WHERE", blank] ++ keyLexemes options keys))

variable {options : Options} {entity : Entity} {keys : List Column}

theorem written_targetLexemes :
    written (targetLexemes options entity) = target options entity := by
  simp [targetLexemes, target, QualifiedName.written_lexemes]

theorem written_qualifiedLexemes (name : String) (c : Column) :
    written (qualifiedLexemes name c) = qualified name c := by simp [qualifiedLexemes, qualified]

theorem written_keyLexemes : written (keyLexemes options keys) = keyCondition options keys := by
  have equation (c : Column) : written (equationLexemes options c) =
      qualified options.updateAlias c ++ (" = ".toList ++ qualified options.joinAlias c) := by
    simp [equationLexemes, written_qualifiedLexemes]
  unfold keyLexemes keyCondition
  induction keys with
  | nil => rfl
  | cons c cs ih =>
    cases cs with
    | nil => simp [equation]
    | cons d ds =>
      simp only [List.map_cons, List.intercalate_cons_cons, written_append, equation] at ih ⊢
      rw [ih]
      rfl

theorem written_deleteLexemes : written (deleteLexemes options entity) =
    "DELETE FROM ".toList ++ (target options entity ++ " USING ".toList) := by
  simp [deleteLexemes, written_targetLexemes]

theorem written_fromLexemes : written fromLexemes = " FROM ".toList := rfl

theorem joined_eq (query : Sql) :
    joined options keys query = '(' :: (query ++ ')' :: written (conditionLexemes options keys)) := by
  simp [joined, conditionLexemes, written_keyLexemes]

theorem phrase_targetLexemes (valid : options.validate = .ok ()) :
    Phrase (targetLexemes options entity) True := by
  have as_ : Link [blank, keyword "AS", blank] := link_of_isLink (by decide)
  have name := phrase_word (Options.isWord_of_validate valid).1
  exact ((phrase_table entity.table).link name as_).congr (by simp)

theorem phrase_equationLexemes (valid : options.validate = .ok ()) (c : Column) :
    Phrase (equationLexemes options c) True := by
  obtain ⟨left, right⟩ := Options.isWord_of_validate valid
  have equals : Link [blank, symbol '=', blank] := link_of_isLink (by decide)
  have side {name : String} (h : isWord name.toList = true) :
      Phrase (qualifiedLexemes name c) True :=
    phrase_dotted (phrase_word h) (word_allows_dot _) c.name
  exact ((side left).link (side right) equals).congr (by simp)

theorem phrase_keyLexemes (valid : options.validate = .ok ()) (ne : keys ≠ []) :
    Phrase (keyLexemes options keys) True := by
  have and_ : Link [blank, keyword "AND", blank] := link_of_isLink (by decide)
  exact (phrase_intercalate ne (fun c _ => phrase_equationLexemes valid c) and_).congr (by simp)

/-- What stands behind the query is apart from it and in itself. -/
theorem conditionLexemes_apart (valid : options.validate = .ok ()) (ne : keys ≠ []) :
    Apart none (conditionLexemes options keys) ∧ opened 0 (conditionLexemes options keys) = some 0 ∧
      ∀ g, .gap g ∈ conditionLexemes options keys → ')' ∉ g := by
  have as_ : Link [blank, keyword "AS", blank] := link_of_isLink (by decide)
  have where_ : Link [blank, keyword "WHERE", blank] := link_of_isLink (by decide)
  have name := phrase_word (Options.isWord_of_validate valid).2
  have condition := name.link (phrase_keyLexemes valid ne) where_
  obtain ⟨c, r, e, gap⟩ := condition.starts
  refine ⟨?_, ?_, fun g hg => ?_⟩
  · refine apart_append.2 ⟨?_, (condition.apart none breaks_none).2 (by simp)⟩
    rw [e]
    exact as_.apart c gap
  · rw [conditionLexemes, Scan.opened_append, as_.balanced]
    exact condition.balanced
  · have plain : (Lexeme.gap g).isPlain = true := by
      rcases List.mem_append.1 hg with h | h
      · exact as_.plain _ h
      · exact condition.plain _ h
    simp only [isPlain, List.all_eq_true, beq_iff_eq] at plain
    intro h
    cases plain _ h

/-- What stands before the query in a DELETE is apart from it and in itself. -/
theorem deleteLexemes_apart (valid : options.validate = .ok ()) :
    Apart (some '(') (deleteLexemes options entity) ∧
      opened 0 (deleteLexemes options entity) = some 0 := by
  have delete : Front [keyword "DELETE", blank, keyword "FROM", blank] 0 :=
    front_of_isFront (by decide)
  have using_ : Link [blank, keyword "USING", blank] := link_of_isLink (by decide)
  have table : Phrase (targetLexemes options entity) True := phrase_targetLexemes valid
  obtain ⟨c, r, e, gap⟩ := table.starts
  obtain ⟨d, t, e', brk⟩ := using_.starts
  refine ⟨apart_append.2 ⟨?_, apart_append.2 ⟨?_, using_.apart '(' (by decide)⟩⟩, ?_⟩
  · rw [written_append, e]
    exact delete.apart c gap
  · rw [e']
    exact (table.apart _ (breaks_some brk)).2 trivial
  · simp only [deleteLexemes, Scan.opened_append, delete.opens, table.balanced, using_.balanced,
      Option.bind_some]

theorem fromLexemes_apart : Apart (some '(') fromLexemes ∧ opened 0 fromLexemes = some 0 := by
  have from_ : Link [blank, keyword "FROM", blank] := link_of_isLink (by decide)
  exact ⟨from_.apart '(' (by decide), from_.balanced⟩

/-! ### The statements -/

/-- The body of a query text is its SELECT statement, without the blanks at its end. -/
theorem exists_scan_of_derived {query : Sql} {derived : DerivedQuery}
    (h : DerivedQuery.ofSql query = .ok derived) :
    ∃ scan, Scan.ofSql (Blank.trimStart (splitPrelude query).2) = .ok scan ∧
      derived.body = Blank.trimEnd scan.withoutTerminator.text := by
  obtain ⟨body, front, behind, source, made, -, -, rfl⟩ := DerivedQuery.ofSql_eq_ok_iff.1 h
  obtain ⟨scan, read, rfl⟩ := Body.exists_scan made
  exact ⟨scan, read, rfl⟩

/-- What a DELETE is made of. -/
theorem delete_eq_ok_iff {query : Sql} {s : Statement} :
    delete options entity query = .ok s ↔
      ∃ keys derived, entity.keys = .ok keys ∧ DerivedQuery.ofSql query = .ok derived ∧
        s = {
          kind := .delete
          table := entity.table.toSql
          prelude := derived.prelude.map Setting.statement
          body := .raw ("DELETE FROM ".toList ++ (target options entity ++ (" USING ".toList ++
            joined options keys derived.body))) } := by
  simp only [delete, bind_eq_ok_iff, pure, Except.pure, Except.ok.injEq, eq_comm (b := s)]
  exact exists_congr fun keys => exists_and_left.symm

/-- What an UPDATE is made of. -/
theorem update_eq_ok_iff {write : QueryWriter} {q : Query} {updater : Expr} {s : Statement} :
    update write options entity q updater = .ok s ↔
      ∃ as keys query derived set settings, Assignment.ofUpdater entity updater = .ok as ∧
        entity.keys = .ok keys ∧ write entity q = .ok query ∧
        DerivedQuery.ofSql query = .ok derived ∧
        assignments write options entity q derived.prelude as = .ok (set, settings) ∧
        s = {
          kind := .update
          table := entity.table.toSql
          prelude := settings.map Setting.statement
          body := .raw ("UPDATE ".toList ++ (target options entity ++ " SET ".toList)) ++
            (.commaList set ++ .raw (" FROM ".toList ++ joined options keys derived.body)) } := by
  simp only [update, bind_eq_ok_iff, Prod.exists, pure, Except.pure, Except.ok.injEq,
    eq_comm (b := s)]
  constructor
  · rintro ⟨as, bound, keys, keyed, query, written, derived, read, set, settings, made, rfl⟩
    exact ⟨as, keys, query, derived, set, settings, bound, keyed, written, read, made, rfl⟩
  · rintro ⟨as, keys, query, derived, set, settings, bound, keyed, written, read, made, rfl⟩
    exact ⟨as, bound, keys, keyed, query, written, derived, read, set, settings, made, rfl⟩

theorem delete_eq {query : Sql} {derived : DerivedQuery} (keyed : entity.keys = .ok keys)
    (accepted : DerivedQuery.ofSql query = .ok derived) :
    delete options entity query = .ok {
      kind := .delete
      table := entity.table.toSql
      prelude := derived.prelude.map Setting.statement
      body := .raw ("DELETE FROM ".toList ++ (target options entity ++ (" USING ".toList ++
        joined options keys derived.body))) } :=
  delete_eq_ok_iff.2 ⟨keys, derived, keyed, accepted, rfl⟩

end Statement

end BulkSql
