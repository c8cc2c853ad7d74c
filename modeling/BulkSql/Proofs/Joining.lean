import BulkSql.Proofs.Placing

/-!
The query of a DELETE and of an UPDATE where it stands in the statement. In an UPDATE it stands behind
the assignments, whose text can come from a compiler: it is read as in a DELETE if the text in front
of it can be read by itself.
-/
namespace BulkSql

open Lexeme

namespace Lexeme

theorem WellFormed.exists_of_isBlanks {l : Lexeme} (h : l.WellFormed) (blanks : l.isBlanks = true) :
    ∃ c t, l = gap (c :: t) ∧ isGap c = true ∧ t.all isGap = true := by
  cases h with
  | blanks hc ht => exact ⟨_, _, rfl, hc, ht⟩
  | _ => cases blanks

theorem WellFormed.exists_of_not_isBlanks {l : Lexeme} (h : l.WellFormed)
    (blanks : l.isBlanks = false) : ∃ c r, l.text = c :: r ∧ isGap c = false := by
  cases l with
  | gap g =>
    obtain ⟨c, t, e⟩ := List.exists_cons_of_ne_nil h.text_ne
    cases e
    exact ⟨c, t, rfl, blanks⟩
  | token kind t =>
    obtain ⟨c, r, rfl, gap, -⟩ := h.exists_head
    exact ⟨c, r, rfl, gap⟩

theorem isLineComment_blanks {c : Char} (hc : isGap c = true) (t : Sql) :
    (gap (c :: t)).isLineComment = false := by
  unfold isLineComment
  split
  · next e =>
    cases e
    cases hc
  · rfl

/-- Whether the last lexeme is a line comment does not depend on the blanks among them. -/
theorem any_getLast?_blanks {c : Char} (hc : isGap c = true) (t : Sql) (ls ms : List Lexeme) :
    (ls ++ gap (c :: t) :: ms).getLast?.any isLineComment = ms.getLast?.any isLineComment := by
  cases ms with
  | nil => simp [isLineComment_blanks hc]
  | cons m ms => simp [List.getLast?_cons]

end Lexeme

namespace Scan

/-! ### Blanks and commas between texts -/

theorem opened_eq (depth : Nat) (ls : List Lexeme) :
    opened depth ls = opened depth ((tokensOf ls).map fun t => .token t.1 t.2) := by
  induction ls generalizing depth with
  | nil => rfl
  | cons l ls ih =>
    cases l with
    | gap g => exact ih depth
    | token kind t =>
      simp only [opened, tokensOf, List.map_cons]
      split
      · exact ih _
      · rfl

/-- What is open depends only on the tokens. -/
theorem opened_congr {ls ms : List Lexeme} (same : tokensOf ls = tokensOf ms) (depth : Nat) :
    opened depth ls = opened depth ms := by rw [opened_eq, same, ← opened_eq]

/-- What is enclosed depends only on the tokens in front. -/
theorem encloses_congr {lead lead' more : List Lexeme} (same : tokensOf lead = tokensOf lead')
    (inside : List Token) (s : Sql) : Encloses lead more inside s ↔ Encloses lead' more inside s := by
  rw [Encloses, Encloses, same]

theorem not_encloses_of_error {lead more : List Lexeme} {inside : List Token} {s : Sql}
    {fault : Unsupported} (h : ofSql s = .error fault) : ¬ Encloses lead more inside s := by
  rintro ⟨scan, read, -⟩
  cases h.symm.trans read

variable {ls ks : List Lexeme} {next : Option Char}

/-- A blank in front of other blanks is one of them. -/
theorem exists_blank_cons (behind : Apart next ks) (follows : ∀ d ∈ next, isGap d = false) :
    ∃ t ms, t.all isGap = true ∧ t ++ written ms = written ks ∧ tokensOf ms = tokensOf ks ∧
      Apart next (gap (' ' :: t) :: ms) ∧
      ms.getLast?.any isLineComment = ks.getLast?.any isLineComment := by
  have single (allowed : ∀ d ∈ (written ks).head?.or next, isGap d = false) :
      Apart next (gap [' '] :: ks) :=
    ⟨.blanks rfl rfl, fun d hd => by rw [allows_blanks rfl, allowed d hd]; rfl, behind⟩
  cases ks with
  | nil => exact ⟨[], [], rfl, rfl, rfl, single (by simpa using follows), rfl⟩
  | cons l ks =>
    cases blanks : l.isBlanks with
    | true =>
      obtain ⟨form, allowed, rest⟩ := behind
      obtain ⟨c, t, rfl, hc, ht⟩ := form.exists_of_isBlanks blanks
      have more : (c :: t).all isGap = true := by simp [hc, ht]
      refine ⟨c :: t, ks, more, rfl, rfl, ⟨.blanks rfl more, fun d hd => ?_, rest⟩,
        (any_getLast?_blanks hc t [] ks).symm⟩
      rw [allows_blanks rfl, ← allows_blanks hc t]
      exact allowed d hd
    | false =>
      obtain ⟨c, r, e, plain⟩ := behind.1.exists_of_not_isBlanks blanks
      exact ⟨[], l :: ks, rfl, rfl, rfl, single (by simpa [e] using plain), rfl⟩

/-- Lexemes with a blank between them, which is one gap with the blanks around it. -/
theorem exists_spaced (before : Apart none ls) (ends : ls.getLast?.any isLineComment = false)
    (behind : Apart next ks) (follows : ∀ d ∈ next, isGap d = false) :
    ∃ ms, written ms = written ls ++ ' ' :: written ks ∧ tokensOf ms = tokensOf (ls ++ ks) ∧
      Apart next ms ∧ ms.getLast?.any isLineComment = ks.getLast?.any isLineComment := by
  obtain ⟨t, ms, ht, text, tokens, apart, last⟩ := exists_blank_cons behind follows
  rcases List.eq_nil_or_concat' ls with rfl | ⟨front, l, rfl⟩
  · exact ⟨gap (' ' :: t) :: ms, congrArg (' ' :: ·) text, tokens, apart,
      (any_getLast?_blanks rfl t [] ms).trans last⟩
  obtain ⟨first, form, -⟩ := apart_append.1 before
  -- no token starts behind blanks at the end, so the blank and those behind it belong to them
  cases blanks : l.isBlanks with
  | true =>
    obtain ⟨c, g, rfl, hc, hg⟩ := form.exists_of_isBlanks blanks
    have more : (g ++ ' ' :: t).all isGap = true := by simp [hg, ht, isGap]
    refine ⟨front ++ gap (c :: (g ++ ' ' :: t)) :: ms, ?_, ?_,
      apart_append.2 ⟨first, .blanks hc more, fun d hd => ?_, apart.2.2⟩,
      (any_getLast?_blanks hc _ _ ms).trans last⟩
    · simp [Lexeme.text, ← text]
    · simp [tokensOf, tokens]
    · rw [allows_blanks hc, ← allows_blanks (c := ' ') rfl t]
      exact apart.2.1 d hd
  | false =>
    refine ⟨(front ++ [l]) ++ gap (' ' :: t) :: ms, ?_, ?_, apart_append.2 ⟨?_, apart⟩,
      (any_getLast?_blanks rfl t _ ms).trans last⟩
    · simp [Lexeme.text, ← text]
    · rw [tokensOf_append, tokensOf_append _ ks]
      exact congrArg (tokensOf (front ++ [l]) ++ ·) tokens
    · refine before.followed fun m hm d hd => ?_
      obtain rfl : l = m := by simpa using hm
      obtain rfl : ' ' = d := by simpa [Lexeme.text] using hd
      exact form.allows_break (by simpa using ends) rfl (by simp [blanks])

/-! ### Texts that stand by themselves -/

/-- A text in front of which nothing is needed and behind which a blank and a word can stand: it is
read by itself, and does not end in a line comment. -/
def Stands (s : Sql) : Prop := (∃ scan, ofSql s = .ok scan) ∧ endsInComment s = false

theorem stands_iff {s : Sql} : Stands s ↔ ∃ ls, written ls = s ∧ Apart none ls ∧
    opened 0 ls = some 0 ∧ ls.getLast?.any isLineComment = false := by
  constructor
  · rintro ⟨⟨scan, read⟩, ends⟩
    obtain ⟨ls, rfl, apart, flat, -⟩ := ofSql_eq_ok_iff.1 read
    exact ⟨ls, rfl, apart, flat, by rwa [endsInComment_written apart] at ends⟩
  · rintro ⟨ls, rfl, apart, flat, ends⟩
    exact ⟨⟨_, ofSql_eq_ok_iff.2 ⟨ls, rfl, apart, flat, rfl⟩⟩, by rwa [endsInComment_written apart]⟩

/-- A phrase stands by itself, for it has no comments. -/
theorem stands_of_phrase {ls : List Lexeme} (h : Phrase ls True) : Stands (written ls) := by
  refine stands_iff.2 ⟨ls, rfl, (h.apart none breaks_none).2 trivial, h.balanced, ?_⟩
  obtain ⟨l, last, -⟩ := h.ends
  have plain := h.plain l (List.mem_of_getLast? last)
  rw [last, Option.any_some]
  unfold isLineComment
  split
  · simp [isPlain] at plain
  · rfl

theorem Stands.spaced {s t : Sql} (hs : Stands s) (ht : Stands t) : Stands (s ++ ' ' :: t) := by
  obtain ⟨ls, rfl, before, flat, ends⟩ := stands_iff.1 hs
  obtain ⟨ks, rfl, behind, flat', ends'⟩ := stands_iff.1 ht
  obtain ⟨ms, text, tokens, apart, last⟩ := exists_spaced before ends behind nofun
  refine stands_iff.2 ⟨ms, text, apart, ?_, last.trans ends'⟩
  rw [opened_congr tokens, opened_append, flat]
  exact flat'

/-- A comma can stand behind the text at once. -/
theorem Stands.comma {s : Sql} (h : Stands s) : Stands (s ++ [',']) := by
  obtain ⟨ls, rfl, before, flat, ends⟩ := stands_iff.1 h
  have first : Apart (some ',') ls := apart_break before ends rfl rfl
  refine stands_iff.2 ⟨ls ++ [Lexeme.comma], by simp, apart_append.2 ⟨first, .comma, nofun, trivial⟩,
    ?_, by simp [isLineComment, Lexeme.comma]⟩
  rw [opened_append, flat]
  rfl

theorem stands_intercalate {ts : List Sql} (ne : ts ≠ []) (each : ∀ t ∈ ts, Stands t) :
    Stands (", ".toList.intercalate ts) := by
  induction ts with
  | nil => exact absurd rfl ne
  | cons t ts ih =>
    rw [List.forall_mem_cons] at each
    cases ts with
    | nil => simpa using each.1
    | cons u us =>
      have rest := ih (List.cons_ne_nil u us) each.2
      have whole := each.1.comma.spaced rest
      simpa using whole

end Scan

namespace Statement

open Scan (Encloses Stands opened tokensOf)

variable {options : Options} {entity : Entity} {keys : List Column}

/-- A query behind FROM is enclosed as it is by itself if its text is intact, and only then. -/
theorem encloses_behind_iff {front t : Sql} {scan : Scan} {more : List Lexeme} (stands : Stands front)
    (read : Scan.ofSql t = .ok scan) (last : Apart none more) (flat : opened 0 more = some 0)
    (gaps : ∀ g, .gap g ∈ more → ')' ∉ g) :
    Encloses ((readAll front).1 ++ fromLexemes) more scan.withoutTerminator.tokens
        (front ++ (" FROM ".toList ++
          '(' :: (Blank.trimEnd scan.withoutTerminator.text ++ ')' :: written more))) ↔
      scan.withoutTerminator.Intact := by
  obtain ⟨ls, rfl, apart, level, ends⟩ := Scan.stands_iff.1 stands
  have from_ : Apart (some '(') [keyword "FROM", blank] := fromLexemes_apart.1.2.2
  -- the text may end in blanks, so FROM is not read behind its lexemes, but behind its tokens
  obtain ⟨lead, text, tokens, first, -⟩ := Scan.exists_spaced apart ends from_ (by simp [isGap])
  have flat' : opened 0 lead = some 0 := by
    rw [Scan.opened_congr tokens, Scan.opened_append, level]
    rfl
  have same : tokensOf lead = tokensOf (ls ++ fromLexemes) := by
    rw [tokens, Scan.tokensOf_append, Scan.tokensOf_append]
    rfl
  rw [readAll_eq_iff.2 ⟨rfl, apart⟩, ← Scan.encloses_congr same]
  have whole := Scan.encloses_iff_intact read first flat' last flat gaps
  rw [text] at whole
  simpa using whole

/-! ### Assignments -/

/-- An UPDATE up to the last of its assignments. -/
def assigning (options : Options) (entity : Entity) (set : List Fragment) : Sql :=
  "UPDATE ".toList ++ (target options entity ++ (" SET ".toList ++ (Fragment.commaList set).sql))

/-- The text of a computed value over the updated table. -/
def Moved (write : QueryWriter) (options : Options) (entity : Entity) (query : Query) (e : Expr)
    (text : Sql) : Prop :=
  ∃ sql p, write entity (query.selecting e) = .ok sql ∧ Projection.ofSql sql = .ok p ∧
    p.realias options.updateAlias.toList = .ok text

/-- What is computed stands by itself in every assignment. -/
def MovesApart (write : QueryWriter) (options : Options) (entity : Entity) (query : Query)
    (as : List Assignment) : Prop :=
  ∀ a ∈ as, ∀ e, a.value = .computed e → ∀ text, Moved write options entity query e text → Stands text

theorem stands_keyword {w : String} (h : isWord w.toList = true) : Stands w.toList := by
  simpa using Scan.stands_of_phrase (phrase_word h)

/-- What is assigned stands by itself behind any number of parameters. -/
theorem stands_assigned {write : QueryWriter} {query : Query} {a : Assigned}
    {prelude settings : List Setting} {f : Fragment}
    (moves : ∀ e, a = .computed e → ∀ text, Moved write options entity query e text → Stands text)
    (h : assignedFragment write options entity query prelude a = .ok (f, settings)) (n : Nat) :
    Stands (Fragment.numbered n f.pieces) := by
  cases a with
  | constant v =>
    cases h
    split
    · exact stands_keyword (w := "NULL") (by decide)
    · have number := Scan.stands_of_phrase (phrase_parameter (n + 1))
      rw [written_parameter] at number
      simpa [Fragment.bind, Fragment.numbered] using number
  | computed e =>
    obtain ⟨sql, p, moved, written, read, -, again, rfl⟩ := assignedFragment_computed_iff.1 h
    simpa [Fragment.raw, Fragment.numbered] using moves e rfl moved ⟨sql, p, written, read, again⟩

theorem stands_assignments {write : QueryWriter} {query : Query} {as : List Assignment}
    {prelude settings : List Setting} {set : List Fragment}
    (moves : MovesApart write options entity query as)
    (h : assignments write options entity query prelude as = .ok (set, settings)) (n : Nat) :
    ∀ t ∈ Fragment.texts n set, Stands t := by
  induction as generalizing prelude set n with
  | nil =>
    cases h
    simp [Fragment.texts]
  | cons a as ih =>
    obtain ⟨first, others⟩ := List.forall_mem_cons.1 moves
    obtain ⟨f, joined, rest, made, more, rfl⟩ := assignments_cons_iff.1 h
    refine List.forall_mem_cons.2 ⟨?_, ih others more _⟩
    have name : Stands a.column.name.toSql := by
      simpa using Scan.stands_of_phrase (phrase_name a.column.name)
    have equals : Stands ['='] :=
      Scan.stands_iff.2 ⟨[symbol '='], rfl, ⟨.symbol rfl, by simp, trivial⟩, rfl, rfl⟩
    have whole := (name.spaced equals).spaced (stands_assigned first made n)
    rw [Fragment.numbered_raw_append]
    simpa using whole

/-- An UPDATE stands by itself up to its assignments if all that it computes does. -/
theorem stands_assigning {write : QueryWriter} {query : Query} {as : List Assignment}
    {prelude settings : List Setting} {set : List Fragment} (valid : options.validate = .ok ())
    (ne : as ≠ []) (moves : MovesApart write options entity query as)
    (h : assignments write options entity query prelude as = .ok (set, settings)) :
    Stands (assigning options entity set) := by
  have table : Stands (target options entity) := by
    simpa [written_targetLexemes] using Scan.stands_of_phrase (phrase_targetLexemes valid)
  have some : Fragment.texts 0 set ≠ [] := by
    obtain ⟨a, as, rfl⟩ := List.exists_cons_of_ne_nil ne
    obtain ⟨f, joined, rest, -, -, rfl⟩ := assignments_cons_iff.1 h
    exact List.cons_ne_nil _ _
  have values : Stands (Fragment.commaList set).sql := by
    rw [Fragment.sql, Fragment.numbered_commaList]
    exact Scan.stands_intercalate some (stands_assignments moves h 0)
  have update_ : Stands "UPDATE".toList := stands_keyword (by decide)
  have set_ : Stands "SET".toList := stands_keyword (by decide)
  unfold assigning
  simpa using ((update_.spaced table).spaced set_).spaced values

/-! ### The statements -/

/-- The text of an UPDATE: what is assigned, and the query behind it. -/
theorem sql_update {write : QueryWriter} {q : Query} {updater : Expr} {query : Sql}
    {derived : DerivedQuery} {s : Statement} (compiled : write entity q = .ok query)
    (accepted : DerivedQuery.ofSql query = .ok derived) (keyed : entity.keys = .ok keys)
    (h : update write options entity q updater = .ok s) :
    ∃ as set settings, Assignment.ofUpdater entity updater = .ok as ∧
      assignments write options entity q derived.prelude as = .ok (set, settings) ∧
      s.sql = assigning options entity set ++
        (" FROM ".toList ++ joined options keys derived.body) := by
  obtain ⟨as, keys', query', derived', set, settings, bound, keyed', compiled', accepted', made,
    rfl⟩ := update_eq_ok_iff.1 h
  obtain rfl := Except.ok.inj (keyed.symm.trans keyed')
  obtain rfl := Except.ok.inj (compiled.symm.trans compiled')
  obtain rfl := Except.ok.inj (accepted.symm.trans accepted')
  refine ⟨as, set, settings, bound, made, (Fragment.sql_between _ _ _).trans ?_⟩
  unfold assigning
  simp only [List.append_assoc]

/-- The text of a DELETE. -/
theorem sql_delete (options : Options) {query : Sql} {derived : DerivedQuery}
    (keyed : entity.keys = .ok keys) (accepted : DerivedQuery.ofSql query = .ok derived) :
    ∃ s, delete options entity query = .ok s ∧ s.sql = written (deleteLexemes options entity) ++
      joined options keys derived.body := by
  refine ⟨_, delete_eq keyed accepted, ?_⟩
  rw [written_deleteLexemes, Statement.sql, Fragment.sql_raw]
  simp only [List.append_assoc]

/-- The tokens of a query stand in the parentheses of a DELETE as they stand in the query, with the
condition of the join behind them, if trimming the query cuts no token and leaves no line comment at
its end, and only then. The same holds of an UPDATE whose text stands by itself up to its assignments,
as it does if what is computed stands by itself over the updated table, and of what is written behind
the assignments of any UPDATE. -/
theorem encloses_joined_iff {query : Sql} {derived : DerivedQuery}
    (valid : options.validate = .ok ()) (keyed : entity.keys = .ok keys)
    (accepted : DerivedQuery.ofSql query = .ok derived) :
    ∃ select, DerivedQuery.select query = .ok select ∧
      (∃ s, delete options entity query = .ok s ∧
        (Encloses (deleteLexemes options entity) (conditionLexemes options keys) select.tokens s.sql ↔
          select.Intact)) ∧
      ∀ write q updater s, write entity q = .ok query →
        update write options entity q updater = .ok s →
        ∃ as set settings, Assignment.ofUpdater entity updater = .ok as ∧
          assignments write options entity q derived.prelude as = .ok (set, settings) ∧
          s.sql = assigning options entity set ++
            (" FROM ".toList ++ joined options keys derived.body) ∧
          (Stands (assigning options entity set) →
            (Encloses ((readAll (assigning options entity set)).1 ++ fromLexemes)
              (conditionLexemes options keys) select.tokens s.sql ↔ select.Intact)) ∧
          (MovesApart write options entity q as → Stands (assigning options entity set)) ∧
          (Encloses fromLexemes (conditionLexemes options keys) select.tokens
            (" FROM ".toList ++ joined options keys derived.body) ↔ select.Intact) := by
  obtain ⟨scan, read, body⟩ := exists_scan_of_derived accepted
  obtain ⟨last, flat', gaps⟩ := conditionLexemes_apart valid (Entity.keys_ne_nil keyed)
  obtain ⟨s, deleted, deletion⟩ := sql_delete options keyed accepted
  refine ⟨scan.withoutTerminator, map_eq_ok_iff.2 ⟨scan, read, rfl⟩, ⟨s, deleted, ?_⟩,
    fun write q updater s compiled h => ?_⟩
  · have ⟨first, flat⟩ : Apart (some '(') (deleteLexemes options entity) ∧
        opened 0 (deleteLexemes options entity) = some 0 := deleteLexemes_apart valid
    have text := Scan.encloses_iff_intact read first flat last flat' gaps
    rwa [← body, ← joined_eq, ← deletion] at text
  · obtain ⟨as, set, settings, bound, made, text⟩ := sql_update compiled accepted keyed h
    refine ⟨as, set, settings, bound, made, text, fun stands => ?_,
      fun moves => stands_assigning valid (Assignment.ne_nil_of_ofUpdater bound) moves made, ?_⟩
    · have whole := encloses_behind_iff stands read last flat' gaps
      rwa [← body, ← joined_eq, ← text] at whole
    · obtain ⟨first, flat⟩ := fromLexemes_apart
      have alone := Scan.encloses_iff_intact read first flat last flat' gaps
      rwa [← body, ← joined_eq, written_fromLexemes] at alone

def idColumn : Column := { member := "id", name := ⟨"id", by decide, by decide⟩, isKey := true }

/-- A table with a single column. -/
def categories : Entity :=
  ⟨"Category", ⟨none, ⟨"categories", by decide, by decide⟩⟩, [idColumn]⟩

/-- A compiler with one text for whole rows and another one for a value of them. -/
def compiling (rows value : String) : QueryWriter := fun _ q =>
  .ok (match q.projection? with
    | none => rows.toList
    | some _ => value.toList)

/-- Sets the column to itself. -/
def setId : Expr := .init "Category" [.assign "id" (.field "id")]

theorem ofUpdater_setId : Assignment.ofUpdater categories setId =
    .ok [⟨idColumn, .computed (.field "id")⟩] := rfl

section Moving

variable {value : String} {body expression moved : Sql} {alias? name : Option Sql}
  {source : Source}

/-- What is moved stands behind the name of the column as it is. -/
theorem assignments_setId (rows : String)
    (read : Projection.ofSql value.toList = .ok ⟨[], expression, name, source⟩)
    (again : Projection.realias ⟨[], expression, name, source⟩ "ut1".toList = .ok moved) :
    assignments (compiling rows value) {} categories .all [] [⟨idColumn, .computed (.field "id")⟩] =
      .ok ([.raw "id = ".toList ++ .raw moved], []) := by
  have computed : assignedFragment (compiling rows value) {} categories .all []
      (.computed (.field "id")) = .ok (.raw moved, []) :=
    assignedFragment_computed_iff.2 ⟨_, _, _, rfl, read, rfl, again, rfl⟩
  exact assignments_cons_iff.2 ⟨_, _, _, computed, rfl, rfl⟩

theorem exists_update_setId {rows : String}
    (accepted : DerivedQuery.ofSql rows.toList = .ok ⟨[], body, alias?⟩)
    (read : Projection.ofSql value.toList = .ok ⟨[], expression, name, source⟩)
    (again : Projection.realias ⟨[], expression, name, source⟩ "ut1".toList = .ok moved) :
    ∃ s, update (compiling rows value) {} categories .all setId = .ok s ∧
      s.sql = assigning {} categories [.raw "id = ".toList ++ .raw moved] ++
        (" FROM ".toList ++ joined {} categories.columns body) := by
  have keyed : categories.keys = .ok categories.columns := rfl
  have made := assignments_setId rows read again
  have updated := update_eq_ok_iff.2
    ⟨_, _, _, _, _, _, ofUpdater_setId, keyed, rfl, accepted, made, rfl⟩
  obtain ⟨as, set, settings, bound, made', text⟩ := sql_update rfl accepted keyed updated
  obtain rfl := Except.ok.inj (ofUpdater_setId.symm.trans bound)
  cases made.symm.trans made'
  exact ⟨_, updated, text⟩

end Moving

/-- A comment that is closed and a semicolon at the end of a query do no harm, in a DELETE and behind
a column that is set to itself. -/
theorem encloses_joined_semicolon :
    ∃ select s t,
      DerivedQuery.select "SELECT c.id FROM categories AS c /* all */ ;".toList = .ok select ∧
      delete {} categories "SELECT c.id FROM categories AS c /* all */ ;".toList = .ok s ∧
      Encloses (deleteLexemes {} categories) (conditionLexemes {} categories.columns) select.tokens
        s.sql ∧
      update (compiling "SELECT c.id FROM categories AS c /* all */ ;"
        "SELECT c.id FROM categories AS c") {} categories .all setId = .ok t ∧
      Encloses
        ((readAll "UPDATE categories AS ut1 SET id = ut1.id".toList).1 ++ fromLexemes)
        (conditionLexemes {} categories.columns) select.tokens t.sql := by
  have accepted : DerivedQuery.ofSql "SELECT c.id FROM categories AS c /* all */ ;".toList =
      .ok ⟨[], "SELECT c.id FROM categories AS c /* all */".toList, some "c".toList⟩ := by
    decide +kernel
  have column : Projection.ofSql "SELECT c.id FROM categories AS c".toList =
      .ok ⟨[], "c.id".toList, none, ⟨"categories".toList, some ['c'], some ['c']⟩⟩ := by
    decide +kernel
  have again : moveReference "c.id".toList ['c'] "ut1".toList = .ok "ut1.id".toList := by
    decide +kernel
  have valid : Options.validate {} = .ok () := rfl
  have keyed : categories.keys = .ok categories.columns := rfl
  obtain ⟨select, read, ⟨s, deleted, inDelete⟩, joined⟩ := encloses_joined_iff valid keyed accepted
  have tokens : DerivedQuery.select "SELECT c.id FROM categories AS c /* all */ ;".toList = .ok
      ⟨[⟨.word, [], "SELECT".toList, 0, false⟩, ⟨.word, [' '], ['c'], 0, false⟩,
        ⟨.dot, [], ['.'], 0, false⟩, ⟨.word, [], "id".toList, 0, false⟩,
        ⟨.word, [' '], "FROM".toList, 0, false⟩, ⟨.word, [' '], "categories".toList, 0, false⟩,
        ⟨.word, [' '], "AS".toList, 0, false⟩, ⟨.word, [' '], ['c'], 0, false⟩],
        " /* all */ ".toList⟩ := by decide +kernel
  have intact : select.Intact := by
    rw [← Except.ok.inj (tokens.symm.trans read)]
    exact ⟨by decide, by decide +kernel⟩
  obtain ⟨t, updated, -⟩ := exists_update_setId accepted column again
  obtain ⟨as, set, _, bound, made, -, inUpdate, stands, -⟩ := joined _ _ _ t rfl updated
  obtain rfl := Except.ok.inj (ofUpdater_setId.symm.trans bound)
  cases (assignments_setId _ column again).symm.trans made
  refine ⟨select, s, t, read, deleted, inDelete.2 intact, updated,
    (inUpdate (stands fun a ha e computed text moved => ?_)).2 intact⟩
  obtain rfl := List.mem_singleton.1 ha
  obtain rfl := Assigned.computed.inj computed
  obtain ⟨sql, p, written, read', again'⟩ := moved
  obtain rfl := Except.ok.inj written
  obtain rfl := Except.ok.inj (column.symm.trans read')
  obtain rfl := Except.ok.inj (again.symm.trans again')
  exact ⟨⟨_, by cbv⟩, by decide +kernel⟩

/-- A line comment at the end of a query takes up the condition of the join. So does a literal that
is left open in front of FROM, where a column ran together with what stood behind it. -/
theorem not_encloses_lineComment :
    Options.validate {} = .ok () ∧ categories.keys = .ok categories.columns ∧
      (DerivedQuery.ofSql "SELECT c.id FROM categories AS c -- note\n;".toList =
          .ok ⟨[], "SELECT c.id FROM categories AS c -- note".toList, some "c".toList⟩ ∧
        ∃ s, delete {} categories "SELECT c.id FROM categories AS c -- note\n;".toList = .ok s ∧
          Scan.ofSql s.sql = .error .unbalancedOpen ∧
          ∀ lead more inside, ¬ Encloses lead more inside s.sql) ∧
      ∃ s, update (compiling "SELECT c.id FROM categories AS c"
          "SELECT \"c\"$$'$$ FROM categories AS c") {} categories .all setId = .ok s ∧
        s.sql = ("UPDATE categories AS ut1 SET id = ut1$$'$$ FROM " ++
          "(SELECT c.id FROM categories AS c) AS jt1 WHERE ut1.id = jt1.id").toList ∧
        Scan.ofSql s.sql = .error .unterminatedQuote ∧
        ∀ lead more inside, ¬ Encloses lead more inside s.sql := by
  have keyed : categories.keys = .ok categories.columns := rfl
  have accepted : DerivedQuery.ofSql "SELECT c.id FROM categories AS c -- note\n;".toList =
      .ok ⟨[], "SELECT c.id FROM categories AS c -- note".toList, some "c".toList⟩ := by
    decide +kernel
  have rows : DerivedQuery.ofSql "SELECT c.id FROM categories AS c".toList =
      .ok ⟨[], "SELECT c.id FROM categories AS c".toList, some ['c']⟩ := by decide +kernel
  have column : Projection.ofSql "SELECT \"c\"$$'$$ FROM categories AS c".toList =
      .ok ⟨[], "\"c\"$$'$$".toList, none, ⟨"categories".toList, some ['c'], some ['c']⟩⟩ := by
    decide +kernel
  have again : moveReference "\"c\"$$'$$".toList ['c'] "ut1".toList = .ok "ut1$$'$$".toList := by
    decide +kernel
  obtain ⟨s, deleted, text⟩ := sql_delete {} keyed accepted
  have commented : Scan.ofSql s.sql = .error .unbalancedOpen := by
    rw [text]
    decide +kernel
  obtain ⟨t, updated, text'⟩ := exists_update_setId rows column again
  have reopened : Scan.ofSql t.sql = .error .unterminatedQuote := by
    rw [text']
    decide +kernel
  exact ⟨rfl, keyed,
    ⟨accepted, s, deleted, commented, fun _ _ _ => Scan.not_encloses_of_error commented⟩,
    t, updated, text'.trans (by decide +kernel), reopened,
    fun _ _ _ => Scan.not_encloses_of_error reopened⟩

end Statement

end BulkSql
