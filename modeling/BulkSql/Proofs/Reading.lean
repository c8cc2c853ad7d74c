import BulkSql.Proofs.Integrity
import BulkSql.Proofs.Moving
import BulkSql.Proofs.Unreadable

/-!
What is read back from a written query: its statement, the expression that it selects, and the name
of its rows. No name, value or operator of the query hides the words that are looked for.
-/
namespace BulkSql

open Lexeme

namespace Token

/-! ### Words outside of parentheses -/

/-- The first keyword outside of parentheses splits the tokens. -/
theorem splitAt?_append {keyword : String} {front behind : List Token} {t : Token}
    (uncut : ∀ u ∈ front, u.cut = false)
    (other : ∀ u ∈ front, u.depth = 0 → u.isKeyword keyword = false)
    (whole : t.cut = false) (outer : t.depth = 0) (found : t.isKeyword keyword = true) :
    splitAt? keyword (front ++ t :: behind) = .ok (some (front, behind)) := by
  induction front with
  | nil =>
    simp only [List.nil_append, splitAt?, outer, if_true, reads_of_not_cut whole, found, bind,
      Except.bind]
    rfl
  | cons u front ih =>
    simp only [List.forall_mem_cons] at uncut other
    have rest := ih uncut.2 other.2
    simp only [List.cons_append, splitAt?]
    split
    · next zero =>
      simp only [reads_of_not_cut uncut.1, other.1 zero, rest, bind, Except.bind]
      rfl
    · simp only [rest, bind, Except.bind]
      rfl

end Token

namespace Scan

/-- The tokens outside of all parentheses meet a condition. -/
def Clear (p : TokenKind × Sql → Bool) (ls : List Lexeme) : Prop :=
  ∀ before, ∀ t ∈ placed 0 before ls, t.depth = 0 → p (t.kind, t.text) = true

variable {p : TokenKind × Sql → Bool} {ls ms : List Lexeme}

theorem clear_of_all (h : (tokensOf ls).all p = true) (balanced : opened 0 ls = some 0) :
    Clear p ls := by
  intro before t ht _
  refine List.all_eq_true.1 h _ ?_
  rw [← map_placed before balanced]
  exact List.mem_map_of_mem ht

theorem Clear.append (h : Clear p ls) (balanced : opened 0 ls = some 0) (h' : Clear p ms) :
    Clear p (ls ++ ms) := by
  intro before t ht outer
  rw [placed_append before ms balanced] at ht
  rcases List.mem_append.1 ht with ht | ht
  · exact h before t ht outer
  · exact h' _ t ht outer

/-- Of a part in parentheses only these stand outside. -/
theorem clear_paren (balanced : opened 0 ls = some 0) (front : p (.openParen, ['(']) = true)
    (back : p (.closeParen, [')']) = true) : Clear p (openParen :: (ls ++ [closeParen])) := by
  have deeper : opened 1 ls = some 1 := opened_add 1 balanced
  intro before t ht outer
  simp only [openParen, placed, nesting, List.mem_cons, placed_append [] _ deeper,
    List.mem_append] at ht
  rcases ht with rfl | ht | ht
  · exact front
  · rw [← Nat.zero_add 1, placed_add 1 [] balanced] at ht
    obtain ⟨u, -, rfl⟩ := List.mem_map.1 ht
    simp [Token.deeper] at outer
  · obtain rfl : t = ⟨.closeParen, trailing [] ls, [')'], 0, false⟩ := by
      simpa [closeParen, placed, nesting] using ht
    exact back

/-- A statement without a semicolon and without blanks around it is a body as it stands. -/
theorem body_of_ofSql {s : Sql} {scan : Scan} (read : ofSql s = .ok scan)
    (start : Blank.trimStart s = s) (finish : Blank.trimEnd s = s) {t : Token} {ts : List Token}
    (first : scan.tokens = t :: ts) (select : t.isKeyword "select" = true)
    (kinds : ∀ t ∈ scan.tokens, t.kind ≠ .semicolon) : Body.ofSql s = .ok ⟨scan.tokens, s⟩ := by
  have text : scan.text = s := text_of_ofSql read
  have whole : scan.withoutTerminator = scan := by
    unfold withoutTerminator
    split
    · next t last => rw [if_neg (kinds t (List.mem_of_getLast? last))]
    · rfl
  have uncut : scan.clipped = scan.tokens := by simp [clipped, text, finish]
  refine Body.ofSql_eq_ok_iff.2 ⟨t, ts, scan, start.symm ▸ read, first, select,
    fun u hu => kinds u (List.dropLast_subset _ hu), ?_⟩
  rw [whole, uncut, text, finish]

end Scan

/-! ### Tokens of expressions and columns -/

namespace Lexeme

/-- The words that are looked for outside of parentheses. -/
def guideWords : List String := ["from", "as", "distinct", "all"]

/-- Neither a comma nor a word that is looked for. -/
def isOrdinary (t : TokenKind × Sql) : Bool :=
  t.1 != .comma && guideWords.all fun w => !(loneToken t).isKeyword w

theorem map_toLower_of_hasBareShape {t : Sql} (h : hasBareShape t = true) :
    t.map Char.toLower = t := by
  have same : ∀ c ∈ t, c.toLower = c := by
    intro c hc
    have bare := isBareChar_of_hasBareShape h c hc
    simp only [isBareChar, Bool.or_eq_true, beq_iff_eq] at bare
    rcases bare with ((rfl | rfl) | lower) | digit
    · rfl
    · rfl
    · exact Setting.toLower_of_isLower lower
    · exact Setting.toLower_of_isDigit digit
  exact (List.map_congr_left same).trans (List.map_id' t)

/-- No name is read as a reserved word: these do not stand bare. -/
theorem not_isKeyword_name (i : Identifier) {w : String} (reserved : w ∈ reservedWords) :
    (loneToken (if i.isBare then .word else .quotedName, i.toSql)).isKeyword w = false := by
  cases h : i.isBare with
  | false => rfl
  | true =>
    rw [Identifier.toSql_of_isBare h]
    simp only [Identifier.isBare, isBareName, Bool.and_eq_true, Bool.not_eq_true',
      List.contains_eq_mem, decide_eq_false_iff_not] at h
    have ne : i.name ≠ w := fun e => h.2 (e ▸ reserved)
    simpa [Token.isKeyword, loneToken, map_toLower_of_hasBareShape h.1, String.toList_inj] using ne

/-- No name is a word that is looked for. -/
theorem isOrdinary_name (i : Identifier) :
    isOrdinary (if i.isBare then .word else .quotedName, i.toSql) = true := by
  have reserved : ∀ w ∈ guideWords, w ∈ reservedWords := by decide
  simp only [isOrdinary, Bool.and_eq_true, List.all_eq_true, Bool.not_eq_true']
  exact ⟨by split <;> rfl, fun w hw => not_isKeyword_name i (reserved w hw)⟩

theorem isOrdinary_row {row : Sql} (one : row.length = 1) : isOrdinary (.word, row) = true := by
  simp only [isOrdinary, Bool.and_eq_true, List.all_eq_true, Bool.not_eq_true']
  refine ⟨rfl, fun w hw => ?_⟩
  have long : ∀ w ∈ guideWords, w.toList.length ≠ 1 := by decide
  have ne : row.map Char.toLower ≠ w.toList := by
    intro e
    exact long w hw (by rw [← e, List.length_map, one])
  simpa [Token.isKeyword, loneToken] using ne

end Lexeme

namespace TextScope

open Scan (Clear clear_of_all clear_paren opened opened_append)

variable {s : TextScope}

theorem all_columnLexemes (one : s.rowName.length = 1) (c : Column) :
    (Scan.tokensOf (s.columnLexemes c)).all isOrdinary = true := by
  simp only [columnLexemes, Lexeme.word, dot, Identifier.lexeme, Scan.tokensOf, List.all_cons,
    isOrdinary_row one, isOrdinary_name]
  rfl

theorem all_lexemes (v : Value) : (Scan.tokensOf v.lexemes).all isOrdinary = true := by
  cases v with
  | bool b => cases b <;> rfl
  | int i =>
    simp only [Value.lexemes, Value.signedLexemes]
    split <;> split <;> rfl
  | float x =>
    simp only [Value.lexemes, Value.signedLexemes, Binary64.sign]
    obtain ⟨t, -, e | ⟨u, -, e⟩⟩ := x.numeral_eq <;> rw [e] <;> split <;> try rfl
    all_goals split <;> split <;> rfl
  | _ => rfl

theorem all_capturedLexemes (name : String) (v : Value) :
    (Scan.tokensOf (s.capturedLexemes name v)).all isOrdinary = true := by
  rw [capturedLexemes]
  split
  · rfl
  · cases v <;> rfl

/-- A unary operator stands in parentheses with its operand, and opens none besides. -/
theorem exists_unaryLexemes (op : UnaryOp) (ls : List Lexeme) :
    ∃ front back, unaryLexemes op ls = openParen :: ((front ++ (ls ++ back)) ++ [closeParen]) ∧
      opened 0 front = some 0 ∧ opened 0 back = some 0 := by
  cases op with
  | not => exact ⟨[keyword "NOT", blank], [], by simp [unaryLexemes], rfl, rfl⟩
  | neg => exact ⟨[minus], [], by simp [unaryLexemes], rfl, rfl⟩
  | isNull =>
    exact ⟨[], [blank, keyword "IS", blank, keyword "NULL"], by simp [unaryLexemes], rfl, rfl⟩
  | isNotNull =>
    exact ⟨[], [blank, keyword "IS", blank, keyword "NOT", blank, keyword "NULL"],
      by simp [unaryLexemes], rfl, rfl⟩

theorem clear_unaryLexemes (op : UnaryOp) {ls : List Lexeme} (h : opened 0 ls = some 0) :
    Clear isOrdinary (unaryLexemes op ls) := by
  obtain ⟨front, back, shape, hf, hb⟩ := exists_unaryLexemes op ls
  rw [shape]
  exact clear_paren (by simp [opened_append, hf, hb, h]) rfl rfl

/-- The tokens of an expression that stand outside of all parentheses are ordinary. -/
theorem clear_lexemes (hr : isWord s.rowName = true) (one : s.rowName.length = 1) (e : Expr)
    (h : ∀ v ∈ Visit.ofExpr s.entity e, v.isRefused = false) : Clear isOrdinary (s.lexemes e) := by
  have balanced := (phrase_lexemes hr e h).balanced
  have paren {ls : List Lexeme} (h : opened 0 ls = some 0) :
      Clear isOrdinary (openParen :: (ls ++ [closeParen])) := clear_paren h rfl rfl
  cases e with
  | literal v => exact clear_of_all (all_lexemes v) balanced
  | captured name v => exact clear_of_all (all_capturedLexemes name v) balanced
  | field member =>
    refine clear_of_all ?_ balanced
    simp only [lexemes]
    cases s.entity.columnFor? member with
    | none => rfl
    | some c => exact all_columnLexemes one c
  | unary op x => exact clear_unaryLexemes op (phrase_lexemes hr x h).balanced
  | binary op x y =>
    simp only [Visit.ofExpr, List.forall_mem_append] at h
    have link := (phrase_lexemes hr x h.1).link (phrase_lexemes hr y h.2) (link_sign op)
    rw [lexemes_binary]
    exact paren link.balanced
  | call f args =>
    simp only [Visit.ofExpr] at h
    split at h
    · next arity =>
      have list := phrase_commaLexemes (Visit.ne_nil_of_takes arity) (phrase_each hr args h)
      have tail : opened 0 f.tail = some 0 := by cases f <;> rfl
      have word : Clear isOrdinary [keyword f.word] := clear_of_all (by cases f <;> rfl) rfl
      have shape : s.lexemes (.call f args) = [keyword f.word] ++
          (openParen :: ((commaLexemes (args.map s.lexemes) ++ f.tail) ++ [closeParen])) := by
        simp [lexemes_call]
      rw [shape]
      exact word.append rfl (paren (by simp [opened_append, list.balanced, tail]))
    · simp [Visit.isRefused] at h
  | inList x items negated =>
    simp only [Visit.ofExpr] at h
    split at h
    · next empty =>
      rw [lexemes, if_pos empty]
      exact clear_of_all (by cases negated <;> rfl) rfl
    · next some =>
      simp only [List.forall_mem_append] at h
      have ne : items ≠ [] := by simpa using some
      have list := (phrase_commaLexemes ne (phrase_each hr items h.2)).paren
      rw [lexemes_inList s ne]
      exact paren ((phrase_lexemes hr x h.1).link list (link_in negated)).balanced
  | init _ _ => exact clear_of_all rfl balanced

end TextScope

/-! ### Phrases as texts of their own -/

namespace Lexeme

open Scan (placed trailing opened nesting)

variable {ls : List Lexeme} {sound : Prop}

theorem Phrase.exists_concat (h : Phrase ls sound) :
    ∃ front kind t, ls = front ++ [token kind t] ∧ Blank.trimEnd t = t ∧ t ≠ [] := by
  obtain ⟨l, last, solid⟩ := h.ends
  obtain ⟨front, rfl⟩ := List.getLast?_eq_some_iff.1 last
  have form := (loose_append.1 (h.loose none breaks_none)).2.1
  cases l with
  | gap g => cases solid
  | token kind t => exact ⟨front, kind, t, rfl, by simpa [isSolid] using solid, form.text_ne⟩

theorem Phrase.exists_cons (h : Phrase ls sound) : ∃ kind t rest, ls = token kind t :: rest := by
  obtain ⟨c, r, e, gap⟩ := h.starts
  obtain ⟨l, rest, rfl⟩ := List.exists_cons_of_ne_nil h.ne_nil
  cases l with
  | token kind t => exact ⟨kind, t, rest, rfl⟩
  | gap g =>
    exfalso
    have blanks := h.plain (.gap g) (by simp)
    obtain ⟨d, u, shape⟩ := List.exists_cons_of_ne_nil (h.loose none breaks_none).1.text_ne
    obtain rfl : g = d :: u := shape
    obtain ⟨rfl, -⟩ : d = ' ' ∧ _ := by simpa [isPlain] using blanks
    obtain ⟨rfl, -⟩ : ' ' = c ∧ _ = r := by simpa [text] using e
    cases gap

/-- Nothing is trimmed off a phrase. -/
theorem Phrase.trimEnd_written (h : Phrase ls sound) : Blank.trimEnd (written ls) = written ls := by
  obtain ⟨front, kind, t, rfl, solid, ne⟩ := h.exists_concat
  simp [Blank.trimEnd_append, solid, ne]

theorem Phrase.trailing_eq (h : Phrase ls sound) (before : Sql) : trailing before ls = [] := by
  obtain ⟨front, kind, t, rfl, -⟩ := h.exists_concat
  simp [Scan.trailing_append, trailing]

/-- The text of the tokens of a phrase is its own. -/
theorem Phrase.textOf_placed (h : Phrase ls sound) (before : Sql) :
    Token.textOf (placed 0 before ls) = written ls := by
  have whole := Scan.text_placed before h.balanced
  have last := h.trailing_eq before
  obtain ⟨kind, t, rest, rfl⟩ := h.exists_cons
  rw [last] at whole
  simp only [placed] at whole ⊢
  cases e : nesting 0 kind with
  | none =>
    have balanced := h.balanced
    simp [opened, e] at balanced
  | some n => simpa [e, Scan.text, Token.textOf] using whole

/-- A phrase that starts with SELECT is a statement of its own. -/
theorem body_of_phrase (h : Phrase (keyword "SELECT" :: ls) True) :
    Body.ofSql (written (keyword "SELECT" :: ls)) =
      .ok ⟨placed 0 [] (keyword "SELECT" :: ls), written (keyword "SELECT" :: ls)⟩ := by
  refine Scan.body_of_ofSql (Scan.ofSql_eq_ok_iff.2
    ⟨_, rfl, (h.apart none breaks_none).2 trivial, h.balanced, rfl⟩) (Setting.trimStart_cons rfl _)
    h.trimEnd_written rfl rfl ?_
  exact Scan.kinds_of_placed (p := (· ≠ .semicolon)) 0 [] _ fun kind t ht => by
    simpa [isPlain] using h.plain _ ht

end Lexeme

/-! ### Queries that were written -/

namespace Lexeme

theorem not_isKeyword_of_isOrdinary {t : TokenKind × Sql} (h : isOrdinary t = true) {w : String}
    (hw : w ∈ guideWords) : (!(loneToken t).isKeyword w) = true := by
  simp only [isOrdinary, Bool.and_eq_true, List.all_eq_true] at h
  exact h.2 w hw

theorem all_commaLexemes {p : TokenKind × Sql → Bool} (comma : p (.comma, [',']) = true)
    {parts : List (List Lexeme)} (h : ∀ ls ∈ parts, (Scan.tokensOf ls).all p = true) :
    (Scan.tokensOf (commaLexemes parts)).all p = true := by
  fun_induction commaLexemes parts with
  | case1 => rfl
  | case2 ls => exact h ls (by simp)
  | case3 ls ms rest ih =>
    rw [List.forall_mem_cons] at h
    simp [Lexeme.comma, blank, Scan.tokensOf, List.all_append, h.1, comma, ih h.2]

end Lexeme

namespace Scan

theorem Clear.imp {p p' : TokenKind × Sql → Bool} {ls : List Lexeme}
    (imp : ∀ t, p t = true → p' t = true) (h : Clear p ls) : Clear p' ls :=
  fun before t ht outer => imp _ (h before t ht outer)

/-- No token outside of all parentheses is a word that is looked for. -/
theorem Clear.not_isKeyword {ls : List Lexeme} (h : Clear isOrdinary ls) {w : String}
    (hw : w ∈ guideWords) : Clear (fun t => !(loneToken t).isKeyword w) ls :=
  h.imp fun _ ht => not_isKeyword_of_isOrdinary ht hw

end Scan

namespace Select

open Scan (placed opened trailing nesting Clear clear_of_all)

variable {s : TextScope} {q : Query}

/-- The clauses behind the name of the rows. -/
def tailLexemes (s : TextScope) (q : Query) : List Lexeme :=
  clauseLexemes [blank, keyword "WHERE", blank] s.lexemes q.filter? ++
    (clauseLexemes [blank, keyword "ORDER", blank, keyword "BY", blank]
        (fun terms => commaLexemes (terms.map (orderLexemes s))) (orderTerms? q) ++
      (clauseLexemes [blank, keyword "LIMIT", blank] countLexemes q.limit? ++
        clauseLexemes [blank, keyword "OFFSET", blank] countLexemes q.offset?))

/-- What stands behind the word FROM. -/
def behindFrom (s : TextScope) (q : Query) : List Lexeme :=
  blank :: (s.entity.table.lexemes ++
    (blank :: keyword "AS" :: blank :: Lexeme.word s.rowName :: tailLexemes s q))

theorem lexemes_eq (ne : columnLexemes s q ≠ []) :
    lexemes s q = keyword "SELECT" :: blank ::
      (columnLexemes s q ++ (blank :: keyword "FROM" :: behindFrom s q)) := by
  simp [lexemes, spaced, ne, sourceLexemes, behindFrom, tailLexemes]

/-- The token of the word SELECT. -/
def selectToken : Token := ⟨.word, [], "SELECT".toList, 0, false⟩

/-- The words SELECT and FROM and what they stand around. -/
theorem splitAt?_placed {sound : Prop} (h : Phrase (columnLexemes s q) sound)
    (clear : Clear (fun t => !(loneToken t).isKeyword "from") (columnLexemes s q)) :
    Token.splitAt? "from" (placed 0 [] (lexemes s q)) = .ok (some
      (selectToken :: placed 0 [' '] (columnLexemes s q), placed 0 [] (behindFrom s q))) := by
  have tokens : placed 0 [] (lexemes s q) =
      (selectToken :: placed 0 [' '] (columnLexemes s q)) ++
        ⟨.word, [' '], "FROM".toList, 0, false⟩ :: placed 0 [] (behindFrom s q) := by
    rw [lexemes_eq h.ne_nil]
    simp only [keyword, Lexeme.word, blank, placed, nesting, List.nil_append,
      Scan.placed_append [' '] _ h.balanced, h.trailing_eq]
    rfl
  rw [tokens]
  refine Token.splitAt?_append ?_ ?_ rfl rfl rfl
  · simp only [List.forall_mem_cons]
    exact ⟨rfl, Scan.cut_of_placed 0 [' '] _⟩
  · simp only [List.forall_mem_cons]
    exact ⟨fun _ => rfl, fun t ht outer => Bool.not_eq_true' _ ▸ clear [' '] t ht outer⟩

/-! ### The source -/

/-- No clause starts a further source. -/
theorem checkSingle_clause {α : Type} {words ls : List Lexeme} {write : α → List Lexeme}
    {x? : Option α} (hw : ∀ ms, Source.checkSingle (placed 0 [] (words ++ ms)) = .ok ())
    (h : Source.checkSingle (placed 0 [] ls) = .ok ()) :
    Source.checkSingle (placed 0 [] (clauseLexemes words write x? ++ ls)) = .ok () := by
  cases x? with
  | none => exact h
  | some x =>
    rw [clauseLexemes, List.append_assoc]
    exact hw _

theorem checkSingle_tail : Source.checkSingle (placed 0 [] (tailLexemes s q)) = .ok () := by
  have offset : Source.checkSingle (placed 0 []
      (clauseLexemes [blank, keyword "OFFSET", blank] countLexemes q.offset?)) = .ok () := by
    cases q.offset? <;> rfl
  exact checkSingle_clause (fun _ => rfl) (checkSingle_clause (fun _ => rfl)
    (checkSingle_clause (fun _ => rfl) offset))

/-- The token of a name. -/
def nameToken (before : Sql) (i : Identifier) : Token :=
  ⟨if i.isBare then .word else .quotedName, before, i.toSql, 0, false⟩

theorem placed_name (before : Sql) (i : Identifier) (ls : List Lexeme) :
    placed 0 before (i.lexeme :: ls) = nameToken before i :: placed 0 [] ls := by
  cases h : i.isBare <;> simp [Identifier.lexeme, h, placed, nesting, nameToken]

theorem isName_nameToken (before : Sql) (i : Identifier) :
    (nameToken before i).kind ≠ .openParen ∧ (nameToken before i).isName = true := by
  cases h : i.isBare <;> simp [nameToken, h, Token.isName]

/-- The token of a name means the name. -/
theorem readMeaning_nameToken (before : Sql) (i : Identifier) :
    (nameToken before i).readMeaning = .ok i.name.toList := by
  refine congrArg Except.ok ?_
  cases h : i.isBare with
  | true =>
    have bare := h
    simp only [Identifier.isBare, isBareName, Bool.and_eq_true] at bare
    simp [nameToken, Token.meaning, h, Lexeme.map_toLower_of_hasBareShape bare.1]
  | false => simp [nameToken, Token.meaning, h, Quoted.quote]

/-- The tokens of a name of a table are a source by themselves, if no dot follows them. -/
theorem item_placed (n : QualifiedName) {ls : List Lexeme}
    (stop : ∀ t ∈ (placed 0 [] ls).head?, t.kind ≠ .dot) :
    Source.item (placed 0 [] (blank :: (n.lexemes ++ ls))) =
      .ok (n.toSql, some n.name.name.toList, placed 0 [] ls) := by
  have parts : Source.nameParts (placed 0 [] ls) = ([], placed 0 [] ls) := by
    cases e : placed 0 [] ls with
    | nil => rfl
    | cons t ts =>
      rw [e] at stop
      cases ts <;> simp [Source.nameParts, stop t rfl]
  cases h : n.schema with
  | none =>
    obtain ⟨kind, name⟩ := isName_nameToken [' '] n.name
    have tokens : placed 0 [] (blank :: (n.lexemes ++ ls)) =
        nameToken [' '] n.name :: placed 0 [] ls := by
      rw [QualifiedName.lexemes, h]
      exact placed_name [' '] _ _
    simp only [tokens, Source.item, kind, name, parts, if_false, if_true, bind, Except.bind,
      List.getLastD_nil, readMeaning_nameToken]
    simp [Token.textOf, QualifiedName.toSql, h, nameToken, pure, Except.pure]
  | some schema =>
    obtain ⟨kind, name⟩ := isName_nameToken [' '] schema
    have part := (isName_nameToken [] n.name).2
    have tokens : placed 0 [] (blank :: (n.lexemes ++ ls)) =
        nameToken [' '] schema :: ⟨.dot, [], ['.'], 0, false⟩ ::
          nameToken [] n.name :: placed 0 [] ls := by
      rw [QualifiedName.lexemes, h]
      exact (placed_name [' '] schema _).trans (congrArg
        (fun ts => nameToken [' '] schema :: ⟨.dot, [], ['.'], 0, false⟩ :: ts)
        (placed_name [] n.name _))
    simp only [tokens, Source.item, Source.nameParts, kind, name, part, parts, if_false, if_true,
      true_and, bind, Except.bind, List.getLastD_cons, List.getLastD_nil, readMeaning_nameToken]
    simp [Token.textOf, QualifiedName.toSql, h, nameToken, pure, Except.pure]

/-- The source of a written query is its table, under the name of the rows. -/
theorem exists_source (lower : s.rowName.map Char.toLower = s.rowName) :
    ∃ source, source.alias? = some s.rowName ∧ source.reference? = some s.rowName ∧
      Source.ofTokens (placed 0 [] (behindFrom s q)) = .ok source := by
  have item : Source.item (placed 0 [] (behindFrom s q)) =
      .ok (s.entity.table.toSql, some s.entity.table.name.name.toList,
        ⟨.word, [' '], "AS".toList, 0, false⟩ ::
          placed 0 [] (blank :: Lexeme.word s.rowName :: tailLexemes s q)) := by
    refine item_placed s.entity.table fun t ht => ?_
    obtain rfl : ⟨.word, [' '], "AS".toList, 0, false⟩ = t := Option.some.inj ht
    decide
  have row : Token.meaning ⟨.word, [' '], s.rowName, 0, false⟩ = s.rowName := lower
  have name : Source.aliasToken (⟨.word, [' '], "AS".toList, 0, false⟩ ::
      placed 0 [] (blank :: Lexeme.word s.rowName :: tailLexemes s q)) =
        .ok (some ⟨.word, [' '], s.rowName, 0, false⟩, placed 0 [] (tailLexemes s q)) := rfl
  exact ⟨⟨s.entity.table.toSql, some s.rowName, some s.rowName⟩, rfl, rfl,
    Source.ofTokens_eq_ok_iff.2 ⟨_, _, _, _, _, item, name, checkSingle_tail, by simp, by simp [row]⟩⟩

theorem map_toLower_rowName (table : String) :
    (rowName table).map Char.toLower = rowName table := by
  obtain ⟨c, e, low⟩ := rowName_eq table
  simp [e, Setting.toLower_of_isLower low]

variable {space : SettingSpace} {entity : Entity} {sql : Sql}

/-- The SELECT statement of a written query is its body. -/
theorem body_of_writer (h : writer space entity q = .ok sql) (sound : q.negatesZero = false) :
    Body.ofSql (splitPrelude sql).2 =
      .ok ⟨placed 0 [] (lexemes (scope space entity) q), text (scope space entity) q⟩ := by
  obtain ⟨captures, e, split⟩ := splitPrelude_writer h
  have phrase : Phrase (lexemes (scope space entity) q) True :=
    (phrase_lexemes (isWord_rowName _) (not_isRefused_of_ofVisits e)).congr (by simp [sound])
  rw [split, ← written_lexemes]
  exact body_of_phrase phrase

/-- Columns of the rows are no words that are looked for. -/
theorem clear_columns (one : s.rowName.length = 1) (cs : List Column)
    (balanced : opened 0 (commaLexemes (cs.map s.columnLexemes)) = some 0) :
    Clear (fun t => !(loneToken t).isKeyword "from") (commaLexemes (cs.map s.columnLexemes)) := by
  refine clear_of_all (all_commaLexemes rfl ?_) balanced
  intro ls hl
  obtain ⟨c, -, rfl⟩ := List.mem_map.1 hl
  have ordinary := s.all_columnLexemes one c
  rw [List.all_eq_true] at ordinary ⊢
  exact fun t ht => not_isKeyword_of_isOrdinary (ordinary t ht) (by decide)

/-- A query over whole rows is read as its settings, its SELECT statement and the name of the
rows. -/
theorem derived_of_writer (ne : entity.columns ≠ []) (whole : q.isEntityShaped = true)
    (sound : q.negatesZero = false) (h : writer space entity q = .ok sql) :
    DerivedQuery.ofSql sql = .ok ⟨(splitPrelude sql).1, text (scope space entity) q,
      some (rowName entity.table.name.name)⟩ := by
  have none : q.projection? = Option.none := by simpa [Query.isEntityShaped] using whole
  obtain ⟨c, row, -⟩ := rowName_eq entity.table.name.name
  have columns := phrase_columnLexemes (s := scope space entity) (q := q) (isWord_rowName _)
    (fun _ => ne) (by simp [none, projectionVisits])
  have clear : Clear (fun t => !(loneToken t).isKeyword "from")
      (columnLexemes (scope space entity) q) := by
    have balanced := columns.balanced
    simp only [columnLexemes, none] at balanced ⊢
    exact clear_columns (by simp [scope, row]) _ balanced
  obtain ⟨source, name, -, read⟩ :=
    exists_source (s := scope space entity) (q := q) (map_toLower_rowName _)
  refine DerivedQuery.ofSql_eq_ok_iff.2 ⟨_, _, _, source, body_of_writer h sound,
    splitAt?_placed columns clear, read, ?_⟩
  rw [name]
  rfl

/-! ### The selected value -/

variable {ls : List Lexeme}

/-- A selected value is a single column without a quantifier. -/
theorem checkColumn_placed {sound : Prop} (h : Phrase ls sound) (clear : Clear isOrdinary ls)
    (before : Sql) : Projection.checkColumn (placed 0 before ls) = .ok () := by
  have commas : (placed 0 before ls).any (fun t => t.depth == 0 && t.kind == .comma) = false := by
    simp only [List.any_eq_false, Bool.and_eq_true, beq_iff_eq, not_and]
    intro t ht outer comma
    have ordinary := clear before t ht outer
    simp [isOrdinary, comma] at ordinary
  obtain ⟨kind, t, rest, rfl⟩ := h.exists_cons
  have balanced := h.balanced
  simp only [placed, opened] at commas balanced ⊢
  cases e : nesting 0 kind with
  | none => simp [e] at balanced
  | some n =>
    have outer : n.1 = 0 := by
      cases kind <;> simp only [nesting, Option.some.injEq, reduceIte, reduceCtorEq] at e <;>
        rw [← e]
    have first {w : String} (hw : w ∈ guideWords) :
        Token.isKeyword w ⟨kind, before, t, n.1, false⟩ = false := by
      have mem : ⟨kind, before, t, n.1, false⟩ ∈ placed 0 before (.token kind t :: rest) := by
        simp [placed, e]
      exact Bool.not_eq_true' _ ▸ clear.not_isKeyword hw before _ mem outer
    rw [e] at commas
    have distinct := first (show "distinct" ∈ guideWords by decide)
    have all := first (show "all" ∈ guideWords by decide)
    simp only [Projection.checkColumn, distinct, all, commas]
    rfl

/-- A selected value has no alias. -/
theorem splitAlias_placed (clear : Clear isOrdinary ls) (before : Sql) :
    Projection.splitAlias (placed 0 before ls) = (placed 0 before ls, none) := by
  unfold Projection.splitAlias
  split
  · next name word t ts e =>
    have mem : word ∈ placed 0 before ls := by
      rw [← List.mem_reverse, e]
      simp
    refine if_neg fun alias_ => ?_
    simp only [Bool.and_eq_true, decide_eq_true_eq] at alias_
    have other : (!word.isKeyword "as") = true :=
      clear.not_isKeyword (by decide) before word mem alias_.1.1
    simp [alias_.1.2] at other
  · rfl

theorem not_isRefused_of_writer {e : Expr} (h : writer space entity (q.selecting e) = .ok sql) :
    ∀ v ∈ Visit.ofExpr entity e, v.isRefused = false := by
  obtain ⟨captures, visited, -⟩ := splitPrelude_writer h
  have accepted := not_isRefused_of_ofVisits visited
  simp only [visits, List.forall_mem_append] at accepted
  exact not_isRefused_of_selected accepted.1

/-- A selected value is read as its settings, its text, and a source under the name of the rows. -/
theorem projection_of_writer {e : Expr} (sound : (q.selecting e).negatesZero = false)
    (h : writer space entity (q.selecting e) = .ok sql) :
    ∃ source, source.reference? = some (rowName entity.table.name.name) ∧
      Projection.ofSql sql =
        .ok ⟨(splitPrelude sql).1, (scope space entity).text e, none, source⟩ := by
  have inner := not_isRefused_of_writer h
  obtain ⟨c, row, -⟩ := rowName_eq entity.table.name.name
  have hr : isWord (scope space entity).rowName = true := isWord_rowName _
  have value := (scope space entity).phrase_lexemes hr e inner
  have clear : Clear isOrdinary ((scope space entity).lexemes e) :=
    TextScope.clear_lexemes hr (by simp [scope, row]) e inner
  obtain ⟨source, -, reference, read⟩ := exists_source (s := scope space entity)
    (q := q.selecting e) (map_toLower_rowName _)
  have split := splitAt?_placed (s := scope space entity) (q := q.selecting e) value
    (clear.not_isKeyword (by decide))
  refine ⟨source, reference, Projection.ofSql_eq_ok_iff.2 ⟨_, _, _, source, body_of_writer h sound,
    split, checkColumn_placed value clear [' '], read, ?_⟩⟩
  have column : columnLexemes (scope space entity) (q.selecting e) = (scope space entity).lexemes e :=
    rfl
  simp only [List.drop_succ_cons, List.drop_zero, column, splitAlias_placed clear,
    value.textOf_placed, TextScope.written_lexemes]
  rfl

end Select

end BulkSql
