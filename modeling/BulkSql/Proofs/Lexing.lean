import BulkSql.Proofs.Cursor
import BulkSql.Proofs.Ending

/-!
What is relied on wherever tokens are used. They stand in the text one behind the other with nothing
but blanks and comments between them, and every parenthesis has its match. A text in which every
literal and comment ends has tokens unless its parentheses are not balanced.
-/
namespace BulkSql

/-! ### Balanced parentheses -/

namespace Parens

/-- The number of parentheses that are open behind a text, unless one was closed that was not
open. -/
def openBehind (depth : Nat) : Sql → Option Nat
  | [] => some depth
  | c :: r =>
    if c = '(' then openBehind (depth + 1) r
    else if c = ')' then if depth = 0 then none else openBehind (depth - 1) r
    else openBehind depth r

/-- Every parenthesis that is closed was open before, and all that are open are closed. -/
def Balanced (s : Sql) : Prop :=
  (∀ front, front <+: s → front.count ')' ≤ front.count '(') ∧ s.count ')' = s.count '('

theorem forall_prefix_cons {c : Char} {r : Sql} {P : Sql → Prop} :
    (∀ front, front <+: c :: r → P front) ↔ P [] ∧ ∀ front, front <+: r → P (c :: front) := by
  constructor
  · exact fun h =>
      ⟨h [] List.nil_prefix, fun front hf => h _ (List.cons_prefix_cons.2 ⟨rfl, hf⟩)⟩
  · rintro ⟨nil, cons⟩ front hf
    rcases List.prefix_cons_iff.1 hf with rfl | ⟨t, rfl, ht⟩
    · exact nil
    · exact cons t ht

theorem openBehind_eq_some_iff {depth d : Nat} {s : Sql} :
    openBehind depth s = some d ↔
      (∀ front, front <+: s → front.count ')' ≤ front.count '(' + depth) ∧
        s.count ')' + d = s.count '(' + depth := by
  induction s generalizing depth with
  | nil => simp [openBehind, eq_comm]
  | cons c r ih =>
    have start : List.count ')' [] ≤ List.count '(' [] + depth := Nat.zero_le _
    rw [openBehind, forall_prefix_cons, and_iff_right start]
    split
    · next e =>
      subst e
      have other : '(' ≠ ')' := by decide
      simp only [ih, List.count_cons_self, List.count_cons_of_ne other, Nat.add_assoc,
        Nat.add_comm 1 depth]
    · split
      · next e =>
        subst e
        have other : ')' ≠ '(' := by decide
        simp only [List.count_cons_self, List.count_cons_of_ne other]
        cases depth with
        | zero =>
          rw [if_pos rfl]
          refine iff_of_false nofun fun h => ?_
          simpa using h.1 [] List.nil_prefix
        | succ depth =>
          rw [if_neg (Nat.succ_ne_zero depth), Nat.add_sub_cancel, ih]
          simp only [← Nat.add_assoc, Nat.add_le_add_iff_right, Nat.add_right_comm _ 1 d,
            Nat.add_right_cancel_iff]
      · next opens closes =>
        simp only [ih, List.count_cons_of_ne opens, List.count_cons_of_ne closes]

theorem balanced_iff {s : Sql} : Balanced s ↔ openBehind 0 s = some 0 := by
  simp only [Balanced, openBehind_eq_some_iff, Nat.add_zero]

theorem openBehind_append (depth : Nat) (s t : Sql) :
    openBehind depth (s ++ t) = (openBehind depth s).bind fun d => openBehind d t := by
  induction s generalizing depth with
  | nil => rfl
  | cons c r ih =>
    simp only [List.cons_append, openBehind, ih]
    split
    · rfl
    · split
      · split <;> rfl
      · rfl

theorem openBehind_of_not_mem {s : Sql} (opens : '(' ∉ s) (closes : ')' ∉ s) (depth : Nat) :
    openBehind depth s = some depth := by
  induction s with
  | nil => rfl
  | cons c r ih =>
    rw [List.mem_cons, not_or] at opens closes
    rw [openBehind, if_neg (Ne.symm opens.1), if_neg (Ne.symm closes.1), ih opens.2 closes.2]

end Parens

namespace Lexeme

open Parens

/-- The text of a lexeme that is no blank, comment or quoted text. -/
def outside : Lexeme → Sql
  | gap _ | token .string _ | token .quotedName _ => []
  | token _ t => t

theorem not_mem_of_all {p : Char → Bool} {t : Sql} {c : Char} (h : t.all p = true)
    (hc : p c = false) : c ∉ t := by
  intro mem
  cases hc.symm.trans (List.all_eq_true.1 h c mem)

/-- Parentheses outside of literals and comments are tokens. -/
theorem WellFormed.openBehind_outside {l : Lexeme} (h : l.WellFormed) (depth : Nat) :
    openBehind depth l.outside = Scan.opened depth [l] := by
  have flat {kind : TokenKind} {c : Char} {t : Sql} {p : Char → Bool}
      (stays : Scan.nesting depth kind = some (depth, depth)) (first : c ≠ '(' ∧ c ≠ ')')
      (rest : t.all p = true) (neither : p '(' = false ∧ p ')' = false) :
      openBehind depth (c :: t) = Scan.opened depth [.token kind (c :: t)] := by
    have opens : '(' ∉ c :: t :=
      List.not_mem_cons_of_ne_of_not_mem first.1.symm (not_mem_of_all rest neither.1)
    have closes : ')' ∉ c :: t :=
      List.not_mem_cons_of_ne_of_not_mem first.2.symm (not_mem_of_all rest neither.2)
    rw [openBehind_of_not_mem opens closes, Scan.opened, stays]
    rfl
  cases h with
  | openParen => rfl
  | closeParen => cases depth <;> rfl
  | param _ ht => exact flat rfl ⟨by decide, by decide⟩ ht ⟨rfl, rfl⟩
  | number hc ht =>
    refine flat rfl ⟨?_, ?_⟩ ht ⟨rfl, rfl⟩ <;>
      · rintro rfl
        cases hc
  | word hc _ _ ht =>
    exact flat rfl ⟨ne_of_isWordPart hc rfl, ne_of_isWordPart hc rfl⟩ ht ⟨rfl, rfl⟩
  | symbol hc =>
    refine flat rfl ⟨?_, ?_⟩ (List.all_nil (f := isGap)) ⟨rfl, rfl⟩ <;>
      · rintro rfl
        cases hc
  | _ => rfl

theorem opened_eq_openBehind {ls : List Lexeme} (h : ∀ l ∈ ls, l.WellFormed) (depth : Nat) :
    Scan.opened depth ls = openBehind depth (ls.flatMap outside) := by
  induction ls generalizing depth with
  | nil => rfl
  | cons l ls ih =>
    rw [List.forall_mem_cons] at h
    rw [List.flatMap_cons, openBehind_append, h.1.openBehind_outside,
      ← List.singleton_append, Scan.opened_append]
    simp only [ih h.2]

end Lexeme

/-! ### Parentheses among tokens -/

namespace Span

/-- Tokens with `depth` parentheses open in front of them and none behind. -/
def IsNested (depth : Nat) : List Span → Prop
  | [] => depth = 0
  | x :: xs => ∃ inner, Scan.nesting depth x.kind = some (x.depth, inner) ∧ IsNested inner xs

theorem isNested_spans (front : Nat) {depth : Nat} (before : Sql) {ls : List Lexeme}
    (h : Scan.opened depth ls = some 0) :
    IsNested depth (Token.spans front (Scan.placed depth before ls)) := by
  induction ls generalizing front depth before with
  | nil => exact Option.some.inj h
  | cons l ls ih =>
    cases l with
    | gap g => exact ih _ _ h
    | token kind t =>
      simp only [Scan.opened, Scan.placed] at h ⊢
      cases nest : Scan.nesting depth kind with
      | none => simp [nest] at h
      | some own =>
        rw [nest] at h
        exact ⟨own.2, nest, ih _ _ h⟩

/-- The parentheses open around a token are those in front of it that are not closed. -/
theorem IsNested.count {depth : Nat} {front rest : List Span} {x : Span}
    (h : IsNested depth (front ++ x :: rest)) :
    front.countP (·.kind = .closeParen) + x.depth + (if x.kind = .closeParen then 1 else 0) =
      front.countP (·.kind = .openParen) + depth := by
  induction front generalizing depth with
  | nil =>
    obtain ⟨inner, nest, -⟩ := h
    have own := Scan.own_of_nesting nest
    simpa using own
  | cons y front ih =>
    obtain ⟨inner, nest, rest⟩ := h
    have step := Scan.count_of_nesting nest
    have := ih rest
    simp only [List.countP_cons, decide_eq_true_eq]
    omega

/-- The first parenthesis among some tokens that closes one of depth `d`, with deeper tokens only in
front of it. -/
def Closes (d : Nat) (xs : List Span) : Prop :=
  ∃ (inside : List Span) (close : Span) (behind : List Span), xs = inside ++ close :: behind ∧
    close.kind = .closeParen ∧ close.depth = d ∧ (∀ y ∈ inside, d < y.depth) ∧
    xs.find? (fun y => y.kind == .closeParen && y.depth == d) = some close

theorem IsNested.closes {depth d : Nat} {xs : List Span} (h : IsNested depth xs)
    (lt : d < depth) : Closes d xs := by
  induction xs generalizing depth with
  | nil => exact absurd (h ▸ lt) (Nat.not_lt_zero d)
  | cons x xs ih =>
    obtain ⟨inner, nest, rest⟩ := h
    by_cases found : x.kind = .closeParen ∧ x.depth = d
    · exact ⟨[], x, xs, rfl, found.1, found.2, by simp,
        List.find?_cons_of_pos (by simp [found.1, found.2])⟩
    · -- a token that does not close it is inside, and leaves it open
      have deeper : d < x.depth ∧ d < inner := by
        have own := Scan.own_of_nesting nest
        have step := Scan.count_of_nesting nest
        rw [not_and] at found
        split at own
        · next closes =>
          have other := found closes
          rw [if_pos closes, if_neg (by simp [closes])] at step
          omega
        · next stays =>
          rw [if_neg stays] at step
          omega
      obtain ⟨inside, close, behind, rfl, closes, same, deep, first⟩ := ih rest deeper.2
      refine ⟨x :: inside, close, behind, rfl, closes, same,
        List.forall_mem_cons.2 ⟨deeper.1, deep⟩, ?_⟩
      rw [List.find?_cons_of_neg (by simp [deeper.1.ne']), first]

/-- Every parenthesis that is opened is closed behind. -/
theorem IsNested.closes_behind {depth : Nat} {front rest : List Span} {x : Span}
    (h : IsNested depth (front ++ x :: rest)) (opens : x.kind = .openParen) :
    Closes x.depth rest := by
  induction front generalizing depth with
  | cons y front ih =>
    obtain ⟨inner, -, nested⟩ := h
    exact ih nested
  | nil =>
    obtain ⟨inner, nest, nested⟩ := h
    rw [opens] at nest
    obtain ⟨own, next⟩ := Prod.mk.inj (Option.some.inj nest)
    exact nested.closes (by omega)

/-! ### Places in the text -/

/-- What is between tokens from a byte on, and behind them up to the end of the text. -/
def Separated (s : Sql) (front : Nat) : List Span → Prop
  | [] => ∃ g, Utf8.slice? s front (Utf8.size s) = some g ∧ Lexeme.Separates true g
  | x :: xs =>
    (∃ g, Utf8.slice? s front x.start = some g ∧ Lexeme.Separates false g) ∧ Separated s x.stop xs

section Places

variable {s front after : Sql}

theorem slice?_next {t : Token} {ts : List Token}
    (whole : front ++ (Token.laid (t :: ts) ++ after) = s) :
    Utf8.slice? s (Utf8.size front) (Utf8.size front + Utf8.size t.before) = some t.before ∧
      Utf8.slice? s (Utf8.size front + Utf8.size t.before)
        (Utf8.size front + Utf8.size t.before + Utf8.size t.text) = some t.text ∧
      (front ++ t.before ++ t.text) ++ (Token.laid ts ++ after) = s := by
  have whole' : (front ++ t.before ++ t.text) ++ (Token.laid ts ++ after) = s := by
    simpa using whole
  simp only [← Utf8.size_append]
  refine ⟨Utf8.slice?_middle ?_, Utf8.slice?_middle ⟨_, whole'⟩, whole'⟩
  exact ⟨t.text ++ (Token.laid ts ++ after), by rw [← whole', List.append_assoc _ t.text]⟩

theorem separated_spans {ts : List Token} (whole : front ++ (Token.laid ts ++ after) = s)
    (gaps : ∀ t ∈ ts, Lexeme.Separates false t.before) (last : Lexeme.Separates true after) :
    Separated s (Utf8.size front) (Token.spans (Utf8.size front) ts) := by
  induction ts generalizing front with
  | nil =>
    have ends : front ++ after = s := whole
    exact ⟨after, ends ▸ Utf8.slice?_middle (List.prefix_refl _), last⟩
  | cons t ts ih =>
    rw [List.forall_mem_cons] at gaps
    obtain ⟨before, -, rest⟩ := slice?_next whole
    have later := ih rest gaps.2
    rw [Utf8.size_append, Utf8.size_append] at later
    exact ⟨⟨t.before, before, gaps.1⟩, later⟩

theorem slices_spans {ts : List Token} (whole : front ++ (Token.laid ts ++ after) = s)
    (forms : ∀ t ∈ ts, (Lexeme.token t.kind t.text).WellFormed) :
    ∀ x ∈ Token.spans (Utf8.size front) ts, x.start < x.stop ∧
      ∃ t, Utf8.slice? s x.start x.stop = some t ∧ (Lexeme.token x.kind t).WellFormed := by
  induction ts generalizing front with
  | nil => simp [Token.spans]
  | cons t ts ih =>
    rw [List.forall_mem_cons] at forms
    obtain ⟨-, own, rest⟩ := slice?_next whole
    have later := ih rest forms.2
    rw [Utf8.size_append, Utf8.size_append] at later
    have text : 0 < Utf8.size t.text := by
      obtain ⟨c, r, e⟩ := List.exists_cons_of_ne_nil forms.1.text_ne
      have pos := c.utf8Size_pos
      rw [Lexeme.text] at e
      rw [e, Utf8.size]
      omega
    exact List.forall_mem_cons.2 ⟨⟨Nat.lt_add_of_pos_right text, t.text, own, forms.1⟩, later⟩

end Places

theorem le_start_of_mem_spans {n : Nat} {ts : List Token} :
    ∀ x ∈ Token.spans n ts, n ≤ x.start := by
  induction ts generalizing n with
  | nil => simp [Token.spans]
  | cons t ts ih =>
    rw [Token.spans, List.forall_mem_cons]
    refine ⟨Nat.le_add_right _ _, fun x hx => ?_⟩
    have := ih x hx
    omega

theorem pairwise_spans (n : Nat) (ts : List Token) :
    (Token.spans n ts).Pairwise fun x y => x.stop ≤ y.start := by
  induction ts generalizing n with
  | nil => exact .nil
  | cons t ts ih => exact .cons le_start_of_mem_spans (ih _)

/-- What tokens of a text are relied on for. -/
structure Tokenizes (s : Sql) (xs : List Span) : Prop where
  nonempty : ∀ x ∈ xs, x.start < x.stop
  ordered : xs.Pairwise fun x y => x.stop ≤ y.start
  /-- They start and stop between characters, and have the form of their kind. -/
  slices : ∀ x ∈ xs, ∃ t, Utf8.slice? s x.start x.stop = some t ∧
    (Lexeme.token x.kind t).WellFormed
  /-- There are only blanks and complete comments between them. -/
  gaps : Separated s 0 xs
  /-- A parenthesis that is opened is closed by the first one behind it that has its depth. -/
  closed : ∀ (front : List Span) (x : Span) (rest : List Span), xs = front ++ x :: rest →
    x.kind = .openParen → Closes x.depth rest
  /-- Of the parentheses in front of a token as many are open as its depth says. One that closes is
  not inside itself. -/
  depths : ∀ (front : List Span) (x : Span) (rest : List Span), xs = front ++ x :: rest →
    front.countP (·.kind = .closeParen) + x.depth + (if x.kind = .closeParen then 1 else 0) =
      front.countP (·.kind = .openParen)

theorem tokenizes_of_ofSql {s : Sql} {scan : Scan} (h : Scan.ofSql s = .ok scan) :
    Tokenizes s (Token.spans 0 scan.tokens) := by
  have whole : [] ++ (Token.laid scan.tokens ++ scan.after) = s := by
    rw [List.nil_append, ← Scan.text_eq_laid, Scan.text_of_ofSql h]
  have slices := slices_spans whole (Scan.wellFormed_of_ofSql h)
  have nested : IsNested 0 (Token.spans 0 scan.tokens) := by
    obtain ⟨ls, -, -, balanced, rfl⟩ := Scan.ofSql_eq_ok_iff.1 h
    exact isNested_spans 0 [] balanced
  exact {
    nonempty := fun x hx => (slices x hx).1
    ordered := pairwise_spans 0 scan.tokens
    slices := fun x hx => (slices x hx).2
    gaps := separated_spans whole (Scan.separates_before h) (Scan.separates_after h)
    closed := fun front x rest e opens => (e ▸ nested).closes_behind opens
    depths := fun front x rest e => (e ▸ nested).count }

end Span

/-! ### Texts without tokens -/

namespace Scan

open Lexeme (written Apart Ends Unended)

theorem fault_of_collect {fault : Option Unsupported} {depth : Nat} {before : Sql}
    {ls : List Lexeme} {e : Unsupported} (h : collect fault depth before ls = .error e) :
    fault = some e ∨ e = .unbalancedOpen ∨ e = .unbalancedClose := by
  induction ls generalizing depth before with
  | nil =>
    cases fault with
    | some _ => exact .inl (congrArg some (Except.error.inj h))
    | none =>
      rw [collect] at h
      split at h
      · cases h
      · exact .inr (.inl (Except.error.inj h).symm)
  | cons l ls ih =>
    cases l with
    | gap g => exact ih h
    | token kind t =>
      rw [collect] at h
      split at h
      · exact ih (map_eq_error_iff.1 h)
      · exact .inr (.inr (Except.error.inj h).symm)

/-- A text that can be read to the end has tokens unless its parentheses are not balanced. -/
theorem exists_ofSql_iff {s : Sql} {ls : List Lexeme} (whole : written ls = s)
    (apart : Apart none ls) :
    (∃ scan, ofSql s = .ok scan) ↔ Parens.Balanced (ls.flatMap Lexeme.outside) := by
  rw [Parens.balanced_iff, ← Lexeme.opened_eq_openBehind apart.wellFormed]
  constructor
  · rintro ⟨scan, h⟩
    obtain ⟨ms, whole', apart', balanced, -⟩ := ofSql_eq_ok_iff.1 h
    have same := (Lexeme.readAll_eq_iff.2 ⟨whole, apart⟩).symm.trans
      (Lexeme.readAll_eq_iff.2 ⟨whole', apart'⟩)
    obtain rfl : ls = ms := congrArg Prod.fst same
    exact balanced
  · exact fun balanced => ⟨_, ofSql_eq_ok_iff.2 ⟨ls, whole, apart, balanced, rfl⟩⟩

end Scan

namespace Cursor

open Lexeme (written Apart Ends Unended)

/-- The cursor moves forward with every step, so that every text is read to its end or to a fault.
Its tokens are those of the text, and stand as they are relied on to; a fault is a literal or comment
without an end, a stray dollar sign, or a parenthesis without a match. -/
theorem tokenizes (s : Sql) :
    (∀ b bs kind rest, next b bs = .ok (kind, rest) → rest.length < (b :: bs).length) ∧
      spans (Utf8.bytes s) = (Scan.ofSql s).map (fun scan => Token.spans 0 scan.tokens) ∧
      (∀ xs, spans (Utf8.bytes s) = .ok xs → Span.Tokenizes s xs) ∧
      (∀ fault, spans (Utf8.bytes s) = .error fault →
        fault = .unbalancedOpen ∨ fault = .unbalancedClose ∨
          ∃ ls r, written ls ++ r = s ∧ Apart r.head? ls ∧ Unended r fault) ∧
      (Ends s → ∃ ls, written ls = s ∧ Apart none ls ∧
        ((∃ fault, spans (Utf8.bytes s) = .error fault) ↔
          ¬ Parens.Balanced (ls.flatMap Lexeme.outside))) := by
  refine ⟨fun b bs kind rest h => Nat.lt_succ_of_le (leaves_next b bs kind rest h), spans_bytes s,
    ?_, ?_, ?_⟩
  · intro xs h
    rw [spans_bytes] at h
    obtain ⟨scan, read, rfl⟩ := map_eq_ok_iff.1 h
    exact Span.tokenizes_of_ofSql read
  · intro fault h
    rw [spans_bytes] at h
    rcases Scan.fault_of_collect (map_eq_error_iff.1 h) with unended | unopened | unclosed
    · exact .inr (.inr (Lexeme.readAll_fault_iff.1 unended))
    · exact .inl unopened
    · exact .inr (.inl unclosed)
  · intro ends
    obtain ⟨ls, whole, apart⟩ := Lexeme.ends_iff.1 ends
    refine ⟨ls, whole, apart, ?_⟩
    rw [← Scan.exists_ofSql_iff whole apart, spans_bytes]
    cases Scan.ofSql s with
    | ok scan => simp [Except.map]
    | error fault => simp [Except.map]

/-- A text with a letter of two bytes behind a backslash and a comment in a comment, one with a
parenthesis too many, and one that ends in a comment. -/
theorem tokenizes_nested :
    (next 0x66 [0x28] = .ok (some .word, [0x28]) ∧ [0x28].length < [0x66, 0x28].length) ∧
      (spans (Utf8.bytes "f(E'\\é(' /* ) /* ( */ */) -- (\n+1".toList) = .ok
          [⟨.word, 0, 1, 0⟩, ⟨.openParen, 1, 2, 0⟩, ⟨.string, 2, 9, 1⟩, ⟨.closeParen, 25, 26, 0⟩,
            ⟨.symbol, 32, 33, 0⟩, ⟨.number, 33, 34, 0⟩] ∧
        Span.Tokenizes "f(E'\\é(' /* ) /* ( */ */) -- (\n+1".toList
          [⟨.word, 0, 1, 0⟩, ⟨.openParen, 1, 2, 0⟩, ⟨.string, 2, 9, 1⟩, ⟨.closeParen, 25, 26, 0⟩,
            ⟨.symbol, 32, 33, 0⟩, ⟨.number, 33, 34, 0⟩]) ∧
      (Ends "f('(')) /* ( */".toList ∧
        ∃ ls, written ls = "f('(')) /* ( */".toList ∧ Apart none ls ∧
          ¬ Parens.Balanced (ls.flatMap Lexeme.outside)) ∧
      (spans (Utf8.bytes "f /* /* */".toList) = .error .unterminatedComment ∧
        ∃ ls r, written ls ++ r = "f /* /* */".toList ∧ Apart r.head? ls ∧
          Unended r .unterminatedComment) := by
  have word : next 0x66 [0x28] = .ok (some .word, [0x28]) := by decide +kernel
  have read : spans (Utf8.bytes "f(E'\\é(' /* ) /* ( */ */) -- (\n+1".toList) = .ok
      [⟨.word, 0, 1, 0⟩, ⟨.openParen, 1, 2, 0⟩, ⟨.string, 2, 9, 1⟩, ⟨.closeParen, 25, 26, 0⟩,
        ⟨.symbol, 32, 33, 0⟩, ⟨.number, 33, 34, 0⟩] := by decide +kernel
  have lexemes : (Lexeme.readAll "f('(')) /* ( */".toList).2 = none := by decide +kernel
  have closed : spans (Utf8.bytes "f('(')) /* ( */".toList) = .error .unbalancedClose := by
    decide +kernel
  have unended : spans (Utf8.bytes "f /* /* */".toList) = .error .unterminatedComment := by
    decide +kernel
  have ends : Ends "f('(')) /* ( */".toList :=
    Lexeme.ends_iff.2 ⟨_, Lexeme.readAll_eq_iff.1 (Prod.ext_iff.2 ⟨rfl, lexemes⟩)⟩
  refine ⟨⟨word, (tokenizes []).1 _ _ _ _ word⟩, ⟨read, (tokenizes _).2.2.1 _ read⟩,
    ⟨ends, ?_⟩, unended, ?_⟩
  · obtain ⟨ls, whole, apart, fails⟩ := (tokenizes _).2.2.2.2 ends
    exact ⟨ls, whole, apart, fails.1 ⟨_, closed⟩⟩
  · rcases (tokenizes _).2.2.2.1 _ unended with none | none | found
    · cases none
    · cases none
    · exact found

end Cursor

end BulkSql
