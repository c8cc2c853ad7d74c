import BulkSql.Proofs.Trimming
import BulkSql.Text.Utf8

/-!
Tokens as slices of a text, from byte to byte. In the text that they are read from all of them can be
sliced; where the blanks at its end are taken off, those can that are not cut.
-/
namespace BulkSql

namespace Utf8

@[simp] theorem size_append (s t : Sql) : size (s ++ t) = size s + size t := by
  induction s with
  | nil => simp [size]
  | cons c cs ih => simp [size, ih, Nat.add_assoc]

/-- What stands behind the first `n` bytes, if they end with a character. -/
def after? : Nat → Sql → Option Sql
  | 0, s => some s
  | _ + 1, [] => none
  | n + 1, c :: cs => if c.utf8Size ≤ n + 1 then after? (n + 1 - c.utf8Size) cs else none

/-- The first `n` bytes, if they end with a character. -/
def upTo? : Nat → Sql → Option Sql
  | 0, _ => some []
  | _ + 1, [] => none
  | n + 1, c :: cs =>
    if c.utf8Size ≤ n + 1 then (upTo? (n + 1 - c.utf8Size) cs).map (c :: ·) else none

/-- The text from one byte to another. There is none outside of the text, between the bytes of a
character, or backwards. -/
def slice? (s : Sql) (start stop : Nat) : Option Sql :=
  if start ≤ stop then (after? start s).bind (upTo? (stop - start)) else none

theorem exists_size_cons (c : Char) (s : Sql) :
    ∃ n, size (c :: s) = n + 1 ∧ c.utf8Size ≤ n + 1 ∧ n + 1 - c.utf8Size = size s := by
  have pos := c.utf8Size_pos
  exact ⟨size (c :: s) - 1, by simp only [size]; omega⟩

theorem after?_size (s t : Sql) : after? (size s) (s ++ t) = some t := by
  induction s with
  | nil => simp [size, after?]
  | cons c cs ih =>
    obtain ⟨n, whole, fits, rest⟩ := exists_size_cons c cs
    rw [whole, List.cons_append, after?, if_pos fits, rest, ih]

theorem upTo?_size (s t : Sql) : upTo? (size s) (s ++ t) = some s := by
  induction s with
  | nil => simp [size, upTo?]
  | cons c cs ih =>
    obtain ⟨n, whole, fits, rest⟩ := exists_size_cons c cs
    rw [whole, List.cons_append, upTo?, if_pos fits, rest, ih, Option.map_some]

theorem size_of_after? {n : Nat} {s t : Sql} (h : after? n s = some t) : n + size t = size s := by
  induction s generalizing n with
  | nil =>
    cases n with
    | zero =>
      obtain rfl := Option.some.inj h
      simp
    | succ n => cases h
  | cons c cs ih =>
    cases n with
    | zero =>
      obtain rfl := Option.some.inj h
      simp
    | succ n =>
      rw [after?] at h
      split at h
      · have := ih h
        rw [size]
        omega
      · cases h

theorem le_size_of_upTo? {n : Nat} {s t : Sql} (h : upTo? n s = some t) : n ≤ size s := by
  induction s generalizing n t with
  | nil =>
    cases n with
    | zero => simp
    | succ n => cases h
  | cons c cs ih =>
    cases n with
    | zero => simp
    | succ n =>
      rw [upTo?] at h
      split at h
      · obtain ⟨u, found, -⟩ := Option.map_eq_some_iff.1 h
        have := ih found
        rw [size]
        omega
      · cases h

/-- A part of a text is sliced from the bytes before it to the bytes before what is behind it. -/
theorem slice?_middle {s front part : Sql} (h : front ++ part <+: s) :
    slice? s (size front) (size (front ++ part)) = some part := by
  obtain ⟨behind, rfl⟩ := h
  unfold slice?
  rw [if_pos (by simp), List.append_assoc, after?_size, Option.bind_some, size_append,
    Nat.add_sub_cancel_left, upTo?_size]

/-- Nothing is sliced beyond the end. -/
theorem slice?_of_size_lt {s : Sql} {start stop : Nat} (h : size s < stop) :
    slice? s start stop = none := by
  unfold slice?
  split
  · rw [Option.bind_eq_none_iff]
    intro t tail
    rw [Option.eq_none_iff_forall_ne_some]
    intro u part
    have := size_of_after? tail
    have := le_size_of_upTo? part
    omega
  · rfl

/-- A longer text takes up more bytes. -/
theorem size_lt_of_shorter {s t : Sql} (h : s <+: t) (shorter : s.length < t.length) :
    size s < size t := by
  obtain ⟨r, rfl⟩ := h
  cases r with
  | nil => simp at shorter
  | cons c r =>
    have := c.utf8Size_pos
    rw [size_append, size]
    omega

end Utf8

namespace Token

/-- Tokens, with what stands before each of them. -/
def laid (ts : List Token) : Sql := ts.flatMap fun t => t.before ++ t.text

@[simp] theorem laid_nil : laid [] = [] := rfl

@[simp] theorem laid_cons (t : Token) (ts : List Token) :
    laid (t :: ts) = t.before ++ (t.text ++ laid ts) := by simp [laid]

@[simp] theorem laid_append (ts us : List Token) : laid (ts ++ us) = laid ts ++ laid us := by
  simp [laid]

/-- The slice of a text from the first to the last of some tokens that stand behind others. -/
def sliceAll? (text : Sql) (front : List Token) (t : Token) (ts : List Token) : Option Sql :=
  Utf8.slice? text (Utf8.size (laid front ++ t.before)) (Utf8.size (laid (front ++ t :: ts)))

/-- The slice of a text where a token stands behind others. -/
def slice? (text : Sql) (front : List Token) (t : Token) : Option Sql := sliceAll? text front t []

theorem sliceAll?_of_laid {text : Sql} {front ts : List Token} {t : Token}
    (h : laid (front ++ t :: ts) <+: text) :
    sliceAll? text front t ts = some (textOf (t :: ts)) := by
  have whole : laid (front ++ t :: ts) = laid front ++ t.before ++ textOf (t :: ts) := by
    simp [textOf, laid]
  rw [sliceAll?, whole]
  exact Utf8.slice?_middle (whole ▸ h)

theorem slice?_of_laid {text : Sql} {front : List Token} {t : Token}
    (h : laid (front ++ [t]) <+: text) : t.slice? text front = some t.text :=
  (sliceAll?_of_laid h).trans (by simp [textOf])

/-- The token as it was before anything was cut off. -/
def whole (t : Token) : Token := { t with cut := false }

theorem laid_map_whole (ts : List Token) : laid (ts.map whole) = laid ts := by
  simp [laid, List.flatMap_map, whole]

theorem map_whole_of_not_cut {ts : List Token} (h : ∀ t ∈ ts, t.cut = false) :
    ts.map whole = ts :=
  (List.map_congr_left fun t ht => by rw [whole, ← h t ht, id]).trans (List.map_id ts)

end Token

/-- No blank that separates tokens is part of a word or a symbol. -/
theorem Lexeme.WellFormed.not_isGap_of_kind {kind : TokenKind} {t : Sql}
    (h : (Lexeme.token kind t).WellFormed) (open' : kind = .word ∨ kind = .symbol) :
    ∀ c ∈ t, isGap c = false := by
  cases h with
  | word hc _ _ ht =>
    rw [List.all_eq_true] at ht
    exact List.forall_mem_cons.2
      ⟨Lexeme.not_isGap_of_isWordPart hc, fun c hc => Lexeme.not_isGap_of_isWordPart (ht c hc)⟩
  | symbol hc =>
    simp only [Lexeme.isSign, Bool.and_eq_true, Bool.not_eq_true'] at hc
    exact List.forall_mem_singleton.2 hc.1.1
  | _ => simp at open'

namespace Scan

open Token (laid)

theorem text_eq_laid (s : Scan) : s.text = laid s.tokens ++ s.after := rfl

/-- In the text that it is read from every token can be sliced. -/
theorem slice?_of_ofSql {text : Sql} {s : Scan} (h : ofSql text = .ok s) {front behind : List Token}
    {t : Token} (e : s.tokens = front ++ t :: behind) : t.slice? text front = some t.text := by
  refine Token.slice?_of_laid ⟨laid behind ++ s.after, ?_⟩
  rw [← text_of_ofSql h, text_eq_laid, e]
  simp

/-! ### Cut tokens -/

theorem map_whole_clip (n : Nat) (ts : List Token) :
    (clip n ts).map Token.whole = ts.map Token.whole := by
  induction ts generalizing n with
  | nil => cases n <;> rfl
  | cons t ts ih =>
    cases n with
    | zero => rw [clip_zero]
    | succ n => rw [clip, List.map_cons, ih, List.map_cons, Token.whole, Token.whole]

theorem map_whole_clipped {s : Scan} (h : ∀ t ∈ s.tokens, t.cut = false) :
    s.clipped.map Token.whole = s.tokens := by
  rw [clipped, List.map_reverse, map_whole_clip, List.map_reverse, List.reverse_reverse,
    Token.map_whole_of_not_cut h]

/-- A token is cut if those behind it do not take up all that is cut off. -/
theorem cut_clip_iff {n : Nat} {ts back front : List Token} {t : Token}
    (whole : ∀ u ∈ ts, u.cut = false) (e : clip n ts = back ++ t :: front) :
    t.cut = true ↔ (laid back.reverse).length < n := by
  induction back generalizing n ts with
  | nil =>
    cases n with
    | zero =>
      rw [clip_zero] at e
      simp [whole t (by simp [e])]
    | succ n =>
      cases ts with
      | nil => cases e
      | cons u us =>
        obtain ⟨rfl, -⟩ := List.cons.inj e
        simp
  | cons b back ih =>
    cases n with
    | zero =>
      rw [clip_zero] at e
      simp [whole t (by simp [e])]
    | succ n =>
      cases ts with
      | nil => cases e
      | cons u us =>
        obtain ⟨rfl, rest⟩ := List.cons.inj e
        rw [ih (fun v hv => whole v (List.mem_cons_of_mem _ hv)) rest]
        simp
        omega

/-- A token is cut if the text without the blanks at its end does not reach over it. -/
theorem cut_clipped_iff {s : Scan} {front behind : List Token} {t : Token}
    (whole : ∀ u ∈ s.tokens, u.cut = false) (e : s.clipped = front ++ t :: behind) :
    t.cut = true ↔ (Blank.trimEnd s.text).length < (laid (front ++ [t])).length := by
  have reversed : clip (s.text.length - (Blank.trimEnd s.text).length - s.after.length)
      s.tokens.reverse = behind.reverse ++ t :: front.reverse := by
    simpa [clipped, List.reverse_eq_iff] using e
  have same : laid (front ++ t :: behind) = laid s.tokens := by
    rw [← e, ← Token.laid_map_whole, map_whole_clipped whole]
  have length := congrArg List.length s.text_eq_laid
  rw [← same] at length
  obtain ⟨b, trimmed, -⟩ := Blank.exists_trimEnd s.text
  have shorter := congrArg List.length trimmed
  rw [cut_clip_iff (by simpa using whole) reversed, List.reverse_reverse]
  simp only [List.length_append, Token.laid_append, Token.laid_cons, Token.laid_nil,
    List.length_nil] at length shorter ⊢
  omega

theorem wellFormed_of_placed (depth : Nat) (before : Sql) {ls : List Lexeme}
    (apart : Lexeme.Apart none ls) :
    ∀ t ∈ placed depth before ls, (Lexeme.token t.kind t.text).WellFormed := by
  induction ls generalizing depth before with
  | nil => simp [placed]
  | cons l ls ih =>
    cases l with
    | gap g => exact ih _ _ apart.2.2
    | token kind t =>
      simp only [placed]
      cases nesting depth kind with
      | none => simp
      | some n => exact List.forall_mem_cons.2 ⟨apart.1, ih _ _ apart.2.2⟩

theorem wellFormed_of_ofSql {text : Sql} {s : Scan} (h : ofSql text = .ok s) :
    ∀ t ∈ s.tokens, (Lexeme.token t.kind t.text).WellFormed := by
  obtain ⟨ls, -, apart, -, rfl⟩ := ofSql_eq_ok_iff.1 h
  exact wellFormed_of_placed 0 [] apart

/-- The tokens of a text without its terminator are lexemes by themselves, and not cut. -/
theorem wellFormed_withoutTerminator {text : Sql} {s : Scan} (h : ofSql text = .ok s) :
    ∀ t ∈ s.withoutTerminator.tokens, t.cut = false ∧ (Lexeme.token t.kind t.text).WellFormed := by
  obtain ⟨ls, apart, -, e⟩ := exists_withoutTerminator h
  rw [e]
  exact fun t ht => ⟨cut_of_placed 0 [] ls t ht, wellFormed_of_placed 0 [] apart t ht⟩

end Scan

namespace Body

open Token (laid)

variable {s : Sql} {body : Body} {front behind : List Token} {t : Token}

/-- Only blanks are missing in the text of a statement, and a token is cut if some of them are part
of it. -/
theorem exists_blanks (h : ofSql s = .ok body) (e : body.tokens = front ++ t :: behind) :
    ∃ blanks rest, body.text ++ blanks = laid (front ++ [t]) ++ rest ∧
      (∀ c ∈ blanks, isBlank c = true) ∧
      (t.cut = true ↔ body.text.length < (laid (front ++ [t])).length) := by
  obtain ⟨scan, read, rfl⟩ := exists_scan h
  change scan.withoutTerminator.clipped = _ at e
  have uncut := fun u hu => (Scan.wellFormed_withoutTerminator read u hu).1
  obtain ⟨blanks, trimmed, blank⟩ := Blank.exists_trimEnd scan.withoutTerminator.text
  refine ⟨blanks, laid behind ++ scan.withoutTerminator.after, ?_, blank,
    Scan.cut_clipped_iff uncut e⟩
  rw [← trimmed, Scan.text_eq_laid, ← Scan.map_whole_clipped uncut, Token.laid_map_whole, e]
  simp

/-- The tokens are those of the whole text, but for what is cut off. -/
theorem exists_whole_mem (h : ofSql s = .ok body) (ht : t ∈ body.tokens) :
    ∃ scan, Scan.ofSql (Blank.trimStart s) = .ok scan ∧
      t.whole ∈ scan.withoutTerminator.tokens := by
  obtain ⟨scan, read, rfl⟩ := exists_scan h
  refine ⟨scan, read, ?_⟩
  rw [← Scan.map_whole_clipped fun u hu => (Scan.wellFormed_withoutTerminator read u hu).1]
  exact List.mem_map_of_mem ht

/-- A token is cut unless the text of the statement reaches over it. -/
theorem laid_prefix_iff (h : ofSql s = .ok body) (e : body.tokens = front ++ t :: behind) :
    laid (front ++ [t]) <+: body.text ↔ t.cut = false := by
  obtain ⟨blanks, rest, same, -, cut⟩ := exists_blanks h e
  rw [← Bool.not_eq_true, cut, Nat.not_lt]
  exact ⟨List.IsPrefix.length_le, List.prefix_of_prefix_length_le ⟨rest, same.symm⟩ ⟨blanks, rfl⟩⟩

/-- In the text of a statement those tokens can be sliced that are not cut. -/
theorem slice?_eq (h : ofSql s = .ok body) (e : body.tokens = front ++ t :: behind) :
    t.slice? body.text front = if t.cut then none else some t.text := by
  split
  · next cut =>
    obtain ⟨blanks, rest, same, -, shorter⟩ := exists_blanks h e
    have shorter := shorter.1 cut
    have inside := List.prefix_of_prefix_length_le ⟨blanks, rfl⟩ ⟨rest, same.symm⟩ shorter.le
    exact Utf8.slice?_of_size_lt (Utf8.size_lt_of_shorter inside shorter)
  · next uncut =>
    exact Token.slice?_of_laid ((laid_prefix_iff h e).2 (Bool.eq_false_iff.2 uncut))

/-- No token stands behind a cut one that is not cut. -/
theorem not_cut_of_before (h : ofSql s = .ok body) (e : body.tokens = front ++ t :: behind)
    (last : t.cut = false) : ∀ u ∈ front, u.cut = false := by
  intro u hu
  obtain ⟨a, b, rfl⟩ := List.append_of_mem hu
  have reaches := (laid_prefix_iff h e).2 last
  rw [List.append_assoc, List.cons_append] at e
  refine (laid_prefix_iff h e).1 (List.IsPrefix.trans ⟨laid b ++ laid [t], ?_⟩ reaches)
  simp

/-- Tokens that are not cut can be sliced together. -/
theorem sliceAll?_eq {ts : List Token} (h : ofSql s = .ok body)
    (e : body.tokens = front ++ (t :: ts ++ behind)) (uncut : ∀ u ∈ t :: ts, u.cut = false) :
    t.sliceAll? body.text front ts = some (Token.textOf (t :: ts)) := by
  obtain ⟨init, last, same⟩ := (List.eq_nil_or_concat (t :: ts)).resolve_left (by simp)
  rw [same, List.concat_eq_append] at e uncut
  refine Token.sliceAll?_of_laid ?_
  rw [same, List.concat_eq_append, ← List.append_assoc]
  have whole : body.tokens = (front ++ init) ++ last :: behind := by simpa using e
  exact (laid_prefix_iff h whole).2 (uncut last (by simp))

/-- A cut token is a word or a symbol, and ends in a blank that does not separate tokens. -/
theorem exists_blank_of_cut (h : ofSql s = .ok body) (ht : t ∈ body.tokens) (cut : t.cut = true) :
    (t.kind = .word ∨ t.kind = .symbol) ∧
      ∃ u c, t.text = u ++ [c] ∧ isBlank c = true ∧ isGap c = false := by
  obtain ⟨front, behind, e⟩ := List.append_of_mem ht
  obtain ⟨blanks, rest, same, blank, shorter⟩ := exists_blanks h e
  have form : (Lexeme.token t.kind t.text).WellFormed := by
    obtain ⟨scan, read, mem⟩ := exists_whole_mem h ht
    exact (Scan.wellFormed_withoutTerminator read _ mem).2
  obtain ⟨u, c, text⟩ := (List.eq_nil_or_concat t.text).resolve_left form.text_ne
  rw [List.concat_eq_append] at text
  have last : isBlank c = true := by
    have shorter := shorter.1 cut
    rw [Token.laid_append, Token.laid_cons, Token.laid_nil, text] at same shorter
    have split : body.text ++ blanks = (laid front ++ (t.before ++ u)) ++ c :: rest := by
      simpa using same
    rcases List.append_eq_append_iff.1 split with ⟨m, -, rfl⟩ | ⟨m, longer, behind⟩
    · exact blank c (by simp)
    · cases m with
      | nil =>
        obtain rfl : c :: rest = blanks := behind
        exact blank c List.mem_cons_self
      | cons d m =>
        have := congrArg List.length longer
        simp only [List.length_append, List.length_cons, List.length_nil] at this shorter
        omega
  have open' : Blank.trimEnd t.text ≠ t.text := by
    rw [text]
    intro solid
    have stays := (List.rdropWhile_eq_self_iff.1 solid) (by simp)
    simp [last] at stays
  have kind : t.kind = .word ∨ t.kind = .symbol := by
    by_contra other
    rw [not_or] at other
    exact open' (by simpa [Lexeme.isSolid] using form.isSolid other.1 other.2)
  refine ⟨kind, u, c, text, last, ?_⟩
  have mem : c ∈ t.text := by simp [text]
  exact form.not_isGap_of_kind kind c mem

/-- The tokens are part of the text that they are read from. -/
theorem text_subset (h : ofSql s = .ok body) (ht : t ∈ body.tokens) : t.text ⊆ s := by
  obtain ⟨scan, read, mem⟩ := exists_whole_mem h ht
  have whole : t.whole ∈ scan.tokens := by
    unfold Scan.withoutTerminator at mem
    split at mem
    · split at mem
      · exact List.mem_of_mem_dropLast mem
      · exact mem
    · exact mem
  have inside : t.text ⊆ scan.text := by
    refine List.subset_append_of_subset_left _ fun c hc => List.mem_flatMap.2 ⟨_, whole, ?_⟩
    exact List.mem_append_right _ hc
  rw [Scan.text_of_ofSql read] at inside
  exact List.Subset.trans inside (List.dropWhile_suffix _).subset

/-- A part of the text of a statement, from the end of one character to that of another. -/
def Slices (b : Body) (part : Sql) : Prop :=
  ∃ start stop, Utf8.slice? b.text start stop = some part

theorem slices_textOf {init : List Token} {last : Token} (h : ofSql s = .ok body)
    (e : body.tokens = front ++ (init ++ last :: behind)) (uncut : last.cut = false) :
    body.Slices (Token.textOf (init ++ [last])) := by
  have whole : body.tokens = (front ++ init) ++ last :: behind := by simpa using e
  have all := not_cut_of_before h whole uncut
  cases init with
  | nil =>
    have alone : ∀ u ∈ [last], u.cut = false := by simpa using uncut
    exact ⟨_, _, sliceAll?_eq h e alone⟩
  | cons t ts =>
    have split : body.tokens = front ++ (t :: (ts ++ [last]) ++ behind) := by simpa using e
    refine ⟨_, _, sliceAll?_eq h split fun u hu => ?_⟩
    rcases List.mem_append.1 (List.cons_append ▸ hu : u ∈ (t :: ts) ++ [last]) with hu | hu
    · exact all u (List.mem_append_right _ hu)
    · exact List.mem_singleton.1 hu ▸ uncut

theorem slices_text (h : ofSql s = .ok body) (ht : t ∈ body.tokens) (uncut : t.cut = false) :
    body.Slices t.text := by
  obtain ⟨front, behind, e⟩ := List.append_of_mem ht
  have alone : body.tokens = front ++ ([] ++ t :: behind) := e
  simpa [Token.textOf] using slices_textOf h alone uncut

end Body

end BulkSql
