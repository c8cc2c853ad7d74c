import BulkSql.Proofs.Slicing
import BulkSql.Sql.Projection

/-!
Which names of an expression are moved. These are the occurrences of the reference, but for those
behind a colon that is no part of the sign of a cast; everything else stays as it is and where it
is.
-/
namespace BulkSql

namespace Token

/-! ### Occurrences -/

/-- Whether tokens end with the sign of a cast: two colons with nothing between them. -/
def endInCast (front : List Token) : Bool :=
  match front.reverse with
  | second :: first :: _ => first.endsCast && second.endsCast && second.before.isEmpty
  | _ => false

/-- Whether tokens end with a colon that is no part of the sign of a cast. -/
def endInColon (front : List Token) : Bool := front.getLast?.any endsCast && !endInCast front

/-- Whether a token between others is a reference: a name that means `reference`, and neither a
member behind a dot nor a type behind a cast nor a function before a parenthesis. -/
def occurs (reference : Sql) (front : List Token) (t : Token) (behind : List Token) : Bool :=
  t.isName && t.meaning == reference && !(front.getLast?.any fun p => p.kind == .dot) &&
    !endInCast front && !(behind.head?.any fun n => n.kind == .openParen)

/-- Whether a token between others is moved. -/
def moves (reference : Sql) (front : List Token) (t : Token) (behind : List Token) : Bool :=
  t.refersTo reference front.getLast? behind.head?

theorem endsCast_of_endInCast {front : List Token} (h : endInCast front = true) :
    front.getLast?.any endsCast = true := by
  unfold endInCast at h
  split at h
  · next second first rest e =>
    simp only [Bool.and_eq_true] at h
    have last : front.getLast? = some second := by
      rw [← List.head?_reverse, e]
      rfl
    rw [last, Option.any_some]
    exact h.1.2
  · cases h

/-- The names that are moved are the references that do not stand behind a single colon. -/
theorem moves_eq (reference : Sql) (front : List Token) (t : Token) (behind : List Token) :
    t.moves reference front behind = (t.occurs reference front behind && !endInColon front) := by
  have bound : (front.getLast?.any fun p => p.kind == .dot || p.endsCast) =
      ((front.getLast?.any fun p => p.kind == .dot) || front.getLast?.any endsCast) := by
    cases front.getLast? <;> rfl
  unfold moves occurs refersTo endInColon
  rw [bound]
  cases cast : endInCast front with
  | true => simp [endsCast_of_endInCast cast]
  | false => simp [Bool.and_assoc, Bool.and_comm, Bool.and_left_comm]

/-! ### Tokens and which of them are replaced -/

/-- Some tokens behind others, each with whether it has a property in its place. -/
def marked (p : List Token → Token → List Token → Bool) (front : List Token) :
    List Token → List (Token × Bool)
  | [] => []
  | t :: ts => (t, p front t ts) :: marked p (front ++ [t]) ts

/-- The text of some tokens, with `target` in place of those that are marked. -/
def substituted (target : Sql) (ts : List (Token × Bool)) : Sql :=
  ts.flatMap fun t => t.1.before ++ if t.2 then target else t.1.text

@[simp] theorem substituted_nil (target : Sql) : substituted target [] = [] := rfl

@[simp] theorem substituted_cons (target : Sql) (t : Token × Bool) (ts : List (Token × Bool)) :
    substituted target (t :: ts) =
      t.1.before ++ ((if t.2 then target else t.1.text) ++ substituted target ts) := by
  simp [substituted]

section Marked

variable {p q : List Token → Token → List Token → Bool}

@[simp] theorem map_fst_marked (p : List Token → Token → List Token → Bool)
    (front ts : List Token) : (marked p front ts).map Prod.fst = ts := by
  induction ts generalizing front with
  | nil => rfl
  | cons t ts ih => rw [marked, List.map_cons, ih]

/-- The same tokens are marked if the properties agree at each of them. -/
theorem marked_eq_iff {front ts : List Token} :
    marked p front ts = marked q front ts ↔
      ∀ a t b, ts = a ++ t :: b → p (front ++ a) t b = q (front ++ a) t b := by
  induction ts generalizing front with
  | nil => simp [marked]
  | cons t ts ih =>
    simp only [marked, List.cons.injEq, Prod.mk.injEq, true_and, ih]
    constructor
    · rintro ⟨here, rest⟩ (- | ⟨u, a⟩) v b e
      · obtain ⟨rfl, rfl⟩ := List.cons.inj e
        simpa using here
      · obtain ⟨rfl, rfl⟩ := List.cons.inj e
        simpa using rest a v b rfl
    · intro h
      refine ⟨by simpa using h [] t ts rfl, fun a u b e => ?_⟩
      simpa using h (t :: a) u b (congrArg (t :: ·) e)

theorem mark_of_marked {front ts : List Token} {a b : List (Token × Bool)} {x : Token × Bool}
    (h : marked p front ts = a ++ x :: b) :
    x.2 = p (front ++ a.map Prod.fst) x.1 (b.map Prod.fst) := by
  induction ts generalizing front a with
  | nil => simp [marked] at h
  | cons t ts ih =>
    cases a with
    | nil =>
      obtain ⟨rfl, rfl⟩ := List.cons.inj h
      simp
    | cons y a =>
      obtain ⟨rfl, rest⟩ := List.cons.inj h
      simpa using ih rest

theorem exists_of_mem_marked {front ts : List Token} {x : Token × Bool}
    (h : x ∈ marked p front ts) : ∃ a b, ts = a ++ x.1 :: b ∧ x.2 = p (front ++ a) x.1 b := by
  obtain ⟨a, b, e⟩ := List.append_of_mem h
  refine ⟨a.map Prod.fst, b.map Prod.fst, ?_, mark_of_marked e⟩
  rw [← map_fst_marked p front ts, e, List.map_append, List.map_cons]

theorem substituted_of_none {ts : List (Token × Bool)} (h : ∀ t ∈ ts, t.2 = false) (target : Sql) :
    substituted target ts = laid (ts.map Prod.fst) := by
  induction ts with
  | nil => rfl
  | cons t ts ih =>
    simp only [List.forall_mem_cons] at h
    simp [h.1, ih h.2]

theorem moved_eq (reference target : Sql) (front ts : List Token) :
    moved reference target front.getLast? ts =
      substituted target (marked (moves reference) front ts) := by
  induction ts generalizing front with
  | nil => rfl
  | cons t ts ih =>
    have rest := ih (front ++ [t])
    rw [List.getLast?_concat] at rest
    rw [moved, rest, marked, substituted_cons]
    rfl

/-- Where more tokens are replaced, by a text that is longer than theirs, the whole is longer. -/
theorem length_substituted_le {target : Sql} {front ts : List Token}
    (long : ∀ t ∈ ts, t.text.length < target.length)
    (sub : ∀ a t b, ts = a ++ t :: b → p (front ++ a) t b = true → q (front ++ a) t b = true) :
    (substituted target (marked p front ts)).length ≤
        (substituted target (marked q front ts)).length ∧
      ((substituted target (marked p front ts)).length =
        (substituted target (marked q front ts)).length →
          marked p front ts = marked q front ts) := by
  induction ts generalizing front with
  | nil => exact ⟨le_rfl, fun _ => rfl⟩
  | cons t ts ih =>
    simp only [List.forall_mem_cons] at long
    have here := sub [] t ts rfl
    rw [List.append_nil] at here
    obtain ⟨le, same⟩ := @ih (front ++ [t]) long.2 fun a u b e => by
      simpa using sub (t :: a) u b (congrArg (t :: ·) e)
    simp only [marked, substituted_cons, List.length_append, List.cons.injEq, Prod.mk.injEq,
      true_and]
    cases hp : p front t ts with
    | true =>
      rw [here hp]
      refine ⟨by simpa using le, fun e => ⟨rfl, same (by simpa using e)⟩⟩
    | false =>
      cases hq : q front t ts with
      | false => refine ⟨by simpa using le, fun e => ⟨rfl, same (by simpa using e)⟩⟩
      | true =>
        have longer := long.1
        simp only [Bool.false_eq_true, if_false, if_true]
        exact ⟨by omega, fun e => by omega⟩

end Marked

end Token

namespace Scan

/-- The text with `target` in place of the tokens that have a property in their places. -/
def replacing (s : Scan) (target : Sql) (p : List Token → Token → List Token → Bool) : Sql :=
  Token.substituted target (Token.marked p [] s.tokens) ++ s.after

theorem replacing_none (s : Scan) (target : Sql) :
    s.replacing target (fun _ _ _ => false) = s.text := by
  have none : ∀ t ∈ Token.marked (fun _ _ _ => false) [] s.tokens, t.2 = false := fun t ht => by
    obtain ⟨_, _, -, mark⟩ := Token.exists_of_mem_marked ht
    exact mark
  rw [replacing, Token.substituted_of_none none, Token.map_fst_marked, text_eq_laid]

/-- All targets tell whether the same tokens are replaced. -/
theorem replacing_eq_iff {s : Scan} {p q : List Token → Token → List Token → Bool}
    (sub : ∀ a t b, s.tokens = a ++ t :: b → p a t b = true → q a t b = true) :
    (∀ target, s.replacing target p = s.replacing target q) ↔
      ∀ a t b, s.tokens = a ++ t :: b → q a t b = true → p a t b = true := by
  constructor
  · intro same a t b e hq
    -- A target longer than all tokens tells from the length of the text how many are replaced.
    let long : Sql := List.replicate ((s.tokens.map fun t => t.text.length).sum + 1) 'x'
    have longer : ∀ t ∈ s.tokens, t.text.length < long.length := fun t ht => by
      have := List.single_le_sum (by simp) _ (List.mem_map_of_mem (f := fun t => t.text.length) ht)
      simp only [long, List.length_replicate]
      omega
    have lengths := congrArg List.length (same long)
    simp only [replacing, List.length_append, Nat.add_right_cancel_iff] at lengths
    have marks := (@Token.length_substituted_le p q _ [] _ longer (by simpa using sub)).2 lengths
    rw [← hq]
    simpa using Token.marked_eq_iff.1 marks a t b e
  · intro back target
    have marks : Token.marked p [] s.tokens = Token.marked q [] s.tokens := by
      refine Token.marked_eq_iff.2 fun a t b e => ?_
      rw [List.nil_append, Bool.eq_iff_iff]
      exact ⟨sub a t b e, back a t b e⟩
    rw [replacing, marks, replacing]

end Scan

/-! ### The two ways to move -/

/-- An expression with its references moved is `moved`, where the reference is written as a name and
where it is that of the source of a projection. -/
structure MovesTo (expression reference target moved : Sql) : Prop where
  replaceAlias : ∀ name scan t, Scan.ofSql name = .ok scan → scan.tokens = [t] → t.isName = true →
    t.meaning = reference → replaceAlias expression name target = .ok moved
  realias : ∀ p : Projection, p.expression = expression → p.source.reference? = some reference →
    p.realias target = .ok moved

theorem movesTo_of_moveReference {expression reference target moved : Sql}
    (h : moveReference expression reference target = .ok moved) :
    MovesTo expression reference target moved where
  replaceAlias name scan t read alone named meaning := by
    subst meaning
    simp only [BulkSql.replaceAlias, read, alone, named, if_true, bind, Except.bind, h]
  realias p e source := by
    subst e
    simp only [Projection.realias, source, h]

theorem moveReference_eq {expression : Sql} {scan : Scan} (read : Scan.ofSql expression = .ok scan)
    (reference target : Sql) :
    moveReference expression reference target =
      .ok (scan.replacing target (Token.moves reference)) := by
  have moved := Token.moved_eq reference target [] scan.tokens
  simp only [moveReference, read, bind, Except.bind, Scan.replacing, ← moved]
  rfl

/-- An expression moves to one text only: a projection can select it. -/
theorem MovesTo.unique {expression reference target moved moved' : Sql}
    (h : MovesTo expression reference target moved)
    (h' : MovesTo expression reference target moved') : moved = moved' := by
  let p : Projection := ⟨[], expression, none, ⟨[], none, some reference⟩⟩
  exact Except.ok.inj ((h.realias p rfl rfl).symm.trans (h'.realias p rfl rfl))

/-- Moving puts the target in place of some names and leaves everything else. These names are the
references of the expression that do not stand behind a single colon, so that all are moved if none
stands there, and only then. -/
theorem moves_occurrences_iff {expression : Sql} {scan : Scan}
    (read : Scan.ofSql expression = .ok scan) (reference : Sql) :
    (∀ target, scan.replacing target (fun _ _ _ => false) = expression) ∧
    (∀ target, MovesTo expression reference target
      (scan.replacing target (Token.moves reference))) ∧
    (∀ front t behind, Token.moves reference front t behind = true ↔
      Token.occurs reference front t behind = true ∧ Token.endInColon front = false) ∧
    ((∀ target, MovesTo expression reference target
        (scan.replacing target (Token.occurs reference))) ↔
      ∀ front t behind, scan.tokens = front ++ t :: behind →
        Token.occurs reference front t behind = true → Token.endInColon front = false) := by
  have moves (target : Sql) : MovesTo expression reference target
      (scan.replacing target (Token.moves reference)) :=
    movesTo_of_moveReference (moveReference_eq read reference target)
  have which (front : List Token) (t : Token) (behind : List Token) :
      Token.moves reference front t behind = true ↔
        Token.occurs reference front t behind = true ∧ Token.endInColon front = false := by
    rw [Token.moves_eq, Bool.and_eq_true, Bool.not_eq_true']
  refine ⟨fun target => ?_, moves, which, ?_⟩
  · rw [Scan.replacing_none]
    exact Scan.text_of_ofSql read
  · have alike : (∀ target, MovesTo expression reference target
          (scan.replacing target (Token.occurs reference))) ↔
        ∀ target, scan.replacing target (Token.moves reference) =
          scan.replacing target (Token.occurs reference) :=
      forall_congr' fun target =>
        ⟨fun h => (moves target).unique h, fun e => e ▸ moves target⟩
    rw [alike, Scan.replacing_eq_iff fun a t b _ h => ((which a t b).1 h).1]
    refine forall₃_congr fun a t b => forall_congr' fun _ => forall_congr' fun occurs => ?_
    simp only [which, occurs, true_and]

/-- A member, a type and a literal are no references, and a cast of the source is one. -/
theorem moves_occurrences_cast :
    ∃ scan, Scan.ofSql "c.a + x.c + c::c || 'c'".toList = .ok scan ∧
      scan.replacing "ut1".toList (Token.occurs ['c']) =
        "ut1.a + x.c + ut1::c || 'c'".toList ∧
      ∀ target, MovesTo "c.a + x.c + c::c || 'c'".toList ['c'] target
        (scan.replacing target (Token.occurs ['c'])) := by
  let scan : Scan :=
    ⟨[⟨.word, [], ['c'], 0, false⟩, ⟨.dot, [], ['.'], 0, false⟩, ⟨.word, [], ['a'], 0, false⟩,
      ⟨.symbol, [' '], ['+'], 0, false⟩, ⟨.word, [' '], ['x'], 0, false⟩,
      ⟨.dot, [], ['.'], 0, false⟩, ⟨.word, [], ['c'], 0, false⟩, ⟨.symbol, [' '], ['+'], 0, false⟩,
      ⟨.word, [' '], ['c'], 0, false⟩, ⟨.symbol, [], [':'], 0, false⟩,
      ⟨.symbol, [], [':'], 0, false⟩, ⟨.word, [], ['c'], 0, false⟩,
      ⟨.symbol, [' '], ['|'], 0, false⟩, ⟨.symbol, [], ['|'], 0, false⟩,
      ⟨.string, [' '], "'c'".toList, 0, false⟩], []⟩
  have read : Scan.ofSql "c.a + x.c + c::c || 'c'".toList = .ok scan := by cbv
  have same : Token.marked (Token.moves ['c']) [] scan.tokens =
      Token.marked (Token.occurs ['c']) [] scan.tokens := by decide
  refine ⟨scan, read, by decide,
    (moves_occurrences_iff read ['c']).2.2.2.2 fun a t b e occurs => ?_⟩
  have moves := (Token.marked_eq_iff.1 same a t b e).trans occurs
  exact (((moves_occurrences_iff read ['c']).2.2.1 a t b).1 moves).2

/-- The bounds of a slice are behind a single colon: a reference to the source is left there. -/
theorem not_movesTo_slice :
    MovesTo "c.a[1:c.n]".toList ['c'] "ut1".toList "ut1.a[1:c.n]".toList ∧
      ∃ scan, Scan.ofSql "c.a[1:c.n]".toList = .ok scan ∧
        scan.replacing "ut1".toList (Token.occurs ['c']) = "ut1.a[1:ut1.n]".toList ∧
        ¬ MovesTo "c.a[1:c.n]".toList ['c'] "ut1".toList
          (scan.replacing "ut1".toList (Token.occurs ['c'])) := by
  let scan : Scan :=
    ⟨[⟨.word, [], ['c'], 0, false⟩, ⟨.dot, [], ['.'], 0, false⟩, ⟨.word, [], ['a'], 0, false⟩,
      ⟨.symbol, [], ['['], 0, false⟩, ⟨.number, [], ['1'], 0, false⟩,
      ⟨.symbol, [], [':'], 0, false⟩, ⟨.word, [], ['c'], 0, false⟩, ⟨.dot, [], ['.'], 0, false⟩,
      ⟨.word, [], ['n'], 0, false⟩, ⟨.symbol, [], [']'], 0, false⟩], []⟩
  have read : Scan.ofSql "c.a[1:c.n]".toList = .ok scan := by cbv
  have left : scan.replacing "ut1".toList (Token.moves ['c']) = "ut1.a[1:c.n]".toList := by decide
  have all : scan.replacing "ut1".toList (Token.occurs ['c']) = "ut1.a[1:ut1.n]".toList := by decide
  have moves : MovesTo "c.a[1:c.n]".toList ['c'] "ut1".toList "ut1.a[1:c.n]".toList := by
    rw [← left]
    exact movesTo_of_moveReference (moveReference_eq read _ _)
  refine ⟨moves, scan, read, all, fun h => ?_⟩
  have e := moves.unique h
  rw [all] at e
  revert e
  decide

end BulkSql
