import BulkSql.Proofs.Slicing
import BulkSql.Proofs.Unreadable

/-!
Which tokens of a query text are read when it is taken apart. Taking it apart fails if one of these is
cut, for a token that is cut cannot be sliced; otherwise it has a result or says why there is none.
-/
namespace BulkSql

/-- A reading of some tokens: it stops at a cut token exactly if one of them is cut. -/
def Asks {α : Type} (ts : List Token) (x : Except Error α) : Prop :=
  x = .error .cutToken ↔ ∃ t ∈ ts, t.cut = true

namespace Asks

variable {α β : Type} {ts : List Token} {x : Except Error α}

theorem ok (a : α) : Asks [] (.ok a : Except Error α) := by simp [Asks]

theorem unsupported (why : Unsupported) : Asks [] (.error (.unsupported why) : Except Error α) := by
  simp [Asks]

theorem mapError (x : Except Unsupported α) : Asks [] (x.mapError .unsupported) := by
  cases x with
  | error why => exact unsupported why
  | ok a => exact ok a

/-- What a later reading asks for counts where the earlier one has a result. -/
theorem bind {f : α → Except Error β} {vs : α → List Token} (hx : Asks ts x)
    (hf : ∀ a, x = .ok a → Asks (vs a) (f a)) :
    Asks (ts ++ x.toOption.elim [] vs) (x >>= f) := by
  unfold Asks at hx hf ⊢
  simp only [List.mem_append, or_and_right, exists_or, ← hx]
  cases x with
  | error e => simp [Bind.bind, Except.bind, Except.toOption]
  | ok a => simpa [Bind.bind, Except.bind, Except.toOption] using hf a rfl

/-- A later reading that asks for nothing new. -/
theorem bind_again {f : α → Except Error β} (hx : Asks ts x)
    (hf : ∀ a, ∃ us ⊆ ts, Asks us (f a)) : Asks ts (x >>= f) := by
  cases x with
  | error e => simpa [Asks, Bind.bind, Except.bind] using hx
  | ok a =>
    obtain ⟨us, known, later⟩ := hf a
    have uncut : ¬ ∃ t ∈ ts, t.cut = true := mt hx.2 nofun
    exact iff_of_false (fun failed => uncut ((later.1 failed).imp fun _ h => h.imp_left (known ·)))
      uncut

/-- A later reading that asks for nothing. -/
theorem bind_silent {f : α → Except Error β} (hx : Asks ts x) (hf : ∀ a, Asks [] (f a)) :
    Asks ts (x >>= f) :=
  hx.bind_again fun a => ⟨[], List.nil_subset _, hf a⟩

theorem map (f : α → β) (h : Asks ts x) : Asks ts (f <$> x) := by
  unfold Asks at h ⊢
  rw [← h]
  cases x <;> simp [Functor.map, Except.map]

/-! ### Tokens -/

theorem read (t : Token) : Asks [t] t.read := by
  cases cut : t.cut <;> simp [Asks, Token.read, cut]

theorem readMeaning (t : Token) : Asks [t] t.readMeaning := by
  cases cut : t.cut <;> simp [Asks, Token.readMeaning, cut]

end Asks

namespace Token

/-- The token where it is a word: of others no keyword is read. -/
def ifWord (t : Token) : List Token := if t.kind = .word then [t] else []

/-- The words that are read on the way to the first `keyword` outside of all parentheses. -/
def askedAt (keyword : String) : List Token → List Token
  | [] => []
  | t :: ts =>
    if t.depth = 0 then t.ifWord ++ if t.isKeyword keyword then [] else askedAt keyword ts
    else askedAt keyword ts

end Token

namespace Asks

theorem reads (t : Token) (keyword : String) : Asks t.ifWord (t.reads keyword) := by
  cases cut : t.cut <;> by_cases word : t.kind = .word <;>
    simp [Asks, Token.reads, Token.ifWord, cut, word]

theorem readsAny (t : Token) (keywords : List String) :
    Asks t.ifWord (t.readsAny keywords) := by
  cases cut : t.cut <;> by_cases word : t.kind = .word <;>
    simp [Asks, Token.readsAny, Token.ifWord, cut, word]

theorem reads_cases (t : Token) (keyword : String) :
    (t.kind = .word ∧ t.cut = true ∧ t.reads keyword = .error .cutToken) ∨
      t.reads keyword = .ok (t.isKeyword keyword) := by
  unfold Token.reads
  split
  · next cut => exact .inl ⟨cut.1, cut.2, rfl⟩
  · exact .inr rfl

theorem splitAt? (keyword : String) (ts : List Token) :
    Asks (Token.askedAt keyword ts) (Token.splitAt? keyword ts) := by
  induction ts with
  | nil => exact ok _
  | cons t ts ih =>
    unfold Token.askedAt Token.splitAt?
    split
    · rcases reads_cases t keyword with ⟨word, cut, stopped⟩ | read
      · rw [stopped]
        exact iff_of_true rfl ⟨t, by simp [Token.ifWord, word], cut⟩
      · have asks := reads t keyword
        rw [read] at asks ⊢
        refine @bind _ _ _ _ _ (fun found => if found then [] else Token.askedAt keyword ts) asks ?_
        intro found _
        cases found with
        | true => exact ok _
        | false => exact ih.map _
    · exact ih.map _

end Asks

/-! ### Sources -/

namespace Source

/-- The token that is read of the source itself: the last part of a table name, or what is neither a
name nor a parenthesis. -/
def itemAsked : List Token → List Token
  | [] => []
  | t :: rest =>
    if t.kind = .openParen then [] else if t.isName then [(nameParts rest).1.getLastD t] else [t]

/-- The word behind the source, which can be AS or an alias. -/
def wordAsked : List Token → List Token
  | [] => []
  | t :: _ => t.ifWord

/-- The word behind the alias, which can start a further source. -/
def joinAsked : List Token → List Token
  | [] => []
  | t :: _ => if t.depth = 0 then t.ifWord else []

/-- The tokens that are read of a source; the alias is the last of them. -/
def asked (ts : List Token) : List Token :=
  itemAsked ts ++ (item ts).toOption.elim [] fun (_, _, rest) =>
    wordAsked rest ++ (aliasToken rest).toOption.elim [] fun (named, rest) =>
      joinAsked rest ++ (checkSingle rest).toOption.elim [] fun _ => named.toList

end Source

namespace Asks

theorem item (ts : List Token) : Asks (Source.itemAsked ts) (Source.item ts) := by
  cases ts with
  | nil => exact unsupported _
  | cons t rest =>
    by_cases paren : t.kind = .openParen
    · simp only [Source.itemAsked, Source.item, if_pos paren]
      split
      · exact unsupported _
      · exact ok _
    · simp only [Source.itemAsked, Source.item, if_neg paren]
      by_cases name : t.isName = true
      · rw [if_pos name, if_pos name]
        exact (readMeaning _).map _
      · rw [if_neg name, if_neg name]
        exact (read t).bind_silent fun _ => unsupported _

theorem aliasToken (ts : List Token) : Asks (Source.wordAsked ts) (Source.aliasToken ts) := by
  cases ts with
  | nil => exact ok _
  | cons t rest =>
    refine (reads t "as").bind_again fun found => ?_
    cases found with
    | true =>
      refine ⟨[], List.nil_subset _, ?_⟩
      simp only [if_true]
      split
      · split
        · exact ok _
        · exact unsupported _
      · exact unsupported _
    | false =>
      simp only [Bool.false_eq_true, if_false]
      split
      · exact ⟨[], List.nil_subset _, ok _⟩
      · split
        · refine ⟨_, List.Subset.refl _, (readsAny t sourceTailWords).bind_silent fun found => ?_⟩
          cases found with
          | true => exact ok _
          | false => exact ok _
        · exact ⟨[], List.nil_subset _, ok _⟩

theorem checkSingle (ts : List Token) : Asks (Source.joinAsked ts) (Source.checkSingle ts) := by
  cases ts with
  | nil => exact ok _
  | cons t rest =>
    simp only [Source.joinAsked, Source.checkSingle]
    split
    · split
      · next comma =>
        rw [Token.ifWord, if_neg (by simp [comma])]
        exact unsupported _
      · refine (readsAny t joinWords).bind_silent fun found => ?_
        cases found with
        | true => exact unsupported _
        | false => exact ok _
    · exact ok _

theorem source (ts : List Token) : Asks (Source.asked ts) (Source.ofTokens ts) := by
  refine (item ts).bind fun ⟨text, table, rest⟩ _ => (aliasToken rest).bind fun ⟨named, rest⟩ _ =>
    (checkSingle rest).bind fun _ _ => ?_
  cases named with
  | none => exact ok _
  | some t => exact (read t).bind_again fun _ => ⟨_, List.Subset.refl _, (readMeaning t).map _⟩

end Asks

/-! ### What is read of the tokens -/

theorem elim_toOption_subset {α : Type} {x : Except Error α} {us : α → List Token}
    {ts : List Token} (h : ∀ a, x = .ok a → us a ⊆ ts) : x.toOption.elim [] us ⊆ ts := by
  cases x with
  | error e => exact List.nil_subset _
  | ok a => exact h a rfl

namespace Token

theorem ifWord_subset (t : Token) (ts : List Token) : t.ifWord ⊆ t :: ts := by
  unfold ifWord
  split <;> simp

theorem askedAt_subset (keyword : String) (ts : List Token) : askedAt keyword ts ⊆ ts := by
  induction ts with
  | nil => exact List.Subset.refl _
  | cons t ts ih =>
    unfold askedAt
    split
    · refine List.append_subset.2 ⟨t.ifWord_subset ts, ?_⟩
      split
      · exact List.nil_subset _
      · exact List.subset_cons_of_subset t ih
    · exact List.subset_cons_of_subset t ih

theorem kind_of_isKeyword {keyword : String} {t : Token} (h : t.isKeyword keyword = true) :
    t.kind = .word := by
  simp only [isKeyword, Bool.and_eq_true, beq_iff_eq] at h
  exact h.1

/-- Tokens are split at the first such keyword that is outside of all parentheses. -/
theorem splitAt?_cases {keyword : String} {ts front behind : List Token}
    (h : splitAt? keyword ts = .ok (some (front, behind))) :
    ∃ t, ts = front ++ t :: behind ∧ t.isKeyword keyword = true ∧ t.depth = 0 ∧ t.cut = false ∧
      ∀ u ∈ front, u.depth = 0 → u.isKeyword keyword = false := by
  induction ts generalizing front with
  | nil => cases h
  | cons t ts ih =>
    have later (own : t.depth = 0 → t.isKeyword keyword = false)
        (h : (splitAt? keyword ts).map (Option.map fun split => (t :: split.1, split.2)) =
          .ok (some (front, behind))) :
        ∃ u, t :: ts = front ++ u :: behind ∧ u.isKeyword keyword = true ∧ u.depth = 0 ∧
          u.cut = false ∧ ∀ v ∈ front, v.depth = 0 → v.isKeyword keyword = false := by
      obtain ⟨_ | ⟨a, b⟩, found, e⟩ := map_eq_ok_iff.1 h
      · cases e
      · cases e
        obtain ⟨u, rfl, is, outside, uncut, before⟩ := ih found
        exact ⟨u, rfl, is, outside, uncut, List.forall_mem_cons.2 ⟨own, before⟩⟩
    unfold splitAt? at h
    split at h
    · next outside =>
      obtain ⟨found, read, h⟩ := bind_eq_ok_iff.1 h
      obtain ⟨solid, is⟩ := reads_eq_ok_iff.1 read
      cases found with
      | true =>
        cases h
        exact ⟨t, rfl, is, outside, solid (kind_of_isKeyword is), by simp⟩
      | false => exact later (fun _ => is) h
    · next inside => exact later (fun outside => absurd outside inside) h

end Token

namespace Source

theorem nameParts_append (ts : List Token) : (nameParts ts).1 ++ (nameParts ts).2 = ts := by
  fun_induction nameParts ts with
  | case1 => rfl
  | case2 => rfl
  | case3 dot part rest parts ih => simp [ih]
  | case4 => rfl

/-- What a run of tokens stops at. -/
theorem exists_of_takeWhile {p : Token → Bool} {ts behind : List Token} {t : Token}
    (e : ts.drop (ts.takeWhile p).length = t :: behind) :
    ts = ts.takeWhile p ++ t :: behind ∧ p t = false := by
  induction ts with
  | nil => cases e
  | cons u us ih =>
    cases stops : p u with
    | false =>
      rw [List.takeWhile_cons_of_neg (by simp [stops])] at e ⊢
      obtain ⟨rfl, rfl⟩ := List.cons.inj e
      exact ⟨rfl, stops⟩
    | true =>
      rw [List.takeWhile_cons_of_pos stops] at e ⊢
      obtain ⟨whole, last⟩ := ih e
      exact ⟨congrArg (u :: ·) whole, last⟩

/-- The last part of a name is its first part, or the last one behind that. -/
theorem cons_eq_concat (t : Token) (parts : List Token) :
    t :: parts = (t :: parts).dropLast ++ [parts.getLastD t] := by
  rw [← List.getLast_eq_getLastD (List.cons_ne_nil _ _), List.dropLast_append_getLast]

/-- A source is a query, up to the first parenthesis that closes it, or the name of a table, of
which the last part is read. -/
theorem item_cases {t : Token} {ts rest : List Token} {text : Sql} {name : Option Sql}
    (h : item (t :: ts) = .ok (text, name, rest)) :
    (t.kind = .openParen ∧ ∃ inside close, ts = inside ++ close :: rest ∧
      (∀ u ∈ inside, (!(u.kind == .closeParen && u.depth == t.depth)) = true) ∧
      close.kind = .closeParen ∧ close.depth = t.depth ∧
      text = Token.textOf (t :: (inside ++ [close])) ∧ name = none) ∨
    (t.kind ≠ .openParen ∧ t.isName = true ∧ rest = (nameParts ts).2 ∧
      text = Token.textOf (t :: (nameParts ts).1) ∧ ∃ meaning,
      ((nameParts ts).1.getLastD t).readMeaning = .ok meaning ∧ name = some meaning) := by
  by_cases paren : t.kind = .openParen
  · simp only [item, if_pos paren] at h
    split at h
    · cases h
    · next close behind e =>
      cases h
      obtain ⟨whole, last⟩ := exists_of_takeWhile e
      simp only [Bool.not_eq_false', Bool.and_eq_true, beq_iff_eq] at last
      exact .inl ⟨paren, _, close, whole, fun u => List.mem_takeWhile_imp, last.1, last.2, rfl,
        rfl⟩
  · simp only [item, if_neg paren] at h
    by_cases named : t.isName = true
    · rw [if_pos named] at h
      obtain ⟨meaning, read, e⟩ := map_eq_ok_iff.1 h
      cases e
      exact .inr ⟨paren, named, rfl, rfl, meaning, read, rfl⟩
    · rw [if_neg named] at h
      obtain ⟨_, -, e⟩ := bind_eq_ok_iff.1 h
      cases e

/-- A source is what stands up to a name that is read or to a parenthesis. -/
theorem exists_of_item {ts rest : List Token} {text : Sql} {name : Option Sql}
    (h : item ts = .ok (text, name, rest)) :
    ∃ init last, ts = init ++ last :: rest ∧ text = Token.textOf (init ++ [last]) ∧
      (last.cut = false ∨ last.kind = .closeParen) := by
  cases ts with
  | nil => cases h
  | cons t ts =>
    rcases item_cases h with ⟨-, inside, close, rfl, -, closes, -, text, -⟩ |
        ⟨-, -, rfl, text, meaning, read, -⟩
    · exact ⟨t :: inside, close, rfl, text, .inr closes⟩
    · have last := cons_eq_concat t (nameParts ts).1
      refine ⟨_, (nameParts ts).1.getLastD t, ?_, text.trans (congrArg Token.textOf last), .inl ?_⟩
      · rw [List.append_cons, ← last, List.cons_append, nameParts_append]
      · exact (Token.readMeaning_eq_ok_iff.1 read).1

theorem itemAsked_subset (ts : List Token) : itemAsked ts ⊆ ts := by
  cases ts with
  | nil => exact List.Subset.refl _
  | cons t ts =>
    have part : (nameParts ts).1.getLastD t ∈ t :: ts := by
      refine List.cons_subset_cons t ?_ List.getLastD_mem_cons
      exact List.IsPrefix.subset ⟨_, nameParts_append ts⟩
    simp only [itemAsked]
    split
    · exact List.nil_subset _
    · split
      · exact List.cons_subset.2 ⟨part, List.nil_subset _⟩
      · exact List.cons_subset.2 ⟨List.mem_cons_self, List.nil_subset _⟩

theorem aliasToken_subset {ts rest : List Token} {named : Option Token}
    (h : aliasToken ts = .ok (named, rest)) : named.toList ++ rest ⊆ ts := by
  cases ts with
  | nil =>
    cases h
    exact List.Subset.refl _
  | cons t ts =>
    obtain ⟨found, -, h⟩ := bind_eq_ok_iff.1 h
    cases found with
    | true =>
      simp only [if_true] at h
      split at h
      · split at h
        · cases h
          exact List.subset_cons_self _ _
        · cases h
      · cases h
    | false =>
      simp only [Bool.false_eq_true, if_false] at h
      split at h
      · cases h
        exact List.Subset.refl _
      · split at h
        · obtain ⟨tail, -, h⟩ := bind_eq_ok_iff.1 h
          cases tail <;> cases h <;> exact List.Subset.refl _
        · cases h
          exact List.Subset.refl _

theorem asked_subset (ts : List Token) : asked ts ⊆ ts := by
  have word (ts : List Token) : wordAsked ts ⊆ ts := by
    cases ts with
    | nil => exact List.Subset.refl _
    | cons t ts => exact t.ifWord_subset ts
  have join (ts : List Token) : joinAsked ts ⊆ ts := by
    cases ts with
    | nil => exact List.Subset.refl _
    | cons t ts =>
      simp only [joinAsked]
      split
      · exact t.ifWord_subset ts
      · exact List.nil_subset _
  refine List.append_subset.2 ⟨itemAsked_subset ts, ?_⟩
  refine elim_toOption_subset fun ⟨text, name, rest⟩ found => ?_
  obtain ⟨init, last, rfl, -⟩ := exists_of_item found
  have behind : rest ⊆ init ++ last :: rest :=
    List.subset_append_of_subset_right _ (List.subset_cons_self _ _)
  refine List.Subset.trans (List.append_subset.2 ⟨word rest, ?_⟩) behind
  refine elim_toOption_subset fun ⟨named, rest'⟩ found => ?_
  have parts := List.append_subset.1 (aliasToken_subset found)
  refine List.append_subset.2 ⟨List.Subset.trans (join rest') parts.2, ?_⟩
  exact elim_toOption_subset fun _ _ => parts.1

end Source

/-! ### Query texts -/

/-- The tokens of its statement that a derived table is read from. -/
def DerivedQuery.asked (ts : List Token) : List Token :=
  Token.askedAt "from" ts ++ (Token.splitAt? "from" ts).toOption.elim [] fun parts =>
    parts.elim [] fun (_, behind) => Source.asked behind

/-- The tokens of its statement that a projection is read from. The selected column is not read, but
sliced as a whole. -/
def Projection.asked (ts : List Token) : List Token :=
  Token.askedAt "from" ts ++ (Token.splitAt? "from" ts).toOption.elim [] fun parts =>
    parts.elim [] fun (front, behind) =>
      ((checkColumn (front.drop 1)).mapError Error.unsupported).toOption.elim [] fun _ =>
        Source.asked behind

namespace Asks

theorem derived {s : Sql} {body : Body} (h : Body.ofSql (splitPrelude s).2 = .ok body) :
    Asks (DerivedQuery.asked body.tokens) (DerivedQuery.ofSql s) := by
  unfold DerivedQuery.ofSql DerivedQuery.asked
  generalize splitPrelude s = split at h ⊢
  simp only [h]
  refine (splitAt? "from" body.tokens).bind fun parts _ => ?_
  cases parts with
  | none => exact unsupported _
  | some parts => exact (source parts.2).map _

theorem projection {s : Sql} {body : Body} (h : Body.ofSql (splitPrelude s).2 = .ok body) :
    Asks (Projection.asked body.tokens) (Projection.ofSql s) := by
  unfold Projection.ofSql Projection.asked
  generalize splitPrelude s = split at h ⊢
  simp only [h]
  refine (splitAt? "from" body.tokens).bind fun parts _ => ?_
  cases parts with
  | none => exact unsupported _
  | some parts =>
    exact (mapError (Projection.checkColumn (parts.1.drop 1))).bind fun _ _ => (source parts.2).map _

end Asks

theorem Token.splitAt?_subset {ts front behind : List Token}
    (found : splitAt? "from" ts = .ok (some (front, behind))) : behind ⊆ ts := by
  obtain ⟨t, rfl, -⟩ := splitAt?_cases found
  exact List.subset_append_of_subset_right _ (List.subset_cons_self t behind)

theorem DerivedQuery.asked_subset (ts : List Token) : asked ts ⊆ ts := by
  refine List.append_subset.2 ⟨Token.askedAt_subset "from" ts, ?_⟩
  refine elim_toOption_subset fun parts found => ?_
  cases parts with
  | none => exact List.nil_subset _
  | some parts => exact List.Subset.trans (Source.asked_subset _) (Token.splitAt?_subset found)

theorem Projection.asked_subset (ts : List Token) : asked ts ⊆ ts := by
  refine List.append_subset.2 ⟨Token.askedAt_subset "from" ts, ?_⟩
  refine elim_toOption_subset fun parts found => ?_
  cases parts with
  | none => exact List.nil_subset _
  | some parts =>
    refine elim_toOption_subset fun _ _ => ?_
    exact List.Subset.trans (Source.asked_subset _) (Token.splitAt?_subset found)

/-! ### Where taking apart fails -/

theorem Setting.readAll_suffix (s : Sql) : (readAll s).2 <:+ s := by
  fun_induction readAll s with
  | case1 s x rest found ih =>
    obtain ⟨whole, -⟩ := read?_suffix found
    exact ih.trans (List.IsSuffix.trans ⟨x.statement, whole⟩ (trimStart_suffix s))
  | case2 => exact List.suffix_refl _

theorem splitPrelude_suffix (s : Sql) : (splitPrelude s).2 <:+ s := by
  unfold splitPrelude
  dsimp only
  split
  · exact List.suffix_refl _
  · exact (Setting.trimStart_suffix _).trans (Setting.readAll_suffix s)

/-- What a query text is decomposed into, by a reading that asks for some tokens of its statement. -/
structure Decomposes {α : Type} (s : Sql) (asked : List Token → List Token)
    (x : Except Error α) : Prop where
  /-- There is a result, or a reason why the text is not supported, or a token is cut. -/
  reading : Reading x
  /-- The last happens exactly where one of the tokens cannot be sliced. -/
  stops : x = .error .cutToken ↔ ∃ body, Body.ofSql (splitPrelude s).2 = .ok body ∧
    ∃ front t behind, body.tokens = front ++ t :: behind ∧ t ∈ asked body.tokens ∧
      t.slice? body.text front = none
  /-- It never does where all white space of the text separates tokens. -/
  plain : (∀ c ∈ s, isBlank c = true → isGap c = true) → x ≠ .error .cutToken

theorem Decomposes.of_asks {α : Type} {s : Sql} {asked : List Token → List Token}
    {x : Except Error α} (reading : Reading x) (inside : ∀ ts, asked ts ⊆ ts)
    (asks : ∀ body, Body.ofSql (splitPrelude s).2 = .ok body → Asks (asked body.tokens) x)
    (fails : ∀ why, Body.ofSql (splitPrelude s).2 = .error why → x = .error (.unsupported why)) :
    Decomposes s asked x := by
  have cut : x = .error .cutToken ↔ ∃ body, Body.ofSql (splitPrelude s).2 = .ok body ∧
      ∃ t ∈ asked body.tokens, t.cut = true := by
    cases made : Body.ofSql (splitPrelude s).2 with
    | error why => simp [fails why made]
    | ok body => simpa [Asks] using asks body made
  refine ⟨reading, cut.trans (exists_congr fun body => and_congr_right fun made => ?_), ?_⟩
  · constructor
    · rintro ⟨t, ht, own⟩
      obtain ⟨front, behind, e⟩ := List.append_of_mem (inside _ ht)
      exact ⟨front, t, behind, e, ht, by rw [Body.slice?_eq made e, if_pos own]⟩
    · rintro ⟨front, t, behind, e, ht, none⟩
      refine ⟨t, ht, Bool.of_not_eq_false fun uncut => ?_⟩
      rw [Body.slice?_eq made e, uncut] at none
      cases none
  · intro gaps stopped
    obtain ⟨body, made, t, ht, own⟩ := cut.1 stopped
    have mem := inside _ ht
    obtain ⟨-, u, c, text, blank, kept⟩ := Body.exists_blank_of_cut made mem own
    have part : c ∈ s := (splitPrelude_suffix s).subset
      (Body.text_subset made mem (text ▸ List.mem_append_right u (List.mem_singleton_self c)))
    rw [gaps c part blank] at kept
    cases kept

/-! ### What is sliced -/

namespace Projection

/-- The selected column without its alias is the front of it. -/
theorem exists_of_splitAlias {ts : List Token} (ne : ts ≠ []) :
    ∃ init last behind, ts = init ++ last :: behind ∧ (splitAlias ts).1 = init ++ [last] ∧
      ∀ name ∈ (splitAlias ts).2, name ∈ ts := by
  have whole : ∃ init last behind, ts = init ++ last :: behind ∧ ts = init ++ [last] := by
    obtain ⟨init, last, rfl⟩ := (List.eq_nil_or_concat ts).resolve_left ne
    exact ⟨init, last, [], by simp⟩
  unfold splitAlias
  split
  · next name word t us e =>
    have e : ts = us.reverse ++ t :: [word, name] := by
      simpa using congrArg List.reverse e
    split
    · exact ⟨us.reverse, t, [word, name], e, by simp, by simp [e]⟩
    · simpa using whole
  · simpa using whole

end Projection

theorem Body.not_cut_of_closeParen {s : Sql} {body : Body} (h : ofSql s = .ok body) {t : Token}
    (ht : t ∈ body.tokens) (paren : t.kind = .closeParen) : t.cut = false := by
  refine Bool.eq_false_iff.2 fun cut => ?_
  have kind := (exists_blank_of_cut h ht cut).1
  simp [paren] at kind

/-- The source and its alias are sliced from the text. -/
theorem Source.slices {s : Sql} {body : Body} (h : Body.ofSql s = .ok body)
    {front ts : List Token} (e : body.tokens = front ++ ts) {source : Source}
    (made : ofTokens ts = .ok source) :
    body.Slices source.text ∧ ∀ a ∈ source.alias?, body.Slices a := by
  obtain ⟨text, table, rest, named, rest', found, aliased, -, solid, rfl⟩ :=
    ofTokens_eq_ok_iff.1 made
  obtain ⟨init, last, whole, rfl, read⟩ := exists_of_item found
  have uncut : last.cut = false :=
    read.elim id (Body.not_cut_of_closeParen h (by simp [e, whole]))
  refine ⟨Body.slices_textOf h (by rw [e, whole]) uncut, fun a ha => ?_⟩
  obtain ⟨t, ht, rfl⟩ := Option.mem_map.1 ha
  have mem : t ∈ body.tokens := by
    have known : t ∈ rest := aliasToken_subset aliased (by simp [Option.mem_def.1 ht])
    simp [e, whole, known]
  exact Body.slices_text h mem (solid t ht)

/-- So are the parts of a projection. -/
theorem Projection.slices {s : Sql} {p : Projection} (h : ofSql s = .ok p) :
    ∃ body, Body.ofSql (splitPrelude s).2 = .ok body ∧ body.Slices p.expression ∧
      (∀ a ∈ p.columnAlias?, body.Slices a) ∧ body.Slices p.source.text ∧
      ∀ a ∈ p.source.alias?, body.Slices a := by
  obtain ⟨body, front, behind, source, made, found, checked, read, rfl⟩ := ofSql_eq_ok_iff.1 h
  have column : front.drop 1 ≠ [] := by
    intro none
    rw [none] at checked
    cases checked
  obtain ⟨init, last, rest, split, expression, known⟩ := exists_of_splitAlias column
  obtain ⟨t, whole, -, -, uncut, -⟩ := Token.splitAt?_cases found
  have before := Body.not_cut_of_before made whole uncut
  have inside := List.drop_subset 1 front
  have parts : front = front.take 1 ++ (init ++ last :: rest) := by
    rw [← split, List.take_append_drop]
  have tokens : body.tokens = front.take 1 ++ (init ++ last :: (rest ++ t :: behind)) :=
    whole.trans ((congrArg (· ++ t :: behind) parts).trans (by simp))
  have source : body.tokens = (front ++ [t]) ++ behind := by simpa using whole
  obtain ⟨range, named⟩ := Source.slices made source read
  refine ⟨body, made, ?_, fun a ha => ?_, range, named⟩
  · dsimp only
    rw [expression]
    exact Body.slices_textOf made tokens (before last (inside (by simp [split])))
  · obtain ⟨name, found, rfl⟩ := Option.mem_map.1 ha
    have mem := inside (known name found)
    exact Body.slices_text made (by simp [whole, mem]) (before name mem)

theorem DerivedQuery.slices {s : Sql} {derived : DerivedQuery} (h : ofSql s = .ok derived) :
    ∃ body, Body.ofSql (splitPrelude s).2 = .ok body ∧ derived.body = body.text ∧
      ∀ a ∈ derived.sourceAlias?, body.Slices a := by
  obtain ⟨body, front, behind, source, made, found, read, rfl⟩ := ofSql_eq_ok_iff.1 h
  obtain ⟨t, whole, -⟩ := Token.splitAt?_cases found
  have source : body.tokens = (front ++ [t]) ++ behind := by simpa using whole
  exact ⟨body, made, rfl, (Source.slices made source read).2⟩

namespace Decomposes

theorem derived (s : Sql) : Decomposes s DerivedQuery.asked (DerivedQuery.ofSql s) := by
  refine .of_asks (Reading.derived s) DerivedQuery.asked_subset (fun _ made => Asks.derived made) ?_
  intro why failed
  unfold DerivedQuery.ofSql
  generalize splitPrelude s = split at failed ⊢
  simp only [failed]
  rfl

theorem projection (s : Sql) : Decomposes s Projection.asked (Projection.ofSql s) := by
  refine .of_asks (Reading.projection s) Projection.asked_subset
    (fun _ made => Asks.projection made) ?_
  intro why failed
  unfold Projection.ofSql
  generalize splitPrelude s = split at failed ⊢
  simp only [failed]
  rfl

end Decomposes

/-- A name in quotes has both of them. -/
theorem Scan.exists_quoted {s : Sql} {scan : Scan} (h : ofSql s = .ok scan) {t : Token}
    (ht : t ∈ scan.tokens) (quoted : t.kind = .quotedName) : ∃ u, t.text = '"' :: (u ++ ['"']) := by
  have form := wellFormed_of_ofSql h t ht
  rw [quoted] at form
  generalize t.text = text at form ⊢
  cases form with
  | quotedName tail =>
    obtain ⟨u, rfl⟩ := Lexeme.exists_quotedTail_eq tail
    exact ⟨u, rfl⟩

/-- Decomposing a text gives a result or says why the text is not supported, but for a token that
cannot be sliced, because it ends in white space that was taken off the text and that a word is made
of. Everything else is sliced inside the text and between its characters: the tokens of the text that
references are moved in, and what is found of a query. -/
theorem decomposes (s : Sql) :
    (splitPrelude s).2 <:+ s ∧
    Decomposes s DerivedQuery.asked (DerivedQuery.ofSql s) ∧
    Decomposes s Projection.asked (Projection.ofSql s) ∧
    (∀ derived, DerivedQuery.ofSql s = .ok derived →
      ∃ body, Body.ofSql (splitPrelude s).2 = .ok body ∧ derived.body = body.text ∧
        ∀ a ∈ derived.sourceAlias?, body.Slices a) ∧
    (∀ p, Projection.ofSql s = .ok p →
      ∃ body, Body.ofSql (splitPrelude s).2 = .ok body ∧ body.Slices p.expression ∧
        (∀ a ∈ p.columnAlias?, body.Slices a) ∧ body.Slices p.source.text ∧
        ∀ a ∈ p.source.alias?, body.Slices a) ∧
    ∀ scan, Scan.ofSql s = .ok scan → ∀ front t behind, scan.tokens = front ++ t :: behind →
      t.slice? s front = some t.text ∧
        (t.kind = .quotedName → ∃ u, t.text = '"' :: (u ++ ['"'])) :=
  ⟨splitPrelude_suffix s, .derived s, .projection s, fun _ => DerivedQuery.slices,
    fun _ => Projection.slices, fun _ read _ _ _ e =>
      ⟨Scan.slice?_of_ofSql read e, Scan.exists_quoted read (by simp [e])⟩⟩

/-- A query text with a name in quotes, whose white space all separates tokens. -/
def quotedQuery : Sql := "SELECT upper(c.\"i d\") AS n\nFROM t AS c ; ".toList

/-- Its column, with the quotes, and the name of its table are slices of it. -/
theorem decomposes_quotedQuery :
    DerivedQuery.ofSql quotedQuery ≠ .error .cutToken ∧
    ∃ p body, Projection.ofSql quotedQuery = .ok p ∧ p.expression = "upper(c.\"i d\")".toList ∧
      Body.ofSql (splitPrelude quotedQuery).2 = .ok body ∧ body.Slices p.expression ∧
      body.Slices p.source.text := by
  obtain ⟨-, derived, -, -, parts, -⟩ := decomposes quotedQuery
  have gaps : quotedQuery.all (fun c => !isBlank c || isGap c) = true := by cbv
  simp only [List.all_eq_true, Bool.or_eq_true, Bool.not_eq_true', ← Bool.not_eq_true,
    ← imp_iff_not_or] at gaps
  have read : Projection.ofSql quotedQuery = .ok ⟨[], "upper(c.\"i d\")".toList, some ['n'],
      ⟨['t'], some ['c'], some ['c']⟩⟩ := by decide +kernel
  obtain ⟨body, made, column, -, table, -⟩ := parts _ read
  exact ⟨derived.plain gaps, _, body, read, rfl, made, column, table⟩

/-- The no-break space behind the name of a table is a part of the name, but not of the text that the
name is sliced from. -/
theorem not_decomposes_noBreakSpace :
    DerivedQuery.ofSql "SELECT c.id FROM t\u00a0".toList = .error .cutToken ∧
      Projection.ofSql "SELECT c.id FROM t\u00a0".toList = .error .cutToken := by
  decide +kernel

end BulkSql
