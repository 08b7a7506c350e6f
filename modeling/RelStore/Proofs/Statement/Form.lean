import RelStore.Proofs.Statement.Read

/-!
Statements against their forms. What is read off a row of tokens is the statement of a form that
stands there, every form is read, and no row of tokens is a form in two ways.
-/

namespace RelStore.Statement
set_option autoImplicit false

variable {tokens rest : List Token} {s : Statement}

section Sound

theorem exists_phrase_of_readCreateTable (k₁ : KeywordForm .create)
    (h : readCreateTable tokens = .ok (s, rest)) :
    ∃ p : Phrase, p.statement = s ∧ k₁.token :: tokens = p.tokens ++ rest := by
  obtain ⟨tokens₁, h₁, h⟩ := bind_eq_ok.1 h
  obtain ⟨⟨table, tokens₂⟩, h₂, h⟩ := bind_eq_ok.1 h
  obtain ⟨tokens₃, h₃, h⟩ := bind_eq_ok.1 h
  obtain ⟨⟨columns, tokens₄⟩, h₄, h⟩ := bind_eq_ok.1 h
  obtain ⟨tokens₅, h₅, h⟩ := bind_eq_ok.1 h
  obtain ⟨⟨key, tokens₆⟩, h₆, h⟩ := bind_eq_ok.1 h
  cases h
  obtain ⟨k₂, h₁⟩ := readKeyword_eq_ok.1 h₁
  obtain ⟨forms, hne, hcolumns, h₄⟩ := exists_columns_of_read h₄
  obtain ⟨keyForm, hkey, h₆⟩ := exists_key_of_read h₆
  refine ⟨.createTable k₁ k₂ table forms hne keyForm, ?_, ?_⟩
  · rw [← hcolumns, ← hkey]
    rfl
  · rw [h₁, readIdentifier_eq_ok.1 h₂, readSymbol_eq_ok.1 h₃, h₄, readSymbol_eq_ok.1 h₅, h₆]
    simp only [Phrase.tokens, List.cons_append, List.append_assoc]

theorem exists_phrase_of_readInsert (k₁ : KeywordForm .insert)
    (h : readInsert tokens = .ok (s, rest)) :
    ∃ p : Phrase, p.statement = s ∧ k₁.token :: tokens = p.tokens ++ rest := by
  obtain ⟨tokens₁, h₁, h⟩ := bind_eq_ok.1 h
  obtain ⟨⟨table, tokens₂⟩, h₂, h⟩ := bind_eq_ok.1 h
  obtain ⟨tokens₃, h₃, h⟩ := bind_eq_ok.1 h
  obtain ⟨tokens₄, h₄, h⟩ := bind_eq_ok.1 h
  obtain ⟨⟨literals, tokens₅⟩, h₅, h⟩ := bind_eq_ok.1 h
  obtain ⟨tokens₆, h₆, h⟩ := bind_eq_ok.1 h
  cases h
  obtain ⟨k₂, h₁⟩ := readKeyword_eq_ok.1 h₁
  obtain ⟨k₃, h₃⟩ := readKeyword_eq_ok.1 h₃
  obtain ⟨hne, h₅⟩ := exists_literals_of_read h₅
  refine ⟨.insert k₁ k₂ table k₃ literals hne, rfl, ?_⟩
  rw [h₁, readIdentifier_eq_ok.1 h₂, h₃, readSymbol_eq_ok.1 h₄, h₅, readSymbol_eq_ok.1 h₆]
  simp only [Phrase.tokens, List.cons_append, List.append_assoc, List.nil_append]

theorem exists_phrase_of_readSelect (k₁ : KeywordForm .select)
    (h : readSelect tokens = .ok (s, rest)) :
    ∃ p : Phrase, p.statement = s ∧ k₁.token :: tokens = p.tokens ++ rest := by
  obtain ⟨tokens₁, h₁, h⟩ := bind_eq_ok.1 h
  obtain ⟨tokens₂, h₂, h⟩ := bind_eq_ok.1 h
  obtain ⟨⟨table, tokens₃⟩, h₃, h⟩ := bind_eq_ok.1 h
  obtain ⟨⟨join, tokens₄⟩, h₄, h⟩ := bind_eq_ok.1 h
  obtain ⟨⟨filter, tokens₅⟩, h₅, h⟩ := bind_eq_ok.1 h
  cases h
  obtain ⟨k₂, h₂⟩ := readKeyword_eq_ok.1 h₂
  obtain ⟨joinForm, hjoin, h₄⟩ := exists_join_of_read h₄
  obtain ⟨filterForm, hfilter, h₅⟩ := exists_filter_of_read h₅
  refine ⟨.select k₁ k₂ table joinForm filterForm, ?_, ?_⟩
  · rw [← hjoin, ← hfilter]
    rfl
  · rw [readSymbol_eq_ok.1 h₁, h₂, readIdentifier_eq_ok.1 h₃, h₄, h₅]
    simp only [Phrase.tokens, List.cons_append, List.append_assoc]

theorem exists_phrase_of_readDelete (k₁ : KeywordForm .delete)
    (h : readDelete tokens = .ok (s, rest)) :
    ∃ p : Phrase, p.statement = s ∧ k₁.token :: tokens = p.tokens ++ rest := by
  obtain ⟨tokens₁, h₁, h⟩ := bind_eq_ok.1 h
  obtain ⟨⟨table, tokens₂⟩, h₂, h⟩ := bind_eq_ok.1 h
  obtain ⟨tokens₃, h₃, h⟩ := bind_eq_ok.1 h
  obtain ⟨⟨condition, tokens₄⟩, h₄, h⟩ := bind_eq_ok.1 h
  cases h
  obtain ⟨k₂, h₁⟩ := readKeyword_eq_ok.1 h₁
  obtain ⟨k₃, h₃⟩ := readKeyword_eq_ok.1 h₃
  refine ⟨.delete k₁ k₂ table k₃ condition, rfl, ?_⟩
  rw [h₁, readIdentifier_eq_ok.1 h₂, h₃, readCondition_eq_ok.1 h₄]
  rfl

/-- What is read stands at the head of the tokens, and the rest after it. -/
theorem exists_phrase_of_read (h : read tokens = .ok (s, rest)) :
    ∃ p : Phrase, p.statement = s ∧ tokens = p.tokens ++ rest := by
  unfold read at h
  split at h
  · rename_i hk
    obtain ⟨k₁, tail, rfl⟩ := startsWith_iff.1 (beq_iff_eq.2 hk)
    exact exists_phrase_of_readCreateTable k₁ h
  · rename_i hk
    obtain ⟨k₁, tail, rfl⟩ := startsWith_iff.1 (beq_iff_eq.2 hk)
    exact exists_phrase_of_readInsert k₁ h
  · rename_i hk
    obtain ⟨k₁, tail, rfl⟩ := startsWith_iff.1 (beq_iff_eq.2 hk)
    exact exists_phrase_of_readSelect k₁ h
  · rename_i hk
    obtain ⟨k₁, tail, rfl⟩ := startsWith_iff.1 (beq_iff_eq.2 hk)
    exact exists_phrase_of_readDelete k₁ h
  · cases h

end Sound

section Complete

/-- No keyword begins the tokens, so no further clause is read off them. -/
def NoClause (rest : List Token) : Prop :=
  ∀ k, startsWith k rest = false

theorem read_cons {k : Keyword} (f : KeywordForm k) :
    read (f.token :: rest) =
      match k with
      | .create => readCreateTable rest
      | .insert => readInsert rest
      | .select => readSelect rest
      | .delete => readDelete rest
      | _ => unexpected .statement (f.token :: rest) := by
  unfold read
  rw [List.head?_cons, Option.bind_some, f.keyword?_token, List.tail_cons]
  cases k <;> rfl

theorem read_createTable (k₁ : KeywordForm .create) (k₂ : KeywordForm .table) (table : String)
    {columns : List ColumnForm} (hne : columns ≠ []) (key : Option KeyForm)
    (hrest : NoClause rest) :
    read ((Phrase.createTable k₁ k₂ table columns hne key).tokens ++ rest) =
      .ok ((Phrase.createTable k₁ k₂ table columns hne key).statement, rest) := by
  have hkey : readPrimaryKey (optional KeyForm.tokens key ++ rest) =
      .ok (key.map KeyForm.column, rest) := by
    cases key with
    | none => exact readPrimaryKey_of_absent (hrest .primary)
    | some f => exact readPrimaryKey_tokens f rest
  simp only [Phrase.tokens, List.cons_append, List.append_assoc]
  rw [read_cons]
  refine bind_eq_ok.2 ⟨_, readKeyword_eq_ok.2 ⟨k₂, rfl⟩, ?_⟩
  refine bind_eq_ok.2 ⟨(table, _), readIdentifier_eq_ok.2 rfl, ?_⟩
  refine bind_eq_ok.2 ⟨_, readSymbol_eq_ok.2 rfl, ?_⟩
  refine bind_eq_ok.2 ⟨_, readColumns_withCommas hne nofun, ?_⟩
  refine bind_eq_ok.2 ⟨_, readSymbol_eq_ok.2 rfl, ?_⟩
  exact bind_eq_ok.2 ⟨_, hkey, rfl⟩

theorem read_insert (k₁ : KeywordForm .insert) (k₂ : KeywordForm .into) (table : String)
    (k₃ : KeywordForm .values) {literals : List Literal} (hne : literals ≠ [])
    (rest : List Token) :
    read ((Phrase.insert k₁ k₂ table k₃ literals hne).tokens ++ rest) =
      .ok (.insert table literals, rest) := by
  simp only [Phrase.tokens, List.cons_append, List.append_assoc, List.nil_append]
  rw [read_cons]
  refine bind_eq_ok.2 ⟨_, readKeyword_eq_ok.2 ⟨k₂, rfl⟩, ?_⟩
  refine bind_eq_ok.2 ⟨(table, _), readIdentifier_eq_ok.2 rfl, ?_⟩
  refine bind_eq_ok.2 ⟨_, readKeyword_eq_ok.2 ⟨k₃, rfl⟩, ?_⟩
  refine bind_eq_ok.2 ⟨_, readSymbol_eq_ok.2 rfl, ?_⟩
  refine bind_eq_ok.2 ⟨_, readLiterals_withCommas hne nofun, ?_⟩
  exact bind_eq_ok.2 ⟨_, readSymbol_eq_ok.2 rfl, rfl⟩

theorem read_select (k₁ : KeywordForm .select) (k₂ : KeywordForm .from) (table : String)
    (join : Option JoinForm) (filter : Option FilterForm) (hrest : NoClause rest) :
    read ((Phrase.select k₁ k₂ table join filter).tokens ++ rest) =
      .ok ((Phrase.select k₁ k₂ table join filter).statement, rest) := by
  have hfilter : readFilter (optional FilterForm.tokens filter ++ rest) =
      .ok (filter.map FilterForm.condition, rest) := by
    cases filter with
    | none => exact readFilter_of_absent (hrest .where)
    | some f => exact readFilter_tokens f rest
  -- what follows an absent join is a filter or the rest, and neither begins with `JOIN`
  have hafter : startsWith .join (optional FilterForm.tokens filter ++ rest) = false := by
    cases filter with
    | none => exact hrest .join
    | some f => exact startsWith_token f.key _
  have hjoin : readJoin (optional JoinForm.tokens join ++
      (optional FilterForm.tokens filter ++ rest)) =
      .ok (join.map JoinForm.clause, optional FilterForm.tokens filter ++ rest) := by
    cases join with
    | none => exact readJoin_of_absent hafter
    | some f => exact readJoin_tokens f _
  simp only [Phrase.tokens, List.cons_append, List.append_assoc]
  rw [read_cons]
  refine bind_eq_ok.2 ⟨_, readSymbol_eq_ok.2 rfl, ?_⟩
  refine bind_eq_ok.2 ⟨_, readKeyword_eq_ok.2 ⟨k₂, rfl⟩, ?_⟩
  refine bind_eq_ok.2 ⟨(table, _), readIdentifier_eq_ok.2 rfl, ?_⟩
  refine bind_eq_ok.2 ⟨_, hjoin, ?_⟩
  exact bind_eq_ok.2 ⟨_, hfilter, rfl⟩

theorem read_delete (k₁ : KeywordForm .delete) (k₂ : KeywordForm .from) (table : String)
    (k₃ : KeywordForm .where) (condition : Condition) (rest : List Token) :
    read ((Phrase.delete k₁ k₂ table k₃ condition).tokens ++ rest) =
      .ok (.delete table condition, rest) := by
  simp only [Phrase.tokens, List.cons_append]
  rw [read_cons]
  refine bind_eq_ok.2 ⟨_, readKeyword_eq_ok.2 ⟨k₂, rfl⟩, ?_⟩
  refine bind_eq_ok.2 ⟨(table, _), readIdentifier_eq_ok.2 rfl, ?_⟩
  refine bind_eq_ok.2 ⟨_, readKeyword_eq_ok.2 ⟨k₃, rfl⟩, ?_⟩
  exact bind_eq_ok.2 ⟨_, readCondition_eq_ok.2 rfl, rfl⟩

theorem Phrase.read_tokens (p : Phrase) (hrest : NoClause rest) :
    read (p.tokens ++ rest) = .ok (p.statement, rest) := by
  cases p with
  | createTable k₁ k₂ table columns hne key => exact read_createTable k₁ k₂ table hne key hrest
  | insert k₁ k₂ table k₃ literals hne => exact read_insert k₁ k₂ table k₃ hne rest
  | select k₁ k₂ table join filter => exact read_select k₁ k₂ table join filter hrest
  | delete k₁ k₂ table k₃ condition => exact read_delete k₁ k₂ table k₃ condition rest

end Complete

section Unique

/-- Where a form ends can be told from its tokens alone, whatever follows them, and so can which
form it is. -/
def Delimits {α : Type} (tokens : α → List Token) : Prop :=
  ∀ ⦃a b : α⦄ ⦃rest rest' : List Token⦄, tokens a ++ rest = tokens b ++ rest' → a = b ∧ rest = rest'

variable {α : Type} {f : α → List Token}

theorem Delimits.optional_append (hf : Delimits f) {o o' : Option α} {rest rest' : List Token}
    (hsome : o.isSome = o'.isSome) (h : optional f o ++ rest = optional f o' ++ rest') :
    o = o' ∧ rest = rest' := by
  cases o with
  | none =>
    cases o' with
    | none => exact ⟨rfl, h⟩
    | some b => cases hsome
  | some a =>
    cases o' with
    | none => cases hsome
    | some b =>
      obtain ⟨hab, hrest⟩ := hf h
      exact ⟨congrArg some hab, hrest⟩

theorem Delimits.optional_inj (hf : Delimits f) {o o' : Option α} (hsome : o.isSome = o'.isSome)
    (h : optional f o = optional f o') : o = o' := by
  have happend : optional f o ++ [] = optional f o' ++ [] := by rw [h]
  exact (hf.optional_append hsome happend).1

/-- A list in parentheses ends where no comma follows an element. -/
theorem Delimits.withCommas_append (hf : Delimits f) {as bs : List α} {rest rest' : List Token}
    (ha : as ≠ []) (hb : bs ≠ [])
    (h : withCommas (as.map f) ++ .symbol .closeParen :: rest =
      withCommas (bs.map f) ++ .symbol .closeParen :: rest') : as = bs ∧ rest = rest' := by
  induction as generalizing bs with
  | nil => exact absurd rfl ha
  | cons a as ih =>
    obtain ⟨b, bs, rfl⟩ := List.exists_cons_of_ne_nil hb
    cases as with
    | nil =>
      cases bs with
      | nil =>
        rw [withCommas_singleton, withCommas_singleton] at h
        obtain ⟨rfl, hrest⟩ := hf h
        exact ⟨rfl, (List.cons.inj hrest).2⟩
      | cons b' bs =>
        rw [withCommas_singleton, withCommas_cons_cons, List.append_assoc] at h
        obtain ⟨-, hrest⟩ := hf h
        cases hrest
    | cons a' as =>
      rw [withCommas_cons_cons, List.append_assoc] at h
      cases bs with
      | nil =>
        rw [withCommas_singleton] at h
        obtain ⟨-, hrest⟩ := hf h
        cases hrest
      | cons b' bs =>
        rw [withCommas_cons_cons, List.append_assoc] at h
        obtain ⟨rfl, hrest⟩ := hf h
        obtain ⟨htail, hrest⟩ :=
          ih (List.cons_ne_nil _ _) (List.cons_ne_nil _ _) (List.cons.inj hrest).2
        exact ⟨congrArg (a :: ·) htail, hrest⟩

theorem keywordForm_inj {k : Keyword} {f g : KeywordForm k} (h : f.token = g.token) : f = g :=
  KeywordForm.ext (Token.word.inj h)

theorem literal_inj {l l' : Literal} (h : l.token = l'.token) : l = l' :=
  Option.some.inj ((literal?_eq_some_iff.2 rfl).symm.trans (literal?_eq_some_iff.2 h))

theorem delimits_columnForm : Delimits ColumnForm.tokens := by
  rintro ⟨name, type⟩ ⟨name', type'⟩ rest rest' h
  simp only [ColumnForm.tokens, List.cons_append, List.nil_append, List.cons.injEq,
    Token.word.injEq] at h
  obtain ⟨hname, hword, hrest⟩ := h
  have htype : some type.type = some type'.type := by
    rw [← type.ofName?_word, ← type'.ofName?_word, hword]
  obtain ⟨word, columnType, names⟩ := type
  cases hname
  cases hword
  cases htype
  exact ⟨rfl, hrest⟩

theorem delimits_columnRef : Delimits ColumnRef.tokens := by
  rintro ⟨table, column⟩ ⟨table', column'⟩ rest rest' h
  simp only [ColumnRef.tokens, List.cons_append, List.nil_append, List.cons.injEq,
    Token.word.injEq, true_and] at h
  obtain ⟨htable, hcolumn, hrest⟩ := h
  exact ⟨by rw [htable, hcolumn], hrest⟩

theorem delimits_condition : Delimits Condition.tokens := by
  rintro ⟨column, value⟩ ⟨column', value'⟩ rest rest' h
  simp only [Condition.tokens, List.cons_append, List.nil_append, List.cons.injEq,
    Token.word.injEq, true_and] at h
  obtain ⟨hcolumn, hvalue, hrest⟩ := h
  exact ⟨by rw [hcolumn, literal_inj hvalue], hrest⟩

theorem delimits_keyForm : Delimits KeyForm.tokens := by
  rintro ⟨primary, key, column⟩ ⟨primary', key', column'⟩ rest rest' h
  simp only [KeyForm.tokens, List.cons_append, List.nil_append, List.cons.injEq,
    Token.word.injEq] at h
  obtain ⟨hprimary, hkey, hcolumn, hrest⟩ := h
  exact ⟨by rw [keywordForm_inj hprimary, keywordForm_inj hkey, hcolumn], hrest⟩

theorem delimits_joinForm : Delimits JoinForm.tokens := by
  rintro ⟨join, on, ⟨table, left, right⟩⟩ ⟨join', on', ⟨table', left', right'⟩⟩ rest rest' h
  simp only [JoinForm.tokens, List.cons_append, List.append_assoc, List.cons.injEq,
    Token.word.injEq] at h
  obtain ⟨hjoin, htable, hon, h⟩ := h
  obtain ⟨hleft, h⟩ := delimits_columnRef h
  obtain ⟨hright, hrest⟩ := delimits_columnRef (List.cons.inj h).2
  exact ⟨by rw [keywordForm_inj hjoin, keywordForm_inj hon, htable, hleft, hright], hrest⟩

theorem delimits_filterForm : Delimits FilterForm.tokens := by
  rintro ⟨key, condition⟩ ⟨key', condition'⟩ rest rest' h
  simp only [FilterForm.tokens, List.cons_append, List.cons.injEq] at h
  obtain ⟨hkey, h⟩ := h
  obtain ⟨rfl, hrest⟩ := delimits_condition h
  exact ⟨by rw [keywordForm_inj hkey], hrest⟩

/-- Two phrases of one statement, made of the same tokens, are the same. That the statement is the
same decides which clauses they have. -/
theorem Phrase.eq_of_tokens_eq {p p' : Phrase} (hs : p.statement = p'.statement)
    (h : p.tokens = p'.tokens) : p = p' := by
  cases p with
  | createTable k₁ k₂ table columns hne key =>
    cases p' with
    | createTable k₁' k₂' table' columns' hne' key' =>
      simp only [Phrase.tokens, List.cons_append, List.cons.injEq, true_and, Token.word.injEq] at h
      obtain ⟨h₁, h₂, rfl, h⟩ := h
      obtain rfl := keywordForm_inj h₁
      obtain rfl := keywordForm_inj h₂
      obtain ⟨rfl, hkey⟩ := delimits_columnForm.withCommas_append hne hne' h
      simp only [Phrase.statement, Statement.createTable.injEq] at hs
      have hsome : key.isSome = key'.isSome := by
        rw [← Option.isSome_map, hs.2.2, Option.isSome_map]
      obtain rfl := delimits_keyForm.optional_inj hsome hkey
      rfl
    | insert | select | delete => cases hs
  | insert k₁ k₂ table k₃ literals hne =>
    cases p' with
    | insert k₁' k₂' table' k₃' literals' hne' =>
      simp only [Phrase.tokens, List.cons_append, List.cons.injEq, true_and, Token.word.injEq] at h
      obtain ⟨h₁, h₂, rfl, h₃, -⟩ := h
      obtain rfl := keywordForm_inj h₁
      obtain rfl := keywordForm_inj h₂
      obtain rfl := keywordForm_inj h₃
      cases hs
      rfl
    | createTable | select | delete => cases hs
  | select k₁ k₂ table join filter =>
    cases p' with
    | select k₁' k₂' table' join' filter' =>
      simp only [Phrase.tokens, List.cons_append, List.cons.injEq, true_and, Token.word.injEq] at h
      obtain ⟨h₁, h₂, rfl, h⟩ := h
      obtain rfl := keywordForm_inj h₁
      obtain rfl := keywordForm_inj h₂
      simp only [Phrase.statement, Statement.select.injEq] at hs
      have hjoin : join.isSome = join'.isSome := by
        rw [← Option.isSome_map, hs.2.1, Option.isSome_map]
      have hfilter : filter.isSome = filter'.isSome := by
        rw [← Option.isSome_map, hs.2.2, Option.isSome_map]
      obtain ⟨rfl, hafter⟩ := delimits_joinForm.optional_append hjoin h
      obtain rfl := delimits_filterForm.optional_inj hfilter hafter
      rfl
    | createTable | insert | delete => cases hs
  | delete k₁ k₂ table k₃ condition =>
    cases p' with
    | delete k₁' k₂' table' k₃' condition' =>
      simp only [Phrase.tokens, List.cons.injEq, Token.word.injEq] at h
      obtain ⟨h₁, h₂, rfl, h₃, -⟩ := h
      obtain rfl := keywordForm_inj h₁
      obtain rfl := keywordForm_inj h₂
      obtain rfl := keywordForm_inj h₃
      cases hs
      rfl
    | createTable | insert | select => cases hs

theorem noClause_closing (closed : Bool) : NoClause (closing closed) := by
  intro k
  cases closed <;> rfl

theorem closing_injective : Function.Injective closing := by
  intro closed closed' h
  have hlength := congrArg List.length h
  cases closed <;> cases closed'
  · rfl
  · cases hlength
  · cases hlength
  · rfl

theorem Form.read_tokens (f : Form) :
    read f.tokens = .ok (f.statement, closing f.closed) :=
  f.phrase.read_tokens (noClause_closing f.closed)

theorem Form.tokens_injective : Function.Injective Form.tokens := by
  intro f f' h
  have hread := f.read_tokens
  rw [h, f'.read_tokens] at hread
  obtain ⟨hs, hclosing⟩ := Prod.mk.inj (Except.ok.inj hread)
  have hphrase : f'.phrase.tokens = f.phrase.tokens := by
    apply List.append_cancel_right
    exact h.symm.trans (congrArg (f.phrase.tokens ++ ·) hclosing.symm)
  obtain ⟨phrase, closed⟩ := f
  obtain ⟨phrase', closed'⟩ := f'
  obtain rfl : phrase' = phrase := Phrase.eq_of_tokens_eq hs hphrase
  obtain rfl : closed' = closed := closing_injective hclosing
  rfl

end Unique

theorem readEnd_eq_ok : readEnd tokens = .ok () ↔ ∃ closed, tokens = closing closed := by
  unfold readEnd
  constructor
  · intro h
    split at h
    · rename_i hsemicolon
      obtain ⟨rest, rfl⟩ := List.head?_eq_some_iff.1 hsemicolon
      cases rest with
      | nil => exact ⟨true, rfl⟩
      | cons t ts => cases h
    · cases tokens with
      | nil => exact ⟨false, rfl⟩
      | cons t ts => cases h
  · rintro ⟨closed, rfl⟩
    cases closed <;> rfl

theorem Form.ofTokens_tokens (f : Form) : ofTokens f.tokens = .ok f.statement := by
  refine bind_eq_ok.2 ⟨_, f.read_tokens, ?_⟩
  exact bind_eq_ok.2 ⟨(), readEnd_eq_ok.2 ⟨f.closed, rfl⟩, rfl⟩

/-- A row of tokens is read if and only if it is a form, which then is the only one, and what is
read is the statement of that form. -/
theorem ofTokens_eq_ok_iff (tokens : List Token) (s : Statement) :
    ofTokens tokens = .ok s ↔
      ∃ f : Form, f.tokens = tokens ∧ f.statement = s ∧ ∀ f' : Form, f'.tokens = tokens → f' = f := by
  constructor
  · intro h
    obtain ⟨⟨s', rest⟩, hread, h⟩ := bind_eq_ok.1 h
    obtain ⟨⟨⟩, hend, h⟩ := bind_eq_ok.1 h
    cases h
    obtain ⟨p, hp, rfl⟩ := exists_phrase_of_read hread
    obtain ⟨closed, rfl⟩ := readEnd_eq_ok.1 hend
    exact ⟨⟨p, closed⟩, rfl, hp, fun f' hf' => Form.tokens_injective hf'⟩
  · rintro ⟨f, rfl, rfl, -⟩
    exact f.ofTokens_tokens

end RelStore.Statement
