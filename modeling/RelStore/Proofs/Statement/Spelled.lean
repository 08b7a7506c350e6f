import RelStore.Proofs.Statement.Form
import RelStore.Proofs.Token.Layout

/-!
Texts that spell statements. Numbers come after the last point of a statement, so its layouts are
scanned as its tokens, and the parser returns the statement that was spelled. Every statement with
proper names and numbers has a text that spells it.
-/

namespace RelStore
set_option autoImplicit false

open Token (NoPoint Spelling IsWord Layout Writes)

namespace Statement

section Members

variable {t : Token}

/-- What stands in a list in parentheses is a comma or stands in an element. -/
theorem mem_withCommas {rows : List (List Token)} (h : t ∈ withCommas rows) :
    t = .symbol .comma ∨ ∃ row ∈ rows, t ∈ row := by
  induction rows with
  | nil => cases h
  | cons row rows ih =>
    unfold withCommas at h
    cases rows with
    | nil =>
      rw [List.intercalate_singleton] at h
      exact .inr ⟨row, List.mem_cons_self, h⟩
    | cons row' rows =>
      rw [List.intercalate_cons_cons, List.append_assoc] at h
      rcases List.mem_append.1 h with h | h
      · exact .inr ⟨row, List.mem_cons_self, h⟩
      rcases List.mem_cons.1 h with h | h
      · exact .inl h
      rcases ih h with h | ⟨row'', hrow, h⟩
      · exact .inl h
      · exact .inr ⟨row'', List.mem_cons_of_mem row hrow, h⟩

@[simp] theorem mem_optional {α : Type} {tokens : α → List Token} {o : Option α} :
    t ∈ optional tokens o ↔ ∃ a ∈ o, t ∈ tokens a := by
  cases o with
  | none => simp [optional]
  | some a => simp [optional]

@[simp] theorem mem_closing {closed : Bool} :
    t ∈ closing closed ↔ closed = true ∧ t = .symbol .semicolon := by
  cases closed with
  | false => simp [closing]
  | true => simp [closing]

end Members

section Scan

variable {before after : List Token}

theorem isChain_noPoint_append (hbefore : ∀ text, .number text ∉ before)
    (hafter : .symbol .dot ∉ after) : (before ++ after).IsChain NoPoint := by
  induction before with
  | nil =>
    refine (List.pairwise_of_forall_mem_list ?_).isChain
    rintro t - t' ht' text - rfl
    exact hafter ht'
  | cons t before ih =>
    refine List.isChain_cons.2 ⟨?_, ?_⟩
    · rintro t' - text rfl
      exact absurd List.mem_cons_self (hbefore text)
    · exact ih fun text hmem => hbefore text (List.mem_cons_of_mem t hmem)

theorem literalToken_ne_dot (l : Literal) : .symbol .dot ≠ l.token := by
  intro h
  cases l <;> cases h

/-- Points stand in the join only, and numbers after it. -/
theorem Phrase.exists_eq_append (p : Phrase) : ∃ before after, p.tokens = before ++ after ∧
    (∀ text, .number text ∉ before) ∧ .symbol .dot ∉ after := by
  cases p with
  | createTable k₁ k₂ table columns hne key =>
    have hcolumns : .symbol .dot ∉ withCommas (columns.map ColumnForm.tokens) := by
      intro h
      rcases mem_withCommas h with h | ⟨row, hrow, h⟩
      · cases h
      · obtain ⟨f, -, rfl⟩ := List.mem_map.1 hrow
        simp [ColumnForm.tokens] at h
    refine ⟨[], _, (List.nil_append _).symm, fun _ => List.not_mem_nil, ?_⟩
    simp [Phrase.tokens, KeywordForm.token, KeyForm.tokens, hcolumns]
  | insert k₁ k₂ table k₃ literals hne =>
    have hliterals : .symbol .dot ∉ withCommas (literals.map fun l => [l.token]) := by
      intro h
      rcases mem_withCommas h with h | ⟨row, hrow, h⟩
      · cases h
      · obtain ⟨l, -, rfl⟩ := List.mem_map.1 hrow
        exact literalToken_ne_dot l (List.mem_singleton.1 h)
    refine ⟨[], _, (List.nil_append _).symm, fun _ => List.not_mem_nil, ?_⟩
    simp [Phrase.tokens, KeywordForm.token, hliterals]
  | select k₁ k₂ table join filter =>
    refine ⟨_, _, rfl, ?_, ?_⟩
    · simp [KeywordForm.token, JoinForm.tokens, ColumnRef.tokens]
    · simp [FilterForm.tokens, KeywordForm.token, Condition.tokens, literalToken_ne_dot]
  | delete k₁ k₂ table k₃ condition =>
    refine ⟨[], _, (List.nil_append _).symm, fun _ => List.not_mem_nil, ?_⟩
    simp [Phrase.tokens, KeywordForm.token, Condition.tokens, literalToken_ne_dot]

theorem Form.isChain_noPoint (f : Form) : f.tokens.IsChain NoPoint := by
  obtain ⟨before, after, heq, hbefore, hafter⟩ := f.phrase.exists_eq_append
  unfold Form.tokens
  rw [heq, List.append_assoc]
  refine isChain_noPoint_append hbefore ?_
  simp [hafter]

end Scan

section Spell

/-- A row of tokens that can be spelled one by one. -/
def Spellable (tokens : List Token) : Prop :=
  ∀ t ∈ tokens, ∃ s, Spelling t s

@[simp] theorem spellable_nil : Spellable [] :=
  List.forall_mem_nil _

@[simp] theorem spellable_cons {t : Token} {tokens : List Token} :
    Spellable (t :: tokens) ↔ (∃ s, Spelling t s) ∧ Spellable tokens :=
  List.forall_mem_cons

@[simp] theorem spellable_append {tokens tokens' : List Token} :
    Spellable (tokens ++ tokens') ↔ Spellable tokens ∧ Spellable tokens' :=
  List.forall_mem_append

@[simp] theorem exists_spelling_symbol (sym : Symbol) : ∃ s, Spelling (.symbol sym) s :=
  ⟨_, .symbol sym⟩

theorem layout_symbol {rest : List Token} {text : List Char} (sym : Symbol)
    (h : Layout rest text) : Layout (.symbol sym :: rest) (sym.char :: text) := by
  have hgap : ∀ c ∈ ([] : List Char), Text.isBlank c = true := List.forall_mem_nil _
  exact .cons (.symbol sym) hgap (.inr (.inl rfl)) h

theorem layout_before_symbol {t : Token} {sym : Symbol} {rest : List Token} {s text : List Char}
    (hs : Spelling t s) (h : Layout (.symbol sym :: rest) text) :
    Layout (t :: .symbol sym :: rest) (s ++ text) := by
  have hgap : ∀ c ∈ ([] : List Char), Text.isBlank c = true := List.forall_mem_nil _
  have hsymbol : ∀ t' ∈ (Token.symbol sym :: rest).head?, t'.isSymbol = true := by
    rintro t' ⟨⟩
    rfl
  exact .cons hs hgap (.inr (.inr hsymbol)) h

theorem layout_blank {t : Token} {rest : List Token} {s text : List Char} (hs : Spelling t s)
    (c : Char) (hc : Text.isBlank c = true) (h : Layout rest text) :
    Layout (t :: rest) (s ++ c :: text) :=
  .cons hs (List.forall_mem_singleton.2 hc) (.inl (List.cons_ne_nil _ _)) h

theorem layout_last {t : Token} {s : List Char} (hs : Spelling t s) : Layout [t] s := by
  have hgap : ∀ c ∈ ([] : List Char), Text.isBlank c = true := List.forall_mem_nil _
  have hnone : ∀ t' ∈ ([] : List Token).head?, t'.isSymbol = true := by
    rintro t' ⟨⟩
  have hlast := Layout.cons hs hgap (.inr (.inr hnone)) .nil
  rwa [List.append_nil, List.append_nil] at hlast

theorem exists_layout {tokens : List Token} (h : Spellable tokens) :
    ∃ text, Layout tokens text := by
  induction tokens with
  | nil => exact ⟨[], .nil⟩
  | cons t rest ih =>
    obtain ⟨s, hs⟩ := h t List.mem_cons_self
    obtain ⟨text, htext⟩ := ih fun t' ht' => h t' (List.mem_cons_of_mem t ht')
    exact ⟨_, layout_blank hs ' ' rfl htext⟩

theorem spelling_word {text : String} (h : IsName text) : Spelling (.word text) text.toList := by
  have hs := Spelling.word h
  rwa [String.ofList_toList] at hs

theorem exists_spelling_word {text : String} (h : IsName text) :
    ∃ s, Spelling (.word text) s :=
  ⟨text.toList, spelling_word h⟩

theorem exists_spelling_literal {l : Literal} (h : l.Writable) : ∃ s, Spelling l.token s := by
  cases l with
  | number text =>
    refine ⟨text.toList, ?_⟩
    have hs := Spelling.number h
    rwa [String.ofList_toList] at hs
  | quoted content =>
    have hquote : Token.isQuote '\'' = true := rfl
    have hs := Spelling.quoted hquote content.toList
    rw [String.ofList_toList] at hs
    exact ⟨_, hs⟩
  | word text => exact exists_spelling_word h

theorem isName_of_all {text : String}
    (h : (text.toList.head?.any Token.isWordStart && text.toList.all Token.isWordPart) = true) :
    IsName text := by
  obtain ⟨hstart, hpart⟩ := Bool.and_eq_true_iff.1 h
  unfold IsName
  cases htext : text.toList with
  | nil =>
    rw [htext] at hstart
    cases hstart
  | cons c rest =>
    rw [htext] at hstart hpart
    exact .intro hstart fun d hd => List.all_eq_true.1 hpart d (List.mem_cons_of_mem c hd)

theorem exists_keywordForm (k : Keyword) : ∃ f : KeywordForm k, ∃ s, Spelling f.token s := by
  have hname : IsName k.text := by
    cases k <;> exact isName_of_all (by decide)
  exact ⟨⟨k.text, Keyword.ofWord?_eq_some_iff.1 (Keyword.ofWord?_text k)⟩,
    exists_spelling_word hname⟩

theorem exists_typeForm (type : ColumnType) :
    ∃ f : TypeForm, f.type = type ∧ ∃ s, Spelling (.word f.word) s := by
  cases type with
  | integer =>
    refine ⟨⟨"int", .integer, "int", by decide, by decide⟩, rfl, exists_spelling_word ?_⟩
    exact isName_of_all (by decide)
  | text =>
    refine ⟨⟨"text", .text, "text", by decide, by decide⟩, rfl, exists_spelling_word ?_⟩
    exact isName_of_all (by decide)

theorem exists_columnForms {columns : List (String × ColumnType)}
    (h : ∀ c ∈ columns, IsName c.1) :
    ∃ forms : List ColumnForm, forms.map ColumnForm.column = columns ∧
      ∀ f ∈ forms, Spellable f.tokens := by
  induction columns with
  | nil => exact ⟨[], rfl, List.forall_mem_nil _⟩
  | cons c columns ih =>
    obtain ⟨name, type⟩ := c
    obtain ⟨forms, rfl, hforms⟩ := ih fun c hc => h c (List.mem_cons_of_mem _ hc)
    obtain ⟨typeForm, rfl, htype⟩ := exists_typeForm type
    have hname : ∃ s, Spelling (.word name) s :=
      exists_spelling_word (h (name, typeForm.type) List.mem_cons_self)
    refine ⟨⟨name, typeForm⟩ :: forms, rfl, List.forall_mem_cons.2 ⟨?_, hforms⟩⟩
    simp [ColumnForm.tokens, hname, htype]

theorem spellable_withCommas {rows : List (List Token)} (h : ∀ row ∈ rows, Spellable row) :
    Spellable (withCommas rows) := by
  intro t ht
  rcases mem_withCommas ht with rfl | ⟨row, hrow, ht⟩
  · exact exists_spelling_symbol _
  · exact h row hrow t ht

theorem spellable_condition {c : Condition} (h : c.Writable) : Spellable c.tokens := by
  simp [Condition.tokens, exists_spelling_word h.column, exists_spelling_literal h.value]

theorem spellable_columnRef {r : ColumnRef} (h : r.Writable) : Spellable r.tokens := by
  simp [ColumnRef.tokens, exists_spelling_word h.table, exists_spelling_word h.column]

theorem exists_keyForm {key : Option String} (h : ∀ column ∈ key, IsName column) :
    ∃ f : Option KeyForm, f.map KeyForm.column = key ∧ Spellable (optional KeyForm.tokens f) := by
  cases key with
  | none => exact ⟨none, rfl, spellable_nil⟩
  | some column =>
    obtain ⟨primary, hprimary⟩ := exists_keywordForm .primary
    obtain ⟨key, hkey⟩ := exists_keywordForm .key
    refine ⟨some ⟨primary, key, column⟩, rfl, ?_⟩
    simp [optional, KeyForm.tokens, hprimary, hkey, exists_spelling_word (h column rfl)]

theorem exists_joinForm {join : Option Join} (h : ∀ j ∈ join, j.Writable) :
    ∃ f : Option JoinForm, f.map JoinForm.clause = join ∧
      Spellable (optional JoinForm.tokens f) := by
  cases join with
  | none => exact ⟨none, rfl, spellable_nil⟩
  | some clause =>
    obtain ⟨join, hjoin⟩ := exists_keywordForm .join
    obtain ⟨on, hon⟩ := exists_keywordForm .on
    have hclause := h clause rfl
    refine ⟨some ⟨join, on, clause⟩, rfl, ?_⟩
    simp [optional, JoinForm.tokens, hjoin, hon, exists_spelling_word hclause.table,
      spellable_columnRef hclause.left, spellable_columnRef hclause.right]

theorem exists_filterForm {filter : Option Condition} (h : ∀ c ∈ filter, c.Writable) :
    ∃ f : Option FilterForm, f.map FilterForm.condition = filter ∧
      Spellable (optional FilterForm.tokens f) := by
  cases filter with
  | none => exact ⟨none, rfl, spellable_nil⟩
  | some condition =>
    obtain ⟨key, hkey⟩ := exists_keywordForm .where
    refine ⟨some ⟨key, condition⟩, rfl, ?_⟩
    simp [optional, FilterForm.tokens, hkey, spellable_condition (h condition rfl)]

theorem exists_phrase {s : Statement} (h : s.Writable) :
    ∃ p : Phrase, p.statement = s ∧ Spellable p.tokens := by
  cases s with
  | createTable table columns key =>
    obtain ⟨htable, hne, hcolumns, hkey⟩ := h
    obtain ⟨k₁, hk₁⟩ := exists_keywordForm .create
    obtain ⟨k₂, hk₂⟩ := exists_keywordForm .table
    obtain ⟨forms, rfl, hforms⟩ := exists_columnForms hcolumns
    obtain ⟨keyForm, rfl, hkeyForm⟩ := exists_keyForm hkey
    have hne' : forms ≠ [] := fun hnil => hne (congrArg _ hnil)
    have hlist : Spellable (withCommas (forms.map ColumnForm.tokens)) :=
      spellable_withCommas (List.forall_mem_map.2 hforms)
    refine ⟨.createTable k₁ k₂ table forms hne' keyForm, rfl, ?_⟩
    simp [Phrase.tokens, hk₁, hk₂, exists_spelling_word htable, hlist, hkeyForm]
  | insert table values =>
    obtain ⟨htable, hne, hvalues⟩ := h
    obtain ⟨k₁, hk₁⟩ := exists_keywordForm .insert
    obtain ⟨k₂, hk₂⟩ := exists_keywordForm .into
    obtain ⟨k₃, hk₃⟩ := exists_keywordForm .values
    have hlist : Spellable (withCommas (values.map fun l => [l.token])) := by
      refine spellable_withCommas (List.forall_mem_map.2 ?_)
      intro l hl
      exact List.forall_mem_singleton.2 (exists_spelling_literal (hvalues l hl))
    refine ⟨.insert k₁ k₂ table k₃ values hne, rfl, ?_⟩
    simp [Phrase.tokens, hk₁, hk₂, hk₃, exists_spelling_word htable, hlist]
  | select table join filter =>
    obtain ⟨htable, hjoin, hfilter⟩ := h
    obtain ⟨k₁, hk₁⟩ := exists_keywordForm .select
    obtain ⟨k₂, hk₂⟩ := exists_keywordForm .from
    obtain ⟨joinForm, rfl, hjoinForm⟩ := exists_joinForm hjoin
    obtain ⟨filterForm, rfl, hfilterForm⟩ := exists_filterForm hfilter
    refine ⟨.select k₁ k₂ table joinForm filterForm, rfl, ?_⟩
    simp [Phrase.tokens, hk₁, hk₂, exists_spelling_word htable, hjoinForm, hfilterForm]
  | delete table filter =>
    obtain ⟨htable, hfilter⟩ := h
    obtain ⟨k₁, hk₁⟩ := exists_keywordForm .delete
    obtain ⟨k₂, hk₂⟩ := exists_keywordForm .from
    obtain ⟨k₃, hk₃⟩ := exists_keywordForm .where
    refine ⟨.delete k₁ k₂ table k₃ filter, rfl, ?_⟩
    simp [Phrase.tokens, hk₁, hk₂, hk₃, exists_spelling_word htable, spellable_condition hfilter]

theorem Writable.exists_spelledBy {s : Statement} (h : s.Writable) : ∃ text, s.SpelledBy text := by
  obtain ⟨p, rfl, hp⟩ := exists_phrase h
  have hform : Spellable (Form.mk p false).tokens := spellable_append.2 ⟨hp, spellable_nil⟩
  obtain ⟨text, htext⟩ := exists_layout hform
  refine ⟨String.ofList text, ⟨p, false⟩, rfl, [], text, ?_, List.forall_mem_nil _, htext⟩
  exact String.toList_ofList

end Spell

theorem SpelledBy.parse_eq {s : Statement} {text : String} (h : s.SpelledBy text) :
    parse text = .ok s := by
  obtain ⟨f, rfl, hf⟩ := h
  have hscan : Token.scan text = .ok f.tokens := hf.scan_eq f.isChain_noPoint
  unfold parse
  rw [hscan]
  exact f.ofTokens_tokens

/-- A statement with proper names and numbers is spelled by some text, and any text that spells it
parses to it. -/
theorem Writable.parse_spelled {s : Statement} (h : s.Writable) :
    (∃ text, s.SpelledBy text) ∧ ∀ text, s.SpelledBy text → parse text = .ok s :=
  ⟨h.exists_spelledBy, fun _ htext => htext.parse_eq⟩

/-- Keywords and type names in mixed case, a keyword for a name, a tab for a blank, and no blanks at
the symbols. -/
theorem spelledBy_createTable :
    (createTable "table" [("from", .integer), ("k", .text)] (some "from")).SpelledBy
      "cReate\tTABLE table(from InT,k VARchar)Primary kEy from" := by
  let k₁ : KeywordForm .create := ⟨"cReate", by decide⟩
  let k₂ : KeywordForm .table := ⟨"TABLE", by decide⟩
  let k₃ : KeywordForm .primary := ⟨"Primary", by decide⟩
  let k₄ : KeywordForm .key := ⟨"kEy", by decide⟩
  let integer : TypeForm := ⟨"InT", .integer, "int", by decide, by decide⟩
  let text : TypeForm := ⟨"VARchar", .text, "varchar", by decide, by decide⟩
  have h₁ : IsName "cReate" := isName_of_all (by decide)
  have h₂ : IsName "TABLE" := isName_of_all (by decide)
  have h₃ : IsName "Primary" := isName_of_all (by decide)
  have h₄ : IsName "kEy" := isName_of_all (by decide)
  have hinteger : IsName "InT" := isName_of_all (by decide)
  have htext : IsName "VARchar" := isName_of_all (by decide)
  have htable : IsName "table" := isName_of_all (by decide)
  have hfrom : IsName "from" := isName_of_all (by decide)
  have hk : IsName "k" := isName_of_all (by decide)
  have hlayout := layout_blank (spelling_word h₁) '\t' rfl <|
    layout_blank (spelling_word h₂) ' ' rfl <|
    layout_before_symbol (spelling_word htable) <| layout_symbol .openParen <|
    layout_blank (spelling_word hfrom) ' ' rfl <|
    layout_before_symbol (spelling_word hinteger) <| layout_symbol .comma <|
    layout_blank (spelling_word hk) ' ' rfl <|
    layout_before_symbol (spelling_word htext) <| layout_symbol .closeParen <|
    layout_blank (spelling_word h₃) ' ' rfl <| layout_blank (spelling_word h₄) ' ' rfl <|
    layout_last (spelling_word hfrom)
  exact ⟨⟨.createTable k₁ k₂ "table" [⟨"from", integer⟩, ⟨"k", text⟩] (List.cons_ne_nil _ _)
    (some ⟨k₃, k₄, "from"⟩), false⟩, rfl, [], _, by decide, List.forall_mem_nil _, hlayout⟩

/-- A doubled quote, and a semicolon at the end. -/
theorem spelledBy_delete :
    (delete "from" ⟨"k", .quoted "it's"⟩).SpelledBy "dElete FROM from where k='it''s';" := by
  let k₁ : KeywordForm .delete := ⟨"dElete", by decide⟩
  let k₂ : KeywordForm .from := ⟨"FROM", by decide⟩
  let k₃ : KeywordForm .where := ⟨"where", by decide⟩
  have h₁ : IsName "dElete" := isName_of_all (by decide)
  have h₂ : IsName "FROM" := isName_of_all (by decide)
  have h₃ : IsName "where" := isName_of_all (by decide)
  have hfrom : IsName "from" := isName_of_all (by decide)
  have hk : IsName "k" := isName_of_all (by decide)
  have hquote : Token.isQuote '\'' = true := rfl
  have hquoted := Spelling.quoted hquote "it's".toList
  have hlayout := layout_blank (spelling_word h₁) ' ' rfl <|
    layout_blank (spelling_word h₂) ' ' rfl <| layout_blank (spelling_word hfrom) ' ' rfl <|
    layout_blank (spelling_word h₃) ' ' rfl <|
    layout_before_symbol (spelling_word hk) <| layout_symbol .equals <|
    layout_before_symbol hquoted <| layout_symbol .semicolon .nil
  exact ⟨⟨.delete k₁ k₂ "from" k₃ ⟨"k", .quoted "it's"⟩, true⟩, rfl, [], _, by decide,
    List.forall_mem_nil _, hlayout⟩

/-- Two statements in mixed case are parsed. -/
theorem parse_spelled_in_mixed_case :
    parse "cReate\tTABLE table(from InT,k VARchar)Primary kEy from" =
      .ok (createTable "table" [("from", .integer), ("k", .text)] (some "from")) ∧
    parse "dElete FROM from where k='it''s';" = .ok (delete "from" ⟨"k", .quoted "it's"⟩) := by
  have htable : IsName "table" := isName_of_all (by decide)
  have hfrom : IsName "from" := isName_of_all (by decide)
  have hk : IsName "k" := isName_of_all (by decide)
  have hcreate :
      (createTable "table" [("from", .integer), ("k", .text)] (some "from")).Writable := by
    refine ⟨htable, List.cons_ne_nil _ _, ?_, fun column hcolumn => ?_⟩
    · exact List.forall_mem_cons.2 ⟨hfrom, List.forall_mem_singleton.2 hk⟩
    · cases hcolumn
      exact hfrom
  have hdelete : (delete "from" ⟨"k", .quoted "it's"⟩).Writable := ⟨hfrom, hk, trivial⟩
  exact ⟨hcreate.parse_spelled.2 _ spelledBy_createTable,
    hdelete.parse_spelled.2 _ spelledBy_delete⟩

end Statement
end RelStore
