import RelStore.Proofs.Casing
import RelStore.Proofs.Except

/-!
Readers against the grammar. Each reader finds at the head of the tokens a form of what it looks
for, and it finds every form that stands there: a list up to where no comma follows, an optional
clause just if its keyword follows. So the statement of a row of tokens is read if and only if the
row is a form of it.
-/

namespace RelStore
set_option autoImplicit false

theorem KeywordForm.keyword?_token {k : Keyword} (f : KeywordForm k) :
    f.token.keyword? = some k :=
  Keyword.ofWord?_eq_some_iff.2 f.spells

theorem TypeForm.ofName?_word (f : TypeForm) : ColumnType.ofName? f.word = some f.type :=
  ColumnType.ofName?_eq_some_iff.2 f.names

namespace Statement

variable {tokens rest : List Token} {s : Statement}

theorem startsWith_token {k k' : Keyword} (f : KeywordForm k) (rest : List Token) :
    startsWith k' (f.token :: rest) = decide (k = k') := by
  unfold startsWith
  rw [List.head?_cons, Option.bind_some, f.keyword?_token]
  by_cases hk : k = k'
  · simp [hk]
  · simp [hk]

theorem startsWith_iff {k : Keyword} :
    startsWith k tokens = true ↔ ∃ (f : KeywordForm k) (rest : List Token),
      tokens = f.token :: rest := by
  constructor
  · intro h
    unfold startsWith at h
    rw [beq_iff_eq, Option.bind_eq_some_iff] at h
    obtain ⟨t, ht, hk⟩ := h
    obtain ⟨rest, rfl⟩ := List.head?_eq_some_iff.1 ht
    cases t with
    | word text => exact ⟨⟨text, Keyword.ofWord?_eq_some_iff.1 hk⟩, rest, rfl⟩
    | number | quoted | symbol => cases hk
  · rintro ⟨f, rest, rfl⟩
    rw [startsWith_token]
    exact decide_eq_true rfl

theorem readKeyword_eq_ok {k : Keyword} :
    readKeyword k tokens = .ok rest ↔ ∃ f : KeywordForm k, tokens = f.token :: rest := by
  unfold readKeyword
  constructor
  · intro h
    split at h
    · rename_i hk
      obtain ⟨f, rest', rfl⟩ := startsWith_iff.1 hk
      cases h
      exact ⟨f, rfl⟩
    · cases h
  · rintro ⟨f, rfl⟩
    rw [if_pos (startsWith_iff.2 ⟨f, rest, rfl⟩), List.tail_cons]

theorem readSymbol_eq_ok {sym : Symbol} :
    readSymbol sym tokens = .ok rest ↔ tokens = .symbol sym :: rest := by
  unfold readSymbol
  constructor
  · intro h
    split at h
    · rename_i hs
      obtain ⟨rest', rfl⟩ := List.head?_eq_some_iff.1 hs
      cases h
      rfl
    · cases h
  · rintro rfl
    rw [List.head?_cons, if_pos rfl, List.tail_cons]

theorem readIdentifier_eq_ok {name : String} :
    readIdentifier tokens = .ok (name, rest) ↔ tokens = .word name :: rest := by
  unfold readIdentifier
  constructor
  · intro h
    split at h
    · cases h
      rfl
    · cases h
  · rintro rfl
    rfl

theorem literal?_eq_some_iff {t : Token} {l : Literal} : literal? t = some l ↔ t = l.token := by
  constructor
  · intro h
    cases t with
    | symbol => cases h
    | number | quoted | word =>
      cases h
      rfl
  · rintro rfl
    cases l <;> rfl

theorem readLiteral_eq_ok {l : Literal} :
    readLiteral tokens = .ok (l, rest) ↔ tokens = l.token :: rest := by
  unfold readLiteral
  constructor
  · intro h
    split at h
    · rename_i l' hl
      obtain ⟨t, ht, hl⟩ := Option.bind_eq_some_iff.1 hl
      obtain ⟨rest', rfl⟩ := List.head?_eq_some_iff.1 ht
      cases h
      rw [literal?_eq_some_iff.1 hl, List.tail_cons]
    · cases h
  · rintro rfl
    have hl : literal? l.token = some l := literal?_eq_some_iff.2 rfl
    simp only [List.head?_cons, Option.bind_some, hl, List.tail_cons]

theorem readColumnRef_eq_ok {r : ColumnRef} :
    readColumnRef tokens = .ok (r, rest) ↔ tokens = r.tokens ++ rest := by
  constructor
  · intro h
    obtain ⟨⟨table, tokens₁⟩, h₁, h⟩ := bind_eq_ok.1 h
    obtain ⟨tokens₂, h₂, h⟩ := bind_eq_ok.1 h
    obtain ⟨⟨column, tokens₃⟩, h₃, h⟩ := bind_eq_ok.1 h
    cases h
    rw [readIdentifier_eq_ok.1 h₁, readSymbol_eq_ok.1 h₂, readIdentifier_eq_ok.1 h₃]
    rfl
  · rintro rfl
    rfl

theorem readCondition_eq_ok {c : Condition} :
    readCondition tokens = .ok (c, rest) ↔ tokens = c.tokens ++ rest := by
  constructor
  · intro h
    obtain ⟨⟨column, tokens₁⟩, h₁, h⟩ := bind_eq_ok.1 h
    obtain ⟨tokens₂, h₂, h⟩ := bind_eq_ok.1 h
    obtain ⟨⟨value, tokens₃⟩, h₃, h⟩ := bind_eq_ok.1 h
    cases h
    rw [readIdentifier_eq_ok.1 h₁, readSymbol_eq_ok.1 h₂, readLiteral_eq_ok.1 h₃]
    rfl
  · rintro rfl
    refine bind_eq_ok.2 ⟨(c.column, _), readIdentifier_eq_ok.2 rfl, ?_⟩
    refine bind_eq_ok.2 ⟨_, readSymbol_eq_ok.2 rfl, ?_⟩
    refine bind_eq_ok.2 ⟨(c.value, _), readLiteral_eq_ok.2 rfl, ?_⟩
    rfl

theorem withCommas_cons_cons {α : Type} (tokens : α → List Token) (a b : α) (as : List α) :
    withCommas ((a :: b :: as).map tokens) =
      tokens a ++ .symbol .comma :: withCommas ((b :: as).map tokens) := by
  unfold withCommas
  rw [List.map_cons, List.map_cons, List.intercalate_cons_cons, List.append_assoc]
  rfl

theorem withCommas_singleton {α : Type} (tokens : α → List Token) (a : α) :
    withCommas ([a].map tokens) = tokens a :=
  List.intercalate_singleton

section Columns

variable {columns : List (String × ColumnType)}

theorem readColumns_of_comma {f : ColumnForm} :
    readColumns (f.tokens ++ .symbol .comma :: rest) =
      (readColumns rest).map fun (columns, after) => (f.column :: columns, after) := by
  change readColumns (.word f.name :: .word f.type.word :: .symbol .comma :: rest) = _
  rw [readColumns, f.type.ofName?_word]
  rfl

theorem readColumns_of_last {f : ColumnForm} (h : rest.head? ≠ some (.symbol .comma)) :
    readColumns (f.tokens ++ rest) = .ok ([f.column], rest) := by
  change readColumns (.word f.name :: .word f.type.word :: rest) = _
  rw [readColumns, f.type.ofName?_word]
  dsimp only
  split
  · exact absurd rfl h
  · rfl

theorem exists_columns_of_read (h : readColumns tokens = .ok (columns, rest)) :
    ∃ forms : List ColumnForm, forms ≠ [] ∧ forms.map ColumnForm.column = columns ∧
      tokens = withCommas (forms.map ColumnForm.tokens) ++ rest := by
  fun_induction readColumns tokens generalizing columns with
  | case1 name typeName rest' hn => cases h
  | case2 name typeName type hn more ih =>
    let f : ColumnForm := ⟨name, typeName, type, ColumnType.ofName?_eq_some_iff.1 hn⟩
    cases hmore : readColumns more with
    | error fault =>
      rw [hmore] at h
      cases h
    | ok result =>
      obtain ⟨columns', after⟩ := result
      rw [hmore] at h
      cases h
      obtain ⟨forms, hne, hcolumns, htokens⟩ := ih hmore
      obtain ⟨g, gs, rfl⟩ := List.exists_cons_of_ne_nil hne
      refine ⟨f :: g :: gs, List.cons_ne_nil _ _, ?_, ?_⟩
      · rw [List.map_cons, hcolumns]
        rfl
      · rw [htokens, withCommas_cons_cons]
        rfl
  | case3 name typeName rest' type hn hcomma =>
    cases h
    let f : ColumnForm := ⟨name, typeName, type, ColumnType.ofName?_eq_some_iff.1 hn⟩
    exact ⟨[f], List.cons_ne_nil _ _, rfl, rfl⟩
  | case4 => cases h
  | case5 => cases h

theorem readColumns_withCommas {forms : List ColumnForm} (hne : forms ≠ [])
    (h : rest.head? ≠ some (.symbol .comma)) :
    readColumns (withCommas (forms.map ColumnForm.tokens) ++ rest) =
      .ok (forms.map ColumnForm.column, rest) := by
  induction forms with
  | nil => exact absurd rfl hne
  | cons f fs ih =>
    cases fs with
    | nil =>
      rw [withCommas_singleton]
      exact readColumns_of_last h
    | cons g gs =>
      rw [withCommas_cons_cons, List.append_assoc, List.cons_append, readColumns_of_comma,
        ih (List.cons_ne_nil _ _)]
      rfl

end Columns

section Literals

variable {literals : List Literal}

theorem readLiterals_of_comma {l : Literal} :
    readLiterals (l.token :: .symbol .comma :: rest) =
      (readLiterals rest).map fun (literals, after) => (l :: literals, after) := by
  rw [readLiterals, literal?_eq_some_iff.2 rfl]

theorem readLiterals_of_last {l : Literal} (h : rest.head? ≠ some (.symbol .comma)) :
    readLiterals (l.token :: rest) = .ok ([l], rest) := by
  rw [readLiterals, literal?_eq_some_iff.2 rfl]
  dsimp only
  split
  · exact absurd rfl h
  · rfl

theorem exists_literals_of_read (h : readLiterals tokens = .ok (literals, rest)) :
    literals ≠ [] ∧ tokens = withCommas (literals.map fun l => [l.token]) ++ rest := by
  fun_induction readLiterals tokens generalizing literals with
  | case1 => cases h
  | case2 => cases h
  | case3 t l hl more ih =>
    obtain rfl := literal?_eq_some_iff.1 hl
    cases hmore : readLiterals more with
    | error fault =>
      rw [hmore] at h
      cases h
    | ok result =>
      obtain ⟨literals', after⟩ := result
      rw [hmore] at h
      cases h
      obtain ⟨hne, htokens⟩ := ih hmore
      obtain ⟨l', ls, rfl⟩ := List.exists_cons_of_ne_nil hne
      refine ⟨List.cons_ne_nil _ _, ?_⟩
      rw [htokens, withCommas_cons_cons]
      rfl
  | case4 t rest' l hl hcomma =>
    obtain rfl := literal?_eq_some_iff.1 hl
    cases h
    exact ⟨List.cons_ne_nil _ _, rfl⟩

theorem readLiterals_withCommas (hne : literals ≠ [])
    (h : rest.head? ≠ some (.symbol .comma)) :
    readLiterals (withCommas (literals.map fun l => [l.token]) ++ rest) =
      .ok (literals, rest) := by
  induction literals with
  | nil => exact absurd rfl hne
  | cons l ls ih =>
    cases ls with
    | nil =>
      rw [withCommas_singleton]
      exact readLiterals_of_last h
    | cons l' ls =>
      have hrest := ih (List.cons_ne_nil _ _)
      rw [withCommas_cons_cons, List.append_assoc]
      change readLiterals (l.token :: .symbol .comma :: (_ ++ rest)) = _
      rw [readLiterals_of_comma, hrest]
      rfl

end Literals

section Clauses

theorem readPrimaryKey_of_absent (h : startsWith .primary rest = false) :
    readPrimaryKey rest = .ok (none, rest) := by
  unfold readPrimaryKey
  rw [if_neg (Bool.eq_false_iff.1 h)]

theorem readPrimaryKey_tokens (f : KeyForm) (rest : List Token) :
    readPrimaryKey (f.tokens ++ rest) = .ok (some f.column, rest) := by
  have hprimary : startsWith .primary (f.tokens ++ rest) = true :=
    startsWith_iff.2 ⟨f.primary, _, rfl⟩
  unfold readPrimaryKey
  rw [if_pos hprimary]
  refine bind_eq_ok.2 ⟨_, readKeyword_eq_ok.2 ⟨f.key, rfl⟩, ?_⟩
  refine bind_eq_ok.2 ⟨(f.column, _), readIdentifier_eq_ok.2 rfl, ?_⟩
  rfl

theorem exists_key_of_read {key : Option String}
    (h : readPrimaryKey tokens = .ok (key, rest)) :
    ∃ f : Option KeyForm, f.map KeyForm.column = key ∧
      tokens = optional KeyForm.tokens f ++ rest := by
  unfold readPrimaryKey at h
  split at h
  · rename_i hprimary
    obtain ⟨primary, tokens₁, htokens⟩ := startsWith_iff.1 hprimary
    obtain ⟨tokens₂, h₁, h⟩ := bind_eq_ok.1 h
    obtain ⟨⟨column, tokens₃⟩, h₂, h⟩ := bind_eq_ok.1 h
    cases h
    rw [htokens, List.tail_cons] at h₁
    obtain ⟨key, hkey⟩ := readKeyword_eq_ok.1 h₁
    refine ⟨some ⟨primary, key, column⟩, rfl, ?_⟩
    rw [htokens, hkey, readIdentifier_eq_ok.1 h₂]
    rfl
  · cases h
    exact ⟨none, rfl, rfl⟩

theorem readJoin_of_absent (h : startsWith .join rest = false) :
    readJoin rest = .ok (none, rest) := by
  unfold readJoin
  rw [if_neg (Bool.eq_false_iff.1 h)]

theorem readJoin_tokens (f : JoinForm) (rest : List Token) :
    readJoin (f.tokens ++ rest) = .ok (some f.clause, rest) := by
  have hjoin : startsWith .join (f.tokens ++ rest) = true :=
    startsWith_iff.2 ⟨f.join, _, rfl⟩
  unfold readJoin
  rw [if_pos hjoin]
  refine bind_eq_ok.2 ⟨(f.clause.table, _), readIdentifier_eq_ok.2 rfl, ?_⟩
  refine bind_eq_ok.2 ⟨_, readKeyword_eq_ok.2 ⟨f.on, rfl⟩, ?_⟩
  refine bind_eq_ok.2 ⟨(f.clause.left, _), readColumnRef_eq_ok.2 (List.append_assoc _ _ _), ?_⟩
  refine bind_eq_ok.2 ⟨_, readSymbol_eq_ok.2 rfl, ?_⟩
  refine bind_eq_ok.2 ⟨(f.clause.right, _), readColumnRef_eq_ok.2 rfl, ?_⟩
  rfl

theorem exists_join_of_read {join : Option Join} (h : readJoin tokens = .ok (join, rest)) :
    ∃ f : Option JoinForm, f.map JoinForm.clause = join ∧
      tokens = optional JoinForm.tokens f ++ rest := by
  unfold readJoin at h
  split at h
  · rename_i hjoin
    obtain ⟨join, tokens₁, htokens⟩ := startsWith_iff.1 hjoin
    obtain ⟨⟨table, tokens₂⟩, h₁, h⟩ := bind_eq_ok.1 h
    obtain ⟨tokens₃, h₂, h⟩ := bind_eq_ok.1 h
    obtain ⟨⟨left, tokens₄⟩, h₃, h⟩ := bind_eq_ok.1 h
    obtain ⟨tokens₅, h₄, h⟩ := bind_eq_ok.1 h
    obtain ⟨⟨right, tokens₆⟩, h₅, h⟩ := bind_eq_ok.1 h
    cases h
    rw [htokens, List.tail_cons] at h₁
    obtain ⟨on, hon⟩ := readKeyword_eq_ok.1 h₂
    refine ⟨some ⟨join, on, ⟨table, left, right⟩⟩, rfl, ?_⟩
    rw [htokens, readIdentifier_eq_ok.1 h₁, hon, readColumnRef_eq_ok.1 h₃, readSymbol_eq_ok.1 h₄,
      readColumnRef_eq_ok.1 h₅]
    rfl
  · cases h
    exact ⟨none, rfl, rfl⟩

theorem readFilter_of_absent (h : startsWith .where rest = false) :
    readFilter rest = .ok (none, rest) := by
  unfold readFilter
  rw [if_neg (Bool.eq_false_iff.1 h)]

theorem readFilter_tokens (f : FilterForm) (rest : List Token) :
    readFilter (f.tokens ++ rest) = .ok (some f.condition, rest) := by
  have hwhere : startsWith .where (f.tokens ++ rest) = true :=
    startsWith_iff.2 ⟨f.key, _, rfl⟩
  unfold readFilter
  rw [if_pos hwhere]
  refine bind_eq_ok.2 ⟨(f.condition, _), readCondition_eq_ok.2 rfl, ?_⟩
  rfl

theorem exists_filter_of_read {filter : Option Condition}
    (h : readFilter tokens = .ok (filter, rest)) :
    ∃ f : Option FilterForm, f.map FilterForm.condition = filter ∧
      tokens = optional FilterForm.tokens f ++ rest := by
  unfold readFilter at h
  split at h
  · rename_i hwhere
    obtain ⟨key, tokens₁, htokens⟩ := startsWith_iff.1 hwhere
    obtain ⟨⟨condition, tokens₂⟩, h₁, h⟩ := bind_eq_ok.1 h
    cases h
    rw [htokens, List.tail_cons] at h₁
    refine ⟨some ⟨key, condition⟩, rfl, ?_⟩
    rw [htokens, readCondition_eq_ok.1 h₁]
    rfl
  · cases h
    exact ⟨none, rfl, rfl⟩

end Clauses

end Statement
end RelStore
