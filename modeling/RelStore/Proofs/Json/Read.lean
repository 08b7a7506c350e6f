import RelStore.Json.Read
import RelStore.Json.Write
import RelStore.Proofs.Json.Token

/-!
Every JSON value is read back from its text, in either layout. The text of a value is read from
any stage at which a value may come, and leads to the stage after that value; for the items of an
array and the members of an object that are still to come this holds up to the bracket that closes
them.
-/

namespace RelStore.Json
set_option autoImplicit false

/-- The stage after the tokens of a text. -/
def Stage.read (stage : Stage) (s : List Char) : Option Stage :=
  (tokens? s).bind fun tokens => tokens.foldlM Stage.step stage

/-- A stage at which a value may come, inside of `outer`. -/
def Stage.Awaits (stage : Stage) (outer : List Frame) : Prop :=
  ∀ t, t ≠ .closeArray → stage.step t = Stage.start outer t

section Read

variable {stage stage' : Stage} {outer : List Frame} {s rest : List Char}

theorem awaits_value (outer : List Frame) : (Stage.value outer).Awaits outer :=
  fun _ _ => rfl

theorem awaits_firstItem (outer : List Frame) :
    (Stage.firstItem outer).Awaits (.array [] :: outer) := by
  intro t ht
  cases t with
  | closeArray => exact absurd rfl ht
  | openArray | openObject | closeObject | colon | comma | scalar => rfl

theorem read_nil (stage : Stage) : stage.read [] = some stage := by
  unfold Stage.read
  rw [tokens?]
  rfl

theorem read_blank {c : Char} (h : isBlank c = true) : stage.read (c :: s) = stage.read s := by
  unfold Stage.read
  rw [tokens?, if_pos h]

theorem read_token {c : Char} {t : Token} (hb : isBlank c = false)
    (h : head? c s = some (t, rest)) (hs : stage.step t = some stage') :
    stage.read (c :: s) = stage'.read rest := by
  unfold Stage.read
  rw [tokens?, if_neg (Bool.eq_false_iff.1 hb)]
  split
  · rename_i t' after hhead
    cases h.symm.trans hhead
    cases tokens? rest with
    | none => rfl
    | some tokens =>
      change (t :: tokens).foldlM Stage.step stage = tokens.foldlM Stage.step stage'
      rw [List.foldlM_cons, hs]
      rfl
  · rename_i hhead
    cases h.symm.trans hhead

theorem read_blanks {blanks : List Char} (h : ∀ c ∈ blanks, isBlank c = true) :
    stage.read (blanks ++ s) = stage.read s := by
  induction blanks with
  | nil => rfl
  | cons c blanks ih =>
    rw [List.cons_append, read_blank (h c List.mem_cons_self)]
    exact ih fun d hd => h d (List.mem_cons_of_mem _ hd)

theorem isBlank_of_mem_lineBreak {l : Layout} {depth : Nat} {c : Char}
    (h : c ∈ l.lineBreak depth) : isBlank c = true := by
  cases l with
  | compact => cases h
  | indented =>
    rcases List.mem_cons.1 h with rfl | h
    · rfl
    · rw [List.eq_of_mem_replicate h]
      rfl

theorem read_lineBreak (l : Layout) (depth : Nat) :
    stage.read (l.lineBreak depth ++ s) = stage.read s :=
  read_blanks fun _ => isBlank_of_mem_lineBreak

theorem read_quote {content : Option String}
    (hs : stage.step (.scalar (.string content)) = some stage') :
    stage.read (quote content ++ s) = stage'.read s := by
  obtain ⟨tail, hquote, hhead⟩ := head?_quote content s
  rw [hquote]
  exact read_token rfl hhead hs

theorem read_colon (l : Layout) {members : List (Option String × Json)} {key : Option String} :
    (Stage.colon members key outer).read (l.colon ++ s) =
      (Stage.value (.object members key :: outer)).read s := by
  cases l with
  | compact => exact read_token rfl rfl rfl
  | indented =>
    have hcolon : head? ':' (' ' :: s) = some (.colon, ' ' :: s) := rfl
    exact (read_token rfl hcolon rfl).trans (read_blank rfl)

theorem endsNumber_lineBreak (l : Layout) (depth : Nat) {c : Char}
    (hc : c.isDigit = false ∧ c ≠ '.' ∧ c ≠ 'e' ∧ c ≠ 'E') (s : List Char) :
    EndsNumber (l.lineBreak depth ++ c :: s) := by
  cases l with
  | compact => exact endsNumber_cons hc s
  | indented => exact endsNumber_cons (by decide) _

theorem endsNumber_writeItems (l : Layout) (depth depth' : Nat) (items : List Json)
    (s : List Char) : EndsNumber (writeItems l depth items ++ (l.lineBreak depth' ++ ']' :: s)) := by
  cases items with
  | nil => exact endsNumber_lineBreak l depth' (by decide) s
  | cons v items => exact endsNumber_cons (by decide) _

theorem endsNumber_writeMembers (l : Layout) (depth depth' : Nat)
    (members : List (Option String × Json)) (s : List Char) :
    EndsNumber (writeMembers l depth members ++ (l.lineBreak depth' ++ '}' :: s)) := by
  cases members with
  | nil => exact endsNumber_lineBreak l depth' (by decide) s
  | cons m members => exact endsNumber_cons (by decide) _

end Read

mutual

/-- The text of a value is read as the value, from wherever one may come. -/
theorem read_write (l : Layout) : ∀ (depth : Nat) (v : Json) {stage : Stage} {outer : List Frame}
    {s : List Char}, stage.Awaits outer → EndsNumber s →
    stage.read (write l depth v ++ s) = (Stage.after v outer).read s
  | _, .null, _, _, _, ha, _ => read_token rfl rfl (ha _ nofun)
  | _, .bool true, _, _, _, ha, _ => read_token rfl rfl (ha _ nofun)
  | _, .bool false, _, _, _, ha, _ => read_token rfl rfl (ha _ nofun)
  | _, .integer n, _, _, _, ha, hs => by
    obtain ⟨c, tail, hc, hb, hhead⟩ := head?_ofInt n hs
    rw [write, hc]
    exact read_token hb hhead (ha _ nofun)
  | _, .fraction, _, _, _, ha, hs => by
    rw [write]
    exact read_token rfl (head?_fraction hs) (ha _ nofun)
  | _, .string content, _, _, _, ha, _ => by
    rw [write]
    exact read_quote (ha _ nofun)
  | _, .array [], stage, outer, s, ha, _ => by
    have hopen : stage.step .openArray = some (.firstItem outer) := ha .openArray nofun
    rw [write]
    exact (read_token rfl rfl hopen).trans (read_token rfl rfl rfl)
  | depth, .array (v :: items), stage, outer, s, ha, _ => by
    have hopen : stage.step .openArray = some (.firstItem outer) := ha .openArray nofun
    have hv := read_write l (depth + 1) v (awaits_firstItem outer)
      (endsNumber_writeItems l (depth + 1) depth items s)
    have hitems := read_writeItems l (depth + 1) depth items v [] outer s
    simp only [write, List.cons_append, List.append_assoc, List.nil_append]
    rw [read_token rfl rfl hopen, read_lineBreak, hv, hitems]
    rfl
  | _, .object [], stage, outer, s, ha, _ => by
    have hopen : stage.step .openObject = some (.firstKey outer) := ha .openObject nofun
    rw [write]
    exact (read_token rfl rfl hopen).trans (read_token rfl rfl rfl)
  | depth, .object ((key, v) :: members), stage, outer, s, ha, _ => by
    have hopen : stage.step .openObject = some (.firstKey outer) := ha .openObject nofun
    have hv := read_write l (depth + 1) v (awaits_value (.object [] key :: outer))
      (endsNumber_writeMembers l (depth + 1) depth members s)
    have hmembers := read_writeMembers l (depth + 1) depth members v key [] outer s
    simp only [write, List.cons_append, List.append_assoc, List.nil_append]
    rw [read_token rfl rfl hopen, read_lineBreak, read_quote rfl, read_colon, hv, hmembers]
    rfl

/-- The items that are still to come are read up to the end of their array. -/
theorem read_writeItems (l : Layout) (depth depth' : Nat) : ∀ (items : List Json) (v : Json)
    (before : List Json) (outer : List Frame) (s : List Char),
    (Stage.after v (.array before :: outer)).read
        (writeItems l depth items ++ (l.lineBreak depth' ++ ']' :: s)) =
      (Stage.after (.array ((v :: before).reverse ++ items)) outer).read s
  | [], v, before, outer, s => by
    rw [writeItems, List.nil_append, read_lineBreak, List.append_nil]
    exact read_token rfl rfl rfl
  | w :: items, v, before, outer, s => by
    have hw := read_write l depth w (awaits_value (.array (v :: before) :: outer))
      (endsNumber_writeItems l depth depth' items s)
    have hitems := read_writeItems l depth depth' items w (v :: before) outer s
    simp only [writeItems, List.cons_append, List.append_assoc]
    rw [read_token rfl rfl rfl, read_lineBreak, hw, hitems, List.reverse_cons, List.append_assoc]
    rfl

/-- The members that are still to come are read up to the end of their object. -/
theorem read_writeMembers (l : Layout) (depth depth' : Nat) :
    ∀ (members : List (Option String × Json)) (v : Json) (key : Option String)
    (before : List (Option String × Json)) (outer : List Frame) (s : List Char),
    (Stage.after v (.object before key :: outer)).read
        (writeMembers l depth members ++ (l.lineBreak depth' ++ '}' :: s)) =
      (Stage.after (.object (((key, v) :: before).reverse ++ members)) outer).read s
  | [], v, key, before, outer, s => by
    rw [writeMembers, List.nil_append, read_lineBreak, List.append_nil]
    exact read_token rfl rfl rfl
  | (key', w) :: members, v, key, before, outer, s => by
    have hw := read_write l depth w (awaits_value (.object ((key, v) :: before) key' :: outer))
      (endsNumber_writeMembers l depth depth' members s)
    have hmembers := read_writeMembers l depth depth' members w key' ((key, v) :: before) outer s
    simp only [writeMembers, List.cons_append, List.append_assoc]
    rw [read_token rfl rfl rfl, read_lineBreak, read_quote rfl, read_colon, hw, hmembers,
      List.reverse_cons, List.append_assoc]
    rfl

end

/-- A value is read back from its text, in either layout. -/
theorem read?_render (l : Layout) (v : Json) : read? (render l v) = some v := by
  have hread := read_write l 0 v (awaits_value []) endsNumber_nil
  rw [List.append_nil, read_nil, Stage.read, Option.bind_eq_some_iff] at hread
  obtain ⟨tokens, htokens, hstage⟩ := hread
  unfold read? render ofTokens?
  rw [String.toList_ofList, htokens, Option.bind_some, hstage]

end RelStore.Json
