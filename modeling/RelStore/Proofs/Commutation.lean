import RelStore.Proofs.Refinement.Run
import RelStore.Proofs.Selection
import RelStore.Proofs.Store

/-!
Updates in either order. An update changes the rows of one table and looks at no other, so updates of
different tables do not depend on their order, whether or not they are carried out. Nor do two
deletions from one table: what is left are the rows that hold neither condition, and equal rows have
equal indexes, whether these were made again on the way or kept.
-/

namespace RelStore
set_option autoImplicit false
set_option maxRecDepth 4096

namespace Table

variable {t : Table}

theorem fst_deleteWhere_add_length (t : Table) (column text : String) :
    (t.deleteWhere column text).1 + (t.deleteWhere column text).2.rows.length = t.rows.length := by
  have hkept : (t.keptRows column text).length ≤ t.rows.length := List.length_filter_le _ _
  rw [fst_deleteWhere, rows_deleteWhere, ← length_sub_length_keptRows]
  omega

/-- Two deletions leave, in either order, the same table with the same index. -/
theorem WellFormed.deleteWhere_comm (h : t.WellFormed) (column text column' text' : String) :
    ((t.deleteWhere column text).2.deleteWhere column' text').2 =
      ((t.deleteWhere column' text').2.deleteWhere column text).2 := by
  have hone := (h.deleteWhere column text).deleteWhere column' text'
  have hother := (h.deleteWhere column' text').deleteWhere column text
  apply hone.ext hother
  · simp
  · simp
  · simp only [rows_deleteWhere, keptRows]
    exact List.filter_comm _ _ _

/-- Two deletions take out as many rows together in either order. -/
theorem WellFormed.fst_deleteWhere_comm (h : t.WellFormed) (column text column' text' : String) :
    (t.deleteWhere column text).1 + ((t.deleteWhere column text).2.deleteWhere column' text').1 =
      (t.deleteWhere column' text').1 +
        ((t.deleteWhere column' text').2.deleteWhere column text).1 := by
  have hone := t.fst_deleteWhere_add_length column text
  have htwo := (t.deleteWhere column text).2.fst_deleteWhere_add_length column' text'
  have hone' := t.fst_deleteWhere_add_length column' text'
  have htwo' := (t.deleteWhere column' text').2.fst_deleteWhere_add_length column text
  rw [h.deleteWhere_comm] at htwo
  omega

end Table

/-- What an insertion or a deletion asks for, apart from the table it addresses. -/
inductive Update where
  | insert (values : List Literal)
  | delete (condition : Condition)

namespace Update

def on (table : String) : Update → Statement
  | insert values => .insert table values
  | delete f => .delete table f

/-- What the update makes of a table and how it is reported, or why the table refuses it. -/
def apply (t : Table) : Update → Except Refusal (Notice × Table)
  | insert values =>
    let (taken, t') := (Table.insertValues (values.map Literal.value)).on t
    taken.map fun _ => (.rowInserted, t')
  | delete f =>
    let (count, t') := t.deleteWhere f.column f.value.text
    .ok (.rowsDeleted count, t')

def tried (u : Update) (c : Catalog) (table : String) : Except Refusal (Notice × Table) := do
  let t ← c.table table
  u.apply t

/-- The notice with which the update is answered, and the tables after it. -/
def outcome (u : Update) (c : Catalog) (table : String) : Notice × Catalog :=
  match u.tried c table with
  | .ok (n, t) => (n, c.replace t)
  | .error r => (.refused r, c)

variable {u v : Update} {c : Catalog} {a b : String}

/-- The engine carries the update out as it is tried, and does nothing if it is refused. -/
theorem run_on (u : Update) (c : Catalog) (table : String) :
    (Plan.ofStatement (u.on table)).run c =
      match u.tried c table with
      | .ok p => (.ok (.notice p.1), ⟨c.replace p.2, true⟩)
      | .error r => (.error (.refusal r), ⟨c, false⟩) := by
  unfold tried
  cases u with
  | insert values =>
    change ((Plan.runInsert table values).mapError _).on _ = _
    unfold Plan.runInsert
    rw [Attempt.on_mapError, Engine.on_change]
    cases ht : c.table table with
    | error r =>
      rw [Catalog.on_onTable_of_error ht]
      rfl
    | ok t =>
      rw [Catalog.on_onTable ht, ok_bind, apply]
      rcases hi : (Table.insertValues (values.map Literal.value)).on t with ⟨r | position, t'⟩
      · rw [(Table.atomic_insertValues _).eq hi, Catalog.replace_self (Catalog.table_eq_ok.1 ht)]
        rfl
      · rfl
  | delete f =>
    cases ht : c.table table with
    | error r =>
      change ((Plan.runDelete table f.column f.value).mapError _).on _ = _
      unfold Plan.runDelete
      rw [Attempt.on_mapError, Engine.on_change, Catalog.on_onTable_of_error ht]
      rfl
    | ok t => exact Plan.run_delete (Catalog.table_eq_ok.1 ht) f.column f.value

theorem of_apply_eq_ok {n : Notice} {t t' : Table} (h : u.apply t = .ok (n, t')) :
    n.isSuccess = true ∧ t'.name = t.name := by
  cases u with
  | insert values =>
    rw [apply] at h
    rcases hi : (Table.insertValues (values.map Literal.value)).on t with ⟨r | position, t₁⟩
    · rw [hi] at h
      cases h
    · rw [hi] at h
      obtain ⟨row, -, hi⟩ := Table.insertValues_eq_ok.1 hi
      cases h
      exact ⟨rfl, (Table.of_insert_eq_ok hi).1⟩
  | delete f =>
    cases h
    exact ⟨rfl, t.name_deleteWhere _ _⟩

theorem of_tried_eq_ok {n : Notice} {t : Table} (h : u.tried c a = .ok (n, t)) :
    n.isSuccess = true ∧ t.name = a := by
  obtain ⟨t₀, ht, h⟩ := bind_eq_ok.1 h
  obtain ⟨hn, hname⟩ := of_apply_eq_ok h
  exact ⟨hn, hname.trans (Catalog.find?_eq_some_iff.1 (Catalog.table_eq_ok.1 ht)).2⟩

theorem outcome_of_error {r : Refusal} (h : u.tried c a = .error r) :
    u.outcome c a = (.refused r, c) := by
  unfold outcome
  rw [h]

theorem outcome_of_ok {n : Notice} {t : Table} (h : u.tried c a = .ok (n, t)) :
    u.outcome c a = (n, c.replace t) := by
  unfold outcome
  rw [h]

/-- An update that is refused leaves the tables as they are. -/
theorem catalog_of_not_isSuccess (h : (u.outcome c a).1.isSuccess = false) :
    (u.outcome c a).2 = c := by
  cases hu : u.tried c a with
  | error r => rw [outcome_of_error hu]
  | ok p =>
    rw [outcome_of_ok hu] at h
    cases (of_tried_eq_ok hu).1.symm.trans h

/-- An update looks at no table but the one that it addresses. -/
theorem tried_outcome_of_ne (u v : Update) (hn : a ≠ b) :
    v.tried (u.outcome c a).2 b = v.tried c b := by
  cases hu : u.tried c a with
  | error r => rw [outcome_of_error hu]
  | ok p =>
    rw [outcome_of_ok hu]
    have hname : p.2.name ≠ b := by
      rw [(of_tried_eq_ok hu).2]
      exact hn
    unfold tried
    rw [Catalog.table_replace_of_ne hname]

/-- An update is answered as if no update of another table had been made before. -/
theorem notice_of_ne (u v : Update) (hn : a ≠ b) :
    (v.outcome (u.outcome c a).2 b).1 = (v.outcome c b).1 := by
  have htried := tried_outcome_of_ne (c := c) u v hn
  cases hv : v.tried c b with
  | error r => rw [outcome_of_error hv, outcome_of_error (htried.trans hv)]
  | ok p => rw [outcome_of_ok hv, outcome_of_ok (htried.trans hv)]

theorem catalog_of_ne (u v : Update) (hn : a ≠ b) :
    (v.outcome (u.outcome c a).2 b).2 = (u.outcome (v.outcome c b).2 a).2 := by
  have hsecond := tried_outcome_of_ne (c := c) u v hn
  have hfirst := tried_outcome_of_ne (c := c) v u hn.symm
  cases hu : u.tried c a with
  | error r =>
    rw [outcome_of_error (hfirst.trans hu), outcome_of_error hu]
  | ok p =>
    cases hv : v.tried c b with
    | error r =>
      rw [outcome_of_error (hsecond.trans hv), outcome_of_error hv]
    | ok q =>
      rw [outcome_of_ok (hsecond.trans hv), outcome_of_ok (hfirst.trans hu), outcome_of_ok hu,
        outcome_of_ok hv]
      apply Catalog.replace_comm
      rw [(of_tried_eq_ok hu).2, (of_tried_eq_ok hv).2]
      exact hn

theorem outcome_delete {t : Table} (f : Condition) (ht : c.find? a = some t) :
    (delete f).outcome c a = (.rowsDeleted (t.deleteWhere f.column f.value.text).1,
      c.replace (t.deleteWhere f.column f.value.text).2) := by
  apply outcome_of_ok
  unfold tried
  rw [Catalog.table_eq_ok.2 ht]
  rfl

theorem outcome_delete_of_none (f : Condition) (ht : c.find? a = none) :
    (delete f).outcome c a = (.refused (.tableNotFound a), c) := by
  apply outcome_of_error
  unfold tried Catalog.table
  rw [ht]
  rfl

/-- Two deletions from a table, the one after the other. -/
theorem outcome_delete_delete {t : Table} (f g : Condition) (ht : c.find? a = some t) :
    let left := (t.deleteWhere f.column f.value.text).2
    (delete g).outcome ((delete f).outcome c a).2 a =
      (.rowsDeleted (left.deleteWhere g.column g.value.text).1,
        c.replace (left.deleteWhere g.column g.value.text).2) := by
  intro left
  have hname : left.name = t.name := t.name_deleteWhere _ _
  rw [outcome_delete f ht, outcome_delete g (Catalog.find?_replace ht hname)]
  rw [Catalog.replace_replace (left.name_deleteWhere _ _).symm]

theorem catalog_of_deletes (hc : c.WellFormed) (f g : Condition) :
    ((delete g).outcome ((delete f).outcome c a).2 a).2 =
      ((delete f).outcome ((delete g).outcome c a).2 a).2 := by
  cases ht : c.find? a with
  | none => simp only [outcome_delete_of_none _ ht]
  | some t =>
    have hwf : t.WellFormed := hc t (Catalog.find?_eq_some_iff.1 ht).1
    rw [outcome_delete_delete f g ht, outcome_delete_delete g f ht, hwf.deleteWhere_comm]

/-- Updates of different tables, and two deletions, leave the same tables in either order; and in
either order one of them is carried out, or none is. -/
theorem outcome_comm (hc : c.WellFormed)
    (h : a ≠ b ∨ (∃ f, u = delete f) ∧ ∃ g, v = delete g) :
    (v.outcome (u.outcome c a).2 b).2 = (u.outcome (v.outcome c b).2 a).2 ∧
    ((u.outcome c a).1.isSuccess || (v.outcome (u.outcome c a).2 b).1.isSuccess) =
      ((v.outcome c b).1.isSuccess || (u.outcome (v.outcome c b).2 a).1.isSuccess) := by
  by_cases hn : a = b
  · subst hn
    obtain ⟨⟨f, rfl⟩, ⟨g, rfl⟩⟩ := h.resolve_left fun hne => hne rfl
    refine ⟨catalog_of_deletes hc f g, ?_⟩
    cases ht : c.find? a with
    | none => simp only [outcome_delete_of_none _ ht]
    | some t =>
      rw [outcome_delete f ht, outcome_delete g ht]
      rfl
  · refine ⟨catalog_of_ne u v hn, ?_⟩
    rw [notice_of_ne u v hn, notice_of_ne v u (Ne.symm hn), Bool.or_comm]

end Update

namespace Database

variable {σ : Type} {u v : Update} {text first second a b : String} {w w' : σ} {db db' : Database}

theorem executeAll_pair {save : Catalog → StateM σ (Except FileFault Unit)}
    {answers : List (Except Failure Answer)}
    (h : db.executeAll save [first, second] w = ((answers, db'), w')) :
    ∃ one db₁ w₁ two, db.execute save first w = ((one, db₁), w₁) ∧
      db₁.execute save second w₁ = ((two, db'), w') ∧ answers = [one, two] := by
  cases h
  exact ⟨_, _, _, _, rfl, rfl, rfl⟩

variable [Disk (StateM σ)] {files : σ → FileSystem} {s : Store}

/-- An update whose save does not fail: the answer, the database after it, and the checkpoint. -/
theorem of_execute_update (hd : Disk.Honest files) (hh : db.halted = false)
    (hp : Statement.parse text = .ok (u.on a)) {answer : Except Failure Answer}
    (hx : db.execute (m := StateM σ) s.save text w = ((answer, db'), w'))
    (hs : ∀ fault, answer ≠ .error (.save fault)) :
    answer = .ok (.notice (u.outcome db.catalog a).1) ∧
    db' = ⟨(u.outcome db.catalog a).2, false⟩ ∧
    (files w').read s.path =
      if (u.outcome db.catalog a).1.isSuccess then
        .ok (some (s.encode (u.outcome db.catalog a).2))
      else
        (files w).read s.path := by
  have hplan : db.planOf (u.on a) = Plan.ofStatement (u.on a) := by
    cases u <;> rfl
  have hf : ((Plan.ofStatement (u.on a)).isMutating && db.halted) = false := by
    rw [hh, Bool.and_false]
  have hrun := Update.run_on u db.catalog a
  rw [← hplan] at hrun
  cases hu : u.tried db.catalog a with
  | error r =>
    rw [hu] at hrun
    rw [execute_of_refusal _ db hp hf (congrArg Prod.fst hrun)] at hx
    cases hx
    rw [Update.outcome_of_error hu, ← hh]
    exact ⟨rfl, rfl, rfl⟩
  | ok p =>
    rw [hu] at hrun
    rw [Update.outcome_of_ok hu, if_pos (Update.of_tried_eq_ok hu).1]
    rcases hsave : s.save (m := StateM σ) (db.catalog.replace p.2) w with ⟨fault | _, w₁⟩
    · rw [execute_of_save_error _ db hp hf hrun rfl hsave] at hx
      cases hx
      exact absurd rfl (hs fault)
    · rw [execute_of_save_ok _ db hp hf hrun rfl hsave, hh] at hx
      cases hx
      exact ⟨rfl, rfl, hd.read_of_replaceFile hsave⟩

/-- Two updates whose saves do not fail: the answers, the database after them, and the checkpoint. -/
theorem of_executeAll_updates (hd : Disk.Honest files) (hh : db.halted = false)
    (hp : Statement.parse first = .ok (u.on a)) (hq : Statement.parse second = .ok (v.on b))
    {answers : List (Except Failure Answer)}
    (hx : db.executeAll (m := StateM σ) s.save [first, second] w = ((answers, db'), w'))
    (hs : ∀ fault, .error (.save fault) ∉ answers) :
    let one := u.outcome db.catalog a
    let two := v.outcome one.2 b
    answers = [.ok (.notice one.1), .ok (.notice two.1)] ∧
    db' = ⟨two.2, false⟩ ∧
    (files w').read s.path =
      if one.1.isSuccess || two.1.isSuccess then .ok (some (s.encode two.2))
      else (files w).read s.path := by
  intro one two
  obtain ⟨x, db₁, w₁, y, hfirst, hsecond, rfl⟩ := executeAll_pair hx
  have hsx : ∀ fault, x ≠ .error (.save fault) := by
    intro fault he
    exact hs fault (he ▸ List.mem_cons_self)
  have hsy : ∀ fault, y ≠ .error (.save fault) := by
    intro fault he
    exact hs fault (he ▸ List.mem_cons_of_mem x List.mem_cons_self)
  obtain ⟨rfl, rfl, hread⟩ := of_execute_update hd hh hp hfirst hsx
  obtain ⟨rfl, rfl, hread'⟩ := of_execute_update hd rfl hq hsecond hsy
  refine ⟨rfl, rfl, hread'.trans ?_⟩
  rw [hread]
  change (if two.1.isSuccess then _ else if one.1.isSuccess then _ else _) = _
  cases htwo : two.1.isSuccess with
  | true =>
    rw [Bool.or_true]
    rfl
  | false =>
    -- the second update was refused, so the tables are those that the first has left
    have hsame : two.2 = one.2 := Update.catalog_of_not_isSuccess htwo
    rw [hsame, Bool.or_false]
    rfl

end Database

section Reachable

variable {σ : Type} [Disk (StateM σ)] {files : σ → FileSystem} {s : Store} {w w₁ w₂ : σ}
  {db db₁ db₂ : Database} {u v : Update} {first second a b : String}

/-- Let two insertions or deletions be executed in either order in a database that a run comes to and
that is not halted, and let no save fail. If they address different tables, or are both deletions, the
final tables with their rows and indexes do not depend on the order, and the checkpoint holds the same
bytes. If they address different tables, each is answered in the same way. If they are deletions from
one table, they report the same number of rows together, or are refused since there is no such
table. -/
theorem Reachable.updates_commute (hd : Disk.Honest files) (h : Reachable s w db)
    (hh : db.halted = false) (hp : Statement.parse first = .ok (u.on a))
    (hq : Statement.parse second = .ok (v.on b)) {answers answers' : List (Except Failure Answer)}
    (hx : db.executeAll (m := StateM σ) s.save [first, second] w = ((answers, db₁), w₁))
    (hx' : db.executeAll (m := StateM σ) s.save [second, first] w = ((answers', db₂), w₂))
    (hs : ∀ fault, .error (.save fault) ∉ answers)
    (hs' : ∀ fault, .error (.save fault) ∉ answers') :
    (a ≠ b ∨ (∃ f, u = .delete f) ∧ (∃ g, v = .delete g) →
      db₁ = db₂ ∧ (files w₁).read s.path = (files w₂).read s.path) ∧
    (a ≠ b → answers' = answers.reverse) ∧
    ((∃ f, u = .delete f) → (∃ g, v = .delete g) → a = b →
      (∃ m n m' n', m + n = m' + n' ∧
        answers = [.ok (.notice (.rowsDeleted m)), .ok (.notice (.rowsDeleted n))] ∧
        answers' = [.ok (.notice (.rowsDeleted m')), .ok (.notice (.rowsDeleted n'))]) ∨
      db.catalog.find? a = none ∧
        ∀ x ∈ answers ++ answers', x = .ok (.notice (.refused (.tableNotFound a)))) := by
  obtain ⟨rfl, rfl, hread⟩ := Database.of_executeAll_updates hd hh hp hq hx hs
  obtain ⟨rfl, rfl, hread'⟩ := Database.of_executeAll_updates hd hh hq hp hx' hs'
  refine ⟨?_, ?_, ?_⟩
  · intro hcase
    obtain ⟨hcatalog, hsuccess⟩ := Update.outcome_comm h.wellFormed hcase
    rw [hread, hread', hsuccess, hcatalog]
    exact ⟨rfl, rfl⟩
  · intro hn
    rw [Update.notice_of_ne u v hn, Update.notice_of_ne v u (Ne.symm hn)]
    rfl
  · rintro ⟨f, rfl⟩ ⟨g, rfl⟩ rfl
    cases ht : db.catalog.find? a with
    | none =>
      refine .inr ⟨rfl, ?_⟩
      simp [Update.outcome_delete_of_none _ ht]
    | some t =>
      have hwf : t.WellFormed := h.wellFormed t (Catalog.find?_eq_some_iff.1 ht).1
      rw [Update.outcome_delete_delete f g ht, Update.outcome_delete_delete g f ht,
        Update.outcome_delete f ht, Update.outcome_delete g ht]
      exact .inl ⟨_, _, _, _, hwf.fst_deleteWhere_comm _ _ _ _, rfl, rfl⟩

/-- A row is put into one table, and one is taken out of another. -/
theorem updates_commute_of_two_tables :
    ∃ (s : Store) (w w₁ w₂ : FileSystem) (db db' : Database), Reachable s w db ∧
      db.executeAll (m := StateM FileSystem) s.save
        ["INSERT INTO t VALUES (1)", "DELETE FROM u WHERE id=7"] w =
        (([.ok (.notice .rowInserted), .ok (.notice (.rowsDeleted 1))], db'), w₁) ∧
      db.executeAll (m := StateM FileSystem) s.save
        ["DELETE FROM u WHERE id=7", "INSERT INTO t VALUES (1)"] w =
        (([.ok (.notice (.rowsDeleted 1)), .ok (.notice .rowInserted)], db'), w₂) ∧
      w₁.read s.path = w₂.read s.path := by
  let s : Store := ⟨⟨"db", false, false⟩, 0⟩
  let first := (Database.ofCatalog .empty).execute (m := StateM FileSystem) s.save
    "CREATE TABLE t (id int)" ⟨.empty, []⟩
  let second := first.1.2.execute (m := StateM FileSystem) s.save
    "CREATE TABLE u (id int)" first.2
  let filled := second.1.2.execute (m := StateM FileSystem) s.save
    "INSERT INTO u VALUES (7)" second.2
  let one := filled.1.2.executeAll (m := StateM FileSystem) s.save
    ["INSERT INTO t VALUES (1)", "DELETE FROM u WHERE id=7"] filled.2
  let other := filled.1.2.executeAll (m := StateM FileSystem) s.save
    ["DELETE FROM u WHERE id=7", "INSERT INTO t VALUES (1)"] filled.2
  have hanswers : (filled.1.2.halted, one.1.1, other.1.1) =
      (false, [.ok (.notice .rowInserted), .ok (.notice (.rowsDeleted 1))],
        [.ok (.notice (.rowsDeleted 1)), .ok (.notice .rowInserted)]) := by
    dsimp only [other, one, filled, second, first, s]
    cbv
  simp only [Prod.mk.injEq] at hanswers
  obtain ⟨hhalted, hone, hother⟩ := hanswers
  have hreach : Reachable s filled.2 filled.1.2 :=
    ((reachable_empty.executed _).executed _).executed _
  have hp : Statement.parse "INSERT INTO t VALUES (1)" =
      .ok ((Update.insert [.number "1"]).on "t") := by cbv
  have hq : Statement.parse "DELETE FROM u WHERE id=7" =
      .ok ((Update.delete ⟨"id", .number "7"⟩).on "u") := by cbv
  have hx : filled.1.2.executeAll (m := StateM FileSystem) s.save _ filled.2 =
      ((one.1.1, one.1.2), one.2) := rfl
  have hx' : filled.1.2.executeAll (m := StateM FileSystem) s.save _ filled.2 =
      ((other.1.1, other.1.2), other.2) := rfl
  obtain ⟨hsame, -, -⟩ := hreach.updates_commute Disk.honest_fileSystem hhalted hp hq hx hx'
    (by simp [hone]) (by simp [hother])
  obtain ⟨hfinal, hread⟩ := hsame (.inl (by decide))
  exact ⟨s, filled.2, one.2, other.2, filled.1.2, one.1.2, hreach, Prod.ext (Prod.ext hone rfl) rfl,
    Prod.ext (Prod.ext hother hfinal.symm) rfl, hread⟩

end Reachable
end RelStore
