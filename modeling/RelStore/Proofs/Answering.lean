import RelStore.Proofs.Join

/-!
How a text can be answered. A failure is reported only for the sake of the store: a change that is
asked of a halted database, or a change that was made and could not be saved. All else is answered,
a selection that succeeds with rows and anything else with a notice. A notice that nothing was done,
and the report that the database is halted, leave everything as it was.
-/

namespace RelStore
set_option autoImplicit false
set_option maxRecDepth 4096

namespace Plan

variable {c : Catalog} {answer : Answer} {e : Engine}

/-- What is carried out is not answered with a notice that nothing was done. -/
theorem isSuccess_of_run {plan : Plan} (h : plan.run c = (.ok answer, e)) :
    answer.isSuccess = true := by
  cases ran_of_run h with
  | kept | created | inserted | deleted | returned => rfl

theorem isMutating_of_rows {plan : Plan} {found : List Row}
    (h : plan.run c = (.ok (.rows found), e)) : plan.isMutating = false := by
  cases ran_of_run h with
  | returned hm => exact hm

/-- Rows are returned for selections alone. -/
theorem exists_select_of_run {s : Statement} {found : List Row}
    (h : ((ofStatement s).useIndex c).run c = (.ok (.rows found), e)) :
    ∃ table second condition, s = .select table second condition := by
  have hm := isMutating_of_rows h
  cases s with
  | select table second condition => exact ⟨table, second, condition, rfl⟩
  | createTable | insert | delete => cases hm

end Plan

namespace Database

variable {σ : Type} {save : Catalog → StateM σ (Except FileFault Unit)} {db db' : Database}
  {text : String} {w w' : σ}

/-- Whether it is answered that nothing was done: by a notice, or because the database is halted. -/
def Declined : Except Failure Answer → Prop
  | .ok answer => answer.isSuccess = false
  | .error fault => fault = .halted

/-- The failures that a text can be answered with, and what they leave behind: a halted database
that is asked for a change leaves all as it was, and a change that cannot be saved stands, in a
database that is halted from then on. -/
inductive Fails (save : Catalog → StateM σ (Except FileFault Unit)) (db : Database)
    (text : String) (w : σ) : Failure → Database → σ → Prop where
  | halted (hh : db.halted = true) (hm : Reference.mayChange text = true) :
    Fails save db text w .halted db w
  | unsaved {s : Statement} {answer : Answer} {e : Engine} {fault : FileFault} {w' : σ}
      (hh : db.halted = false) (hp : Statement.parse text = .ok s)
      (hr : (Plan.ofStatement s).run db.catalog = (.ok answer, e)) (hm : e.modified = true)
      (hs : save e.catalog w = (.error fault, w')) :
    Fails save db text w (.save fault) ⟨e.catalog, true⟩ w'

theorem exists_parse_of_mayChange (h : Reference.mayChange text = true) :
    ∃ s, Statement.parse text = .ok s ∧ (Plan.ofStatement s).isMutating = true := by
  cases hp : Statement.parse text with
  | error fault =>
    unfold Reference.mayChange at h
    rw [hp] at h
    cases h
  | ok s => exact ⟨s, rfl, (Reference.mayChange_of_parse hp).symm.trans h⟩

/-- For a statement that may change tables the index is not asked. -/
theorem run_planOf_of_isMutating {s : Statement} (hm : (Plan.ofStatement s).isMutating = true) :
    (db.planOf s).run db.catalog = (Plan.ofStatement s).run db.catalog := by
  unfold planOf
  rw [Plan.useIndex_of_isMutating hm]

theorem execute_eq_error_iff {fault : Failure} :
    db.execute save text w = ((.error fault, db'), w') ↔ Fails save db text w fault db' w' := by
  constructor
  · intro h
    cases Executed.of_eq h with
    | halted hp hm hh => exact .halted hh ((Reference.mayChange_of_parse hp).trans hm)
    | unsaved hp hf hr hm hs =>
      have hmutating := Plan.isMutating_of_modified hr hm
      rw [hmutating, Bool.true_and] at hf
      rw [run_planOf_of_isMutating hmutating] at hr
      exact .unsaved hf hp hr hm hs
  · intro h
    cases h with
    | halted hh hm =>
      obtain ⟨s, hp, hmutating⟩ := exists_parse_of_mayChange hm
      exact execute_of_isMutating save db hp hmutating hh w
    | @unsaved s answer e fault w' hh hp hr hm hs =>
      have hmutating := Plan.isMutating_of_run hr hm
      have hf : ((Plan.ofStatement s).isMutating && db.halted) = false := by
        rw [hh, Bool.and_false]
      rw [← run_planOf_of_isMutating hmutating] at hr
      exact execute_of_save_error save db hp hf hr hm hs

/-- A selection of a well-formed catalog is answered as the plain interpreter answers it. -/
theorem execute_select_iff_of_wellFormed (hc : db.catalog.WellFormed) {table : String}
    {second : Option Join} {condition : Option Condition}
    (hp : Statement.parse text = .ok (.select table second condition)) (w : σ) (found : List Row) :
    (db.execute save text w).1.1 = .ok (.rows found) ↔
      Reference.select db.catalog.toState table second condition = .ok (.rows found) := by
  have hrows := Plan.rows_useIndex_ofSelect hc table second condition
  rw [execute_select_iff hp]
  constructor
  · intro h
    rw [h] at hrows
    exact mapError_eq_ok.1 hrows.symm
  · intro h
    rw [h] at hrows
    cases hplan : ((Plan.ofSelect table second condition).useIndex db.catalog).rows db.catalog with
    | error fault =>
      rw [hplan] at hrows
      cases hrows
    | ok rows =>
      rw [hplan] at hrows
      cases hrows
      rfl

theorem execute_eq_rows_iff (hc : db.catalog.WellFormed) (text : String) (w : σ)
    (found : List Row) :
    (db.execute save text w).1.1 = .ok (.rows found) ↔
      ∃ table second condition, Statement.parse text = .ok (.select table second condition) ∧
        Reference.select db.catalog.toState table second condition = .ok (.rows found) := by
  constructor
  · intro h
    suffices hselect : ∃ table second condition,
        Statement.parse text = .ok (.select table second condition) by
      obtain ⟨table, second, condition, hp⟩ := hselect
      exact ⟨table, second, condition, hp, (execute_select_iff_of_wellFormed hc hp w found).1 h⟩
    have hexecuted := Database.executed save db text w
    generalize db.execute save text w = result at hexecuted h
    cases hexecuted with
    | notUnderstood | halted | refused | unsaved => cases h
    | unchanged hp _ hr | saved hp _ hr =>
      cases h
      obtain ⟨table, second, condition, rfl⟩ := Plan.exists_select_of_run hr
      exact ⟨table, second, condition, hp⟩
  · rintro ⟨table, second, condition, hp, h⟩
    exact (execute_select_iff_of_wellFormed hc hp w found).2 h

theorem execute_eq_notice_iff (hc : db.catalog.WellFormed) (text : String) (w : σ) :
    (∃ n, (db.execute save text w).1.1 = .ok (.notice n)) ↔
      (∀ fault db' w', ¬ Fails save db text w fault db' w') ∧
      ∀ table second condition found,
        Statement.parse text = .ok (.select table second condition) →
        Reference.select db.catalog.toState table second condition ≠ .ok (.rows found) := by
  constructor
  · rintro ⟨n, hn⟩
    refine ⟨fun fault db' w' hf => ?_, fun table second condition found hp hs => ?_⟩
    · rw [execute_eq_error_iff.2 hf] at hn
      cases hn
    · cases hn.symm.trans ((execute_select_iff_of_wellFormed hc hp w found).2 hs)
  · rintro ⟨hfails, hselect⟩
    rcases hx : db.execute save text w with ⟨⟨fault | found | n, db'⟩, w'⟩
    · exact absurd (execute_eq_error_iff.1 hx) (hfails fault db' w')
    · have hrows : (db.execute save text w).1.1 = .ok (.rows found) := by rw [hx]
      obtain ⟨table, second, condition, hp, hs⟩ := (execute_eq_rows_iff hc text w found).1 hrows
      exact absurd hs (hselect table second condition found hp)
    · exact ⟨n, rfl⟩

section carryOut

variable {s : Statement}

theorem carryOut_of_run_ok (hc : db.catalog.WellFormed) {answer : Answer} {e : Engine}
    (hr : (db.planOf s).run db.catalog = (.ok answer, e)) :
    Reference.carryOut db.catalog.toState s = .ok (answer, e.catalog.toState) := by
  have hobserved := hc.observed_run s
  unfold planOf at hr
  rw [hr, Engine.observed, ok_map] at hobserved
  exact mapError_eq_ok.1 hobserved.symm

theorem carryOut_of_run_error (hc : db.catalog.WellFormed) {r : Refusal}
    (hr : ((db.planOf s).run db.catalog).1 = .error (.refusal r)) :
    Reference.carryOut db.catalog.toState s = .error r := by
  have hobserved := hc.observed_run s
  unfold planOf at hr
  rw [Engine.observed, hr, error_map] at hobserved
  cases hout : Reference.carryOut db.catalog.toState s with
  | ok result =>
    rw [hout] at hobserved
    cases hobserved
  | error r' =>
    rw [hout] at hobserved
    cases hobserved
    rfl

end carryOut

theorem not_declined_of_run (hc : db.catalog.WellFormed) {s : Statement} {answer : Answer}
    {e : Engine} (hp : Statement.parse text = .ok s)
    (hf : ((Plan.ofStatement s).isMutating && db.halted) = false)
    (hr : (db.planOf s).run db.catalog = (.ok answer, e)) :
    ¬ ((∃ fault, Statement.parse text = .error fault) ∨
      (db.halted = true ∧ Reference.mayChange text = true) ∨
      ∃ s r, Statement.parse text = .ok s ∧
        Reference.carryOut db.catalog.toState s = .error r) := by
  rintro (⟨fault, hp'⟩ | ⟨hh, hm⟩ | ⟨s', r, hp', hs⟩)
  · cases hp.symm.trans hp'
  · rw [Reference.mayChange_of_parse hp] at hm
    rw [hm, hh] at hf
    cases hf
  · cases hp.symm.trans hp'
    cases (carryOut_of_run_ok hc hr).symm.trans hs

theorem declined_execute_iff (hc : db.catalog.WellFormed) (text : String) (w : σ) :
    Declined (db.execute save text w).1.1 ↔
      (∃ fault, Statement.parse text = .error fault) ∨
      (db.halted = true ∧ Reference.mayChange text = true) ∨
      ∃ s r, Statement.parse text = .ok s ∧
        Reference.carryOut db.catalog.toState s = .error r := by
  have hexecuted := Database.executed save db text w
  generalize db.execute save text w = result at hexecuted
  cases hexecuted with
  | notUnderstood hp => exact iff_of_true rfl (.inl ⟨_, hp⟩)
  | halted hp hm hh =>
    exact iff_of_true rfl (.inr (.inl ⟨hh, (Reference.mayChange_of_parse hp).trans hm⟩))
  | refused hp _ hr => exact iff_of_true rfl (.inr (.inr ⟨_, _, hp, carryOut_of_run_error hc hr⟩))
  | unchanged hp hf hr | saved hp hf hr =>
    refine iff_of_false (fun hd => ?_) (not_declined_of_run hc hp hf hr)
    cases hd.symm.trans (Plan.isSuccess_of_run hr)
  | unsaved hp hf hr => exact iff_of_false nofun (not_declined_of_run hc hp hf hr)

/-- Where nothing was done, nothing is touched: not the catalog, not whether the database is halted,
and nothing of what is stored. -/
theorem execute_of_declined (h : Declined (db.execute save text w).1.1) :
    db.execute save text w = (((db.execute save text w).1.1, db), w) := by
  have hexecuted := Database.executed save db text w
  generalize db.execute save text w = result at hexecuted h
  cases hexecuted with
  | notUnderstood | halted | refused => rfl
  | unchanged _ _ hr | saved _ _ hr => cases h.symm.trans (Plan.isSuccess_of_run hr)
  | unsaved => cases h

end Database

section Reachable

variable {σ : Type} [Disk (StateM σ)] {s : Store} {w : σ} {db : Database}

/-- In every database that a run comes to, and for every text: that nothing was done is answered
just if the text is no statement, or asks a halted database for a change, or is refused by the plain
interpreter; and then the catalog is as it was, with its rows and its indexes, and so are the halted
flag and everything on the disk. -/
theorem Reachable.unchanged_of_declined (h : Reachable s w db) (text : String) :
    (Database.Declined (db.execute (m := StateM σ) s.save text w).1.1 ↔
      (∃ fault, Statement.parse text = .error fault) ∨
      (db.halted = true ∧ Reference.mayChange text = true) ∨
      ∃ statement r, Statement.parse text = .ok statement ∧
        Reference.carryOut db.catalog.toState statement = .error r) ∧
    (Database.Declined (db.execute (m := StateM σ) s.save text w).1.1 →
      (db.execute (m := StateM σ) s.save text w).1.2 = db ∧
      (db.execute (m := StateM σ) s.save text w).2 = w) := by
  refine ⟨Database.declined_execute_iff h.wellFormed text w, fun hd => ?_⟩
  rw [Database.execute_of_declined hd]
  exact ⟨rfl, rfl⟩

/-- A row whose key is taken is refused when it has been built, and the file system stays. -/
theorem unchanged_of_taken_seven :
    ∃ (s : Store) (w : FileSystem) (db : Database), Reachable s w db ∧ db.catalog.names = ["t"] ∧
      Database.Declined
        (db.execute (m := StateM FileSystem) s.save "INSERT INTO t VALUES (7)" w).1.1 ∧
      (db.execute (m := StateM FileSystem) s.save "INSERT INTO t VALUES (7)" w).1.2 = db ∧
      (db.execute (m := StateM FileSystem) s.save "INSERT INTO t VALUES (7)" w).2 = w := by
  obtain ⟨s, w, db, type, hreach, -, hstate⟩ := exists_reachable_of_relation
  have hnames : db.catalog.names = ["t"] := by
    rw [← Catalog.map_name_toState, hstate]
    rfl
  have hp : Statement.parse "INSERT INTO t VALUES (7)" = .ok (.insert "t" [.number "7"]) := by cbv
  have hrefused : Reference.carryOut db.catalog.toState (.insert "t" [.number "7"]) =
      .error (.duplicateKey (.integer 7)) := by
    rw [hstate]
    rfl
  obtain ⟨hiff, hsame⟩ := hreach.unchanged_of_declined "INSERT INTO t VALUES (7)"
  have hdeclined := hiff.2 (.inr (.inr ⟨_, _, hp, hrefused⟩))
  exact ⟨s, w, db, hreach, hnames, hdeclined, hsame hdeclined⟩

/-- In every database that a run comes to, and for every text: a failure is reported just if a
halted database is asked for a change, or a change was made and its save failed; rows are returned
just for the selections that succeed; and there is a notice in all other cases. No plan of a
statement, with the index or without it, asks for rows where there are none. -/
theorem Reachable.execute_outcomes (h : Reachable s w db) (text : String) :
    (∀ fault db' w', db.execute (m := StateM σ) s.save text w = ((.error fault, db'), w') ↔
      Database.Fails (s.save (m := StateM σ)) db text w fault db' w') ∧
    (∀ found, (db.execute (m := StateM σ) s.save text w).1.1 = .ok (.rows found) ↔
      ∃ table second condition, Statement.parse text = .ok (.select table second condition) ∧
        Reference.select db.catalog.toState table second condition = .ok (.rows found)) ∧
    ((∃ n, (db.execute (m := StateM σ) s.save text w).1.1 = .ok (.notice n)) ↔
      (∀ fault db' w', ¬ Database.Fails (s.save (m := StateM σ)) db text w fault db' w') ∧
      ∀ table second condition found,
        Statement.parse text = .ok (.select table second condition) →
        Reference.select db.catalog.toState table second condition ≠ .ok (.rows found)) ∧
    ∀ statement c c' plan,
      ((Plan.ofStatement statement).run c).1 ≠ .error (.noRows plan) ∧
      (((Plan.ofStatement statement).useIndex c').run c).1 ≠ .error (.noRows plan) := by
  refine ⟨fun fault db' w' => Database.execute_eq_error_iff,
    Database.execute_eq_rows_iff h.wellFormed text w,
    Database.execute_eq_notice_iff h.wellFormed text w,
    fun statement c c' plan => ⟨fun hplan => ?_, fun hplan => ?_⟩⟩
  · obtain ⟨r, hr⟩ := Plan.run_eq_error (Plan.isMutating_or_readsRows statement) hplan
    cases hr
  · obtain ⟨r, hr⟩ := Plan.run_ofStatement_eq_error hplan
    cases hr

/-- A table is created while a directory has the name of the temporary file: that the save failed
is reported, and the table is there in a halted database. -/
theorem execute_outcomes_of_occupied_name :
    ∃ (s : Store) (w : FileSystem) (db : Database), Reachable s w db ∧ db.catalog.names = [] ∧
      ∃ fault db' w', Database.Fails (s.save (m := StateM FileSystem)) db
        "CREATE TABLE t (id int)" w (.save fault) db' w' ∧
        db'.halted = true ∧ db'.catalog.names = ["t"] := by
  let s : Store := ⟨⟨"db", false, false⟩, 0⟩
  let w : FileSystem := ⟨.ofList [([".db.tmp.0"], .directory)], []⟩
  let created := (Database.ofCatalog .empty).execute (m := StateM FileSystem) s.save
    "CREATE TABLE t (id int)" w
  have hopened : s.openDatabase (m := StateM FileSystem) w = (.ok (.ofCatalog .empty), w) := by cbv
  have hcreated : (created.1.1, created.1.2.halted, created.1.2.catalog.names) =
      (.error (.save .isADirectory), true, ["t"]) := by
    dsimp only [created, s, w]
    cbv
  simp only [Prod.mk.injEq] at hcreated
  obtain ⟨hanswer, hhalted, hnames⟩ := hcreated
  have hreach : Reachable s w (.ofCatalog .empty) := .opened hopened
  have hfailed : created = ((.error (.save .isADirectory), created.1.2), created.2) := by
    rw [← hanswer]
    rfl
  have hfails := ((hreach.execute_outcomes "CREATE TABLE t (id int)").1 _ _ _).1 hfailed
  exact ⟨s, w, _, hreach, rfl, _, _, _, hfails, hhalted, hnames⟩

end Reachable
end RelStore
