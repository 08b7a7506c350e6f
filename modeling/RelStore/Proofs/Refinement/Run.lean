import Mathlib
import RelStore.Proofs.Reachable
import RelStore.Proofs.Refinement.Statement

/-!
Runs of a database against runs of the plain interpreter. Each text is answered as the plain
interpreter answers it, save in two cases. If the save that follows a change fails, that is
reported in place of the answer, the change stands and the database is halted; and a halted
database carries out no statement that may change tables.
-/

namespace RelStore
set_option autoImplicit false
set_option maxRecDepth 4096

namespace Reference

/-- The answer to a text and the state after it; a text that is no statement changes nothing. -/
def respond (state : State) (text : String) : Answer × State :=
  match Statement.parse text with
  | .error _ => (.notice .notUnderstood, state)
  | .ok s => answer state s

def respondAll (state : State) : List String → List Answer × State
  | [] => ([], state)
  | text :: rest =>
    ((respond state text).1 :: (respondAll (respond state text).2 rest).1,
      (respondAll (respond state text).2 rest).2)

def mayChange (text : String) : Bool :=
  match Statement.parse text with
  | .error _ | .ok (.select _ _ _) => false
  | .ok _ => true

/-- Whether an answer is to a statement that was carried out on the tables. -/
def reportsChange : Answer → Bool
  | .notice (.tableCreated _) | .notice .rowInserted | .notice (.rowsDeleted _) => true
  | _ => false

/-- How a text may be answered from a state, by a database that is halted or not, and what it
leaves behind. `saveFails` tells which saves can fail, and how. -/
inductive Responds (saveFails : State → FileFault → Prop) :
    Bool × State → String → Except Failure Answer → Bool × State → Prop where
  | answered {halted : Bool} {state state' : State} {text : String} {answer : Answer}
      (hm : (mayChange text && halted) = false) (h : respond state text = (answer, state')) :
    Responds saveFails (halted, state) text (.ok answer) (halted, state')
  | unsaved {state state' : State} {text : String} {answer : Answer} {fault : FileFault}
      (h : respond state text = (answer, state')) (hc : reportsChange answer = true)
      (hf : saveFails state' fault) :
    Responds saveFails (false, state) text (.error (.save fault)) (true, state')
  | halted {state : State} {text : String} (hm : mayChange text = true) :
    Responds saveFails (true, state) text (.error .halted) (true, state)

inductive RespondsAll (saveFails : State → FileFault → Prop) :
    Bool × State → List String → List (Except Failure Answer) → Bool × State → Prop where
  | nil {state : Bool × State} : RespondsAll saveFails state [] [] state
  | cons {state state' state'' : Bool × State} {text : String} {texts : List String}
      {answer : Except Failure Answer} {answers : List (Except Failure Answer)}
      (h : Responds saveFails state text answer state')
      (hs : RespondsAll saveFails state' texts answers state'') :
    RespondsAll saveFails state (text :: texts) (answer :: answers) state''

/-- Where no save fails, all texts are answered as the plain interpreter answers them. -/
theorem RespondsAll.eq_respondAll {saveFails : State → FileFault → Prop} {state : State}
    {final : Bool × State} {texts : List String} {answers : List (Except Failure Answer)}
    (h : RespondsAll saveFails (false, state) texts answers final)
    (hn : ∀ fault, .error (.save fault) ∉ answers) :
    answers = (respondAll state texts).1.map .ok ∧ final = (false, (respondAll state texts).2) := by
  -- without a failing save the database is not halted before any text
  generalize hs : (false, state) = start at h
  induction h generalizing state with
  | nil =>
    cases hs
    exact ⟨rfl, rfl⟩
  | cons hr hrest ih =>
    subst hs
    cases hr with
    | answered _ h =>
      obtain ⟨hanswers, hfinal⟩ := ih (fun fault hm => hn fault (List.mem_cons_of_mem _ hm)) rfl
      rw [respondAll, h]
      exact ⟨congrArg (_ :: ·) hanswers, hfinal⟩
    | unsaved => exact absurd List.mem_cons_self (hn _)

theorem exists_rows_of_select {state : State} {table : String} {second : Option Join}
    {condition : Option Condition} {found : Answer}
    (h : select state table second condition = .ok found) : ∃ rows, found = .rows rows := by
  obtain ⟨r, -, h⟩ := bind_eq_ok.1 h
  obtain ⟨rows, -, h⟩ := bind_eq_ok.1 h
  cases condition with
  | none | some => exact ⟨_, (Except.ok.inj h).symm⟩

theorem reportsChange_select (state : State) (table : String) (second : Option Join)
    (condition : Option Condition) :
    reportsChange (answer state (.select table second condition)).1 = false := by
  unfold answer carryOut
  dsimp only
  cases hs : select state table second condition with
  | error r => rfl
  | ok found =>
    obtain ⟨rows, rfl⟩ := exists_rows_of_select hs
    rfl

theorem mayChange_of_reportsChange {state : State} {text : String}
    (h : reportsChange (respond state text).1 = true) : mayChange text = true := by
  unfold respond at h
  unfold mayChange
  cases hp : Statement.parse text with
  | error fault =>
    rw [hp] at h
    cases h
  | ok s =>
    cases s with
    | createTable | insert | delete => rfl
    | select table second condition =>
      rw [hp] at h
      cases (reportsChange_select state table second condition).symm.trans h

/-- A text that may not change tables is answered as the plain interpreter answers it, by a halted
database too. -/
theorem Responds.eq_respond_of_not_mayChange {saveFails : State → FileFault → Prop} {halted : Bool}
    {state : State} {final : Bool × State} {text : String} {result : Except Failure Answer}
    (h : Responds saveFails (halted, state) text result final) (hm : mayChange text = false) :
    result = .ok (respond state text).1 ∧ final = (halted, (respond state text).2) := by
  cases h with
  | answered _ h =>
    rw [h]
    exact ⟨rfl, rfl⟩
  | unsaved h hc _ =>
    have hchanges : reportsChange (respond state text).1 = true := by
      rw [h]
      exact hc
    cases hm.symm.trans (mayChange_of_reportsChange hchanges)
  | halted hchanges => cases hm.symm.trans hchanges

theorem RespondsAll.eq_respondAll_of_not_mayChange {saveFails : State → FileFault → Prop}
    {halted : Bool} {state : State} {final : Bool × State} {texts : List String}
    {answers : List (Except Failure Answer)}
    (h : RespondsAll saveFails (halted, state) texts answers final)
    (hm : ∀ text ∈ texts, mayChange text = false) :
    answers = (respondAll state texts).1.map .ok ∧
      final = (halted, (respondAll state texts).2) := by
  generalize hs : (halted, state) = start at h
  induction h generalizing state with
  | nil =>
    cases hs
    exact ⟨rfl, rfl⟩
  | cons hr hrest ih =>
    subst hs
    obtain ⟨hhead, hrest'⟩ := List.forall_mem_cons.1 hm
    obtain ⟨rfl, rfl⟩ := hr.eq_respond_of_not_mayChange hhead
    obtain ⟨hanswers, hfinal⟩ := ih hrest' rfl
    exact ⟨congrArg (_ :: ·) hanswers, hfinal⟩

end Reference

namespace Database

def executeAll {m : Type → Type} [Monad m] (save : Catalog → m (Except FileFault Unit))
    (db : Database) : List String → m (List (Except Failure Answer) × Database)
  | [] => return ([], db)
  | text :: rest => do
    let (answer, db) ← db.execute save text
    let (answers, db) ← db.executeAll save rest
    return (answer :: answers, db)

/-- A database as the plain interpreter sees it: whether it is halted, and the tables without
their indexes. -/
def observed (db : Database) : Bool × Reference.State :=
  (db.halted, db.catalog.toState)

/-- The saves that can fail, by the tables to be saved. -/
def SaveFails {σ : Type} (save : Catalog → StateM σ (Except FileFault Unit))
    (state : Reference.State) (fault : FileFault) : Prop :=
  ∃ c w w', c.toState = state ∧ save c w = (.error fault, w')

end Database

theorem Reference.mayChange_of_parse {text : String} {s : Statement}
    (hp : Statement.parse text = .ok s) :
    Reference.mayChange text = (Plan.ofStatement s).isMutating := by
  unfold Reference.mayChange
  rw [hp]
  cases s with
  | createTable | insert | delete => rfl
  | select table second condition =>
    exact (Plan.isMutating_of_readsRows (Plan.readsRows_ofSelect table second condition)).symm

theorem Plan.modified_eq {c : Catalog} {plan : Plan} {answer : Answer} {e : Engine}
    (h : plan.run c = (.ok answer, e)) : e.modified = Reference.reportsChange answer := by
  cases Plan.ran_of_run h with
  | kept | created | inserted | deleted | returned => rfl

theorem Plan.isMutating_of_modified {c : Catalog} {s : Statement} {answer : Answer} {e : Engine}
    (h : ((Plan.ofStatement s).useIndex c).run c = (.ok answer, e)) (hm : e.modified = true) :
    (Plan.ofStatement s).isMutating = true := by
  rw [← Plan.isMutating_useIndex c]
  exact Plan.isMutating_of_run h hm

section Respond

variable {db : Database} {s : Statement} {text : String}

theorem respond_of_run_ok (hc : db.catalog.WellFormed) (hp : Statement.parse text = .ok s)
    {answer : Answer} {e : Engine} (hr : (db.planOf s).run db.catalog = (.ok answer, e)) :
    Reference.respond db.catalog.toState text = (answer, e.catalog.toState) := by
  have hobserved := hc.observed_run s
  unfold Database.planOf at hr
  rw [hr, Engine.observed, ok_map] at hobserved
  unfold Reference.respond Reference.answer
  rw [hp]
  dsimp only
  rw [mapError_eq_ok.1 hobserved.symm]

theorem respond_of_run_error (hc : db.catalog.WellFormed) (hp : Statement.parse text = .ok s)
    {r : Refusal} (hr : ((db.planOf s).run db.catalog).1 = .error (.refusal r)) :
    Reference.respond db.catalog.toState text = (.notice (.refused r), db.catalog.toState) := by
  have hobserved := hc.observed_run s
  unfold Database.planOf at hr
  rw [Engine.observed, hr, error_map] at hobserved
  unfold Reference.respond Reference.answer
  rw [hp]
  cases hout : Reference.carryOut db.catalog.toState s with
  | ok result =>
    rw [hout] at hobserved
    cases hobserved
  | error r' =>
    rw [hout] at hobserved
    cases hobserved
    simp only [hout]

end Respond

/-- A text is answered as the plain interpreter answers it, or a save fails or has failed. -/
theorem Database.responds_execute {σ : Type} (save : Catalog → StateM σ (Except FileFault Unit))
    {db : Database} (hc : db.catalog.WellFormed) (text : String) (w : σ) :
    Reference.Responds (SaveFails save) db.observed text (db.execute save text w).1.1
      (db.execute save text w).1.2.observed := by
  have hexecuted := Database.executed save db text w
  generalize db.execute save text w = result at hexecuted
  cases hexecuted with
  | notUnderstood hp =>
    have hm : Reference.mayChange text = false := by
      unfold Reference.mayChange
      rw [hp]
    have hrespond : Reference.respond db.catalog.toState text =
        (.notice .notUnderstood, db.catalog.toState) := by
      unfold Reference.respond
      rw [hp]
    exact .answered (by rw [hm]; rfl) hrespond
  | halted hp hm hh =>
    unfold observed
    rw [hh]
    exact .halted ((Reference.mayChange_of_parse hp).trans hm)
  | refused hp hf hr =>
    rw [← Reference.mayChange_of_parse hp] at hf
    exact .answered hf (respond_of_run_error hc hp hr)
  | unchanged hp hf hr | saved hp hf hr =>
    rw [← Reference.mayChange_of_parse hp] at hf
    exact .answered hf (respond_of_run_ok hc hp hr)
  | unsaved hp hf hr hm hs =>
    rw [Plan.isMutating_of_modified hr hm, Bool.true_and] at hf
    unfold observed
    rw [hf]
    exact .unsaved (respond_of_run_ok hc hp hr) ((Plan.modified_eq hr).symm.trans hm)
      ⟨_, w, _, rfl, hs⟩

theorem Database.respondsAll_executeAll {σ : Type}
    (save : Catalog → StateM σ (Except FileFault Unit)) {db : Database}
    (hc : db.catalog.WellFormed) (texts : List String) (w : σ) :
    Reference.RespondsAll (SaveFails save) db.observed texts (db.executeAll save texts w).1.1
      (db.executeAll save texts w).1.2.observed := by
  induction texts generalizing db w with
  | nil => exact .nil
  | cons text texts ih =>
    exact .cons (Database.responds_execute save hc text w)
      (ih (Database.wellFormed_execute save hc text w) _)

/-- Whatever texts a database is given, in whatever state a run has brought it to, it answers
them one after another as the plain interpreter does, but for the failing saves and what they
halt; and where it is not halted and reports no failing save, there is no difference. -/
theorem Reachable.responds_executeAll {σ : Type} [Disk (StateM σ)] {s : Store} {w : σ}
    {db : Database} (h : Reachable s w db) (texts : List String) :
    let result := db.executeAll (m := StateM σ) s.save texts w
    Reference.RespondsAll (Database.SaveFails (s.save (m := StateM σ)))
      (db.halted, db.catalog.toState) texts
      result.1.1 (result.1.2.halted, result.1.2.catalog.toState) ∧
    (db.halted = false → (∀ fault, .error (.save fault) ∉ result.1.1) →
      result.1.1 = (Reference.respondAll db.catalog.toState texts).1.map .ok ∧
      result.1.2.halted = false ∧
      result.1.2.catalog.toState = (Reference.respondAll db.catalog.toState texts).2) := by
  intro result
  have hall := Database.respondsAll_executeAll s.save h.wellFormed texts w
  refine ⟨hall, fun hh hn => ?_⟩
  rw [Database.observed, hh] at hall
  obtain ⟨hanswers, hfinal⟩ := hall.eq_respondAll hn
  obtain ⟨hhalted, hstate⟩ := Prod.mk.inj hfinal
  exact ⟨hanswers, hhalted, hstate⟩

/-- To the plain interpreter there is one table with one column and one row. -/
theorem exists_reachable_of_relation :
    ∃ (s : Store) (w : FileSystem) (db : Database) (type : ColumnType), Reachable s w db ∧
      db.halted = false ∧
      db.catalog.toState = [⟨"t", [("id", type)], some "id", [.ofList [("id", .integer 7)]]⟩] := by
  obtain ⟨s, w, db, hreach, hhalted, t, ht, hname, hkey, hcolumns, hrows⟩ :=
    exists_reachable_of_one_row
  obtain ⟨⟨_, type⟩, hentry, rfl⟩ := List.map_eq_singleton_iff.1 hcolumns
  refine ⟨s, w, db, type, hreach, hhalted, ?_⟩
  unfold Catalog.toState Table.toRelation
  rw [ht, List.map_singleton, hname, hentry, hkey, hrows]

/-- The key 7 is found for the literal 007, and the table is joined with itself. -/
theorem responds_to_join_of_seven :
    ∃ (s : Store) (w : FileSystem) (db : Database), Reachable s w db ∧
      (db.executeAll (m := StateM FileSystem) s.save
          ["SELECT * FROM t WHERE id=007", "SELECT * FROM t JOIN t ON t.id=t.id"] w).1.1 =
        [.ok (.rows [.ofList [("id", .integer 7)]]),
          .ok (.rows [.ofList [("id", .integer 7), ("t_id", .integer 7)]])] := by
  obtain ⟨s, w, db, type, hreach, hhalted, hstate⟩ := exists_reachable_of_relation
  have hselect : Statement.parse "SELECT * FROM t WHERE id=007" =
      .ok (.select "t" none (some ⟨"id", .number "007"⟩)) := by decide +kernel
  have hresponds : (Reference.respondAll db.catalog.toState
      ["SELECT * FROM t WHERE id=007", "SELECT * FROM t JOIN t ON t.id=t.id"]).1 =
      [.rows [.ofList [("id", .integer 7)]],
        .rows [.ofList [("id", .integer 7), ("t_id", .integer 7)]]] := by
    simp only [Reference.respondAll, Reference.respond, hselect, parse_join_of_seven, hstate]
    rfl
  have hread : ∀ text ∈ ["SELECT * FROM t WHERE id=007", "SELECT * FROM t JOIN t ON t.id=t.id"],
      Reference.mayChange text = false := by
    simp only [List.forall_mem_cons, Reference.mayChange, hselect, parse_join_of_seven]
    decide
  obtain ⟨hall, -⟩ := hreach.responds_executeAll
    ["SELECT * FROM t WHERE id=007", "SELECT * FROM t JOIN t ON t.id=t.id"]
  refine ⟨s, w, db, hreach, ?_⟩
  rw [(hall.eq_respondAll_of_not_mayChange hread).1, hresponds]
  rfl

end RelStore
