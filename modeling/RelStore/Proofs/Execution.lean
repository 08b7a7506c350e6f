import RelStore.Database
import RelStore.Proofs.Catalog

/-!
How a statement comes out. The plan of a statement asks for rows only where there are rows, so it
fails, if at all, by a refusal. `executed` lists the ways in which a database answers a text, with
what becomes of the catalog and of the world in which it is saved; a run of a database is made of
such steps, of checkpoints and of openings.
-/

namespace RelStore
set_option autoImplicit false

namespace Plan

/-- Whether a plan is made of scans, lookups, filters and joins alone. -/
def readsRows : Plan → Bool
  | .scan _ | .lookup _ _ => true
  | .filter input _ _ _ => input.readsRows
  | .join left _ _ _ _ => left.readsRows
  | _ => false

@[simp] theorem readsRows_useIndex (c : Catalog) (plan : Plan) :
    (plan.useIndex c).readsRows = plan.readsRows := by
  fun_induction useIndex c plan with
  | case1 => rfl
  | case2 => rfl
  | case3 input _ _ _ _ ih => exact ih
  | case4 left _ _ _ _ ih => exact ih
  | case5 => rfl

theorem readsRows_ofSelect (table : String) (second : Option Join) (condition : Option Condition) :
    (ofSelect table second condition).readsRows = true := by
  cases second <;> cases condition <;> rfl

theorem isMutating_of_readsRows {plan : Plan} (h : plan.readsRows = true) :
    plan.isMutating = false := by
  cases plan with
  | createTable | insert | delete => cases h
  | scan | lookup | filter | join => rfl

theorem tableOf_eq_error {c : Catalog} {name : String} {fault : PlanFault}
    (h : tableOf c name = .error fault) : ∃ r, fault = .refusal r := by
  unfold tableOf at h
  cases ht : c.table name with
  | ok t =>
    rw [ht] at h
    cases h
  | error r =>
    rw [ht] at h
    cases h
    exact ⟨r, rfl⟩

/-- A plan of this kind never stands where rows are missing. -/
theorem rows_eq_error {c : Catalog} {plan : Plan} (hp : plan.readsRows = true) {fault : PlanFault}
    (h : plan.rows c = .error fault) : ∃ r, fault = .refusal r := by
  induction plan generalizing fault with
  | scan table =>
    rcases bind_eq_error.1 h with h | ⟨t, -, h⟩
    · exact tableOf_eq_error h
    · cases h
  | lookup table key =>
    rcases bind_eq_error.1 h with h | ⟨t, -, h⟩
    · exact tableOf_eq_error h
    · cases h
  | filter input column fallback value ih =>
    rcases bind_eq_error.1 h with h | ⟨found, -, h⟩
    · exact ih hp h
    · cases h
  | join left leftTable leftColumn rightTable rightColumn ih =>
    rcases bind_eq_error.1 h with h | ⟨found, -, h⟩
    · exact ih hp h
    rcases bind_eq_error.1 h with h | ⟨l, -, h⟩
    · exact tableOf_eq_error h
    rcases bind_eq_error.1 h with h | ⟨r, -, h⟩
    · exact tableOf_eq_error h
    split at h
    · cases h
      exact ⟨_, rfl⟩
    · split at h
      · cases h
        exact ⟨_, rfl⟩
      · cases h
  | createTable | insert | delete => cases hp

theorem mapError_refusal_eq_error {α : Type} {x : Except Refusal α} {fault : PlanFault}
    (h : x.mapError PlanFault.refusal = .error fault) : ∃ r, fault = .refusal r := by
  cases x with
  | error r =>
    cases h
    exact ⟨r, rfl⟩
  | ok a => cases h

@[simp] theorem isMutating_useIndex (c : Catalog) (plan : Plan) :
    (plan.useIndex c).isMutating = plan.isMutating := by
  fun_induction useIndex c plan with
  | case1 | case2 | case3 | case4 | case5 => rfl

theorem useIndex_of_isMutating {c : Catalog} {plan : Plan} (h : plan.isMutating = true) :
    plan.useIndex c = plan := by
  cases plan with
  | createTable | insert | delete => rfl
  | scan | lookup | filter | join => cases h

/-- The plan of a statement changes tables as a whole, or there is nothing in it that does. -/
theorem isMutating_or_readsRows (s : Statement) :
    (ofStatement s).isMutating = true ∨ (ofStatement s).readsRows = true := by
  cases s with
  | createTable | insert | delete => exact .inl rfl
  | select table second condition => exact .inr (readsRows_ofSelect table second condition)

theorem run_eq_error {c : Catalog} {plan : Plan}
    (hp : plan.isMutating = true ∨ plan.readsRows = true) {fault : PlanFault}
    (h : (plan.run c).1 = .error fault) : ∃ r, fault = .refusal r := by
  unfold run at h
  cases plan with
  | createTable | insert | delete =>
    unfold execute at h
    rw [Attempt.on_mapError] at h
    exact mapError_refusal_eq_error h
  | scan | lookup | filter | join =>
    unfold execute at h
    rw [Attempt.on_check_bind] at h
    split at h
    · cases h
    · rename_i hrows
      cases h
      exact rows_eq_error (hp.resolve_left nofun) hrows

/-- A statement that is not carried out is refused by the tables it addresses. -/
theorem run_ofStatement_eq_error {c c' : Catalog} {s : Statement} {fault : PlanFault}
    (h : (((ofStatement s).useIndex c).run c').1 = .error fault) : ∃ r, fault = .refusal r := by
  refine run_eq_error ?_ h
  rw [isMutating_useIndex, readsRows_useIndex]
  exact isMutating_or_readsRows s

end Plan

namespace Database

variable {σ : Type}

/-- The ways in which a database can answer a text: the answer and the database afterwards, and
the world in which the catalog is saved. -/
inductive Executed (save : Catalog → StateM σ (Except FileFault Unit)) (db : Database)
    (text : String) (w : σ) : (Except Failure Answer × Database) × σ → Prop where
  | notUnderstood {fault : SyntaxFault} (hp : Statement.parse text = .error fault) :
    Executed save db text w ((.ok (.notice .notUnderstood), db), w)
  | halted {s : Statement} (hp : Statement.parse text = .ok s)
      (hm : (Plan.ofStatement s).isMutating = true) (hh : db.halted = true) :
    Executed save db text w ((.error .halted, db), w)
  | refused {s : Statement} {r : Refusal} (hp : Statement.parse text = .ok s)
      (hf : ((Plan.ofStatement s).isMutating && db.halted) = false)
      (hr : ((db.planOf s).run db.catalog).1 = .error (.refusal r)) :
    Executed save db text w ((.ok (.notice (.refused r)), db), w)
  | unchanged {s : Statement} {answer : Answer} {e : Engine} (hp : Statement.parse text = .ok s)
      (hf : ((Plan.ofStatement s).isMutating && db.halted) = false)
      (hr : (db.planOf s).run db.catalog = (.ok answer, e)) (hm : e.modified = false) :
    Executed save db text w ((.ok answer, ⟨e.catalog, db.halted⟩), w)
  | saved {s : Statement} {answer : Answer} {e : Engine} {w' : σ}
      (hp : Statement.parse text = .ok s)
      (hf : ((Plan.ofStatement s).isMutating && db.halted) = false)
      (hr : (db.planOf s).run db.catalog = (.ok answer, e)) (hm : e.modified = true)
      (hs : save e.catalog w = (.ok (), w')) :
    Executed save db text w ((.ok answer, ⟨e.catalog, db.halted⟩), w')
  | unsaved {s : Statement} {answer : Answer} {e : Engine} {fault : FileFault} {w' : σ}
      (hp : Statement.parse text = .ok s)
      (hf : ((Plan.ofStatement s).isMutating && db.halted) = false)
      (hr : (db.planOf s).run db.catalog = (.ok answer, e)) (hm : e.modified = true)
      (hs : save e.catalog w = (.error fault, w')) :
    Executed save db text w ((.error (.save fault), ⟨e.catalog, true⟩), w')

theorem bind_apply {α β : Type} (x : StateM σ α) (f : α → StateM σ β) (w : σ) :
    (x >>= f) w = f (x w).1 (x w).2 := rfl

variable (save : Catalog → StateM σ (Except FileFault Unit)) (db : Database)

/-- A halted database refuses a statement that may change tables, and touches nothing. -/
theorem execute_of_isMutating {text : String} {s : Statement} (hp : Statement.parse text = .ok s)
    (hm : (Plan.ofStatement s).isMutating = true) (hh : db.halted = true) (w : σ) :
    db.execute save text w = ((.error .halted, db), w) := by
  unfold execute
  rw [hp]
  dsimp only
  rw [hm, hh]
  rfl

theorem execute_of_run {text : String} {s : Statement} {answer : Answer} {e : Engine}
    (hp : Statement.parse text = .ok s)
    (hf : ((Plan.ofStatement s).isMutating && db.halted) = false)
    (hr : (db.planOf s).run db.catalog = (.ok answer, e)) :
    db.execute save text = settle save ⟨e.catalog, db.halted⟩ answer e.modified := by
  unfold execute
  rw [hp]
  dsimp only
  rw [hf, hr]
  rfl

/-- A statement that is refused leaves the database as it was: the engine has done nothing. -/
theorem execute_of_refusal {text : String} {s : Statement} {r : Refusal}
    (hp : Statement.parse text = .ok s)
    (hf : ((Plan.ofStatement s).isMutating && db.halted) = false)
    (hr : ((db.planOf s).run db.catalog).1 = .error (.refusal r)) (w : σ) :
    db.execute save text w = ((.ok (.notice (.refused r)), db), w) := by
  unfold execute
  rw [hp]
  dsimp only
  rw [hf, Plan.run_of_error hr]
  rfl

theorem execute_of_save_ok {text : String} {s : Statement} {answer : Answer} {e : Engine}
    (hp : Statement.parse text = .ok s)
    (hf : ((Plan.ofStatement s).isMutating && db.halted) = false)
    (hr : (db.planOf s).run db.catalog = (.ok answer, e)) (hm : e.modified = true) {w w' : σ}
    (hs : save e.catalog w = (.ok (), w')) :
    db.execute save text w = ((.ok answer, ⟨e.catalog, db.halted⟩), w') := by
  rw [execute_of_run save db hp hf hr, hm]
  unfold settle
  simp only [if_true, bind_apply, hs]
  rfl

theorem execute_of_save_error {text : String} {s : Statement} {answer : Answer} {e : Engine}
    (hp : Statement.parse text = .ok s)
    (hf : ((Plan.ofStatement s).isMutating && db.halted) = false)
    (hr : (db.planOf s).run db.catalog = (.ok answer, e)) (hm : e.modified = true) {w w' : σ}
    {fault : FileFault} (hs : save e.catalog w = (.error fault, w')) :
    db.execute save text w = ((.error (.save fault), ⟨e.catalog, true⟩), w') := by
  rw [execute_of_run save db hp hf hr, hm]
  unfold settle
  simp only [if_true, bind_apply, hs]
  rfl

theorem executed (text : String) (w : σ) : Executed save db text w (db.execute save text w) := by
  cases hp : Statement.parse text with
  | error fault =>
    unfold execute
    rw [hp]
    exact .notUnderstood hp
  | ok s =>
    cases hf : (Plan.ofStatement s).isMutating && db.halted with
    | true =>
      obtain ⟨hm, hh⟩ := Bool.and_eq_true_iff.1 hf
      rw [execute_of_isMutating save db hp hm hh]
      exact .halted hp hm hh
    | false =>
      rcases hr : (db.planOf s).run db.catalog with ⟨fault | answer, e⟩
      · have herror : ((db.planOf s).run db.catalog).1 = .error fault := congrArg Prod.fst hr
        obtain ⟨r, rfl⟩ := Plan.run_ofStatement_eq_error herror
        rw [execute_of_refusal save db hp hf herror]
        exact .refused hp hf herror
      · cases hm : e.modified with
        | false =>
          rw [execute_of_run save db hp hf hr, hm]
          exact .unchanged hp hf hr hm
        | true =>
          rcases hs : save e.catalog w with ⟨fault | _, w'⟩
          · rw [execute_of_save_error save db hp hf hr hm hs]
            exact .unsaved hp hf hr hm hs
          · rw [execute_of_save_ok save db hp hf hr hm hs]
            exact .saved hp hf hr hm hs

theorem Executed.of_eq {save : Catalog → StateM σ (Except FileFault Unit)} {db : Database}
    {text : String} {w : σ} {result : (Except Failure Answer × Database) × σ}
    (h : db.execute save text w = result) : Executed save db text w result :=
  h ▸ executed save db text w

theorem catalog_checkpoint (w : σ) : (db.checkpoint save w).1.2.catalog = db.catalog := by
  unfold checkpoint
  rw [bind_apply]
  rcases save db.catalog w with ⟨_ | _, w'⟩ <;> rfl

end Database
end RelStore
