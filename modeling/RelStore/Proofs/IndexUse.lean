import RelStore.Proofs.IndexScan

/-!
What the use of the index keeps of a plan. Plans of any shape are meant, also those that no statement
has: conditions and joins nested in each other, lookups, and changes where rows are asked for. After
one pass over a plan there is nothing left to be done, and the plan so obtained asks for a change, and
fails, just where the first one does. Its rows may be others, so what fails must not depend on them.
-/

namespace RelStore
set_option autoImplicit false

/-- Whether two results fail alike: neither does, or both do and with the same error. -/
def SameErrors {ε α β : Type} (x : Except ε α) (y : Except ε β) : Prop :=
  ∀ e, x = .error e ↔ y = .error e

namespace SameErrors

variable {ε α β γ δ : Type}

theorem refl (x : Except ε α) : SameErrors x x :=
  fun _ => Iff.rfl

theorem ok (a : α) (b : β) : SameErrors (.ok a : Except ε α) (.ok b) :=
  fun _ => ⟨nofun, nofun⟩

theorem error (e : ε) : SameErrors (.error e : Except ε α) (.error e : Except ε β) :=
  fun _ => ⟨fun h => congrArg Except.error (Except.error.inj h),
    fun h => congrArg Except.error (Except.error.inj h)⟩

theorem map {x : Except ε α} {y : Except ε β} (h : SameErrors x y) (f : α → γ) (g : β → δ) :
    SameErrors (x.map f) (y.map g) := by
  cases x with
  | error e =>
    obtain rfl := (h e).1 rfl
    exact error e
  | ok a =>
    cases y with
    | error e => cases (h e).2 rfl
    | ok b => exact ok (f a) (g b)

theorem bind {x : Except ε α} {y : Except ε β} {f : α → Except ε γ} {g : β → Except ε δ}
    (h : SameErrors x y) (hf : ∀ a b, SameErrors (f a) (g b)) : SameErrors (x >>= f) (y >>= g) := by
  cases x with
  | error e =>
    obtain rfl := (h e).1 rfl
    exact error e
  | ok a =>
    cases y with
    | error e => cases (h e).2 rfl
    | ok b => exact hf a b

theorem bind_right (x : Except ε α) {f : α → Except ε γ} {g : α → Except ε δ}
    (hf : ∀ a, SameErrors (f a) (g a)) : SameErrors (x >>= f) (x >>= g) := by
  cases x with
  | error e => exact error e
  | ok a => exact hf a

end SameErrors

namespace Plan

variable {c : Catalog}

/-- Whether a condition on a column of the input is one on the primary key of a scanned table. -/
def onScannedKey (c : Catalog) (column : String) : Plan → Bool
  | .scan table => isPrimaryKey c table column
  | _ => false

/-- Nowhere in the plan is a scanned table searched for its primary key. -/
def UsesIndex (c : Catalog) : Plan → Prop
  | .filter input column _ _ => onScannedKey c column input = false ∧ UsesIndex c input
  | .join left _ _ _ _ => UsesIndex c left
  | _ => True

theorem exists_scan_of_onScannedKey {column : String} {input : Plan}
    (h : onScannedKey c column input = true) :
    ∃ table, input = .scan table ∧ isPrimaryKey c table column = true := by
  cases input with
  | scan table => exact ⟨table, rfl, h⟩
  | lookup | filter | join | createTable | insert | delete => cases h

theorem useIndex_filter_scan {table column : String} (h : isPrimaryKey c table column = true)
    (fallback : String) (value : Literal) :
    useIndex c (.filter (.scan table) column fallback value) = .lookup table value.value := by
  rw [useIndex, if_pos h]

theorem useIndex_filter {column : String} {input : Plan} (h : onScannedKey c column input = false)
    (fallback : String) (value : Literal) :
    useIndex c (.filter input column fallback value) =
      .filter (useIndex c input) column fallback value := by
  cases input with
  | scan table => exact if_neg (Bool.eq_false_iff.1 h)
  | lookup | filter | join | createTable | insert | delete => rfl

/-- No scan comes in by the use of the index. -/
theorem onScannedKey_useIndex (column : String) (input : Plan) :
    onScannedKey c column (input.useIndex c) = onScannedKey c column input := by
  cases input with
  | filter input column' fallback value =>
    cases h : onScannedKey c column' input with
    | true =>
      obtain ⟨table, rfl, hkey⟩ := exists_scan_of_onScannedKey h
      rw [useIndex_filter_scan hkey]
      rfl
    | false =>
      rw [useIndex_filter h]
      rfl
  | scan | lookup | join | createTable | insert | delete => rfl

theorem usesIndex_useIndex (c : Catalog) (plan : Plan) : UsesIndex c (plan.useIndex c) := by
  induction plan with
  | filter input column fallback value ih =>
    cases h : onScannedKey c column input with
    | true =>
      obtain ⟨table, rfl, hkey⟩ := exists_scan_of_onScannedKey h
      rw [useIndex_filter_scan hkey]
      trivial
    | false =>
      rw [useIndex_filter h]
      exact ⟨(onScannedKey_useIndex column input).trans h, ih⟩
  | join left _ _ _ _ ih => exact ih
  | scan | lookup | createTable | insert | delete => trivial

/-- A plan that uses the index wherever it can is left as it is. -/
theorem useIndex_of_usesIndex {plan : Plan} (h : UsesIndex c plan) : plan.useIndex c = plan := by
  induction plan with
  | filter input column fallback value ih =>
    obtain ⟨hscan, hinput⟩ := h
    rw [useIndex_filter hscan, ih hinput]
  | join left leftTable leftColumn rightTable rightColumn ih =>
    exact congrArg (join · leftTable leftColumn rightTable rightColumn) (ih h)
  | scan | lookup | createTable | insert | delete => rfl

/-- A search for the primary key fails neither way: the table is there, or else it would have no
primary key. -/
theorem sameErrors_lookup {table column : String} (h : isPrimaryKey c table column = true)
    (fallback : String) (value : Literal) :
    SameErrors (rows c (.lookup table value.value))
      (rows c (.filter (.scan table) column fallback value)) := by
  obtain ⟨t, ht, -⟩ := isPrimaryKey_iff.1 h
  rw [rows_lookup ht, rows_filter (rows_scan ht)]
  exact .ok _ _

/-- Which rows are joined makes no difference to whether the tables can be. -/
theorem sameErrors_join {left left' : Plan} (h : SameErrors (rows c left) (rows c left'))
    (leftTable leftColumn rightTable rightColumn : String) :
    SameErrors (rows c (.join left leftTable leftColumn rightTable rightColumn))
      (rows c (.join left' leftTable leftColumn rightTable rightColumn)) := by
  unfold rows
  refine h.bind fun found found' => .bind_right _ fun l => .bind_right _ fun r => ?_
  cases l.schema.hasColumn leftColumn with
  | false => exact .refl _
  | true =>
    cases r.schema.hasColumn rightColumn with
    | false => exact .refl _
    | true => exact .ok _ _

theorem sameErrors_rows_useIndex (c : Catalog) (plan : Plan) :
    SameErrors (rows c (plan.useIndex c)) (rows c plan) := by
  induction plan with
  | filter input column fallback value ih =>
    cases h : onScannedKey c column input with
    | true =>
      obtain ⟨table, rfl, hkey⟩ := exists_scan_of_onScannedKey h
      rw [useIndex_filter_scan hkey]
      exact sameErrors_lookup hkey fallback value
    | false =>
      rw [useIndex_filter h]
      exact ih.bind fun found found' => .ok _ _
  | join left leftTable leftColumn rightTable rightColumn ih =>
    exact sameErrors_join ih leftTable leftColumn rightTable rightColumn
  | scan | lookup | createTable | insert | delete => exact .refl _

theorem sameErrors_run_useIndex (c : Catalog) (plan : Plan) :
    SameErrors ((plan.useIndex c).run c).1 (plan.run c).1 := by
  cases hm : plan.isMutating with
  | true =>
    rw [useIndex_of_isMutating hm]
    exact .refl _
  | false =>
    rw [run_of_not_isMutating hm, run_of_not_isMutating ((isMutating_useIndex c plan).trans hm)]
    exact (sameErrors_rows_useIndex c plan).map _ _

/-- On any catalog and for a plan of any shape: a second pass changes nothing, the plan asks for a
change if and only if it did before, and it fails if and only if it did before, with the same
error. -/
theorem useIndex_keeps_faults (c : Catalog) (plan : Plan) :
    (plan.useIndex c).useIndex c = plan.useIndex c ∧
    (plan.useIndex c).isMutating = plan.isMutating ∧
    ∀ fault, ((plan.useIndex c).run c).1 = .error fault ↔ (plan.run c).1 = .error fault :=
  ⟨useIndex_of_usesIndex (usesIndex_useIndex c plan), isMutating_useIndex c plan,
    sameErrors_run_useIndex c plan⟩

end Plan
end RelStore
