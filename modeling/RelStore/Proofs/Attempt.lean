import RelStore.Attempt

/-!
What attempts come to, and when a refusal leaves the state alone. That holds of an attempt that
checks all it needs before it changes anything: checks may come before it, and changes that are never
refused may follow it.
-/

namespace RelStore
set_option autoImplicit false

namespace Attempt

variable {ε ε' σ τ α β : Type} {x : Attempt ε σ α} {f : α → Attempt ε σ β}

theorem on_bind (x : Attempt ε σ α) (f : α → Attempt ε σ β) (s : σ) :
    (x >>= f).on s =
      match x.on s with
      | (.ok a, s') => (f a).on s'
      | (.error e, s') => (.error e, s') := by
  change StateT.run (ExceptT.run (x >>= f)) s = _
  rw [ExceptT.run_bind, StateT.run_bind]
  unfold on
  rcases x.run.run s with ⟨_ | _, _⟩ <;> rfl

theorem on_bind_of_ok {a : α} {s s' : σ} (h : x.on s = (.ok a, s')) (f : α → Attempt ε σ β) :
    (x >>= f).on s = (f a).on s' := by
  rw [on_bind, h]

theorem on_bind_of_error {e : ε} {s s' : σ} (h : x.on s = (.error e, s'))
    (f : α → Attempt ε σ β) : (x >>= f).on s = (.error e, s') := by
  rw [on_bind, h]

@[simp] theorem on_get_bind (f : σ → Attempt ε σ β) (s : σ) :
    ((get : Attempt ε σ σ) >>= f).on s = (f s).on s := rfl

theorem on_bind_eq_ok {b : β} {s s' : σ} :
    (x >>= f).on s = (.ok b, s') ↔
      ∃ a s₁, x.on s = (.ok a, s₁) ∧ (f a).on s₁ = (.ok b, s') := by
  rw [on_bind]
  rcases x.on s with ⟨e | a, s₁⟩
  · exact iff_of_false nofun (fun ⟨_, _, h, _⟩ => nomatch h)
  · exact ⟨fun h => ⟨a, s₁, rfl, h⟩, fun ⟨_, _, ha, h⟩ => by cases ha; exact h⟩

@[simp] theorem on_check (g : σ → Except ε α) (s : σ) : (check g).on s = (g s, s) := by
  unfold check
  rw [on_get_bind]
  cases g s <;> rfl

theorem check_eq_ok {g : σ → Except ε α} {a : α} {s s' : σ} :
    (check g).on s = (.ok a, s') ↔ g s = .ok a ∧ s' = s := by
  rw [on_check, Prod.mk.injEq, eq_comm (a := s)]

theorem on_check_bind (g : σ → Except ε α) (f : α → Attempt ε σ β) (s : σ) :
    (check g >>= f).on s =
      match g s with
      | .ok a => (f a).on s
      | .error e => (.error e, s) := by
  rw [on_bind, on_check]
  cases g s <;> rfl

@[simp] theorem on_part (get : σ → τ) (put : σ → τ → σ) (x : Attempt ε τ α) (s : σ) :
    (part get put x).on s = ((x.on (get s)).1, put s (x.on (get s)).2) := by
  unfold part
  rw [on_get_bind]
  exact on_check (fun _ => (x.on (get s)).1) (put s (x.on (get s)).2)

@[simp] theorem on_mapError (g : ε → ε') (x : Attempt ε σ α) (s : σ) :
    (x.mapError g).on s = ((x.on s).1.mapError g, (x.on s).2) := by
  change StateT.run (Except.mapError g <$> x.run) s = _
  rw [StateT.run_map]
  rfl

theorem mapError_eq_ok {g : ε → ε'} {a : α} {s s' : σ} :
    (x.mapError g).on s = (.ok a, s') ↔ x.on s = (.ok a, s') := by
  rw [on_mapError]
  rcases x.on s with ⟨e | b, s₁⟩
  · exact ⟨nofun, nofun⟩
  · exact ⟨fun h => by cases h; rfl, fun h => by cases h; rfl⟩

/-- Whatever an attempt of this kind comes to, it changes nothing. -/
def Reads (x : Attempt ε σ α) : Prop :=
  ∀ s, (x.on s).2 = s

/-- An attempt of this kind is never refused. -/
def Succeeds (x : Attempt ε σ α) : Prop :=
  ∀ s, ∃ a, (x.on s).1 = .ok a

/-- An attempt of this kind changes nothing if it is refused. -/
def Atomic (x : Attempt ε σ α) : Prop :=
  ∀ s e, (x.on s).1 = .error e → (x.on s).2 = s

theorem Reads.get : (get : Attempt ε σ σ).Reads :=
  fun _ => rfl

theorem Reads.throw (e : ε) : (throw e : Attempt ε σ α).Reads :=
  fun _ => rfl

theorem Reads.check (g : σ → Except ε α) : (check g).Reads := by
  intro s
  rw [on_check]

theorem Succeeds.pure (a : α) : (pure a : Attempt ε σ α).Succeeds :=
  fun _ => ⟨a, rfl⟩

theorem Succeeds.set (s : σ) : (set s : Attempt ε σ PUnit).Succeeds :=
  fun _ => ⟨⟨⟩, rfl⟩

theorem Succeeds.modify (g : σ → σ) : (modify g : Attempt ε σ PUnit).Succeeds :=
  fun _ => ⟨⟨⟩, rfl⟩

theorem Succeeds.modifyGet (g : σ → α × σ) : (modifyGet g : Attempt ε σ α).Succeeds :=
  fun s => ⟨(g s).1, rfl⟩

theorem Succeeds.bind (hx : x.Succeeds) (hf : ∀ a, (f a).Succeeds) : (x >>= f).Succeeds := by
  intro s
  obtain ⟨a, ha⟩ := hx s
  obtain ⟨b, hb⟩ := hf a (x.on s).2
  exact ⟨b, by rw [on_bind_of_ok (Prod.ext ha rfl), hb]⟩

theorem Reads.eq (h : x.Reads) {s s' : σ} {r : Except ε α} (hr : x.on s = (r, s')) : s' = s :=
  (congrArg Prod.snd hr).symm.trans (h s)

theorem Atomic.eq (h : x.Atomic) {s s' : σ} {e : ε} (hr : x.on s = (.error e, s')) : s' = s :=
  (congrArg Prod.snd hr).symm.trans (h s e (congrArg Prod.fst hr))

theorem Reads.atomic (h : x.Reads) : x.Atomic :=
  fun s _ _ => h s

theorem Succeeds.atomic (h : x.Succeeds) : x.Atomic := by
  intro s e he
  obtain ⟨a, ha⟩ := h s
  cases ha.symm.trans he

theorem Atomic.on_eq (h : x.Atomic) {s : σ} {e : ε} (he : (x.on s).1 = .error e) :
    x.on s = (.error e, s) :=
  Prod.ext he (h s e he)

/-- Checks may be made first. -/
theorem Atomic.after_reads (hx : x.Reads) (hf : ∀ a, (f a).Atomic) : (x >>= f).Atomic := by
  intro s e he
  rcases hr : x.on s with ⟨e' | a, s'⟩
  · have hs : s' = s := hx.eq hr
    rw [on_bind_of_error hr, hs]
  · have hs : s' = s := hx.eq hr
    rw [on_bind_of_ok hr, hs] at he ⊢
    exact hf a s e he

/-- Changes may follow that are never refused. -/
theorem Atomic.bind (hx : x.Atomic) (hf : ∀ a, (f a).Succeeds) : (x >>= f).Atomic := by
  intro s e he
  rcases hr : x.on s with ⟨e' | a, s'⟩
  · have hs : s' = s := hx.eq hr
    rw [on_bind_of_error hr, hs]
  · rw [on_bind_of_ok hr] at he
    obtain ⟨b, hb⟩ := hf a s'
    cases hb.symm.trans he

theorem Atomic.part {x : Attempt ε τ α} {get : σ → τ} {put : σ → τ → σ} (hx : x.Atomic)
    (hput : ∀ s, put s (get s) = s) : (x.part get put).Atomic := by
  intro s e he
  rw [on_part] at he ⊢
  rw [hx (get s) e he]
  exact hput s

theorem Atomic.mapError (hx : x.Atomic) (g : ε → ε') : (x.mapError g).Atomic := by
  intro s e he
  rw [on_mapError] at he ⊢
  cases hr : (x.on s).1 with
  | ok a =>
    rw [hr] at he
    cases he
  | error e' => exact hx s e' hr

end Attempt
end RelStore
