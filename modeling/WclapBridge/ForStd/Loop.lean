/-!
# Counting loops

`forLoop n f s` runs the body `f 0`, `f 1`, …, `f (n - 1)` on the state `s`, as
`for (i = 0; i < n; ++i)` does.

## Key results

- `forLoop_inv`: the invariant rule
- `forLoop_inv_of_ok`: the invariant rule when the final state is known to be in
  order, and each iteration shows that the state before it was
- `forLoop_bind_of_some`, `forLoop_bind_isSome`: loops that can fail
- `forLoop_last`: an observation is decided by the last iteration that changes it
-/

variable {σ : Type}

/-- Run the body for the indices below `n`, in order. -/
def forLoop : Nat → (Nat → σ → σ) → σ → σ
  | 0, _, s => s
  | n + 1, f, s => f n (forLoop n f s)

theorem forLoop_succ (n : Nat) (f : Nat → σ → σ) (s : σ) :
    forLoop (n + 1) f s = f n (forLoop n f s) := rfl

/-- The invariant rule: what holds before the first iteration and is carried
    from each iteration to the next holds after the last. -/
theorem forLoop_inv {n : Nat} {f : Nat → σ → σ} {s : σ} (P : Nat → σ → Prop)
    (h0 : P 0 s) (hstep : ∀ i t, i < n → P i t → P (i + 1) (f i t)) :
    P n (forLoop n f s) := by
  induction n with
  | zero => exact h0
  | succ n ih =>
    exact hstep n _ (Nat.lt_succ_self n) (ih fun i t hi => hstep i t (Nat.lt_succ_of_lt hi))

/-- The invariant rule for iterations that need the state after them to be in
    order. -/
theorem forLoop_inv_of_ok (ok : σ → Prop) {n : Nat} {f : Nat → σ → σ} {s : σ}
    (P : Nat → σ → Prop) (hback : ∀ i t, ok (f i t) → ok t) (hok : ok (forLoop n f s))
    (h0 : P 0 s) (hstep : ∀ i t, i < n → ok (f i t) → P i t → P (i + 1) (f i t)) :
    P n (forLoop n f s) := by
  induction n with
  | zero => exact h0
  | succ n ih =>
    exact hstep n _ (Nat.lt_succ_self n) hok
      (ih (hback n _ hok) fun i t hi => hstep i t (Nat.lt_succ_of_lt hi))

/-- An observation which no iteration changes. -/
theorem forLoop_unchanged {β : Type} (obs : σ → β) {n : Nat} {f : Nat → σ → σ} {s : σ}
    (h : ∀ j < n, ∀ t, obs (f j t) = obs t) : obs (forLoop n f s) = obs s :=
  forLoop_inv (fun _ t => obs t = obs s) rfl fun j t hj ht => (h j hj t).trans ht

/-- An observation is decided by the last iteration that changes it. -/
theorem forLoop_last {β : Type} (obs : σ → β) {n : Nat} {f : Nat → σ → σ} {s : σ} {i : Nat}
    (hi : i < n) (h : ∀ j < n, i < j → ∀ t, obs (f j t) = obs t) :
    obs (forLoop n f s) = obs (f i (forLoop i f s)) := by
  induction n with
  | zero => exact absurd hi (Nat.not_lt_zero i)
  | succ n ih =>
    rcases Nat.lt_succ_iff_lt_or_eq.mp hi with hlt | rfl
    · -- the iterations after `i` do not change the observation
      rw [forLoop_succ, h n (Nat.lt_succ_self n) hlt]
      exact ih hlt fun j hj => h j (Nat.lt_succ_of_lt hj)
    · rfl

/-- A part of the state on which the iterations work by themselves. -/
theorem forLoop_map {τ : Type} (obs : σ → τ) {n : Nat} {f : Nat → σ → σ} {g : Nat → τ → τ}
    {s : σ} (h : ∀ i t, obs (f i t) = g i (obs t)) :
    obs (forLoop n f s) = forLoop n g (obs s) := by
  induction n with
  | zero => rfl
  | succ n ih => rw [forLoop_succ, forLoop_succ, h, ih]

/-! ## Loops that can fail -/

/-- A loop of which no iteration fails. -/
theorem forLoop_bind_of_some {n : Nat} {F : Nat → σ → Option σ} {f : Nat → σ → σ}
    (h : ∀ i < n, ∀ t, F i t = some (f i t)) (s : σ) :
    forLoop n (fun i t => t.bind (F i)) (some s) = some (forLoop n f s) := by
  induction n with
  | zero => rfl
  | succ n ih =>
    rw [forLoop_succ, ih fun i hi => h i (Nat.lt_succ_of_lt hi), forLoop_succ]
    exact h n (Nat.lt_succ_self n) _

/-- A loop that does not fail has no iteration that always fails. -/
theorem forLoop_bind_isSome {n : Nat} {F : Nat → σ → Option σ} {s : σ}
    (h : (forLoop n (fun i t => t.bind (F i)) (some s)).isSome) :
    ∀ i < n, ∃ t, (F i t).isSome := by
  induction n with
  | zero => exact fun i hi => absurd hi (Nat.not_lt_zero i)
  | succ n ih =>
    rw [forLoop_succ] at h
    obtain ⟨t, ht⟩ := Option.isSome_iff_exists.mp (Option.isSome_of_isSome_bind h)
    rw [ht] at h
    intro i hi
    rcases Nat.lt_succ_iff_lt_or_eq.mp hi with hlt | rfl
    · exact ih (by rw [ht]; rfl) i hlt
    · exact ⟨t, h⟩
