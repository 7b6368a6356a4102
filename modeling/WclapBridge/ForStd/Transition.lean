/-!
# Runs of a transition system

A system is given by `step : σ → α → Option σ`: the state after an action, or
`none` where the action is not possible. A run is a list of actions from a
state; what comes after an impossible action is not part of it.

## Key results

- `Steps.of_invariant`: if all steps of a run meet a condition that carries an
  invariant, they have every property which the two imply
- `Steps.iff_of_invariant`: the same for a property equivalent to the condition
- `States.of_steps`: from the steps of a run to its states
- `foldlM_inv`: the invariant rule for loops
- `stays_iff_steps`: what no step loses is never lost
-/

variable {σ α : Type} (step : σ → α → Option σ)

/-- Every step of the run has the property. -/
def Steps (P : σ → α → Prop) : σ → List α → Prop
  | _, [] => True
  | s, a :: as => P s a ∧ ∀ t, step s a = some t → Steps P t as

/-- Every state of the run has the property. -/
def States (P : σ → Prop) : σ → List α → Prop
  | s, [] => P s
  | s, a :: as => P s ∧ ∀ t, step s a = some t → States P t as

/-- A run of a system that computes can be looked at. -/
instance States.instDecidable (P : σ → Prop) [DecidablePred P] :
    ∀ (s : σ) (as : List α), Decidable (States step P s as)
  | s, [] => inferInstanceAs (Decidable (P s))
  | s, a :: as =>
    match h : step s a with
    | none => decidable_of_iff (P s) (by simp [States, h])
    | some t =>
      have := States.instDecidable P t as
      decidable_of_iff (P s ∧ States step P t as) (by simp [States, h])

/-- Once a state of the run has the property `P`, it and all later ones have `Q`. -/
def Stays (P Q : σ → Prop) (s : σ) (as : List α) : Prop :=
  ∀ before after t, before ++ after = as → before.foldlM step s = some t → P t →
    States step Q t after

variable {step}

/-- A run by its first step. -/
theorem Steps.cons {P : σ → α → Prop} {s t : σ} {a : α} {as : List α} (ha : P s a)
    (ht : step s a = some t) (hs : Steps step P t as) : Steps step P s (a :: as) := by
  refine ⟨ha, fun u hu => ?_⟩
  cases ht.symm.trans hu
  exact hs

/-- What a run is, when it is known where its first step leads. -/
theorem Steps.iff_cons {P : σ → α → Prop} {s t : σ} {a : α} {as : List α}
    (ht : step s a = some t) : Steps step P s (a :: as) ↔ P s a ∧ Steps step P t as :=
  ⟨fun h => ⟨h.1, h.2 t ht⟩, fun h => .cons h.1 ht h.2⟩

theorem Steps.mono {P Q : σ → α → Prop} (h : ∀ s a, P s a → Q s a) {s : σ} {as : List α}
    (hs : Steps step P s as) : Steps step Q s as := by
  induction as generalizing s with
  | nil => exact trivial
  | cons a as ih => exact ⟨h s a hs.1, fun t ht => ih (hs.2 t ht)⟩

theorem Steps.and {P Q : σ → α → Prop} {s : σ} {as : List α} (hP : Steps step P s as)
    (hQ : Steps step Q s as) : Steps step (fun s a => P s a ∧ Q s a) s as := by
  induction as generalizing s with
  | nil => exact trivial
  | cons a as ih => exact ⟨⟨hP.1, hQ.1⟩, fun t ht => ih (hP.2 t ht) (hQ.2 t ht)⟩

/-- A run has the property at its last step. -/
theorem Steps.last {P : σ → α → Prop} {s t : σ} {as : List α} {a : α}
    (hs : Steps step P s (as ++ [a])) (ht : as.foldlM step s = some t) : P t a := by
  induction as generalizing s with
  | nil =>
    cases ht
    exact hs.1
  | cons b as ih =>
    rw [List.foldlM_cons, Option.bind_eq_bind, Option.bind_eq_some_iff] at ht
    obtain ⟨u, hu, ht⟩ := ht
    exact ih (hs.2 u hu) ht

/-- If the condition `G` carries the invariant and implies `P` under it, then a
    run whose steps all meet `G` has `P` at every step. -/
theorem Steps.of_invariant {G P : σ → α → Prop} (Inv : σ → Prop)
    (hstep : ∀ s a t, Inv s → G s a → step s a = some t → Inv t)
    (hP : ∀ s a, Inv s → G s a → P s a) {s : σ} {as : List α} (hs : Inv s)
    (hG : Steps step G s as) : Steps step P s as := by
  induction as generalizing s with
  | nil => exact trivial
  | cons a as ih =>
    exact ⟨hP s a hs hG.1, fun t ht => ih (hstep s a t hs hG.1 ht) (hG.2 t ht)⟩

/-- If the invariant is always carried, and makes `G` and `P` equivalent, they
    are equivalent for runs. -/
theorem Steps.iff_of_invariant {G P : σ → α → Prop} (Inv : σ → Prop)
    (hstep : ∀ s a t, Inv s → step s a = some t → Inv t)
    (hP : ∀ s a, Inv s → (G s a ↔ P s a)) {s : σ} {as : List α} (hs : Inv s) :
    Steps step G s as ↔ Steps step P s as :=
  ⟨Steps.of_invariant Inv (fun s a t h _ => hstep s a t h) (fun s a h => (hP s a h).mp) hs,
    Steps.of_invariant Inv (fun s a t h _ => hstep s a t h) (fun s a h => (hP s a h).mpr) hs⟩

/-- If the condition `G` carries the invariant, it holds in every state of a run
    whose steps all meet `G`. -/
theorem States.of_steps {G : σ → α → Prop} (Inv : σ → Prop)
    (hstep : ∀ s a t, Inv s → G s a → step s a = some t → Inv t) {s : σ} {as : List α}
    (hs : Inv s) (hG : Steps step G s as) : States step Inv s as := by
  induction as generalizing s with
  | nil => exact hs
  | cons a as ih => exact ⟨hs, fun t ht => ih (hstep s a t hs hG.1 ht) (hG.2 t ht)⟩

/-- An invariant holds in every state of a run. -/
theorem States.of_invariant (Inv : σ → Prop)
    (hstep : ∀ s a t, Inv s → step s a = some t → Inv t) {s : σ} {as : List α} (hs : Inv s) :
    States step Inv s as := by
  induction as generalizing s with
  | nil => exact hs
  | cons a as ih => exact ⟨hs, fun t ht => ih (hstep s a t hs ht)⟩

theorem States.mono {P Q : σ → Prop} (h : ∀ s, P s → Q s) {s : σ} {as : List α}
    (hs : States step P s as) : States step Q s as := by
  induction as generalizing s with
  | nil => exact h s hs
  | cons a as ih => exact ⟨h s hs.1, fun t ht => ih (hs.2 t ht)⟩

theorem States.and {P Q : σ → Prop} {s : σ} {as : List α} (hP : States step P s as)
    (hQ : States step Q s as) : States step (fun s => P s ∧ Q s) s as := by
  induction as generalizing s with
  | nil => exact ⟨hP, hQ⟩
  | cons a as ih => exact ⟨⟨hP.1, hQ.1⟩, fun t ht => ih (hP.2 t ht) (hQ.2 t ht)⟩

theorem States.head {P : σ → Prop} {s : σ} {as : List α} (hs : States step P s as) : P s := by
  cases as with
  | nil => exact hs
  | cons a as => exact hs.1

/-- What the states before and after a step imply for it. -/
theorem Steps.of_next {P : σ → Prop} {Q : σ → α → Prop}
    (h : ∀ s a, P s → (∀ t, step s a = some t → P t) → Q s a) {s : σ} {as : List α}
    (hs : States step P s as) : Steps step Q s as := by
  induction as generalizing s with
  | nil => exact trivial
  | cons a as ih => exact ⟨h s a hs.1 fun t ht => (hs.2 t ht).head, fun t ht => ih (hs.2 t ht)⟩

/-- A property of all states holds where the run ends. -/
theorem States.at_end {P : σ → Prop} {s t : σ} {as : List α} (hs : States step P s as)
    (ht : as.foldlM step s = some t) : P t := by
  induction as generalizing s with
  | nil =>
    cases ht
    exact hs
  | cons a as ih =>
    rw [List.foldlM_cons, Option.bind_eq_bind, Option.bind_eq_some_iff] at ht
    obtain ⟨u, hu, ht⟩ := ht
    exact ih (hs.2 u hu) ht

/-- The invariant rule for a loop that may fail. -/
theorem foldlM_inv (Inv : σ → Prop) (hstep : ∀ s a t, Inv s → step s a = some t → Inv t)
    {s t : σ} {as : List α} (hs : Inv s) (ht : as.foldlM step s = some t) : Inv t :=
  (States.of_invariant Inv hstep hs).at_end ht

/-- The same, for what is known of the elements that the loop goes through. -/
theorem foldlM_inv_of_mem (Inv : σ → Prop) {s t : σ} {as : List α}
    (hstep : ∀ s, ∀ a ∈ as, ∀ t, Inv s → step s a = some t → Inv t) (hs : Inv s)
    (ht : as.foldlM step s = some t) : Inv t := by
  induction as generalizing s with
  | nil =>
    cases ht
    exact hs
  | cons a as ih =>
    rw [List.foldlM_cons, Option.bind_eq_bind, Option.bind_eq_some_iff] at ht
    obtain ⟨u, hu, ht⟩ := ht
    exact ih (fun s b hb => hstep s b (List.mem_cons_of_mem _ hb))
      (hstep s a List.mem_cons_self u hs hu) ht

/-- What all states imply for the next step. -/
theorem Steps.of_states {P : σ → Prop} {Q : σ → α → Prop} (h : ∀ s a, P s → Q s a) {s : σ}
    {as : List α} (hs : States step P s as) : Steps step Q s as := by
  induction as generalizing s with
  | nil => exact trivial
  | cons a as ih => exact ⟨h s a hs.1, fun t ht => ih (hs.2 t ht)⟩

/-- A property stays over a run if and only if no step of it loses the property. -/
theorem stays_iff_steps {P : σ → Prop} {s : σ} {as : List α} :
    Stays step P P s as ↔ Steps step (fun s a => ∀ t, step s a = some t → P s → P t) s as := by
  induction as generalizing s with
  | nil =>
    refine ⟨fun _ => trivial, fun _ before after t has ht hP => ?_⟩
    obtain ⟨rfl, rfl⟩ := List.append_eq_nil_iff.mp has
    cases ht
    exact hP
  | cons a as ih =>
    constructor
    · intro h
      -- the first step is the case of an empty prefix; any other prefix of the
      -- run is one of its rest
      refine ⟨fun t ht hP => ((h [] (a :: as) s rfl rfl hP).2 t ht).head, fun t ht => ?_⟩
      refine ih.mp fun before after u has hu => h (a :: before) after u (congrArg (a :: ·) has) ?_
      rw [List.foldlM_cons, ht]
      exact hu
    · rintro ⟨hstep, hrest⟩ before after u has hu hP
      cases before with
      | nil =>
        -- the property holds now: the step keeps it, and so does the rest
        cases hu
        cases has
        exact ⟨hP, fun t ht => ih.mpr (hrest t ht) [] as t rfl rfl (hstep t ht hP)⟩
      | cons b before =>
        obtain ⟨rfl, hrun⟩ := List.cons.inj has
        rw [List.foldlM_cons, Option.bind_eq_bind, Option.bind_eq_some_iff] at hu
        obtain ⟨t, ht, hu⟩ := hu
        exact ih.mpr (hrest t ht) before after u hrun hu hP

/-- Conditions that are equivalent at every step are equivalent for runs. -/
theorem Steps.congr {P Q : σ → α → Prop} (h : ∀ s a, P s a ↔ Q s a) {s : σ} {as : List α} :
    Steps step P s as ↔ Steps step Q s as :=
  ⟨Steps.mono fun s a => (h s a).mp, Steps.mono fun s a => (h s a).mpr⟩
