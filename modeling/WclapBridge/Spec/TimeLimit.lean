import Mathlib.Algebra.Order.Ring.Int
import Mathlib.Data.Nat.Cast.Order.Basic
import WclapBridge.ForStd.Transition
import WclapBridge.Native.GuestEntries

/-!
# No timeout before the time limit

A limit of `n` milliseconds becomes `n / 10 + 2` epochs: the division rounds down,
and the first increment can come at once. So a deadline takes at least `n / 10 + 1`
whole periods to reach, which is more than the limit.

A later entry moves the deadline of the store, but not to an earlier epoch, as the
epoch does not decrease.

## Key results

- `EntryInv`: what holds of each entry between its calls of `setWasmDeadline` and of
  Wasmtime, and after them
- `no_premature_timeout`: guest code is not interrupted before the time limit
-/

namespace WclapBridge.Spec

open WclapBridge.Native

variable {τ : Type} [AddCommMonoidWithOne τ] [LinearOrder τ]

/-- Entries were interrupted only when the limit was over, counted from when they
    set the deadline, which is just before they called Wasmtime. -/
def NotEarly (timeLimitMs : UInt32) (s : EpochState τ) : Prop :=
  ∀ i ∈ s.interrupted, ∃ start epoch, i.1.began = some (start, epoch) ∧
    start + (timeLimitMs.toNat : τ) ≤ i.2

/-- Whatever is in guest code has set the deadline, and the store's deadline is not
    before this one. -/
def DeadlinesHold (timeLimitMs : UInt32) (s : EpochState τ) : Prop :=
  ∀ entry ∈ s.entries, entry.inGuest = true → ∃ start epoch,
    entry.began = some (start, epoch) ∧ epoch + (timeLimitMs.toNat / 10 + 2) ≤ s.deadline

/-! ## The steps of an entry -/

/-- Guest code is called only after the deadline was set. -/
def deadlineFirst : Bool → List EntryStep → Bool
  | _, [] => true
  | _, .setWasmDeadline :: todo => deadlineFirst true todo
  | isSet, .setContinueChecker :: todo => deadlineFirst isSet todo
  | isSet, .callGuest :: todo => isSet && deadlineFirst isSet todo

/-- All functions set the deadline first. -/
theorem deadlineFirst_entrySteps (route : GuestRoute) :
    deadlineFirst false route.entrySteps = true := by
  cases route with
  | startInstance group outcome | initInner group outcome | runThread group outcome =>
    simp only [GuestRoute.entrySteps]
    split <;> rfl
  | wtCall group outcome =>
    simp only [GuestRoute.entrySteps]
    split
    next => rfl
    next => cases outcome <;> rfl
  | wtMalloc group outcome => rfl

/-- What holds of an entry: its deadline is that of the store or an earlier one,
    and no increment is forgotten since it was set. -/
structure EntryInv (timeLimitMs : UInt32) (epoch : Ticker τ) (deadline : Nat)
    (entry : GuestEntry τ) : Prop where
  todo : deadlineFirst entry.began.isSome entry.todo = true
  inGuest : entry.inGuest = true → entry.began.isSome = true
  began : ∀ start n, entry.began = some (start, n) →
    epoch.Since (epochCounterMs.toNat : τ) start n ∧ n + (timeLimitMs.toNat / 10 + 2) ≤ deadline

namespace EntryInv

variable {timeLimitMs : UInt32} {epoch : Ticker τ} {deadline : Nat} {entry : GuestEntry τ}

/-- A function at its beginning. -/
theorem new (route : GuestRoute) :
    EntryInv timeLimitMs epoch deadline ⟨route.entrySteps, false, none⟩ := by
  refine ⟨deadlineFirst_entrySteps route, fun h => ?_, fun start n h => ?_⟩
  · cases h
  · cases h

/-- The deadline can only move to a later epoch. -/
theorem deadline_le (h : EntryInv timeLimitMs epoch deadline entry) {deadline' : Nat}
    (hle : deadline ≤ deadline') : EntryInv timeLimitMs epoch deadline' entry := by
  refine ⟨h.todo, h.inGuest, fun start n hbegan => ?_⟩
  obtain ⟨hsince, hdeadline⟩ := h.began start n hbegan
  exact ⟨hsince, hdeadline.trans hle⟩

/-- Time passes, or the epoch is incremented: nothing of what has happened is lost. -/
theorem later (h : EntryInv timeLimitMs epoch deadline entry) {epoch' : Ticker τ}
    (hlater : ∀ start n, epoch.Since (epochCounterMs.toNat : τ) start n →
      epoch'.Since (epochCounterMs.toNat : τ) start n) :
    EntryInv timeLimitMs epoch' deadline entry := by
  refine ⟨h.todo, h.inGuest, fun start n hbegan => ?_⟩
  obtain ⟨hsince, hdeadline⟩ := h.began start n hbegan
  exact ⟨hlater start n hsince, hdeadline⟩

/-- Where the deadline has been reached, the time limit is over. -/
theorem limit_le [IsOrderedAddMonoid τ] [ZeroLEOneClass τ]
    (h : EntryInv timeLimitMs epoch deadline entry) (hentry : entry.inGuest = true)
    (hdeadline : deadline ≤ epoch.count) :
    ∃ start n, entry.began = some (start, n) ∧ start + (timeLimitMs.toNat : τ) ≤ epoch.now := by
  obtain ⟨⟨start, n⟩, hbegan⟩ := Option.isSome_iff_exists.mp (h.inGuest hentry)
  refine ⟨start, n, hbegan, ?_⟩
  obtain ⟨hsince, hle⟩ := h.began start n hbegan
  -- of the increments since then, all but the first took a period
  have hticks : n + (timeLimitMs.toNat / 10 + 1) < epoch.count := by omega
  have hperiods : timeLimitMs.toNat ≤ (timeLimitMs.toNat / 10 + 1) * epochCounterMs.toNat := by
    show timeLimitMs.toNat ≤ (timeLimitMs.toNat / 10 + 1) * 10
    omega
  calc start + (timeLimitMs.toNat : τ)
      ≤ start + (((timeLimitMs.toNat / 10 + 1) * epochCounterMs.toNat : Nat) : τ) := by
        gcongr
    _ = start + (timeLimitMs.toNat / 10 + 1) • (epochCounterMs.toNat : τ) := by
        rw [← nsmul_one epochCounterMs.toNat, ← mul_nsmul', nsmul_one]
    _ ≤ epoch.now := hsince.elapsed hticks

end EntryInv

/-! ## Runs -/

/-- The invariant of a run: as the epoch does not decrease, no deadline is further
    away than one that would be set now. -/
structure EpochInv (timeLimitMs : UInt32) (s : EpochState τ) : Prop where
  entries : ∀ entry ∈ s.entries, EntryInv timeLimitMs s.epoch s.deadline entry
  deadline_le : s.deadline ≤ s.epoch.count + (timeLimitMs.toNat / 10 + 2)
  notEarly : NotEarly timeLimitMs s

namespace EpochInv

variable {timeLimitMs : UInt32} {s s' : EpochState τ} {entry : GuestEntry τ}
  {outer : List (GuestEntry τ)}

theorem new (timeLimitMs : UInt32) (now : τ) : EpochInv timeLimitMs (.new now) where
  entries _ hentry := absurd hentry List.not_mem_nil
  deadline_le := Nat.zero_le _
  notEarly _ hi := absurd hi List.not_mem_nil

theorem deadlinesHold (h : EpochInv timeLimitMs s) : DeadlinesHold timeLimitMs s := by
  intro entry hentry hguest
  have hinv := h.entries entry hentry
  obtain ⟨⟨start, n⟩, hbegan⟩ := Option.isSome_iff_exists.mp (hinv.inGuest hguest)
  exact ⟨start, n, hbegan, (hinv.began start n hbegan).2⟩

/-- Time passes. -/
theorem wait (h : EpochInv timeLimitMs s) {until_ : τ} {epoch : Ticker τ}
    (hwait : s.epoch.wait until_ = some epoch) : EpochInv timeLimitMs { s with epoch } := by
  refine ⟨fun entry hentry => ?_, ?_, h.notEarly⟩
  · apply (h.entries entry hentry).later
    intro start n hsince
    exact hsince.wait hwait
  · obtain ⟨-, rfl⟩ := Ticker.wait_cases hwait
    exact h.deadline_le

/-- The epoch is incremented. -/
theorem tick [IsOrderedAddMonoid τ] (h : EpochInv timeLimitMs s) {epoch : Ticker τ}
    (htick : s.epoch.tick (epochCounterMs.toNat : τ) = some epoch) :
    EpochInv timeLimitMs { s with epoch } := by
  refine ⟨fun entry hentry => ?_, ?_, h.notEarly⟩
  · apply (h.entries entry hentry).later
    intro start n hsince
    exact hsince.tick htick
  · obtain ⟨-, rfl⟩ := Ticker.tick_cases htick
    have hle := h.deadline_le
    show s.deadline ≤ s.epoch.count + 1 + (timeLimitMs.toNat / 10 + 2)
    omega

/-- An entry has done a step, and the deadline is as it was or later. -/
theorem of_entry (h : EpochInv timeLimitMs s) (hentries : s.entries = entry :: outer)
    {entry' : GuestEntry τ} {deadline : Nat} (hdeadline : s.deadline ≤ deadline)
    (hle : deadline ≤ s.epoch.count + (timeLimitMs.toNat / 10 + 2))
    (hentry' : EntryInv timeLimitMs s.epoch deadline entry') (hasChecker : Bool) :
    EpochInv timeLimitMs { s with deadline, hasChecker, entries := entry' :: outer } := by
  refine ⟨fun e he => ?_, hle, h.notEarly⟩
  obtain rfl | he := List.mem_cons.mp he
  · exact hentry'
  · exact (h.entries e (hentries ▸ List.mem_cons_of_mem entry he)).deadline_le hdeadline

/-- A step of the innermost function. -/
theorem perform (hlimit : 0 < timeLimitMs) (h : EpochInv timeLimitMs s)
    (hentries : s.entries = entry :: outer) {entryStep : EntryStep} {todo : List EntryStep}
    (htodo : entry.todo = entryStep :: todo) :
    EpochInv timeLimitMs (s.perform timeLimitMs { entry with todo } outer entryStep) := by
  have hinv := h.entries entry (hentries ▸ List.mem_cons_self)
  have hfirst := hinv.todo
  rw [htodo] at hfirst
  cases entryStep with
  | setWasmDeadline =>
    rw [EpochState.perform, EpochState.setWasmDeadline_eq hlimit]
    -- the deadline that is set is that of this entry
    refine h.of_entry hentries h.deadline_le (le_refl _) ⟨hfirst, fun _ => rfl, ?_⟩ _
    intro start n hbegan
    cases hbegan
    exact ⟨Ticker.Since.now_count _ _, le_refl _⟩
  | setContinueChecker =>
    apply h.of_entry hentries (le_refl _) h.deadline_le
    exact ⟨hfirst, hinv.inGuest, hinv.began⟩
  | callGuest =>
    obtain ⟨hset, hrest⟩ := Bool.and_eq_true_iff.mp hfirst
    apply h.of_entry hentries (le_refl _) h.deadline_le
    exact ⟨hrest, fun _ => hset, hinv.began⟩

/-- Without the innermost entry. -/
theorem of_outer (h : EpochInv timeLimitMs s) (hentries : s.entries = entry :: outer) :
    EpochInv timeLimitMs { s with entries := outer } where
  entries e he := h.entries e (hentries ▸ List.mem_cons_of_mem entry he)
  deadline_le := h.deadline_le
  notEarly := h.notEarly

/-- Guest code looks at the epoch, and is interrupted at the deadline. -/
theorem checkEpoch [IsOrderedAddMonoid τ] [ZeroLEOneClass τ] (hlimit : 0 < timeLimitMs)
    (h : EpochInv timeLimitMs s) (hentries : s.entries = entry :: outer)
    (hguest : entry.inGuest = true) (shouldStop : Bool) :
    EpochInv timeLimitMs (s.checkEpoch timeLimitMs entry outer shouldStop) := by
  have hinv := h.entries entry (hentries ▸ List.mem_cons_self)
  unfold EpochState.checkEpoch
  split
  next => exact h
  next hreached =>
    have hdeadline : s.deadline ≤ s.epoch.count := Nat.le_of_not_lt fun hlt => hreached (.inr hlt)
    split
    next =>
      rw [toNat_timeLimitEpochs hlimit]
      have hlater := hdeadline.trans (Nat.le_add_right _ (timeLimitMs.toNat / 10 + 2))
      exact ⟨fun e he => (h.entries e he).deadline_le hlater, le_refl _, h.notEarly⟩
    next =>
      have houter := h.of_outer hentries
      refine ⟨houter.entries, houter.deadline_le, fun i hi => ?_⟩
      obtain rfl | hi := List.mem_cons.mp hi
      · exact hinv.limit_le hguest hdeadline
      · exact h.notEarly i hi

/-- Every step keeps the invariant. -/
theorem step [IsOrderedAddMonoid τ] [ZeroLEOneClass τ] (hlimit : 0 < timeLimitMs)
    {a : EpochAction τ} (h : EpochInv timeLimitMs s) (hstep : s.step timeLimitMs a = some s') :
    EpochInv timeLimitMs s' := by
  obtain ⟨epoch, ⟨until_, hwait⟩ | htick, rfl⟩ | ⟨route, rfl⟩ |
    ⟨entry, outer, entryStep, todo, hentries, htodo, rfl⟩ | ⟨entry, outer, hentries, rfl⟩ |
    ⟨entry, outer, shouldStop, hentries, hguest, rfl⟩ := EpochState.step_cases hstep
  · exact h.wait hwait
  · exact h.tick htick
  · refine ⟨fun e he => ?_, h.deadline_le, h.notEarly⟩
    obtain rfl | he := List.mem_cons.mp he
    · exact EntryInv.new route
    · exact h.entries e he
  · exact h.perform hlimit hentries htodo
  · exact h.of_outer hentries
  · exact h.checkEpoch hlimit hentries hguest shouldStop

/-- No step moves the deadline to an earlier epoch. -/
theorem deadline_mono (hlimit : 0 < timeLimitMs) {a : EpochAction τ}
    (h : EpochInv timeLimitMs s) (hstep : s.step timeLimitMs a = some s') :
    s.deadline ≤ s'.deadline := by
  obtain ⟨epoch, -, rfl⟩ | ⟨route, rfl⟩ | ⟨entry, outer, entryStep, todo, -, -, rfl⟩ |
    ⟨entry, outer, -, rfl⟩ | ⟨entry, outer, shouldStop, -, -, rfl⟩ := EpochState.step_cases hstep
  · exact le_refl _
  · exact le_refl _
  · cases entryStep with
    | setWasmDeadline =>
      rw [EpochState.perform, EpochState.setWasmDeadline_eq hlimit]
      exact h.deadline_le
    | setContinueChecker => exact le_refl _
    | callGuest => exact le_refl _
  · exact le_refl _
  · unfold EpochState.checkEpoch
    split
    next => exact le_refl _
    next hreached =>
      split
      next =>
        show s.deadline ≤ s.epoch.count + (timeLimitEpochs timeLimitMs).toNat
        omega
      next => exact le_refl _

end EpochInv

/-- With a time limit, in every run: no entry into guest code is interrupted before
    the limit is over since it set the deadline; guest code runs only after this;
    and what enters it later, or within it, never moves the deadline to an earlier
    epoch. -/
theorem no_premature_timeout [IsOrderedAddMonoid τ] [ZeroLEOneClass τ] (timeLimitMs : UInt32)
    (hlimit : 0 < timeLimitMs) (start : τ) (as : List (EpochAction τ)) :
    States (EpochState.step timeLimitMs)
        (fun s => NotEarly timeLimitMs s ∧ DeadlinesHold timeLimitMs s) (.new start) as ∧
      Steps (EpochState.step timeLimitMs)
        (fun s a => ∀ s', s.step timeLimitMs a = some s' → s.deadline ≤ s'.deadline)
        (.new start) as := by
  have hinv : States (EpochState.step timeLimitMs) (EpochInv timeLimitMs) (.new start) as :=
    States.of_invariant _ (fun s a s' h hstep => h.step hlimit hstep) (.new timeLimitMs start)
  constructor
  · apply hinv.mono
    intro s h
    exact ⟨h.notEarly, h.deadlinesHold⟩
  · apply Steps.of_states _ hinv
    intro s a h s' hstep
    exact h.deadline_mono hlimit hstep

/-- A limit of 25 ms: a call of `malloc()` that begins at 3 ms is interrupted at 40 ms,
    at the fourth increment. -/
theorem no_premature_timeout_of_25 : ∃ as : List (EpochAction Int),
    (∃ s, as.foldlM (EpochState.step 25) (.new 0) = some s ∧ s.interrupted.map (·.2) = [40]) ∧
      States (EpochState.step 25) (fun s => NotEarly 25 s ∧ DeadlinesHold 25 s) (.new 0) as ∧
      Steps (EpochState.step 25)
        (fun s a => ∀ s', s.step 25 a = some s' → s.deadline ≤ s'.deadline) (.new 0) as :=
  ⟨[.wait 3, .enter (.wtMalloc (.opened false) .timeout), .goOn, .goOn, .wait 10, .increment,
      .wait 20, .increment, .check false, .wait 30, .increment, .check false, .wait 40,
      .increment, .check false],
    ⟨_, rfl, rfl⟩, no_premature_timeout 25 (by decide) 0 _⟩

end WclapBridge.Spec
