import Mathlib.Data.Nat.Cast.Defs
import WclapBridge.ForStd.Ticker
import WclapBridge.Native.InstanceGroup

/-!
# Ways into guest code, and the deadline

With a time limit, a thread increments the epoch of the Wasmtime engine every ten
milliseconds, or later than that. Guest code looks at the epoch at loops and
function entries, and is interrupted where it has reached the deadline of the
store. Each function that enters guest code moves the deadline first. A thread of
the guest moves it again when it gets there, unless it is to stop.

Each instance has a store of its own. What enters it is nested: while guest code
waits for a host function, this can enter the same instance again.
-/

namespace WclapBridge.Native

/-! ## The time limit -/

def epochCounterMs : UInt64 := 10

/-- `timeLimitEpochs`, which `globalInit` sets: 0 is without a limit. -/
def timeLimitEpochs (timeLimitMs : UInt32) : UInt64 :=
  if timeLimitMs > 0 then timeLimitMs.toUInt64 / epochCounterMs + 2 else 0

/-- The sum does not wrap around. -/
theorem toNat_timeLimitEpochs {timeLimitMs : UInt32} (h : 0 < timeLimitMs) :
    (timeLimitEpochs timeLimitMs).toNat = timeLimitMs.toNat / 10 + 2 := by
  have hlt := timeLimitMs.toNat_lt
  rw [timeLimitEpochs, if_pos h, UInt64.toNat_add, UInt64.toNat_div, UInt32.toNat_toUInt64]
  show (timeLimitMs.toNat / 10 + 2) % 2 ^ 64 = timeLimitMs.toNat / 10 + 2
  omega

theorem timeLimitEpochs_ne_zero {timeLimitMs : UInt32} (h : 0 < timeLimitMs) :
    timeLimitEpochs timeLimitMs ≠ 0 := by
  intro hzero
  have heq := toNat_timeLimitEpochs h
  rw [hzero] at heq
  exact absurd heq.symm (Nat.succ_ne_zero _)

/-! ## The functions that enter guest code -/

/-- What they do for it. -/
inductive EntryStep where
  | setWasmDeadline
  /-- `wasmtime_store_epoch_deadline_callback(wtStore, continueChecker, handle, nullptr)` -/
  | setContinueChecker
  /-- Wasmtime is called to run guest code. -/
  | callGuest
  deriving DecidableEq

/-- The functions that call Wasmtime to run guest code, as `Native.InstanceGroup`
    has them. The outcome says whether they find what they call. -/
inductive GuestRoute where
  | startInstance (group : InstanceGroup) (outcome : SetupOutcome)
  | initInner (group : InstanceGroup) (outcome : InitOutcome)
  | wtCall (group : InstanceGroup) (outcome : TableCallOutcome)
  | wtMalloc (group : InstanceGroup) (outcome : CallOutcome)
  | runThread (group : InstanceGroup) (outcome : ThreadOutcome)

/-- Whether `wasiInit` calls an `_initialize`. -/
def InitOutcome.isCalled : InitOutcome → Bool
  | notFunction | signature => false
  | error _ | timeout | trap => true
  | entryMissing called | entryType called | entryKind called | entry called _ => called

namespace GuestRoute

/-- What a function does before guest code runs, which is nothing where it gives up. -/
def entrySteps : GuestRoute → List EntryStep
  | startInstance group outcome =>
    if group.singleThread || group.hasError || !outcome.instantiated then []
    else [.setWasmDeadline, .callGuest]
  | initInner group outcome =>
    if group.hasError || group.hadInit || !outcome.isCalled then []
    else [.setWasmDeadline, .callGuest]
  | wtCall group outcome =>
    if group.hasError then []
    else
      match outcome with
      | .unresolved | .notFunction => []
      | .called _ => [.setWasmDeadline, .callGuest]
  | wtMalloc _ _ => [.setWasmDeadline, .callGuest]
  | runThread group outcome =>
    if !group.hadInit || !outcome.isCalled then []
    -- threads are allowed to continue unless explicitly stopped, but we use the
    -- deadline for checking in
    else [.setWasmDeadline, .setContinueChecker, .callGuest]

/-- The effects of the function. -/
def effects (instance_ : InstanceImpl) : GuestRoute → List Effect
  | startInstance group outcome => (Native.startInstance group outcome).2.2
  | initInner group outcome => (Native.initInner instance_ outcome group).2.2
  | wtCall group outcome => (Native.wtCall instance_ outcome group).2.2
  | wtMalloc group outcome => (Native.wtMalloc instance_ outcome group).2.2
  | runThread group outcome => (Native.runThread instance_ outcome group).2

/-- The steps of a function lead into guest code exactly if its effects have it. -/
theorem callGuest_mem_entrySteps (route : GuestRoute) (instance_ : InstanceImpl) :
    EntryStep.callGuest ∈ route.entrySteps ↔ Effect.guestCode ∈ route.effects instance_ := by
  have huses (handles : List Handle) : Effect.guestCode ∉ instance_.uses handles := by
    simp [InstanceImpl.uses]
  cases route with
  | startInstance group outcome =>
    simp only [entrySteps, effects, Native.startInstance]
    cases group.singleThread <;> cases group.hasError <;> cases outcome.instantiated <;> simp
  | initInner group outcome =>
    simp only [entrySteps, effects, Native.initInner]
    cases group.hasError
    next =>
      cases group.hadInit
      next =>
        cases outcome with
        | entryMissing called | entryType called | entryKind called | entry called _ =>
          cases called <;> simp [InitOutcome.isCalled, huses]
        | _ => simp [InitOutcome.isCalled, huses]
      next => simp
    next => simp
  | wtCall group outcome =>
    simp only [entrySteps, effects, Native.wtCall]
    cases group.hasError
    next => rcases outcome with _ | _ | _ | _ | _ | _ <;> simp [huses]
    next => simp
  | wtMalloc group outcome =>
    simp [entrySteps, effects, guestCode_mem_wtMalloc]
  | runThread group outcome =>
    simp only [entrySteps, effects, Native.runThread]
    cases group.hadInit
    next => simp
    next => rcases outcome with _ | _ | _ | _ | _ | _ <;> simp [ThreadOutcome.isCalled, huses]

end GuestRoute

/-! ## Entering one instance -/

variable {τ : Type}

/-- One of these functions, from its beginning until guest code returns. -/
structure GuestEntry (τ : Type) where
  todo : List EntryStep
  inGuest : Bool
  /-- When it called `setWasmDeadline`, and the epoch then. -/
  began : Option (τ × Nat)

/-- The store of an instance, and the epoch of its engine, over time. -/
structure EpochState (τ : Type) where
  /-- The clock in milliseconds, and the epoch. -/
  epoch : Ticker τ
  deadline : Nat
  /-- Whether the store has the `continueChecker`. -/
  hasChecker : Bool
  /-- The functions that are on their way or in guest code, the innermost one first. -/
  entries : List (GuestEntry τ)
  /-- The entries that were interrupted, and when. -/
  interrupted : List (GuestEntry τ × τ)

inductive EpochAction (τ : Type) where
  | wait (until_ : τ)
  /-- `epochThreadFunction` calls `wasmtime_engine_increment_epoch`. -/
  | increment
  /-- A function is called: at first, or by what guest code has called. -/
  | enter (route : GuestRoute)
  /-- The innermost function does its next step. -/
  | goOn
  /-- It returns, after guest code or without. -/
  | leave
  /-- Guest code looks at the epoch. A `continueChecker` asks `shouldStop()`. -/
  | check (shouldStop : Bool)

namespace EpochState

/-- The engine and the store are new. -/
def new (now : τ) : EpochState τ where
  epoch := .new now
  deadline := 0
  hasChecker := false
  entries := []
  interrupted := []

/-- `InstanceImpl::setWasmDeadline`. -/
def setWasmDeadline (s : EpochState τ) (timeLimitMs : UInt32) : EpochState τ :=
  if timeLimitEpochs timeLimitMs ≠ 0 then
    { s with deadline := s.epoch.count + (timeLimitEpochs timeLimitMs).toNat }
  else s

theorem setWasmDeadline_eq {timeLimitMs : UInt32} (h : 0 < timeLimitMs) (s : EpochState τ) :
    s.setWasmDeadline timeLimitMs =
      { s with deadline := s.epoch.count + (timeLimitMs.toNat / 10 + 2) } := by
  rw [setWasmDeadline, if_pos (timeLimitEpochs_ne_zero h), toNat_timeLimitEpochs h]

section Step

variable [AddCommMonoidWithOne τ] [LinearOrder τ]

/-- The innermost function does one of its steps. -/
def perform (s : EpochState τ) (timeLimitMs : UInt32) (entry : GuestEntry τ)
    (outer : List (GuestEntry τ)) : EntryStep → EpochState τ
  | .setWasmDeadline =>
    { s.setWasmDeadline timeLimitMs with
      entries := { entry with began := some (s.epoch.now, s.epoch.count) } :: outer }
  | .setContinueChecker => { s with hasChecker := true, entries := entry :: outer }
  | .callGuest => { s with entries := { entry with inGuest := true } :: outer }

/-- Guest code looks at the epoch. Without a limit it was compiled without that. -/
def checkEpoch (s : EpochState τ) (timeLimitMs : UInt32) (entry : GuestEntry τ)
    (outer : List (GuestEntry τ)) (shouldStop : Bool) : EpochState τ :=
  if timeLimitMs = 0 ∨ s.epoch.count < s.deadline then s
  else if s.hasChecker && !shouldStop then
    -- move the deadline back
    { s with deadline := s.epoch.count + (timeLimitEpochs timeLimitMs).toNat }
  else { s with entries := outer, interrupted := (entry, s.epoch.now) :: s.interrupted }

/-- What is called next is called on behalf of guest code, if there is any entry. -/
def mayEnter (s : EpochState τ) : Bool :=
  match s.entries with
  | [] => true
  | entry :: _ => entry.inGuest

/-- The time limit is fixed: it can change only while no WCLAP is open. -/
def step (timeLimitMs : UInt32) (s : EpochState τ) : EpochAction τ → Option (EpochState τ)
  | .wait until_ => (s.epoch.wait until_).map fun epoch => { s with epoch }
  | .increment =>
    (s.epoch.tick (epochCounterMs.toNat : τ)).map fun epoch => { s with epoch }
  | .enter route =>
    if s.mayEnter then some { s with entries := ⟨route.entrySteps, false, none⟩ :: s.entries }
    else none
  | .goOn =>
    match s.entries with
    | [] => none
    | entry :: outer =>
      match entry.todo with
      | [] => none
      | entryStep :: todo => some (s.perform timeLimitMs { entry with todo } outer entryStep)
  | .leave =>
    match s.entries with
    | [] => none
    | entry :: outer => if entry.todo = [] then some { s with entries := outer } else none
  | .check shouldStop =>
    match s.entries with
    | [] => none
    | entry :: outer =>
      if entry.inGuest then some (s.checkEpoch timeLimitMs entry outer shouldStop) else none

/-- What a step can do. -/
theorem step_cases {timeLimitMs : UInt32} {s s' : EpochState τ} {a : EpochAction τ}
    (h : s.step timeLimitMs a = some s') :
    (∃ epoch, ((∃ until_, s.epoch.wait until_ = some epoch) ∨
        s.epoch.tick (epochCounterMs.toNat : τ) = some epoch) ∧ s' = { s with epoch }) ∨
      (∃ route : GuestRoute,
        s' = { s with entries := ⟨route.entrySteps, false, none⟩ :: s.entries }) ∨
      (∃ entry outer entryStep todo, s.entries = entry :: outer ∧
        entry.todo = entryStep :: todo ∧
        s' = s.perform timeLimitMs { entry with todo } outer entryStep) ∨
      (∃ entry outer, s.entries = entry :: outer ∧ s' = { s with entries := outer }) ∨
      (∃ entry outer shouldStop, s.entries = entry :: outer ∧ entry.inGuest = true ∧
        s' = s.checkEpoch timeLimitMs entry outer shouldStop) := by
  cases a with
  | wait until_ =>
    obtain ⟨epoch, hepoch, rfl⟩ := Option.map_eq_some_iff.mp h
    exact .inl ⟨epoch, .inl ⟨until_, hepoch⟩, rfl⟩
  | increment =>
    obtain ⟨epoch, hepoch, rfl⟩ := Option.map_eq_some_iff.mp h
    exact .inl ⟨epoch, .inr hepoch, rfl⟩
  | enter route =>
    simp only [step, Option.ite_none_right_eq_some, Option.some.injEq] at h
    exact .inr (.inl ⟨route, h.2.symm⟩)
  | goOn =>
    simp only [step] at h
    split at h
    next => cases h
    next entry outer hentries =>
      split at h
      next => cases h
      next entryStep todo htodo =>
        exact .inr (.inr (.inl
          ⟨entry, outer, entryStep, todo, hentries, htodo, (Option.some.inj h).symm⟩))
  | leave =>
    simp only [step] at h
    split at h
    next => cases h
    next entry outer hentries =>
      simp only [Option.ite_none_right_eq_some, Option.some.injEq] at h
      exact .inr (.inr (.inr (.inl ⟨entry, outer, hentries, h.2.symm⟩)))
  | check shouldStop =>
    simp only [step] at h
    split at h
    next => cases h
    next entry outer hentries =>
      simp only [Option.ite_none_right_eq_some, Option.some.injEq] at h
      exact .inr (.inr (.inr (.inr ⟨entry, outer, shouldStop, hentries, h.1, h.2.symm⟩)))

end Step

end EpochState

end WclapBridge.Native
