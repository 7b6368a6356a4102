import WclapBridge.Spec.TimeLimit

/-!
# Guest code that goes on is interrupted

The thread that increments the epoch sleeps for ten milliseconds, and may wake up later
than that. If it never does so more than a time `late` after the increment before, then guest
code goes on for the number of epochs of the limit, times `late`, at most: counted from when
the deadline was moved last. For a thread of the guest, this is when it was last allowed to
continue.

## Key results

- `checkEpoch_interrupts`: where guest code is past the deadline
- `interrupted_in_time`: in every run
-/

namespace WclapBridge.Spec

open WclapBridge.Native

variable {τ : Type} [AddCommMonoidWithOne τ] [LinearOrder τ]

/-- The last increment is not longer ago than `late`. The first one is awaited from `start`,
    when the thread was started. -/
def InTime (late start : τ) (s : EpochState τ) : Prop :=
  s.epoch.now ≤ s.epoch.awaitedFrom start + late

instance (late start : τ) (s : EpochState τ) : Decidable (InTime late start s) :=
  inferInstanceAs (Decidable (s.epoch.now ≤ s.epoch.awaitedFrom start + late))

variable {timeLimitMs : UInt32} {s s' : EpochState τ} {a : EpochAction τ} {late start t : τ}
  {n : Nat}

omit [AddCommMonoidWithOne τ] [LinearOrder τ] in
theorem epoch_perform (entry : GuestEntry τ) (outer : List (GuestEntry τ))
    (entryStep : EntryStep) : (s.perform timeLimitMs entry outer entryStep).epoch = s.epoch := by
  cases entryStep with
  | setWasmDeadline =>
    show (s.setWasmDeadline timeLimitMs).epoch = s.epoch
    unfold EpochState.setWasmDeadline
    split
    next => rfl
    next => rfl
  | setContinueChecker => rfl
  | callGuest => rfl

omit [AddCommMonoidWithOne τ] [LinearOrder τ] in
theorem epoch_checkEpoch (entry : GuestEntry τ) (outer : List (GuestEntry τ))
    (shouldStop : Bool) :
    (s.checkEpoch timeLimitMs entry outer shouldStop).epoch = s.epoch := by
  unfold EpochState.checkEpoch
  split
  next => rfl
  next =>
    split
    next => rfl
    next => rfl

/-- Only the two steps of the clock change it. -/
theorem epoch_step (h : s.step timeLimitMs a = some s') :
    s'.epoch = s.epoch ∨ (∃ until_, s.epoch.wait until_ = some s'.epoch) ∨
      s.epoch.tick (epochCounterMs.toNat : τ) = some s'.epoch := by
  obtain ⟨epoch, hepoch, rfl⟩ | ⟨route, rfl⟩ | ⟨entry, outer, entryStep, todo, -, -, rfl⟩ |
    ⟨entry, outer, -, rfl⟩ | ⟨entry, outer, shouldStop, -, -, rfl⟩ := EpochState.step_cases h
  · exact .inr hepoch
  · exact .inl rfl
  · exact .inl (epoch_perform _ outer entryStep)
  · exact .inl rfl
  · exact .inl (epoch_checkEpoch entry outer shouldStop)

/-- The last increment is in the past. -/
theorem awaitedFrom_le_step (hs : s.epoch.awaitedFrom start ≤ s.epoch.now)
    (h : s.step timeLimitMs a = some s') : s'.epoch.awaitedFrom start ≤ s'.epoch.now := by
  rcases epoch_step h with hsame | ⟨until_, hwait⟩ | htick
  · rwa [hsame]
  · exact Ticker.awaitedFrom_le_wait hs hwait
  · exact Ticker.awaitedFrom_le_tick htick

/-- A step after which the last increment is not too long ago. -/
theorem within_step [IsOrderedAddMonoid τ] (hlate : 0 ≤ late)
    (hs : Ticker.Within late start t n s.epoch) (hin : InTime late start s')
    (h : s.step timeLimitMs a = some s') : Ticker.Within late start t n s'.epoch := by
  rcases epoch_step h with hsame | ⟨until_, hwait⟩ | htick
  · rwa [hsame]
  · apply hs.wait hwait
    unfold InTime at hin
    obtain ⟨-, hnew⟩ := Ticker.wait_cases hwait
    rw [hnew] at hin
    exact hin
  · exact hs.tick hlate htick

omit [AddCommMonoidWithOne τ] [LinearOrder τ] in
/-- Past the deadline, what the function does is over, unless it is that of a thread which
    may go on. -/
theorem checkEpoch_interrupts (hlimit : 0 < timeLimitMs)
    (hdeadline : s.deadline ≤ s.epoch.count) (entry : GuestEntry τ)
    (outer : List (GuestEntry τ)) {shouldStop : Bool}
    (hstop : s.hasChecker = false ∨ shouldStop = true) :
    s.checkEpoch timeLimitMs entry outer shouldStop =
      { s with entries := outer, interrupted := (entry, s.epoch.now) :: s.interrupted } := by
  have hlimit' : timeLimitMs ≠ 0 := by
    rintro rfl
    exact absurd hlimit (lt_irrefl 0)
  have hnot : ¬(timeLimitMs = 0 ∨ s.epoch.count < s.deadline) := by
    rintro (hzero | hlt)
    · exact hlimit' hzero
    · omega
  unfold EpochState.checkEpoch
  rw [if_neg hnot]
  rcases hstop with hstop | hstop
  · rw [hstop]
    rfl
  · rw [hstop]
    simp

/-- With a time limit, in every run: from any state on, while the deadline stays where it is
    and each increment comes within `late`, guest code that looks at the epoch is interrupted
    once the number of epochs of the limit, times `late`, has passed. A thread of the guest is
    interrupted there if it is to stop. -/
theorem interrupted_in_time [IsOrderedAddMonoid τ] [ZeroLEOneClass τ] (timeLimitMs : UInt32)
    (hlimit : 0 < timeLimitMs) (late start : τ) (hlate : 0 ≤ late)
    (before after : List (EpochAction τ)) (s u : EpochState τ)
    (hbefore : before.foldlM (EpochState.step timeLimitMs) (.new start) = some s)
    (hafter : States (EpochState.step timeLimitMs)
      (fun u => u.deadline = s.deadline ∧ InTime late start u) s after)
    (hu : after.foldlM (EpochState.step timeLimitMs) s = some u)
    (hlater : s.epoch.now + (timeLimitMs.toNat / 10 + 2) • late < u.epoch.now)
    (entry : GuestEntry τ) (outer : List (GuestEntry τ)) (hentries : u.entries = entry :: outer)
    (hguest : entry.inGuest = true) (shouldStop : Bool)
    (hstop : u.hasChecker = false ∨ shouldStop = true) :
    u.step timeLimitMs (.check shouldStop) =
      some { u with entries := outer, interrupted := (entry, u.epoch.now) :: u.interrupted } := by
  -- the deadline of `s` is not further away than the limit
  have hinv : EpochInv timeLimitMs s :=
    foldlM_inv (EpochInv timeLimitMs) (fun s a s' h hstep => h.step hlimit hstep)
      (.new timeLimitMs start) hbefore
  have hpast : s.epoch.awaitedFrom start ≤ s.epoch.now :=
    foldlM_inv (fun s : EpochState τ => s.epoch.awaitedFrom start ≤ s.epoch.now)
      (fun s a s' h hstep => awaitedFrom_le_step h hstep)
      (show (Ticker.new start).awaitedFrom start ≤ start from le_refl start) hbefore
  have hsteps : Steps (EpochState.step timeLimitMs)
      (fun u a => ∀ u', u.step timeLimitMs a = some u' → InTime late start u') s after := by
    apply Steps.of_next _ hafter
    intro u a hu hnext u' hstep
    exact (hnext u' hstep).2
  -- so many increments come since then
  have hwithin : Ticker.Within late start s.epoch.now s.epoch.count u.epoch :=
    (States.of_steps
      (fun u : EpochState τ => Ticker.Within late start s.epoch.now s.epoch.count u.epoch)
      (fun u a u' h hin hstep => within_step hlate h (hin u' hstep) hstep)
      (.now_count hlate hpast) hsteps).at_end hu
  have hcount := hwithin.count_le hlate hlater
  have hstays : u.deadline = s.deadline := (hafter.at_end hu).1
  have hreached : u.deadline ≤ u.epoch.count := by
    have hle := hinv.deadline_le
    omega
  show EpochState.step timeLimitMs u (.check shouldStop) = _
  rw [EpochState.step]
  simp only [hentries, hguest, if_true]
  rw [checkEpoch_interrupts hlimit hreached entry outer hstop]

/-- A limit of 5 ms, with increments that are 12 ms apart: a call of `malloc()` that set its
    deadline at 3 ms is interrupted where it looks at the epoch at 28 ms. -/
theorem interrupted_in_time_of_5 :
    let entry : GuestEntry Int := ⟨[], true, some (3, 0)⟩
    EpochState.step 5 ⟨⟨28, 2, some 24⟩, 2, false, [entry], []⟩ (.check false) =
      some ⟨⟨28, 2, some 24⟩, 2, false, [], [(entry, 28)]⟩ :=
  interrupted_in_time 5 (by decide) 12 0 (by decide)
    [.wait 3, .enter (.wtMalloc (.opened false) .timeout), .goOn, .goOn]
    [.wait 12, .increment, .wait 24, .increment, .wait 28]
    ⟨⟨3, 0, none⟩, 2, false, [⟨[], true, some (3, 0)⟩], []⟩
    ⟨⟨28, 2, some 24⟩, 2, false, [⟨[], true, some (3, 0)⟩], []⟩ rfl
    (by decide) rfl (by decide) _ [] rfl rfl false (.inl rfl)

end WclapBridge.Spec
