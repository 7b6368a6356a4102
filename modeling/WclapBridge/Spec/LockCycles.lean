import WclapBridge.ForStd.Transition
import WclapBridge.Native.PluginCalls
import Mathlib.Order.Nat

/-!
# Cycles of locks

A call of the host locks the mutex for its fields and then that of the instance.
A function that guest code calls takes them the other way round. Threads can
wait for each other where such a function is called while another thread is in
a call that holds the mutex for the fields.

## Key results

- `held_always`: threads hold their mutexes for the frames on their stacks
- `exclusive`: only one thread has a frame that holds a mutex
- `ordered_step`: one step keeps the order
- `noDeadlock_of_inOrder`: without steps against the order, threads never wait
  for each other
- `process_against_onMainThread`: two that do
-/

namespace WclapBridge.Spec

open WclapBridge.Native
open CalledPlugin (step)

variable {is64 : Bool}

/-- The order in which calls of the host take their mutexes. -/
def lockRank : HostLock → Nat
  | .hostEventsMutex => 0
  | .hostStreamsMutex => 1
  | .callMutex => 2

/-- No two threads wait for each other, nor do more of them in a circle. -/
structure NoDeadlock (s : CalledPlugin is64) : Prop where
  pair : ∀ t u, ¬ s.table.Pair t u
  cycle : s.table.NoCycle

/-- A thread that holds a mutex asks for one which comes before it in the order
    only while no other thread holds that. -/
def InOrder (s : CalledPlugin is64) (a : Nat × CallStep is64) : Prop :=
  ∀ l mutex held u, a.2 = .acquire l → l.mutex (s.threads a.1).frames = some mutex →
    (s.mutexes held).holder = some a.1 → lockRank mutex ≤ lockRank held →
    (s.mutexes mutex).holder = some u → u = a.1

/-! ## Mutexes and frames -/

/-- How many frames of a stack hold a mutex. -/
def holds (mutex : HostLock) (frames : List Frame) : Nat :=
  frames.countP fun f => f.lock = some mutex

/-- Threads hold their mutexes for their frames. -/
def Held (s : CalledPlugin is64) : Prop :=
  ∀ mutex t, (s.mutexes mutex).heldBy t = holds mutex (s.threads t).frames

theorem holds_cons (mutex : HostLock) (f : Frame) (frames : List Frame) :
    holds mutex (f :: frames) = holds mutex frames + if f.lock = some mutex then 1 else 0 := by
  simp only [holds, List.countP_cons, decide_eq_true_eq]

/-- A frame is replaced by one with the same mutex. -/
private theorem held_replace {s s' : CalledPlugin is64} {t : Nat} {thread : CallThread}
    (hs : Held s) (hmutexes : s'.mutexes = s.mutexes)
    (hthreads : s'.threads = Function.update s.threads t thread)
    (hframes : ∀ mutex, holds mutex thread.frames = holds mutex (s.threads t).frames) :
    Held s' := by
  intro mutex u
  rw [hmutexes, hs mutex u, hthreads]
  by_cases hu : u = t
  · subst hu
    rw [Function.update_self, hframes]
  · rw [Function.update_of_ne hu]

/-- A mutex is locked for a new frame. -/
private theorem held_lock {s s' : CalledPlugin is64} {t : Nat} {thread : CallThread}
    {mutex : HostLock} {locked : RecursiveMutex Nat} (hs : Held s)
    (hlock : (s.mutexes mutex).lock t = some locked)
    (hmutexes : s'.mutexes = Function.update s.mutexes mutex locked)
    (hthreads : s'.threads = Function.update s.threads t thread)
    (hframes : ∀ m, holds m thread.frames =
      holds m (s.threads t).frames + if mutex = m then 1 else 0) : Held s' := by
  intro m u
  have hu : (s'.mutexes m).heldBy u =
      (s.mutexes m).heldBy u + if u = t ∧ mutex = m then 1 else 0 := by
    rw [hmutexes]
    by_cases hm : m = mutex
    · subst hm
      simp [RecursiveMutex.heldBy_lock hlock]
    · simp [Function.update_of_ne hm, Ne.symm hm]
  rw [hu, hs m u, hthreads]
  by_cases hut : u = t
  · subst hut
    simp [hframes]
  · simp [hut]

/-- A mutex is unlocked when a frame is left. -/
private theorem held_pop {s : CalledPlugin is64} {t : Nat} {f : Frame} {frames : List Frame}
    (hs : Held s) (hframes : (s.threads t).frames = f :: frames) : Held (s.pop t f frames) := by
  unfold CalledPlugin.pop
  split
  next mutex hf =>
    -- the frame that is left is counted
    have hheld : (s.mutexes mutex).heldBy t ≠ 0 := by
      rw [hs mutex t, hframes, holds_cons, if_pos hf]
      exact Nat.succ_ne_zero _
    intro m u
    change (Function.update s.mutexes mutex (s.mutexes mutex).unlock m).heldBy u =
      holds m (Function.update s.threads t _ u).frames
    have hu := hs m u
    by_cases hut : u = t
    · subst hut
      rw [hframes, holds_cons, hf] at hu
      rw [Function.update_self]
      by_cases hm : m = mutex
      · subst hm
        have hunlock := RecursiveMutex.heldBy_unlock hheld u
        rw [if_pos rfl] at hunlock hu
        rw [Function.update_self]
        exact Nat.succ.inj (hunlock.symm.trans hu)
      · rw [Function.update_of_ne hm, hu, if_neg fun heq => hm (Option.some.inj heq).symm]
        rfl
    · -- the unlocking is not noticed by another thread
      rw [Function.update_of_ne hut, ← hu]
      by_cases hm : m = mutex
      · subst hm
        have hunlock := RecursiveMutex.heldBy_unlock hheld u
        rw [if_neg hut] at hunlock
        rw [Function.update_self]
        exact hunlock.symm
      · rw [Function.update_of_ne hm]
  next hf =>
    refine held_replace hs rfl rfl fun mutex => ?_
    rw [hframes, holds_cons, hf]
    rfl

theorem held_step {abi : Abi is64} {s s' : CalledPlugin is64} {t : Nat} {a : CallStep is64}
    (hs : Held s) (h : step abi s (t, a) = some s') : Held s' := by
  cases CalledPlugin.step_cases h with
  | wait => exact held_replace hs rfl rfl fun _ => rfl
  | lock hframes hmutex hlock =>
    refine held_lock hs hlock rfl rfl fun m => ?_
    rw [hframes, holds_cons, holds_cons]
    simp [Frame.lock, hmutex]
  | push hf hmutex hlock =>
    refine held_lock hs hlock rfl rfl fun m => ?_
    rw [holds_cons, hmutex]
    simp
  | callback hk =>
    refine held_replace hs rfl rfl fun m => ?_
    rw [holds_cons]
    simp [Frame.lock, hk]
  | call =>
    refine held_replace hs rfl rfl fun m => ?_
    rw [holds_cons]
    simp [Frame.lock]
  | resize hframes | copy hframes | set hframes | clear hframes =>
    refine held_replace hs rfl rfl fun m => ?_
    rw [hframes, holds_cons, holds_cons]
    rfl
  | pop hframes => exact held_pop hs hframes

/-- Only one thread at a time is in a call or function that holds a mutex. -/
theorem exclusive {s : CalledPlugin is64} (hs : Held s) {t u : Nat} {f g : Frame}
    {mutex : HostLock} (hf : f ∈ (s.threads t).frames) (hfl : f.lock = some mutex)
    (hg : g ∈ (s.threads u).frames) (hgl : g.lock = some mutex) : t = u := by
  refine @RecursiveMutex.heldBy_unique _ _ (s.mutexes mutex) _ _ ?_ ?_
  · rw [hs, holds]
    exact (List.countP_pos_iff.mpr ⟨f, hf, by simpa using hfl⟩).ne'
  · rw [hs, holds]
    exact (List.countP_pos_iff.mpr ⟨g, hg, by simpa using hgl⟩).ne'

/-- Threads hold their mutexes for their frames in every run. -/
theorem held_always (abi : Abi is64) (run : List (Nat × CallStep is64)) :
    States (step abi) Held .new run :=
  .of_invariant _ (fun _ _ _ => held_step) fun _ _ => rfl

/-! ## Order -/

/-- The mutexes and threads after a thread has gone on. -/
private theorem ordered_goOn {s s' : CalledPlugin is64} {t : Nat} {frames : List Frame}
    (hs : s.table.Ordered lockRank)
    (hthreads : s'.threads = Function.update s.threads t { frames, waiting := none })
    (hmutexes : ∀ u m, u ≠ t → (s'.mutexes m).holder = some u → (s.mutexes m).holder = some u) :
    s'.table.Ordered lockRank := by
  refine hs.goOn (t := t) ?_ (fun u hut => ?_) hmutexes
  · simp [CalledPlugin.table, hthreads]
  · simp [CalledPlugin.table, hthreads, Function.update_of_ne hut]

/-- No other thread has a mutex that is locked. -/
private theorem holder_locked {mutexes : HostLock → RecursiveMutex Nat} {mutex m : HostLock}
    {locked : RecursiveMutex Nat} {t u : Nat} (hlock : (mutexes mutex).lock t = some locked)
    (hut : u ≠ t) (h : (Function.update mutexes mutex locked m).holder = some u) :
    (mutexes m).holder = some u := by
  by_cases hm : m = mutex
  · subst hm
    rw [Function.update_self, RecursiveMutex.holder_lock hlock] at h
    exact absurd (Option.some.inj h).symm hut
  · rwa [Function.update_of_ne hm] at h

/-- No thread gets a mutex that is unlocked. -/
private theorem holder_unlocked {mutexes : HostLock → RecursiveMutex Nat} {mutex m : HostLock}
    {u : Nat} (h : (Function.update mutexes mutex (mutexes mutex).unlock m).holder = some u) :
    (mutexes m).holder = some u := by
  by_cases hm : m = mutex
  · subst hm
    rw [Function.update_self] at h
    exact RecursiveMutex.holder_unlock h
  · rwa [Function.update_of_ne hm] at h

theorem ordered_step {abi : Abi is64} {s s' : CalledPlugin is64} {a : Nat × CallStep is64}
    (hs : s.table.Ordered lockRank) (ha : InOrder s a) (h : step abi s a = some s') :
    s'.table.Ordered lockRank := by
  obtain ⟨t, a⟩ := a
  cases CalledPlugin.step_cases h with
  | @wait l mutex hmutex hlock =>
    obtain ⟨u, hut, hu⟩ := RecursiveMutex.lock_eq_none.mp hlock
    -- another thread holds the mutex, so that it comes after those held here
    refine hs.wait (t := t) (l := mutex) ?_ (fun m hm => ?_) (fun v hv => ?_) rfl
    · simp [CalledPlugin.table, CalledPlugin.wait]
    · exact Nat.lt_of_not_le fun hle => hut (ha l mutex m u rfl hmutex hm hle hu)
    · simp [CalledPlugin.table, CalledPlugin.wait, Function.update_of_ne hv]
  | lock hframes hmutex hlock => exact ordered_goOn hs rfl fun u m => holder_locked hlock
  | push hf hmutex hlock => exact ordered_goOn hs rfl fun u m => holder_locked hlock
  | callback => exact ordered_goOn hs rfl fun u m _ => id
  | call => exact ordered_goOn hs rfl fun u m _ => id
  | resize => exact ordered_goOn hs rfl fun u m _ => id
  | copy => exact ordered_goOn hs rfl fun u m _ => id
  | set => exact ordered_goOn hs rfl fun u m _ => id
  | clear => exact ordered_goOn hs rfl fun u m _ => id
  | @pop _ f frames =>
    unfold CalledPlugin.pop
    split
    next => exact ordered_goOn hs rfl fun u m _ => holder_unlocked
    next => exact ordered_goOn hs rfl fun u m _ => id

/-- In every run without steps against the order, threads never wait for each
    other. -/
theorem noDeadlock_of_inOrder (abi : Abi is64) (run : List (Nat × CallStep is64))
    (h : Steps (step abi) InOrder .new run) : States (step abi) NoDeadlock .new run := by
  have hordered : States (step abi) (fun s => s.table.Ordered lockRank) .new run :=
    .of_steps _ (fun s a s' => ordered_step) (fun t l m hl => nomatch hl) h
  exact hordered.mono fun s hs => ⟨hs.no_cycle.no_pair, hs.no_cycle⟩

private def noEvents : ClapInputEvents :=
  ⟨0, fun _ => ⟨⟨16, 0, CLAP_CORE_EVENT_SPACE_ID, 0, 0⟩, .plain .note []⟩⟩

/-- A call of `process` on one thread, whose guest code looks at the input
    events, and `on_main_thread` on another. -/
theorem noDeadlock_one_after_another :
    States (step (Abi.clap false)) NoDeadlock .new
      [(1, .call (.pluginProcess noEvents (some 0))), (1, .acquire .lock), (1, .resize), (1, .set),
        (1, .acquire .enter), (1, .acquire (.callback .inputEventsSize)), (1, .finish), (1, .leave),
        (1, .clear), (1, .return_), (0, .call .pluginOnMainThread), (0, .acquire .enter),
        (0, .leave), (0, .return_)] := by
  apply noDeadlock_of_inOrder
  iterate 14
    refine ⟨fun l mutex held u ha hmutex hheld hle hu => ?_, ?_⟩
    · cases ha <;> cases mutex <;> cases hu <;> rfl
    rintro _ ⟨⟩
  trivial

/-- While the audio thread is in `process`, guest code that runs on the main
    thread asks for the size of an event list. -/
theorem process_against_onMainThread :
    ¬ States (step (Abi.clap false)) NoDeadlock .new
      [(0, .call .pluginOnMainThread), (0, .acquire .enter),
        (1, .call (.pluginProcess noEvents (some 0))), (1, .acquire .lock), (1, .resize), (1, .set),
        (1, .acquire .enter), (0, .acquire (.callback .inputEventsSize))] :=
  fun h => (h.at_end rfl).pair 0 1 ⟨⟨.hostEventsMutex, rfl, rfl⟩, ⟨.callMutex, rfl, rfl⟩⟩

end WclapBridge.Spec
