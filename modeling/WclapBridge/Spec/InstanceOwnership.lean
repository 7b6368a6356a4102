import WclapBridge.ForStd.SlotTable
import WclapBridge.ForStd.Transition
import WclapBridge.Native.Threads

/-!
# Which instance belongs to whom

A group without a shared memory has one instance, which everything uses. With a shared
memory, a plugin has an instance for its audio thread, and so has each thread of the guest:
nobody else uses it, and none of them is the main thread's.

## Key results

- `InstancesOwned.perform`, `InstancesOwned.spawnThread`: what keeps the owners
- `instancesOwned_step`: every step does
-/

namespace WclapBridge.Spec

open WclapBridge.Native
open WclapModule (main)

/-! ## Groups -/

@[simp] theorem singleThread_setError (group : InstanceGroup) (message : String) :
    (group.setError message).singleThread = group.singleThread := by
  unfold InstanceGroup.setError
  split
  next => rfl
  next => rfl

@[simp] theorem singleThread_setWtError (group : InstanceGroup) (e : String) :
    (group.setWtError e).singleThread = group.singleThread := by
  unfold InstanceGroup.setWtError
  split
  next => rfl
  next => rfl

theorem singleThread_wtCall (instance_ : InstanceImpl) (outcome : TableCallOutcome)
    (group : InstanceGroup) :
    (wtCall instance_ outcome group).2.1.singleThread = group.singleThread := by
  unfold wtCall
  split
  next => rfl
  next => rcases outcome with _ | _ | _ | _ | _ | _ <;> simp

theorem singleThread_wtMalloc (instance_ : InstanceImpl) (outcome : CallOutcome)
    (group : InstanceGroup) :
    (wtMalloc instance_ outcome group).2.1.singleThread = group.singleThread := by
  cases outcome <;> simp [wtMalloc]

theorem singleThread_initInner (instance_ : InstanceImpl) (outcome : InitOutcome)
    (group : InstanceGroup) :
    (initInner instance_ outcome group).2.1.singleThread = group.singleThread := by
  unfold initInner
  split
  next => rfl
  next =>
    split
    next => simp
    next => cases outcome <;> simp

theorem singleThread_runThread (instance_ : InstanceImpl) (outcome : ThreadOutcome)
    (group : InstanceGroup) :
    (runThread instance_ outcome group).1.singleThread = group.singleThread := by
  unfold runThread
  split
  next => simp
  next => rcases outcome with _ | _ | _ | _ | _ | _ <;> simp

theorem singleThread_registerHostGeneric (instance_ : InstanceImpl) (fn : HostFunction)
    (outcome : GrowOutcome) (group : InstanceGroup) :
    (registerHostGeneric instance_ fn outcome group).2.2.1.singleThread =
      group.singleThread := by
  unfold registerHostGeneric
  split
  next => rfl
  next =>
    cases outcome with
    | noType => simp
    | error e => simp
    | grown =>
      dsimp only
      split
      next => simp
      next => rfl

/-- `singleThread` is set exactly in a group without a shared memory. -/
def SetIfAlone (group : InstanceGroup) : Prop := group.singleThread = !group.shared

theorem SetIfAlone.shared_eq {group : InstanceGroup} (h : SetIfAlone group) :
    group.shared = !group.singleThread := by
  unfold SetIfAlone at h
  rw [h, Bool.not_not]

/-- Registering functions does not change this. -/
theorem registerHosts_setIfAlone {m : WclapModule} (hm : SetIfAlone m.instanceGroup)
    (instance_ : InstanceImpl) (outcome : HostFunction → GrowOutcome)
    (fns : List HostFunction) :
    SetIfAlone (m.registerHosts instance_ outcome fns).2.1.instanceGroup := by
  induction fns generalizing m instance_ with
  | nil => exact hm
  | cons fn fns ih =>
    have hgroup : SetIfAlone (m.registerHost instance_ fn (outcome fn)).2.1.instanceGroup := by
      rw [WclapModule.registerHost_group]
      unfold SetIfAlone
      rw [singleThread_registerHostGeneric, hm,
        (registerHostGeneric_follows instance_ fn (outcome fn) m.instanceGroup).shared]
    unfold WclapModule.registerHosts
    split
    next heq =>
      rw [heq] at hgroup
      exact hgroup
    next heq =>
      rw [heq] at hgroup
      exact ih hgroup _

theorem registerHosts_plugins (m : WclapModule) (instance_ : InstanceImpl)
    (outcome : HostFunction → GrowOutcome) (fns : List HostFunction) :
    (m.registerHosts instance_ outcome fns).2.1.plugins = m.plugins := by
  induction fns generalizing m instance_ with
  | nil => rfl
  | cons fn fns ih =>
    have hfn : (m.registerHost instance_ fn (outcome fn)).2.1.plugins = m.plugins := by
      unfold WclapModule.registerHost
      dsimp only
      split
      next => rfl
      next => split <;> rfl
    unfold WclapModule.registerHosts
    split
    next heq =>
      rw [heq] at hfn
      exact hfn
    next heq =>
      rw [heq] at hfn
      exact (ih _ _).trans hfn

/-- A group with an instance says so. -/
theorem startInstance_some {group group' : InstanceGroup} {outcome : SetupOutcome}
    {instance_ : InstanceImpl} {effects : List Effect}
    (h : startInstance group outcome = (some instance_, group', effects)) :
    group.singleThread = false ∧ SetIfAlone group' := by
  unfold startInstance at h
  split at h
  next => cases h
  next hsingle =>
    cases h
    exact ⟨Bool.eq_false_iff.mpr hsingle, rfl⟩

theorem startInstance_none {group group' : InstanceGroup} {outcome : SetupOutcome}
    {effects : List Effect} (h : startInstance group outcome = (none, group', effects)) :
    group' = group ∧ group.singleThread = true := by
  unfold startInstance at h
  split at h
  next hsingle =>
    cases h
    exact ⟨rfl, hsingle⟩
  next => cases h

/-! ## Modules -/

/-- Who uses an instance. -/
inductive InstanceUser where
  | mainThread
  | audioThread (plugin : Nat)
  /-- A thread of the guest, by its slot. -/
  | thread (index : Nat)

/-- The instance of a user. A plugin may have the main thread's. -/
def InstanceUser.instanceOf (m : WclapModule) : InstanceUser → Option Nat
  | mainThread => some main
  | audioThread plugin => m.plugins[plugin]?
  | thread index => (m.threads.getD index none).map (·.instance_)

theorem instanceOf_thread {m : WclapModule} {index i : Nat} :
    (InstanceUser.thread index).instanceOf m = some i ↔
      ∃ thread, m.threads[index]? = some (some thread) ∧ thread.instance_ = i := by
  show (m.threads.getD index none).map (·.instance_) = some i ↔ _
  rw [List.getD_eq_getElem?_getD, Option.map_eq_some_iff]
  rcases m.threads[index]? with _ | _ | thread
  · simp
  · simp
  · simp

structure InstancesOwned (m : WclapModule) : Prop where
  setIfAlone : SetIfAlone m.instanceGroup
  inRange : ∀ (user : InstanceUser) (i : Nat), user.instanceOf m = some i →
    i < m.instances.length
  /-- With a shared memory, an instance has one user at most. -/
  apart : m.instanceGroup.shared = true → ∀ (user user' : InstanceUser) (i : Nat),
    user.instanceOf m = some i → user'.instanceOf m = some i → user = user'
  /-- Without one there is one instance, and the guest has no threads. -/
  alone : m.instanceGroup.shared = false →
    m.instances.length = 1 ∧ ∀ index, m.threads.getD index none = none

namespace InstancesOwned

variable {m m' : WclapModule}

/-- There are no more users than before. -/
theorem of_users (h : InstancesOwned m) (hgroup : SetIfAlone m'.instanceGroup)
    (hshared : m'.instanceGroup.shared = m.instanceGroup.shared)
    (hlength : m'.instances.length = m.instances.length)
    (husers : ∀ (user : InstanceUser) i, user.instanceOf m' = some i →
      user.instanceOf m = some i) : InstancesOwned m' where
  setIfAlone := hgroup
  inRange user i hi := hlength ▸ h.inRange user i (husers user i hi)
  apart hs user user' i hi hi' :=
    h.apart (hshared ▸ hs) user user' i (husers user i hi) (husers user' i hi')
  alone hs := by
    obtain ⟨hone, hnone⟩ := h.alone (hshared ▸ hs)
    refine ⟨hlength ▸ hone, fun index => ?_⟩
    cases hthread : m'.threads.getD index none with
    | none => rfl
    | some thread =>
      have huser := husers (.thread index) thread.instance_ (by
        show (m'.threads.getD index none).map (·.instance_) = _
        rw [hthread]
        rfl)
      replace huser : (m.threads.getD index none).map (·.instance_) = some thread.instance_ := huser
      rw [hnone index] at huser
      cases huser

/-- There is one more instance, of a new user. -/
theorem add (h : InstancesOwned m) (hgroup : SetIfAlone m'.instanceGroup)
    (hshared : m'.instanceGroup.shared = true) (hshared' : m.instanceGroup.shared = true)
    (hlength : m'.instances.length = m.instances.length + 1) (new : InstanceUser)
    (hnew : ∀ i, new.instanceOf m' = some i → i = m.instances.length)
    (husers : ∀ (user : InstanceUser) i, user ≠ new → user.instanceOf m' = some i →
      user.instanceOf m = some i) : InstancesOwned m' where
  setIfAlone := hgroup
  inRange user i hi := by
    by_cases huser : user = new
    · subst huser
      have heq := hnew i hi
      omega
    · have hlt := h.inRange user i (husers user i huser hi)
      omega
  apart _ user user' i hi hi' := by
    by_cases huser : user = new
    · by_cases huser' : user' = new
      · rw [huser, huser']
      · -- the instance of another user was there before
        subst huser
        have heq := hnew i hi
        have hlt := h.inRange user' i (husers user' i huser' hi')
        omega
    · by_cases huser' : user' = new
      · subst huser'
        have heq := hnew i hi'
        have hlt := h.inRange user i (husers user i huser hi)
        omega
      · exact h.apart hshared' user user' i (husers user i huser hi) (husers user' i huser' hi')
  alone hs := Bool.noConfusion (hs.symm.trans hshared)

/-- What an instance does leaves the users as they are. -/
theorem withInstance (h : InstancesOwned m) (i : Nat)
    (f : InstanceImpl → InstanceGroup → UInt64 × InstanceGroup × List Effect)
    (hf : ∀ instance_, m.instanceGroup.Follows (f instance_ m.instanceGroup).2.1)
    (hsingle : ∀ instance_,
      (f instance_ m.instanceGroup).2.1.singleThread = m.instanceGroup.singleThread) :
    InstancesOwned (m.withInstance i f).2.1 := by
  unfold WclapModule.withInstance
  split
  next => exact h
  next instance_ _ =>
    apply h.of_users
    · show SetIfAlone (f instance_ m.instanceGroup).2.1
      unfold SetIfAlone
      rw [hsingle, h.setIfAlone, (hf instance_).shared]
    · exact (hf instance_).shared
    · rfl
    · exact fun _ _ huser => huser

/-- A group that gives an instance has a shared memory. -/
theorem shared_of_start (h : InstancesOwned m)
    (hsingle : m.instanceGroup.singleThread = false) : m.instanceGroup.shared = true := by
  rw [h.setIfAlone.shared_eq, hsingle]
  rfl

/-- A new plugin gets an instance of its own, or the main thread's. -/
theorem newPlugin (h : InstancesOwned m) (outcome : SetupOutcome) :
    InstancesOwned (m.newPlugin outcome).1 := by
  have hfollows := (startInstance_follows m.instanceGroup outcome).shared
  unfold WclapModule.newPlugin
  split
  next group effects hstart =>
    -- only a group without a shared memory refuses
    obtain ⟨rfl, hsingle⟩ := startInstance_none hstart
    have hshared : m.instanceGroup.shared = false := by
      rw [h.setIfAlone.shared_eq, hsingle]
      rfl
    refine ⟨h.setIfAlone, fun user i hi => ?_, fun hs => ?_, h.alone⟩
    · cases user with
      | mainThread => exact h.inRange .mainThread i hi
      | thread index => exact h.inRange (.thread index) i hi
      | audioThread plugin =>
        rcases List.getElem?_concat_cases hi with hold | ⟨-, hnew⟩
        · exact h.inRange (.audioThread plugin) i hold
        · rw [← hnew]
          exact h.inRange .mainThread main rfl
    · exact Bool.noConfusion (hshared.symm.trans hs)
  next instance_ group effects hstart =>
    rw [hstart] at hfollows
    obtain ⟨hsingle, hgroup⟩ := startInstance_some hstart
    have hshared := h.shared_of_start hsingle
    apply h.add hgroup (hfollows.trans hshared) hshared List.length_append
      (.audioThread m.plugins.length)
    · intro i hi
      rcases List.getElem?_concat_cases hi with hold | ⟨-, hnew⟩
      · exact absurd (List.getElem?_eq_some_iff.mp hold).1 (Nat.lt_irrefl _)
      · exact hnew.symm
    · intro user i huser hi
      cases user with
      | mainThread => exact hi
      | thread index => exact hi
      | audioThread plugin =>
        rcases List.getElem?_concat_cases hi with hold | ⟨hlast, -⟩
        · exact hold
        · exact absurd (congrArg InstanceUser.audioThread hlast) huser

/-- The slot of a thread that ends is free again. -/
theorem endThread (h : InstancesOwned m) (index : Nat) :
    InstancesOwned { m with threads := m.threads.set index none } := by
  refine of_users h h.setIfAlone rfl rfl (fun user i hi => ?_)
  cases user with
  | mainThread => exact hi
  | audioThread plugin => exact hi
  | thread k =>
    obtain ⟨thread, hthread, rfl⟩ := instanceOf_thread.mp hi
    refine instanceOf_thread.mpr ⟨thread, ?_, rfl⟩
    rw [List.getElem?_set] at hthread
    split at hthread
    next =>
      split at hthread
      next => cases hthread
      next => cases hthread
    next => exact hthread

/-- A thread that begins has its instance already. -/
theorem beginThread (h : InstancesOwned m) (index : Nat) :
    InstancesOwned
      { m with threads := m.threads.modify index (Option.map ({ · with started := true })) } := by
  refine of_users h h.setIfAlone rfl rfl (fun user i hi => ?_)
  cases user with
  | mainThread => exact hi
  | audioThread plugin => exact hi
  | thread k =>
    obtain ⟨thread, hthread, rfl⟩ := instanceOf_thread.mp hi
    rw [List.getElem?_modify, Option.map_eq_map, Option.map_eq_some_iff] at hthread
    obtain ⟨old, hold, heq⟩ := hthread
    split at heq
    next =>
      obtain ⟨thread', rfl, rfl⟩ := Option.map_eq_some_iff.mp heq
      exact instanceOf_thread.mpr ⟨thread', hold, rfl⟩
    next =>
      subst heq
      exact instanceOf_thread.mpr ⟨thread, hold, rfl⟩

/-- Registering functions leaves the users as they are. -/
theorem registerHosts (h : InstancesOwned m) (instance_ : InstanceImpl)
    (outcome : HostFunction → GrowOutcome) (fns : List HostFunction) :
    InstancesOwned (m.registerHosts instance_ outcome fns).2.1 := by
  apply h.of_users (registerHosts_setIfAlone h.setIfAlone instance_ outcome fns)
    (m.registerHosts_follows instance_ outcome fns).instanceGroup.shared
    (congrArg List.length (m.registerHosts_instances instance_ outcome fns))
  intro user i hi
  cases user with
  | mainThread => exact hi
  | audioThread plugin =>
    unfold InstanceUser.instanceOf at hi ⊢
    rwa [registerHosts_plugins] at hi
  | thread index =>
    unfold InstanceUser.instanceOf at hi ⊢
    rwa [(m.registerHosts_keepsThreads instance_ outcome fns).threads] at hi

/-- A new thread gets an instance of its own, and a slot that is free. -/
theorem addThread (h : InstancesOwned m) (hshared : m.instanceGroup.shared = true)
    (instance_ : InstanceImpl) :
    InstancesOwned
      { m with
        instances := m.instances ++ [instance_]
        threads := SlotTable.put m.threads ⟨m.instances.length, false⟩ } := by
  refine h.add h.setIfAlone hshared hshared List.length_append
    (.thread (SlotTable.firstFree m.threads)) ?_ ?_
  · intro i hi
    obtain ⟨thread, hthread, rfl⟩ := instanceOf_thread.mp hi
    rw [SlotTable.put, List.getElem?_set_self', Option.map_eq_map, Option.map_eq_some_iff]
      at hthread
    obtain ⟨old, -, heq⟩ := hthread
    cases heq
    rfl
  · intro user i huser hi
    cases user with
    | mainThread => exact hi
    | audioThread plugin => exact hi
    | thread index =>
      obtain ⟨thread, hthread, rfl⟩ := instanceOf_thread.mp hi
      have hne : index ≠ SlotTable.firstFree m.threads := fun heq => huser (by rw [heq])
      exact instanceOf_thread.mpr
        ⟨thread, (SlotTable.getElem?_put_of_ne hne _ _).mp hthread, rfl⟩

/-- A spawned thread. -/
theorem spawnThread (h : InstancesOwned m) (outcome : SetupOutcome)
    (grow : HostFunction → GrowOutcome) : InstancesOwned (m.spawnThread outcome grow).2.1 := by
  have hfollows := (startInstance_follows m.instanceGroup outcome).shared
  unfold WclapModule.spawnThread
  split
  next => exact h
  next =>
    split
    next => exact h
    next =>
      split
      next group effects hstart =>
        obtain ⟨rfl, -⟩ := startInstance_none hstart
        exact h.of_users h.setIfAlone rfl rfl fun _ _ hi => hi
      next instance_ group effects hstart =>
        rw [hstart] at hfollows
        obtain ⟨hsingle, hgroup⟩ := startInstance_some hstart
        have hshared := h.shared_of_start hsingle
        have hstarted : InstancesOwned { m with instanceGroup := group } :=
          h.of_users hgroup hfollows rfl fun _ _ hi => hi
        have hadd := hstarted.registerHosts instance_ grow hostFunctions
        have hkept := (WclapModule.registerHosts_follows { m with instanceGroup := group }
          instance_ grow hostFunctions).instanceGroup.shared.trans (hfollows.trans hshared)
        rw [← WclapModule.addHostFunctions] at hadd hkept
        split
        next m' _ heq =>
          rw [heq] at hadd
          exact hadd.of_users hadd.setIfAlone rfl rfl fun _ _ hi => hi
        next m' instance' heq =>
          rw [heq] at hadd hkept
          exact hadd.addThread hkept instance'

/-- What a request keeps. -/
theorem perform (h : InstancesOwned m) (env : Environment) (r : Request) :
    InstancesOwned (m.perform env r).2.1 := by
  cases r with
  | memory i => exact h.withInstance i _ (fun _ => .refl _) fun _ => rfl
  | reserve =>
    simp only [WclapModule.perform]
    split
    next => exact h
    next =>
      exact h.withInstance main _ (fun instance_ => wtMalloc_follows instance_ env.malloc _)
        fun instance_ => singleThread_wtMalloc instance_ env.malloc _
  | call i =>
    exact h.withInstance i _ (fun instance_ => wtCall_follows instance_ env.call _)
      fun instance_ => singleThread_wtCall instance_ env.call _
  | init =>
    exact h.withInstance main _ (fun instance_ => initInner_follows instance_ env.init _)
      fun instance_ => singleThread_initInner instance_ env.init _
  | newPlugin => exact h.newPlugin env.setup
  | setPluginFactory ptr => exact h.of_users h.setIfAlone rfl rfl fun _ _ hi => hi
  | setError error => exact h.of_users h.setIfAlone rfl rfl fun _ _ hi => hi
  | clearError => exact h.of_users h.setIfAlone rfl rfl fun _ _ hi => hi
  | runThread index =>
    simp only [WclapModule.perform]
    split
    next thread hthread =>
      have hrun := h.withInstance thread.instance_
        (fun instance_ group => (0, runThread instance_ env.thread group))
        (fun instance_ => runThread_follows instance_ env.thread _)
        fun instance_ => singleThread_runThread instance_ env.thread _
      exact hrun.endThread index
    next => exact h

theorem getError (h : InstancesOwned m) : InstancesOwned m.getError.2 := by
  unfold WclapModule.getError
  split
  next => exact h
  next =>
    split
    next => exact h
    next => exact h.of_users h.setIfAlone rfl rfl fun _ _ hi => hi

/-- When guest code can first reach the module, the main thread is the only user. -/
theorem construct (is64 shared : Bool) (outcome : SetupOutcome)
    (grow : HostFunction → GrowOutcome) :
    InstancesOwned (WclapModule.construct is64 shared outcome grow).2 := by
  obtain ⟨mainThread, effects, hstart, hinstances, -⟩ :=
    WclapModule.base_spec is64 shared outcome
  have hempty : (WclapModule.base is64 shared outcome).threads = [none] ∧
      (WclapModule.base is64 shared outcome).plugins = [] := by
    unfold WclapModule.base
    dsimp only
    split
    next => exact ⟨rfl, rfl⟩
    next => exact ⟨rfl, rfl⟩
  have hnone : ∀ index, (WclapModule.base is64 shared outcome).threads.getD index none = none := by
    intro index
    rw [hempty.1]
    cases index with
    | zero => rfl
    | succ index => rfl
  have honly : ∀ (user : InstanceUser) i,
      user.instanceOf (WclapModule.base is64 shared outcome) = some i →
        user = .mainThread ∧ i = main := by
    intro user i hi
    cases user with
    | mainThread => exact ⟨rfl, (Option.some.inj hi).symm⟩
    | audioThread plugin =>
      unfold InstanceUser.instanceOf at hi
      rw [hempty.2] at hi
      cases hi
    | thread index =>
      obtain ⟨thread, hthread, -⟩ := instanceOf_thread.mp hi
      have hindex := hnone index
      rw [List.getD_eq_getElem?_getD, hthread] at hindex
      cases hindex
  have hlength : (WclapModule.base is64 shared outcome).instances.length = 1 := by
    rw [hinstances]
    rfl
  have hbase : InstancesOwned (WclapModule.base is64 shared outcome) := by
    refine ⟨(startInstance_some hstart).2, fun user i hi => ?_, fun _ user user' i hi hi' => ?_,
      fun _ => ⟨hlength, hnone⟩⟩
    · rw [(honly user i hi).2, hlength]
      exact Nat.one_pos
    · exact (honly user i hi).1.trans (honly user' i hi').1.symm
  have hadd := hbase.registerHosts mainThread grow hostFunctions
  unfold WclapModule.construct
  dsimp only
  rw [hinstances]
  split
  next => exact hbase
  next =>
    refine of_users hadd hadd.setIfAlone rfl ?_ fun _ _ hi => hi
    rw [WclapModule.registerHosts_instances, hlength]
    rfl

end InstancesOwned

theorem instancesOwned_step {s t : OpenWclap} {a : Action} (h : InstancesOwned s.wclap)
    (ht : s.step a = some t) : InstancesOwned t.wclap := by
  have hmodify (i : Nat) (f : InstanceImpl → InstanceImpl) :
      InstancesOwned { s.wclap with instances := s.wclap.instances.modify i f } :=
    h.of_users h.setIfAlone rfl (List.length_modify _ _ _) fun _ _ hi => hi
  cases OpenWclap.step_cases ht with
  | getError => exact h.getError
  | start op =>
    cases op with
    | runThread index => exact h.beginThread index
    | _ => exact h
  | @answer i _ _ r _ env _ => exact h.perform env r
  | spawnThread env => exact h.spawnThread env.setup env.grow
  | growTable i entries => exact hmodify i _
  | setEntry i index entry => exact hmodify i _

end WclapBridge.Spec
