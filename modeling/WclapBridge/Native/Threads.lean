import WclapBridge.ForStd.List
import WclapBridge.Native.Operations

/-!
# Threads of the guest

A guest starts a thread with the import `wasi::thread-spawn`, on any of its
threads. The module has a record for each of them in `threads`, and its
destructor waits until all records are gone.

A step of a run is one read or write of `InstanceGroup::wasiThreadSpawn` or
`wasiThreadSpawnContext`, which no lock guards, one section under `threadMutex`,
or one step of a thread between these.
-/

namespace WclapBridge.Native

/-! ## Arguments -/

/-- A Wasm integer of the module's pointer width. -/
inductive WasmValue where
  | i32 (value : Int32)
  | i64 (value : Int64)
  deriving DecidableEq

namespace WasmValue

def is64 : WasmValue → Bool
  | .i32 _ => false
  | .i64 _ => true

/-- `threadArg` in `wtWasiThreadSpawn`. -/
def toThreadArg : WasmValue → UInt64
  | .i32 value => value.toUInt32.toUInt64
  | .i64 value => value.toUInt64

/-- The second argument of `wasi_thread_start`. -/
def ofThreadArg (is64 : Bool) (threadArg : UInt64) : WasmValue :=
  if is64 then .i64 threadArg.toInt64 else .i32 threadArg.toUInt32.toInt32

/-- A thread gets what it was spawned with. -/
theorem ofThreadArg_toThreadArg (value : WasmValue) :
    ofThreadArg value.is64 value.toThreadArg = value := by
  cases value with
  | i32 value => simp [ofThreadArg, toThreadArg, is64]
  | i64 value => simp [ofThreadArg, toThreadArg, is64]

end WasmValue

/-! ## The sections of a module -/

namespace WclapModule

/-- `wasiThreadSpawn` from `threadLock()` on: the index of the new thread. -/
def spawnLocked (m : WclapModule) (outcome : SetupOutcome) (grow : HostFunction → GrowOutcome) :
    Option Nat × WclapModule :=
  match startInstance m.instanceGroup outcome with
  | (none, group, _) =>
    (none, { m with instanceGroup := group }.setError
      "failed to start instance for new WCLAP thread")
  | (some instance_, group, _) =>
    match { m with instanceGroup := group }.addHostFunctions instance_ grow with
    | (false, m, _) =>
      (none, m.setError "failed to register host functions for new WCLAP thread")
    | (true, m, instance_) =>
      let index := threadIndex m.threads
      -- Use empty thread or start new one
      let threads := if index = m.threads.length then m.threads ++ [none] else m.threads
      (some index,
        { m with
          instances := m.instances ++ [instance_]
          threads := threads.set index (some ⟨m.instances.length, false⟩) })

/-- What leaves the threads alone. -/
structure KeepsThreads (m m' : WclapModule) : Prop where
  threads : m'.threads = m.threads
  is64 : m'.is64 = m.is64
  wasiThreadSpawn : m'.wasiThreadSpawn = m.wasiThreadSpawn
  instances : m.instances <+: m'.instances

namespace KeepsThreads

theorem refl (m : WclapModule) : m.KeepsThreads m :=
  ⟨rfl, rfl, rfl, List.prefix_rfl⟩

theorem trans {m₁ m₂ m₃ : WclapModule} (h₁ : m₁.KeepsThreads m₂) (h₂ : m₂.KeepsThreads m₃) :
    m₁.KeepsThreads m₃ :=
  ⟨h₂.threads.trans h₁.threads, h₂.is64.trans h₁.is64,
    h₂.wasiThreadSpawn.trans h₁.wasiThreadSpawn, h₁.instances.trans h₂.instances⟩

theorem setError {m m' : WclapModule} (h : m.KeepsThreads m') (error : String) :
    m.KeepsThreads (m'.setError error) :=
  ⟨h.threads, h.is64, h.wasiThreadSpawn, h.instances⟩

theorem setGroup {m m' : WclapModule} (h : m.KeepsThreads m') (group : InstanceGroup) :
    m.KeepsThreads { m' with instanceGroup := group } :=
  ⟨h.threads, h.is64, h.wasiThreadSpawn, h.instances⟩

end KeepsThreads

theorem registerHost_keepsThreads (m : WclapModule) (instance_ : InstanceImpl)
    (fn : HostFunction) (outcome : GrowOutcome) :
    m.KeepsThreads (m.registerHost instance_ fn outcome).2.1 := by
  unfold registerHost
  dsimp only
  split
  next => exact ⟨rfl, rfl, rfl, List.prefix_rfl⟩
  next => split <;> exact ⟨rfl, rfl, rfl, List.prefix_rfl⟩

theorem registerHosts_keepsThreads (m : WclapModule) (instance_ : InstanceImpl)
    (outcome : HostFunction → GrowOutcome) (fns : List HostFunction) :
    m.KeepsThreads (m.registerHosts instance_ outcome fns).2.1 := by
  induction fns generalizing m instance_ with
  | nil => exact .refl m
  | cons fn fns ih =>
    have hfn := m.registerHost_keepsThreads instance_ fn (outcome fn)
    unfold registerHosts
    split
    next heq =>
      rw [heq] at hfn
      exact hfn
    next heq =>
      rw [heq] at hfn
      exact hfn.trans (ih _ _)

theorem withInstance_keepsThreads (m : WclapModule) (i : Nat)
    (f : InstanceImpl → InstanceGroup → UInt64 × InstanceGroup × List Effect) :
    m.KeepsThreads (m.withInstance i f).2.1 := by
  unfold withInstance
  split
  next => exact .refl m
  next => exact (KeepsThreads.refl m).setGroup _

/-- The module has no threads when the guest can first reach it. -/
theorem construct_threads (is64 shared : Bool) (outcome : SetupOutcome)
    (grow : HostFunction → GrowOutcome) :
    (construct is64 shared outcome grow).2.threads = [none] := by
  have hbase : (base is64 shared outcome).threads = [none] := by
    unfold base
    dsimp only
    split <;> rfl
  obtain ⟨mainThread, _, -, hinstances, -⟩ := base_spec is64 shared outcome
  have hadd := (base is64 shared outcome).registerHosts_keepsThreads mainThread grow hostFunctions
  unfold construct
  dsimp only
  rw [hinstances]
  split
  next => exact hbase
  next => exact hadd.threads.trans hbase

/-- `wasiThreadSpawn` is set if the constructor goes on. -/
theorem construct_wasiThreadSpawn (is64 shared : Bool) (outcome : SetupOutcome)
    (grow : HostFunction → GrowOutcome) :
    (construct is64 shared outcome grow).2.wasiThreadSpawn =
      (construct is64 shared outcome grow).1 := by
  have hbase : (base is64 shared outcome).wasiThreadSpawn = false := by
    unfold base
    dsimp only
    split <;> rfl
  obtain ⟨mainThread, _, -, hinstances, -⟩ := base_spec is64 shared outcome
  unfold construct
  dsimp only
  rw [hinstances]
  split
  next => exact hbase
  next => rfl

/-- One request alone is about a thread. -/
theorem perform_keepsThreads (m : WclapModule) (env : Environment) {r : Request}
    (hr : ∀ index, r ≠ .runThread index) : m.KeepsThreads (m.perform env r).2.1 := by
  cases r with
  | memory i | call i => exact m.withInstance_keepsThreads i _
  | reserve =>
    simp only [perform]
    split
    next => exact .refl m
    next => exact m.withInstance_keepsThreads main _
  | init =>
    exact m.withInstance_keepsThreads main fun instance_ group =>
      initInner instance_ env.init group
  | newPlugin =>
    simp only [perform, newPlugin]
    split
    next => exact ⟨rfl, rfl, rfl, List.prefix_rfl⟩
    next => exact ⟨rfl, rfl, rfl, List.prefix_append _ _⟩
  | setPluginFactory ptr => exact ⟨rfl, rfl, rfl, List.prefix_rfl⟩
  | setError error => exact (KeepsThreads.refl m).setError error
  | clearError => exact ⟨rfl, rfl, rfl, List.prefix_rfl⟩
  | runThread index => exact absurd rfl (hr index)

/-- A spawn that fails. -/
theorem spawnLocked_none {m m' : WclapModule} {outcome : SetupOutcome}
    {grow : HostFunction → GrowOutcome} (h : m.spawnLocked outcome grow = (none, m')) :
    m.KeepsThreads m' := by
  unfold spawnLocked at h
  split at h
  next group _ _ =>
    cases h
    exact ((KeepsThreads.refl m).setGroup group).setError _
  next instance_ group _ _ =>
    have hadd := registerHosts_keepsThreads { m with instanceGroup := group } instance_ grow
      hostFunctions
    split at h
    next heq =>
      cases h
      rw [addHostFunctions] at heq
      rw [heq] at hadd
      exact (((KeepsThreads.refl m).setGroup group).trans hadd).setError _
    next => cases h

/-- A spawn that does not fail puts a new instance in a free slot. -/
theorem spawnLocked_some {m m' : WclapModule} {outcome : SetupOutcome}
    {grow : HostFunction → GrowOutcome} {slot : Nat}
    (h : m.spawnLocked outcome grow = (some slot, m')) :
    slot = threadIndex m.threads ∧
      m'.threads = (if slot = m.threads.length then m.threads ++ [none] else m.threads).set slot
        (some ⟨m.instances.length, false⟩) ∧
      m'.instances.length = m.instances.length + 1 ∧ m'.is64 = m.is64 ∧
      m'.wasiThreadSpawn = m.wasiThreadSpawn := by
  unfold spawnLocked at h
  split at h
  next => cases h
  next instance_ group _ _ =>
    have hadd := registerHosts_keepsThreads { m with instanceGroup := group } instance_ grow
      hostFunctions
    have hinstances := registerHosts_instances { m with instanceGroup := group } instance_ grow
      hostFunctions
    rw [← addHostFunctions] at hadd hinstances
    split at h
    next => cases h
    next heq =>
      rw [heq] at hadd hinstances
      cases h
      dsimp only at hinstances
      refine ⟨by rw [hadd.threads], by rw [hadd.threads, hinstances], ?_, hadd.is64,
        hadd.wasiThreadSpawn⟩
      rw [hinstances, List.length_append, List.length_singleton]

/-- `spawnThread` is this section, behind its two tests. -/
theorem spawnThread_eq_spawnLocked {m : WclapModule} (hspawn : m.wasiThreadSpawn = true)
    (herror : m.hasError = false) (outcome : SetupOutcome) (grow : HostFunction → GrowOutcome) :
    (m.spawnThread outcome grow).1 = (m.spawnLocked outcome grow).1.elim (-1) Nat.cast ∧
      (m.spawnThread outcome grow).2.1 = (m.spawnLocked outcome grow).2 := by
  unfold spawnThread spawnLocked
  rw [if_neg (by simp [hspawn]), if_neg (by simp [herror])]
  obtain ⟨instance_, group, effects⟩ := startInstance m.instanceGroup outcome
  cases instance_ with
  | none => exact ⟨rfl, rfl⟩
  | some instance_ =>
    dsimp only
    generalize { m with instanceGroup := group }.addHostFunctions instance_ grow = added
    obtain ⟨_ | _, _, _⟩ := added
    · exact ⟨rfl, rfl⟩
    · exact ⟨rfl, rfl⟩

end WclapModule

/-- The rest of `initInner`, when `_initialize()` is over. -/
def finishInit (outcome : InitOutcome) (group : InstanceGroup) : InstanceGroup :=
  let failed (group : InstanceGroup) := group.setError "`.wasiInit()` returned false"
  match outcome with
  | .notFunction => failed (group.setError "_initialize isn't a function")
  | .signature => failed (group.setError "_initialize() function signature mismatch")
  | .error e => failed ((group.setWtError e).setError "error calling _initialize()")
  | .timeout => failed (group.setError "_initialize() timeout")
  | .trap => failed (group.setError "_initialize() threw (trapped)")
  | .entryMissing _ => failed (group.setError "clap_entry not exported")
  | .entryType _ => failed (group.setError "clap_entry is not a (correctly-sized) pointer")
  | .entryKind _ => failed (group.setError "clap_entry isn't a Global")
  | .entry _ _ => { group with hadInit := true }

/-- An `init()` which nothing comes between. -/
theorem initInner_eq_finishInit {group : InstanceGroup} (herror : group.hasError = false)
    (hinit : group.hadInit = false) (instance_ : InstanceImpl) (outcome : InitOutcome) :
    (initInner instance_ outcome group).2.1 = finishInit outcome group := by
  unfold initInner finishInit
  rw [if_neg (by simp [herror]), if_neg (by simp [hinit])]
  cases outcome <;> rfl

theorem finishInit_follows (outcome : InitOutcome) (group : InstanceGroup) :
    group.Follows (finishInit outcome group) := by
  have hself := InstanceGroup.Follows.refl group
  cases outcome with
  | error e => exact ((hself.setWtError e).setError _).setError _
  | entry called wclapEntryAs64 => exact ⟨rfl, id⟩
  | _ => exact (hself.setError _).setError _

/-- The rest of `InstanceImpl::runThread`, when `wasi_thread_start()` is over. -/
def finishThread (outcome : CallOutcome) (group : InstanceGroup) : InstanceGroup :=
  match outcome with
  | .error e => (group.setWtError e).setError "error calling wasi_thread_start()"
  | .timeout => group.setError "wasi_thread_start() terminated early"
  | .trap => group.setError "wasi_thread_start() threw (trapped)"
  | .returned _ => group

theorem finishThread_follows (outcome : CallOutcome) (group : InstanceGroup) :
    group.Follows (finishThread outcome group) := by
  have hself := InstanceGroup.Follows.refl group
  cases outcome with
  | error e => exact (hself.setWtError e).setError _
  | timeout => exact hself.setError _
  | trap => exact hself.setError _
  | returned value => exact hself

theorem runThread_eq_finishThread {group : InstanceGroup} (hinit : group.hadInit = true)
    (instance_ : InstanceImpl) (outcome : CallOutcome) :
    (runThread instance_ (.called outcome) group).1 = finishThread outcome group := by
  unfold runThread finishThread
  rw [if_neg (by simp [hinit])]
  cases outcome <;> rfl

/-! ## Threads -/

/-- An export called `wasi_thread_start`. -/
inductive ThreadStart where
  | missing
  | notFunction
  | function

/-- What the threads of a guest depend on outside of the bridge. -/
structure ThreadHost where
  /-- What `wasi_thread_start` is among the guest's exports. -/
  threadStart : ThreadStart
  /-- How many threads there can be at once: their numbers are positive and have
      32 bits. -/
  threadLimit : Nat
  threadLimit_lt : threadLimit < 2 ^ 31

/-- Where a thread is in `runThread`. -/
inductive ThreadPhase where
  | created
  /-- It has looked up its record, which is that of a spawned thread. -/
  | starting (thread : Option Nat)
  /-- `hadInit` was not set. -/
  | refused
  /-- `wasi_thread_start` has been called. -/
  | running
  /-- `InstanceImpl::runThread` is over. -/
  | returned
  | ended
  deriving DecidableEq

/-- The record of a thread, and what the guest knows of it. The module's pointer
    to a record is a `Thread` with the same instance, which no other record has. -/
structure ThreadRecord where
  /-- The slot, which `runThread` is given. -/
  slot : Nat
  index : UInt32
  threadArg : UInt64
  instance_ : Nat
  /-- What the guest gave to `wasi::thread-spawn`, and what it was returned. -/
  given : WasmValue
  id : Int32

/-- A spawned thread. -/
structure SpawnedThread extends ThreadRecord where
  stopRequested : Bool
  /-- Whether there was an error, or a request to stop, when it began to run. -/
  late : Bool
  phase : ThreadPhase

namespace SpawnedThread

def live (thread : SpawnedThread) : Bool :=
  thread.phase ≠ .ended

end SpawnedThread

/-- A thread that can call `wasi::thread-spawn`. -/
inductive Caller where
  | host (n : Nat)
  | thread (k : Nat)
  deriving DecidableEq

/-- How far `wtWasiThreadSpawn` has got. -/
inductive SpawnStage where
  /-- `wasiThreadSpawn` was not null. -/
  | tested
  /-- It has been read again, to be called. -/
  | readFunction (wasiThreadSpawn : Bool)
  | readContext (wasiThreadSpawn wasiThreadSpawnContext : Bool)
  /-- `WclapModule::wasiThreadSpawn` has looked at `hasError`. -/
  | entered
  deriving DecidableEq

/-- A call of `wasi_thread_start`. -/
structure StartCall where
  instance_ : Nat
  id : Int32
  arg : WasmValue
  deriving DecidableEq

/-- The constructor's `mainThread->init()`. -/
inductive InitPhase where
  | before
  /-- `_initialize()` runs, and the group is locked. -/
  | running
  | over
  deriving DecidableEq

/-- How far the module's destructors have got. -/
inductive DestructorPhase where
  | open_
  /-- `wasiThreadSpawn` is null, and `threadMutex` is locked. -/
  | clearing
  /-- In the loop of `WclapModuleBase`. -/
  | waiting
  | closed
  deriving DecidableEq

/-- A module with its threads. -/
structure ThreadedWclap where
  wclap : WclapModule
  /-- Whether `instanceGroup->wasiThreadSpawnContext` is set. -/
  wasiThreadSpawnContext : Bool
  init : InitPhase
  destructor : DestructorPhase
  /-- In the order of their creation. -/
  spawned : List SpawnedThread
  calls : Caller → Option (WasmValue × SpawnStage)
  /-- What calls of `wasi::thread-spawn` have returned. -/
  answers : List (Caller × Int32)
  /-- The calls of `wasi_thread_start`. -/
  starts : List StartCall

/-- What the threads of a host and a guest can do. -/
inductive ThreadAction where
  /-- Something else that the module does. -/
  | perform (env : Environment) (r : Request)
  | beginInit
  | endInit (outcome : InitOutcome)
  /-- A guest calls `wasi::thread-spawn`, which looks at `wasiThreadSpawn`. -/
  | test (c : Caller) (value : WasmValue)
  | readFunction (c : Caller)
  | readContext (c : Caller)
  | enter (c : Caller)
  | spawn (c : Caller) (setup : SetupOutcome) (grow : HostFunction → GrowOutcome)
  /-- A new thread looks up its record. -/
  | startUp (k : Nat)
  /-- `InstanceImpl::runThread` up to the call of `wasi_thread_start`. -/
  | runThread (k : Nat)
  | refuse (k : Nat)
  | return_ (k : Nat) (outcome : CallOutcome)
  /-- A thread takes itself out of `threads`. -/
  | finish (k : Nat)
  | clearFunction
  | clearContext
  /-- `checkThreadsStopped`. -/
  | poll

namespace ThreadedWclap

/-- `wclap_open` up to `mainThread->init()`. -/
def begin (is64 shared : Bool) (setup : SetupOutcome) (grow : HostFunction → GrowOutcome) :
    ThreadedWclap :=
  let (goesOn, wclap) := WclapModule.construct is64 shared setup grow
  { wclap
    wasiThreadSpawnContext := goesOn
    init := if goesOn then .before else .over
    destructor := .open_
    spawned := []
    calls := fun _ => none
    answers := []
    starts := [] }

def phase (s : ThreadedWclap) (k : Nat) : Option ThreadPhase :=
  s.spawned[k]?.map (·.phase)

/-- Guest code of the caller can call an import. -/
def canCall (s : ThreadedWclap) : Caller → Bool
  | .host _ => true
  | .thread k => s.phase k = some .running

/-- `threadMutex` is free: the other sections under it are single steps. -/
def unlocked (s : ThreadedWclap) : Bool :=
  s.destructor ≠ .clearing

def setCall (s : ThreadedWclap) (c : Caller) (call : Option (WasmValue × SpawnStage)) :
    ThreadedWclap :=
  { s with calls := fun c' => if c' = c then call else s.calls c' }

/-- The import returns. -/
def answer (s : ThreadedWclap) (c : Caller) (id : Int32) : ThreadedWclap :=
  { s.setCall c none with answers := s.answers ++ [(c, id)] }

def setPhase (s : ThreadedWclap) (k : Nat) (phase : ThreadPhase) : ThreadedWclap :=
  { s with spawned := s.spawned.modify k ({ · with phase }) }

def setGroup (s : ThreadedWclap) (group : InstanceGroup) : ThreadedWclap :=
  { s with wclap.instanceGroup := group }

/-- The thread whose record is in a slot. -/
def holder (s : ThreadedWclap) (slot : Nat) : Option Nat :=
  s.wclap.threads[slot]?.join.bind fun pointer =>
    s.spawned.findIdx? fun thread => thread.instance_ = pointer.instance_

/-- How many threads there are. -/
def live (s : ThreadedWclap) : Nat :=
  s.spawned.countP SpawnedThread.live

/-- `checkThreadsStopped`: every thread in `threads` is asked to stop. -/
def checkThreadsStopped (s : ThreadedWclap) : Bool × ThreadedWclap :=
  (s.wclap.threads.all Option.isNone,
    { s with spawned := s.spawned.map fun thread =>
      { thread with stopRequested := thread.stopRequested || thread.live } })

/-- A new thread, which `wasiThreadSpawn` starts for an argument. -/
def newThread (s : ThreadedWclap) (slot : Nat) (value : WasmValue) : SpawnedThread where
  slot
  index := UInt32.ofNat slot
  threadArg := value.toThreadArg
  instance_ := s.wclap.instances.length
  given := value
  id := Int32.ofNat slot
  stopRequested := false
  late := false
  phase := .created

/-- A step of a run; a call through a null pointer is not possible. -/
def step (host : ThreadHost) (s : ThreadedWclap) : ThreadAction → Option ThreadedWclap
  | .perform env r =>
    match r with
    | .init | .runThread _ => none -- these have steps of their own
    | r => some { s with wclap := (s.wclap.perform env r).2.1 }
  | .beginInit =>
    if s.init = .before then
      if s.wclap.instanceGroup.hasError then some { s with init := .over }
      else some { s with init := .running }
    else none
  | .endInit outcome =>
    if s.init = .running then
      some { s.setGroup (finishInit outcome s.wclap.instanceGroup) with init := .over }
    else none
  | .test c value =>
    if s.canCall c ∧ s.calls c = none ∧ value.is64 = s.wclap.is64 then
      if s.wclap.wasiThreadSpawn then some (s.setCall c (some (value, .tested)))
      else some (s.answer c (-1)) -- failure
    else none
  | .readFunction c =>
    match s.calls c with
    | some (value, .tested) =>
      some (s.setCall c (some (value, .readFunction s.wclap.wasiThreadSpawn)))
    | _ => none
  | .readContext c =>
    match s.calls c with
    | some (value, .readFunction wasiThreadSpawn) =>
      some (s.setCall c (some (value, .readContext wasiThreadSpawn s.wasiThreadSpawnContext)))
    | _ => none
  | .enter c =>
    match s.calls c with
    | some (value, .readContext true true) =>
      if s.wclap.hasError then some (s.answer c (-1))
      else some (s.setCall c (some (value, .entered)))
    | _ => none
  | .spawn c setup grow =>
    match s.calls c with
    | some (value, .entered) =>
      if s.unlocked then
        match s.wclap.spawnLocked setup grow with
        | (none, wclap) => some ({ s with wclap }.answer c (-1))
        | (some slot, wclap) =>
          if s.live < host.threadLimit then
            some ({ s with wclap, spawned := s.spawned ++ [s.newThread slot value] }.answer c
              (Int32.ofNat slot))
          else none -- `std::thread` throws
      else none
    | _ => none
  | .startUp k =>
    match s.spawned[k]? with
    | some thread =>
      if thread.phase = .created ∧ s.unlocked then
        some
          { s with
            wclap := OpenWclap.started s.wclap (.runThread thread.slot)
            spawned := s.spawned.set k
              { thread with
                late := s.wclap.instanceGroup.hasError || thread.stopRequested
                phase := .starting (s.holder thread.slot) } }
      else none
    | none => none
  | .runThread k =>
    match s.phase k with
    | some (.starting (some j)) =>
      match s.spawned[j]? with
      | some thread =>
        let group := s.wclap.instanceGroup
        if group.hadInit = false then some (s.setPhase k .refused)
        else
          match host.threadStart with
          | .missing =>
            some ((s.setGroup (group.setError "wasi_thread_start not found")).setPhase k .returned)
          | .notFunction =>
            some ((s.setGroup (group.setError "wasi_thread_start isn't a function")).setPhase k
              .returned)
          | .function =>
            some
              { s.setPhase k .running with
                starts := s.starts ++ [⟨thread.instance_, thread.index.toInt32,
                  .ofThreadArg s.wclap.is64 thread.threadArg⟩] }
      | none => none
    | _ => none
  | .refuse k =>
    -- `setError` waits for the lock of the group
    if s.phase k = some .refused ∧ s.init ≠ .running then
      some ((s.setGroup (s.wclap.instanceGroup.setError
        "Instance Group not initialised before .runThread()")).setPhase k .returned)
    else none
  | .return_ k outcome =>
    if s.phase k = some .running ∧ s.calls (.thread k) = none then
      some ((s.setGroup (finishThread outcome s.wclap.instanceGroup)).setPhase k .returned)
    else none
  | .finish k =>
    match s.spawned[k]? with
    | some thread =>
      if thread.phase = .returned ∧ s.unlocked then
        some { s.setPhase k .ended with
          wclap.threads := s.wclap.threads.set thread.slot none }
      else none
    | none => none
  | .clearFunction =>
    if s.destructor = .open_ ∧ s.init = .over then
      some { s with wclap.wasiThreadSpawn := false, destructor := .clearing }
    else none
  | .clearContext =>
    if s.destructor = .clearing then
      some { s with wasiThreadSpawnContext := false, destructor := .waiting }
    else none
  | .poll =>
    if s.destructor = .waiting then
      let (allStopped, s) := s.checkThreadsStopped
      if allStopped then some { s with destructor := .closed } else some s
    else none

/-! ## Threads and phases -/

/-- The records of all spawned threads. -/
def records (s : ThreadedWclap) : List ThreadRecord :=
  s.spawned.map SpawnedThread.toThreadRecord

theorem calls_setCall (s : ThreadedWclap) (c c' : Caller)
    (call : Option (WasmValue × SpawnStage)) :
    (s.setCall c call).calls c' = if c' = c then call else s.calls c' := rfl

theorem calls_answer (s : ThreadedWclap) (c c' : Caller) (id : Int32) :
    (s.answer c id).calls c' = if c' = c then none else s.calls c' := rfl

@[simp] theorem records_setPhase (s : ThreadedWclap) (k : Nat) (phase : ThreadPhase) :
    (s.setPhase k phase).records = s.records :=
  List.map_modify_of_eq fun _ _ => rfl

theorem phase_setPhase (s : ThreadedWclap) (k j : Nat) (phase : ThreadPhase) :
    (s.setPhase k phase).phase j =
      if k = j then (s.phase k).map fun _ => phase else s.phase j := by
  unfold ThreadedWclap.phase setPhase
  rw [List.getElem?_modify]
  split
  next hkj => simp [hkj, Function.comp_def]
  next => simp

/-- Only one thread is in another phase. -/
theorem setPhase_cases {s : ThreadedWclap} {k j : Nat} {phase : ThreadPhase}
    {thread' : SpawnedThread} (h : (s.setPhase k phase).spawned[j]? = some thread') :
    (j ≠ k ∧ s.spawned[j]? = some thread') ∨
      (j = k ∧ ∃ thread, s.spawned[k]? = some thread ∧ thread' = { thread with phase }) := by
  unfold setPhase at h
  rw [List.getElem?_modify] at h
  obtain ⟨thread, hthread, rfl⟩ := Option.map_eq_some_iff.mp h
  by_cases hkj : k = j
  · subst hkj
    exact .inr ⟨rfl, thread, hthread, by simp⟩
  · exact .inl ⟨fun heq => hkj heq.symm, by simpa [hkj] using hthread⟩

/-- A thread is replaced by itself in another phase. -/
theorem phase_set {s t : ThreadedWclap} {k : Nat} {thread thread' : SpawnedThread}
    (hspawned : t.spawned = s.spawned.set k thread') (hk : s.spawned[k]? = some thread) (j : Nat) :
    t.phase j = (s.setPhase k thread'.phase).phase j := by
  rw [phase_setPhase]
  unfold ThreadedWclap.phase
  rw [hspawned, List.getElem?_set]
  split
  next => simp [(List.getElem?_eq_some_iff.mp hk).1]
  next => rfl

/-- The steps, by their actions. -/
inductive Stepped (host : ThreadHost) (s : ThreadedWclap) : ThreadAction → ThreadedWclap → Prop
    where
  | perform (env : Environment) {r : Request} (hr : ∀ index, r ≠ .runThread index)
    (hinit : r ≠ .init) :
    Stepped host s (.perform env r) { s with wclap := (s.wclap.perform env r).2.1 }
  | init (phase : InitPhase) (hinit : s.init = .before) :
    Stepped host s .beginInit { s with init := phase }
  | endInit (outcome : InitOutcome) (hinit : s.init = .running) :
    Stepped host s (.endInit outcome)
      { s.setGroup (finishInit outcome s.wclap.instanceGroup) with init := .over }
  | testNull {c : Caller} {value : WasmValue} (hnull : s.wclap.wasiThreadSpawn = false) :
    Stepped host s (.test c value) (s.answer c (-1))
  | test {c : Caller} {value : WasmValue} (hcan : s.canCall c) (hidle : s.calls c = none)
    (hvalue : value.is64 = s.wclap.is64) (hset : s.wclap.wasiThreadSpawn = true) :
    Stepped host s (.test c value) (s.setCall c (some (value, .tested)))
  | readFunction {c : Caller} {value : WasmValue} (hc : s.calls c = some (value, .tested)) :
    Stepped host s (.readFunction c)
      (s.setCall c (some (value, .readFunction s.wclap.wasiThreadSpawn)))
  | readContext {c : Caller} {value : WasmValue} {wasiThreadSpawn : Bool}
    (hc : s.calls c = some (value, .readFunction wasiThreadSpawn)) :
    Stepped host s (.readContext c)
      (s.setCall c (some (value, .readContext wasiThreadSpawn s.wasiThreadSpawnContext)))
  | enterError {c : Caller} {value : WasmValue} (hc : s.calls c = some (value, .readContext true true)) :
    Stepped host s (.enter c) (s.answer c (-1))
  | enter {c : Caller} {value : WasmValue} (hc : s.calls c = some (value, .readContext true true)) :
    Stepped host s (.enter c) (s.setCall c (some (value, .entered)))
  | spawnFailed {c : Caller} {value : WasmValue} {setup : SetupOutcome}
    {grow : HostFunction → GrowOutcome} {wclap : WclapModule}
    (hc : s.calls c = some (value, .entered)) (hlock : s.unlocked = true)
    (h : s.wclap.spawnLocked setup grow = (none, wclap)) :
    Stepped host s (.spawn c setup grow) ({ s with wclap }.answer c (-1))
  | spawn {c : Caller} {value : WasmValue} {setup : SetupOutcome}
    {grow : HostFunction → GrowOutcome} {slot : Nat} {wclap : WclapModule}
    (hc : s.calls c = some (value, .entered)) (hlock : s.unlocked = true)
    (h : s.wclap.spawnLocked setup grow = (some slot, wclap)) (hlive : s.live < host.threadLimit) :
    Stepped host s (.spawn c setup grow)
      ({ s with wclap, spawned := s.spawned ++ [s.newThread slot value] }.answer c
        (Int32.ofNat slot))
  | startUp {k : Nat} {thread : SpawnedThread} (hk : s.spawned[k]? = some thread)
    (hphase : thread.phase = .created) (hlock : s.unlocked = true) :
    Stepped host s (.startUp k)
      { s with
        wclap := OpenWclap.started s.wclap (.runThread thread.slot)
        spawned := s.spawned.set k
          { thread with
            late := s.wclap.instanceGroup.hasError || thread.stopRequested
            phase := .starting (s.holder thread.slot) } }
  | refused {k j : Nat} (hphase : s.phase k = some (.starting (some j)))
    (hinit : s.wclap.instanceGroup.hadInit = false) :
    Stepped host s (.runThread k) (s.setPhase k .refused)
  | noStart {k j : Nat} (message : String) (hphase : s.phase k = some (.starting (some j)))
    (hstart : host.threadStart ≠ .function) :
    Stepped host s (.runThread k)
      ((s.setGroup (s.wclap.instanceGroup.setError message)).setPhase k .returned)
  | start {k j : Nat} {thread : SpawnedThread} (hphase : s.phase k = some (.starting (some j)))
    (hj : s.spawned[j]? = some thread) :
    Stepped host s (.runThread k)
      { s.setPhase k .running with
        starts := s.starts ++ [⟨thread.instance_, thread.index.toInt32,
          .ofThreadArg s.wclap.is64 thread.threadArg⟩] }
  | refuse {k : Nat} (hphase : s.phase k = some .refused) :
    Stepped host s (.refuse k) ((s.setGroup (s.wclap.instanceGroup.setError
      "Instance Group not initialised before .runThread()")).setPhase k .returned)
  | return_ {k : Nat} (outcome : CallOutcome) (hphase : s.phase k = some .running)
    (hidle : s.calls (.thread k) = none) :
    Stepped host s (.return_ k outcome)
      ((s.setGroup (finishThread outcome s.wclap.instanceGroup)).setPhase k .returned)
  | finish {k : Nat} {thread : SpawnedThread} (hk : s.spawned[k]? = some thread)
    (hphase : thread.phase = .returned) (hlock : s.unlocked = true) :
    Stepped host s (.finish k)
      { s.setPhase k .ended with wclap.threads := s.wclap.threads.set thread.slot none }
  | clearFunction (hopen : s.destructor = .open_) :
    Stepped host s .clearFunction
      { s with wclap.wasiThreadSpawn := false, destructor := .clearing }
  | clearContext (hclearing : s.destructor = .clearing) :
    Stepped host s .clearContext
      { s with wasiThreadSpawnContext := false, destructor := .waiting }
  | wait (hwaiting : s.destructor = .waiting) (hthreads : s.checkThreadsStopped.1 = false) :
    Stepped host s .poll s.checkThreadsStopped.2
  | stopped (hwaiting : s.destructor = .waiting) (hthreads : s.checkThreadsStopped.1 = true) :
    Stepped host s .poll { s.checkThreadsStopped.2 with destructor := .closed }

theorem step_cases {host : ThreadHost} {s t : ThreadedWclap} {a : ThreadAction}
    (h : s.step host a = some t) : Stepped host s a t := by
  unfold step at h
  split at h
  next env r =>
    split at h
    next => cases h
    next => cases h
    next r hinit hrun => cases h; exact .perform env hrun hinit
  next =>
    split at h
    next hinit =>
      split at h
      next => cases h; exact .init .over hinit
      next => cases h; exact .init .running hinit
    next => cases h
  next outcome =>
    split at h
    next hinit => cases h; exact .endInit outcome hinit
    next => cases h
  next c value =>
    split at h
    next hcan =>
      split at h
      next hset => cases h; exact .test hcan.1 hcan.2.1 hcan.2.2 hset
      next hset => cases h; exact .testNull (Bool.eq_false_iff.mpr hset)
    next => cases h
  next c =>
    split at h
    next value hc => cases h; exact .readFunction hc
    next => cases h
  next c =>
    split at h
    next value wasiThreadSpawn hc => cases h; exact .readContext hc
    next => cases h
  next c =>
    split at h
    next value hc =>
      split at h
      next => cases h; exact .enterError hc
      next => cases h; exact .enter hc
    next => cases h
  next c setup grow =>
    split at h
    next value hc =>
      split at h
      next hlock =>
        split at h
        next wclap hspawn => cases h; exact .spawnFailed hc hlock hspawn
        next slot wclap hspawn =>
          split at h
          next hlive => cases h; exact .spawn hc hlock hspawn hlive
          next => cases h
      next => cases h
    next => cases h
  next k =>
    split at h
    next thread hk =>
      split at h
      next hphase => cases h; exact .startUp hk hphase.1 hphase.2
      next => cases h
    next => cases h
  next k =>
    split at h
    next j hphase =>
      split at h
      next thread hj =>
        dsimp only at h
        split at h
        next hinit => cases h; exact .refused hphase hinit
        next hinit =>
          split at h
          next hstart => cases h; exact .noStart _ hphase (by simp [hstart])
          next hstart => cases h; exact .noStart _ hphase (by simp [hstart])
          next => cases h; exact .start hphase hj
      next => cases h
    next => cases h
  next k =>
    split at h
    next hphase => cases h; exact .refuse hphase.1
    next => cases h
  next k outcome =>
    split at h
    next hphase => cases h; exact .return_ outcome hphase.1 hphase.2
    next => cases h
  next k =>
    split at h
    next thread hk =>
      split at h
      next hphase => cases h; exact .finish hk hphase.1 hphase.2
      next => cases h
    next => cases h
  next =>
    split at h
    next hopen => cases h; exact .clearFunction hopen.1
    next => cases h
  next =>
    split at h
    next hclearing => cases h; exact .clearContext hclearing
    next => cases h
  next =>
    split at h
    next hwaiting =>
      dsimp only at h
      split at h
      next hthreads => cases h; exact .stopped hwaiting hthreads
      next hthreads => cases h; exact .wait hwaiting (Bool.eq_false_iff.mpr hthreads)
    next => cases h

end ThreadedWclap

end WclapBridge.Native
