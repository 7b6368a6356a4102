import WclapBridge.Native.InstanceGroup

/-!
# Modules

`WclapModule` is an open WCLAP. It has an error of its own next to that of its
`InstanceGroup`, and the indices of the host functions, which all of its
instances share. Each instance on which it runs guest code has them registered
in its own function table: `addHostFunctions` does so for the main thread and
for each thread the guest spawns.
-/

namespace WclapBridge.Native

/-- `WclapModuleBase::Thread`: its instance, and whether `runThread` has begun. -/
structure Thread where
  instance_ : Nat
  started : Bool

/-- `WclapModule`, without the addresses it keeps of structs in guest memory. -/
structure WclapModule where
  /-- `WCLAP_BRIDGE_IS64`. -/
  is64 : Bool
  instanceGroup : InstanceGroup
  /-- The instances of `mainThread`, of `threads` and of the plugins' own audio
      threads, in the order of their creation. -/
  instances : List InstanceImpl
  hasError : Bool
  errorMessage : String
  /-- The function pointers in `hostTemplate`, `inputEventsTemplate`,
      `outputEventsTemplate`, `istreamTemplate`, `ostreamTemplate` and the host
      extension structs. -/
  hostIndex : HostFunction → UInt64
  /-- Whether `instanceGroup->wasiThreadSpawn` is set. -/
  wasiThreadSpawn : Bool
  /-- The address of the guest's factory, if it has been asked for. -/
  pluginFactory : Option UInt64
  /-- The first entry is empty: 0 is a reserved thread ID. -/
  threads : List (Option Thread)
  /-- The instance that is the `audioThread` of each plugin. -/
  plugins : List Nat

namespace WclapModule

/-- The instance of `mainThread`. -/
def main : Nat := 0

/-! ## Errors -/

/-- `WclapModuleBase::setError`. -/
def setError (m : WclapModule) (error : String) : WclapModule :=
  { m with hasError := true, errorMessage := error }

/-- `WclapModuleBase::getError`, which `wclap_get_error` returns. -/
def getError (m : WclapModule) : Bool × WclapModule :=
  if m.hasError then (true, m)
  else
    -- check for instance errors as well
    match m.instanceGroup.error with
    | none => (false, m)
    | some instanceError => (true, m.setError instanceError)

/-- A failure has been recorded with `WclapModuleBase::setError` or with
    `InstanceGroup::setError`, and is still there. -/
def Recorded (m : WclapModule) : Prop :=
  m.hasError = true ∨ m.instanceGroup.hasError = true

instance (m : WclapModule) : Decidable m.Recorded :=
  inferInstanceAs (Decidable (_ ∨ _))

/-- What a module can become without losing a failure. -/
structure Follows (m m' : WclapModule) : Prop where
  hasError : m.hasError = true → m'.hasError = true
  instanceGroup : m.instanceGroup.Follows m'.instanceGroup

theorem Follows.refl (m : WclapModule) : m.Follows m :=
  ⟨id, .refl _⟩

theorem Follows.trans {m₁ m₂ m₃ : WclapModule} (h₁ : m₁.Follows m₂) (h₂ : m₂.Follows m₃) :
    m₁.Follows m₃ :=
  ⟨h₂.hasError ∘ h₁.hasError, h₁.instanceGroup.trans h₂.instanceGroup⟩

theorem Follows.setError {m m' : WclapModule} (h : m.Follows m') (error : String) :
    m.Follows (m'.setError error) :=
  ⟨fun _ => rfl, h.instanceGroup⟩

theorem Follows.recorded {m m' : WclapModule} (h : m.Follows m') (hm : m.Recorded) :
    m'.Recorded :=
  hm.imp h.hasError h.instanceGroup.hasError

/-- `wclap_get_error` tells of each recorded failure, and of nothing else. -/
theorem getError_iff (m : WclapModule) : m.getError.1 = true ↔ m.Recorded := by
  have herror := m.instanceGroup.error_isSome
  unfold getError Recorded
  split
  next h => simp only [h, true_or]
  next h =>
    rw [← herror]
    split
    next hnone => simp [h, hnone]
    next instanceError hsome => simp [hsome]

theorem getError_instances (m : WclapModule) : m.getError.2.instances = m.instances := by
  unfold getError
  split
  next => rfl
  next => split <;> rfl

theorem getError_follows (m : WclapModule) : m.Follows m.getError.2 := by
  unfold getError
  split
  next => exact .refl m
  next =>
    split
    next => exact .refl m
    next => exact (Follows.refl m).setError _

/-! ## Host functions -/

/-- What `-1` is when a pointer is compared with it. -/
def minusOne (m : WclapModule) : UInt64 :=
  if m.is64 then 0xFFFFFFFFFFFFFFFF else 0xFFFFFFFF

/-- `registerHost`. The new index is kept before it is looked at. Both
    `registerHost32` and `registerHost64` truncate it to 32 bits. -/
def registerHost (m : WclapModule) (instance_ : InstanceImpl) (fn : HostFunction)
    (outcome : GrowOutcome) : Bool × WclapModule × InstanceImpl :=
  let prevIndex := m.hostIndex fn
  let (index, instance_, group, _) := registerHostGeneric instance_ fn outcome m.instanceGroup
  let index := index.toUInt32.toUInt64
  let m := { m with
    instanceGroup := group
    hostIndex := fun f => if f = fn then index else m.hostIndex f }
  -- on a 64-bit WCLAP the truncated index is never `-1`
  if index = m.minusOne then
    (false, m.setError "failed to register function", instance_)
  else if prevIndex ≠ 0 ∧ index ≠ prevIndex then
    -- This is when we've previously registered it on another thread, and it needs to match
    (false, m.setError "function index mismatch", instance_)
  else (true, m, instance_)

/-- The calls of `HOST_METHOD`, up to the first that fails. -/
def registerHosts (m : WclapModule) (instance_ : InstanceImpl)
    (outcome : HostFunction → GrowOutcome) :
    List HostFunction → Bool × WclapModule × InstanceImpl
  | [] => (true, m, instance_)
  | fn :: fns =>
    match m.registerHost instance_ fn (outcome fn) with
    | (false, m, instance_) => (false, m, instance_)
    | (true, m, instance_) => registerHosts m instance_ outcome fns

/-- `addHostFunctions`. -/
def addHostFunctions (m : WclapModule) (instance_ : InstanceImpl)
    (outcome : HostFunction → GrowOutcome) : Bool × WclapModule × InstanceImpl :=
  m.registerHosts instance_ outcome hostFunctions

/-- The group is left the way Wasmtime was reached. -/
theorem registerHost_group (m : WclapModule) (instance_ : InstanceImpl) (fn : HostFunction)
    (outcome : GrowOutcome) :
    (m.registerHost instance_ fn outcome).2.1.instanceGroup =
      (registerHostGeneric instance_ fn outcome m.instanceGroup).2.2.1 := by
  unfold registerHost
  dsimp only
  split
  next => rfl
  next => split <;> rfl

theorem registerHost_instances (m : WclapModule) (instance_ : InstanceImpl) (fn : HostFunction)
    (outcome : GrowOutcome) :
    (m.registerHost instance_ fn outcome).2.1.instances = m.instances := by
  unfold registerHost
  dsimp only
  split
  next => rfl
  next => split <;> rfl

theorem registerHost_follows (m : WclapModule) (instance_ : InstanceImpl) (fn : HostFunction)
    (outcome : GrowOutcome) : m.Follows (m.registerHost instance_ fn outcome).2.1 := by
  have hgroup := registerHostGeneric_follows instance_ fn outcome m.instanceGroup
  unfold registerHost
  dsimp only
  split
  next => exact ⟨fun _ => rfl, hgroup⟩
  next =>
    split
    next => exact ⟨fun _ => rfl, hgroup⟩
    next => exact ⟨id, hgroup⟩

/-- The module keeps its instances. -/
theorem registerHosts_instances (m : WclapModule) (instance_ : InstanceImpl)
    (outcome : HostFunction → GrowOutcome) (fns : List HostFunction) :
    (m.registerHosts instance_ outcome fns).2.1.instances = m.instances := by
  induction fns generalizing m instance_ with
  | nil => rfl
  | cons fn fns ih =>
    have hfn := m.registerHost_instances instance_ fn (outcome fn)
    unfold registerHosts
    split
    next heq =>
      rw [heq] at hfn
      exact hfn
    next heq =>
      rw [heq] at hfn
      exact (ih _ _).trans hfn

theorem registerHosts_follows (m : WclapModule) (instance_ : InstanceImpl)
    (outcome : HostFunction → GrowOutcome) (fns : List HostFunction) :
    m.Follows (m.registerHosts instance_ outcome fns).2.1 := by
  induction fns generalizing m instance_ with
  | nil => exact .refl m
  | cons fn fns ih =>
    have hfn := m.registerHost_follows instance_ fn (outcome fn)
    unfold registerHosts
    split
    next heq =>
      rw [heq] at hfn
      exact hfn
    next heq =>
      rw [heq] at hfn
      exact hfn.trans (ih _ _)

/-! ## Instances -/

/-- `WclapModuleBase`, for a group which has just been set up without an error. -/
def base (is64 shared : Bool) (outcome : SetupOutcome) : WclapModule :=
  let (mainThread, group, _) := startInstance (InstanceGroup.opened shared) outcome
  let m : WclapModule :=
    { is64
      instanceGroup := group
      instances := mainThread.toList
      hasError := false
      errorMessage := "not initialised"
      hostIndex := fun _ => 0
      wasiThreadSpawn := false
      pluginFactory := none
      threads := [none]
      plugins := [] }
  match group.error with
  | some error => m.setError error
  | none => m

/-- There is a main thread, and nothing is registered. -/
theorem base_spec (is64 shared : Bool) (outcome : SetupOutcome) :
    ∃ mainThread effects,
      startInstance (InstanceGroup.opened shared) outcome =
        (some mainThread, (base is64 shared outcome).instanceGroup, effects) ∧
      (base is64 shared outcome).instances = [mainThread] ∧
      (base is64 shared outcome).hostIndex = fun _ => 0 := by
  refine ⟨(setup (InstanceGroup.opened shared) outcome).1,
    (startInstance (InstanceGroup.opened shared) outcome).2.2, ?_⟩
  unfold base
  dsimp only
  split <;> exact ⟨rfl, rfl, rfl⟩

/-- An error of the base class is one of the group. -/
theorem base_hasError {is64 shared : Bool} {outcome : SetupOutcome}
    (h : (base is64 shared outcome).hasError = true) :
    (base is64 shared outcome).instanceGroup.hasError = true := by
  unfold base at h ⊢
  dsimp only at h ⊢
  split
  next error herror =>
    rw [← InstanceGroup.error_isSome]
    exact (congrArg Option.isSome herror).trans rfl
  next herror =>
    rw [herror] at h
    exact Bool.noConfusion h

/-- The constructor of `WclapModule` up to the first guest code that can reach
    the module, which `mainThread->init()` runs: whether it goes on. -/
def construct (is64 shared : Bool) (outcome : SetupOutcome)
    (grow : HostFunction → GrowOutcome) : Bool × WclapModule :=
  let m := base is64 shared outcome
  if m.hasError then (false, m) -- base class failed
  else
    match m.instances with
    | [] => (false, m)
    | mainThread :: _ =>
      let (ok, m, mainThread) := m.addHostFunctions mainThread grow
      (ok, { m with instances := [mainThread], wasiThreadSpawn := ok })

/-- If the group has no error then, the main thread was given the host functions. -/
theorem construct_of_ok {is64 shared : Bool} {outcome : SetupOutcome}
    {grow : HostFunction → GrowOutcome} {mainThread : InstanceImpl}
    (hinstances : (base is64 shared outcome).instances = [mainThread])
    (hgroup : (construct is64 shared outcome grow).2.instanceGroup.hasError = false) :
    ∃ ok m instance', (base is64 shared outcome).addHostFunctions mainThread grow =
        (ok, m, instance') ∧
      (construct is64 shared outcome grow).2 =
        { m with instances := [instance'], wasiThreadSpawn := ok } := by
  unfold construct at hgroup ⊢
  dsimp only at hgroup ⊢
  split
  next herror =>
    rw [if_pos herror] at hgroup
    exact Bool.noConfusion (hgroup.symm.trans (base_hasError herror))
  next =>
    let r := (base is64 shared outcome).addHostFunctions mainThread grow
    exact ⟨r.1, r.2.1, r.2.2, rfl, by rw [hinstances]⟩

/-- An index for a new thread: the first that is empty, but for 0. -/
def threadIndex (threads : List (Option Thread)) : Nat :=
  1 + (threads.drop 1).findIdx Option.isNone

/-- `wasiThreadSpawn`, as `wtWasiThreadSpawn` calls it: the thread's index or -1. -/
def spawnThread (m : WclapModule) (outcome : SetupOutcome) (grow : HostFunction → GrowOutcome) :
    Int × WclapModule × List Effect :=
  if m.wasiThreadSpawn = false then (-1, m, []) -- so says `wtWasiThreadSpawn`
  else if m.hasError then (-1, m, [])
  else
    -- the error of the group is not looked at; `startInstance` gives an instance
    -- all the same, to which no function can be registered
    match startInstance m.instanceGroup outcome with
    | (none, group, effects) =>
      (-1, { m with instanceGroup := group }.setError
        "failed to start instance for new WCLAP thread", effects)
    | (some instance_, group, effects) =>
      match { m with instanceGroup := group }.addHostFunctions instance_ grow with
      | (false, m, _) =>
        (-1, m.setError "failed to register host functions for new WCLAP thread", effects)
      | (true, m, instance_) =>
        let index := threadIndex m.threads
        -- Use empty thread or start new one
        let threads := if index = m.threads.length then m.threads ++ [none] else m.threads
        (index,
          { m with
            instances := m.instances ++ [instance_]
            threads := threads.set index (some ⟨m.instances.length, false⟩) },
          effects)

/-- The constructor of `Plugin`: its audio thread is an instance of its own if
    there is one to be had, and the main thread otherwise. -/
def newPlugin (m : WclapModule) (outcome : SetupOutcome) : WclapModule × List Effect :=
  match startInstance m.instanceGroup outcome with
  | (none, group, effects) =>
    ({ m with instanceGroup := group, plugins := m.plugins ++ [main] }, effects)
  | (some maybeAudioThread, group, effects) =>
    -- no `addHostFunctions` here
    ({ m with
        instanceGroup := group
        instances := m.instances ++ [maybeAudioThread]
        plugins := m.plugins ++ [m.instances.length] }, effects)

theorem spawnThread_follows (m : WclapModule) (outcome : SetupOutcome)
    (grow : HostFunction → GrowOutcome) : m.Follows (m.spawnThread outcome grow).2.1 := by
  have hstart := startInstance_follows m.instanceGroup outcome
  unfold spawnThread
  split
  next => exact .refl m
  next =>
    split
    next => exact .refl m
    next =>
      split
      next group effects heq =>
        rw [heq] at hstart
        have hm : m.Follows { m with instanceGroup := group } := ⟨id, hstart⟩
        exact hm.setError _
      next instance_ group effects heq =>
        rw [heq] at hstart
        have hm : m.Follows { m with instanceGroup := group } := ⟨id, hstart⟩
        have hadd := registerHosts_follows { m with instanceGroup := group } instance_ grow
          hostFunctions
        split
        next m' _ heq' =>
          rw [addHostFunctions] at heq'
          rw [heq'] at hadd
          exact (hm.trans hadd).setError _
        next m' _ heq' =>
          rw [addHostFunctions] at heq'
          rw [heq'] at hadd
          exact ⟨(hm.trans hadd).hasError, (hm.trans hadd).instanceGroup⟩

/-- Nothing runs after an error. -/
theorem spawnThread_effects {m : WclapModule} (h : m.instanceGroup.hasError = true)
    (outcome : SetupOutcome) (grow : HostFunction → GrowOutcome) :
    (m.spawnThread outcome grow).2.2 = [] := by
  have hstart := startInstance_effects h outcome
  unfold spawnThread
  split
  next => rfl
  next =>
    split
    next => rfl
    next =>
      split
      next heq =>
        rw [heq] at hstart
        exact hstart
      next heq =>
        rw [heq] at hstart
        split <;> exact hstart

/-- No instance goes away. -/
theorem spawnThread_instances (m : WclapModule) (outcome : SetupOutcome)
    (grow : HostFunction → GrowOutcome) :
    m.instances <+: (m.spawnThread outcome grow).2.1.instances := by
  unfold spawnThread
  split
  next => exact List.prefix_rfl
  next =>
    split
    next => exact List.prefix_rfl
    next =>
      split
      next => exact List.prefix_rfl
      next instance_ group effects _ =>
        have hadd := registerHosts_instances { m with instanceGroup := group } instance_ grow
          hostFunctions
        rw [← addHostFunctions] at hadd
        split
        next heq =>
          rw [heq] at hadd
          exact hadd ▸ List.prefix_rfl
        next heq =>
          rw [heq] at hadd
          exact hadd ▸ List.prefix_append _ _

theorem newPlugin_instances (m : WclapModule) (outcome : SetupOutcome) :
    m.instances <+: (m.newPlugin outcome).1.instances := by
  unfold newPlugin
  split
  next => exact List.prefix_rfl
  next => exact List.prefix_append _ _

/-- There is a main thread, however far the constructor gets. -/
theorem construct_instances (is64 shared : Bool) (outcome : SetupOutcome)
    (grow : HostFunction → GrowOutcome) :
    (construct is64 shared outcome grow).2.instances ≠ [] := by
  obtain ⟨mainThread, effects, -, hinstances, -⟩ := base_spec is64 shared outcome
  unfold construct
  dsimp only
  rw [hinstances]
  split
  next => exact hinstances ▸ List.cons_ne_nil _ _
  next => exact List.cons_ne_nil _ _

theorem newPlugin_follows (m : WclapModule) (outcome : SetupOutcome) :
    m.Follows (m.newPlugin outcome).1 := by
  have hstart := startInstance_follows m.instanceGroup outcome
  unfold newPlugin
  split
  next heq => exact ⟨id, by rw [heq] at hstart; exact hstart⟩
  next heq => exact ⟨id, by rw [heq] at hstart; exact hstart⟩

end WclapModule

end WclapBridge.Native
