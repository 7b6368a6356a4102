import WclapBridge.ForStd.Transition
import WclapBridge.Native.Operations

/-!
# After an error

Once the group of a module has an error, an operation that begins should leave
the guest alone. Calls through the function table, the guest's `init()` and the
creation of instances look at the error first. `wtMalloc`, which an arena scope
needs when it is full, and `runThread` do not; nor does `wasmMemory`, although a
`setup` that fails early leaves it without a memory.

## Key results

- `perform_quiet_iff`: the requests that are harmless after an error
- `Operation.requests_end`: without the guest, an operation ends with 0
- `quiet_after_error_iff`: operations that begin after an error are quiet, unless
  one of them needs the `malloc()` of the guest, the memory of an instance that
  has none, or is a thread of the guest
- `getFactory_calls_malloc`: `wclap_get_factory` on a module without `malloc()`
-/

namespace WclapBridge.Spec

open WclapBridge.Native
open OpenWclap (step)

/-! ## Requests after an error -/

/-- What keeps a request after an error from running guest code, and from using a
    handle that was never initialised. -/
def Guarded (m : WclapModule) (env : Environment) : Request → Prop
  | .memory i =>
    ∀ instance_, m.instances[i]? = some instance_ → m.instanceGroup.shared = true ∨
      (instance_.initialised .wtContext = true ∧ instance_.initialised .wtMemory = true)
  | .reserve => env.room = true
  | .runThread index =>
    ∀ thread instance_, m.threads[index]? = some (some thread) →
      m.instances[thread.instance_]? = some instance_ → m.instanceGroup.hadInit = false ∨
      (env.thread.isCalled = false ∧
        instance_.initialised .wtContext = true ∧ instance_.initialised .wtInstance = true)
  | _ => True

/-- How a request is answered after an error: the guest gives no answer. -/
def Failing : Request → UInt64 → Prop
  | .call _, x | .runThread _, x => x = 0
  | _, _ => True

/-- All effects are quiet. -/
def AllQuiet (effects : List Effect) : Prop :=
  ∀ e ∈ effects, e.Quiet

@[simp] theorem allQuiet_nil : AllQuiet [] :=
  fun _ h => nomatch h

@[simp] theorem allQuiet_uses (instance_ : InstanceImpl) (handles : List Handle) :
    AllQuiet (instance_.uses handles) ↔ ∀ h ∈ handles, instance_.initialised h = true := by
  simp [AllQuiet, InstanceImpl.uses, Effect.Quiet]

theorem not_allQuiet {effects : List Effect} (h : .guestCode ∈ effects) : ¬ AllQuiet effects :=
  fun hquiet => hquiet _ h

/-- After an error, the effects of `runThread` are quiet if it does not get to the
    call. -/
theorem runThread_quiet_iff (instance_ : InstanceImpl) (outcome : ThreadOutcome)
    (group : InstanceGroup) :
    AllQuiet (runThread instance_ outcome group).2 ↔ group.hadInit = false ∨
      (outcome.isCalled = false ∧
        instance_.initialised .wtContext = true ∧ instance_.initialised .wtInstance = true) := by
  unfold runThread
  split
  next h => simp [h]
  next h =>
    cases outcome with
    | missing => simp [h, ThreadOutcome.isCalled]
    | notFunction => simp [h, ThreadOutcome.isCalled]
    | called outcome =>
      have hcode : ¬ AllQuiet (instance_.uses [.wtContext, .wtInstance] ++ [.guestCode]) :=
        not_allQuiet (by simp)
      cases outcome <;> simp [h, ThreadOutcome.isCalled, hcode]

theorem wasmMemory_quiet_iff (instance_ : InstanceImpl) (group : InstanceGroup) :
    AllQuiet (wasmMemoryHandles instance_ group) ↔ group.shared = true ∨
      (instance_.initialised .wtContext = true ∧ instance_.initialised .wtMemory = true) := by
  unfold wasmMemoryHandles
  split
  next h => simp [h]
  next h => simp [h]

theorem withInstance_quiet_iff (m : WclapModule) (i : Nat)
    (f : InstanceImpl → InstanceGroup → UInt64 × InstanceGroup × List Effect) :
    AllQuiet (m.withInstance i f).2.2 ↔
      ∀ instance_, m.instances[i]? = some instance_ →
        AllQuiet (f instance_ m.instanceGroup).2.2 := by
  unfold WclapModule.withInstance
  split
  next hnone => simp [hnone]
  next instance_ hsome => simp [hsome]

/-- After an error, a request is quiet if and only if it is guarded. -/
theorem perform_quiet_iff {m : WclapModule} {env : Environment} (r : Request)
    (herror : m.instanceGroup.hasError = true) (hmain : m.instances ≠ []) :
    AllQuiet (m.perform env r).2.2 ↔ Guarded m env r := by
  cases r with
  | memory i =>
    simp only [WclapModule.perform, withInstance_quiet_iff, wasmMemory_quiet_iff, Guarded]
  | reserve =>
    obtain ⟨mainThread, others, hinstances⟩ := List.exists_cons_of_ne_nil hmain
    simp only [WclapModule.perform, Guarded]
    split
    next hroom => simp [hroom]
    next hroom =>
      -- `wtMalloc` calls into the guest whatever state it is in
      refine iff_of_false (fun hquiet => ?_) hroom
      rw [withInstance_quiet_iff] at hquiet
      exact not_allQuiet (guestCode_mem_wtMalloc ..)
        (hquiet mainThread (congrArg (·[WclapModule.main]?) hinstances))
  | call i => simp [WclapModule.perform, withInstance_quiet_iff, wtCall_of_hasError herror, Guarded]
  | init =>
    have hquiet := (withInstance_quiet_iff m WclapModule.main
      fun instance_ group => initInner instance_ env.init group).mpr
      fun instance_ _ => by rw [initInner_of_hasError herror]; exact allQuiet_nil
    exact iff_of_true hquiet trivial
  | newPlugin =>
    have heffects := startInstance_effects herror env.setup
    simp only [WclapModule.perform, WclapModule.newPlugin, Guarded, iff_true]
    split
    next heq =>
      rw [heq] at heffects
      exact heffects ▸ allQuiet_nil
    next heq =>
      rw [heq] at heffects
      exact heffects ▸ allQuiet_nil
  | setPluginFactory ptr => exact iff_of_true allQuiet_nil trivial
  | setError error => exact iff_of_true allQuiet_nil trivial
  | clearError => exact iff_of_true allQuiet_nil trivial
  | runThread index =>
    simp only [WclapModule.perform, Guarded]
    split
    next thread hthread =>
      rw [withInstance_quiet_iff, hthread]
      simp only [runThread_quiet_iff]
      constructor
      · rintro h _ instance_ heq hinstance
        cases heq
        exact h instance_ hinstance
      · exact fun h instance_ => h thread instance_ rfl
    next hthread =>
      exact iff_of_true allQuiet_nil fun thread _ heq => absurd heq (hthread thread)

/-- After an error, the guest gives no answer. -/
theorem perform_failing {m : WclapModule} {env : Environment} (r : Request)
    (herror : m.instanceGroup.hasError = true) : Failing r (m.perform env r).1 := by
  cases r with
  | call i =>
    simp only [Failing, WclapModule.perform, WclapModule.withInstance]
    split
    next => rfl
    next => rw [wtCall_of_hasError herror]
  | runThread index =>
    simp only [Failing, WclapModule.perform, WclapModule.withInstance]
    split <;> rfl
  | _ => trivial

/-! ## Operations without the guest -/

section Ends

open Requests

variable {Q : UInt64 → Prop}

@[simp] theorem ends_call {i : Nat} : (call i).Ends Failing Q ↔ Q 0 := by
  simp [call, memory, ask_, Failing]

@[simp] theorem ends_copyThenCall {copies : Nat} (h : Q 0) :
    (copyThenCall copies).Ends Failing Q := by
  simp [copyThenCall, h]

theorem pluginProcess_ends (audioThread : Nat) (process : ClapProcess) :
    (Requests.pluginProcess audioThread process).Ends Failing (· = 0) := by
  simp [Requests.pluginProcess]

theorem withStream_ends : withStream.Ends Failing (· = 0) := by
  simp [withStream]

theorem configurableAudioPorts_ends (requests : List Bool) :
    (configurableAudioPorts requests).Ends Failing (· = 0) := by
  simp [configurableAudioPorts]

theorem webview_get_uri_ends (uriCapacity : UInt32) :
    (Requests.webview_get_uri uriCapacity).Ends Failing (· = 0) := by
  simp [Requests.webview_get_uri]

theorem webview_get_resource_ends (served : UInt64) :
    (Requests.webview_get_resource false served).Ends Failing (· = 0) := by
  simp [Requests.webview_get_resource]

theorem webview_receive_ends : Requests.webview_receive.Ends Failing (· = 0) := by
  simp [Requests.webview_receive]

/-- A method whose answer is the guest's ends with 0. -/
theorem method_ends {method : PluginMethod} (audioThread : Nat)
    (hneeds : method.needsGuest = true) :
    (method.requests audioThread).Ends Failing (· = 0) := by
  cases method with
  | pluginProcess process => exact pluginProcess_ends audioThread process
  | pluginGetExtension pluginExtId => cases pluginExtId <;> simp [PluginMethod.requests]
  | configurableAudioPorts_can_apply_configuration requests
  | configurableAudioPorts_apply_configuration requests =>
    exact configurableAudioPorts_ends requests
  | stateContext_save | stateContext_load | state_save | state_load => exact withStream_ends
  | webview_get_uri uriCapacity => exact webview_get_uri_ends uriCapacity
  | webview_get_resource wasFileUri served =>
    cases wasFileUri with
    | false => exact webview_get_resource_ends served
    | true => exact Bool.noConfusion hneeds
  | webview_receive => exact webview_receive_ends
  | _ =>
    -- the GUI methods do not need the guest; the others call it, and end with 0
    first
    | exact Bool.noConfusion hneeds
    | simp [PluginMethod.requests, callVoid, getIfTrue, getAnyway, getArrayAnyway]

theorem getFactory_ends : (Requests.getFactory true none).Ends Failing (· = 0) := by
  simp [Requests.getFactory]

theorem createPlugin_ends : (Requests.createPlugin true).Ends Failing (· = 0) := by
  simp [Requests.createPlugin]

/-- An operation whose answer is the guest's ends with 0. -/
theorem operation_ends {op : Operation} {m : WclapModule} (hneeds : op.needsGuest m = true) :
    (op.requests m).Ends Failing (· = 0) := by
  cases op with
  | getFactory isPluginFactoryId =>
    obtain ⟨rfl, hnone⟩ := (Bool.and_eq_true _ _).mp hneeds
    rw [Operation.requests, Option.isNone_iff_eq_none.mp hnone]
    exact getFactory_ends
  | createPlugin found =>
    cases hneeds
    exact createPlugin_ends
  | method plugin pluginMethod => exact method_ends _ hneeds
  | runThread index => exact fun _ h => h

end Ends

/-! ## Runs -/

/-- The action belongs to an operation that has begun after an error. -/
def Late (s : OpenWclap) : Action → Prop
  | .answer i _ => ∃ task, s.tasks[i]? = some task ∧ task.late = true
  | .spawnThread _ => s.wclap.instanceGroup.hasError = true
  | _ => False

/-- Such an operation runs no guest code, and uses no handle that was never
    initialised. -/
def QuietAfterError (s : OpenWclap) (a : Action) : Prop :=
  Late s a → AllQuiet (s.effects a)

/-- If it needed the guest, it returns 0, which is null and false as well. -/
def ZeroAfterError (s : OpenWclap) : Prop :=
  ∀ task ∈ s.tasks, task.late = true → task.needsGuest = true →
    ∀ result, task.program = .done result → result = 0

/-- Its requests are guarded. -/
def GuardedAfterError (s : OpenWclap) (a : Action) : Prop :=
  ∀ i env needsGuest r next, a = .answer i env →
    s.tasks[i]? = some ⟨true, needsGuest, .request r next⟩ → Guarded s.wclap env r

/-- The invariant of a run: there is a main thread, and the operations that have
    begun after an error have one ahead of them still. -/
structure Quiescent (s : OpenWclap) : Prop where
  main : s.wclap.instances ≠ []
  late : ∀ task ∈ s.tasks, task.late = true → s.wclap.instanceGroup.hasError = true ∧
    (task.needsGuest = true → task.program.Ends Failing (· = 0))

theorem begin_quiescent (is64 shared : Bool) (setup : SetupOutcome)
    (grow : HostFunction → GrowOutcome) :
    Quiescent (OpenWclap.begin is64 shared setup grow) where
  main := WclapModule.construct_instances is64 shared setup grow
  late task htask hlate := by
    cases List.mem_singleton.mp htask
    exact Bool.noConfusion hlate

/-- A step keeps the invariant. -/
theorem step_quiescent {s t : OpenWclap} {a : Action} (hs : Quiescent s)
    (ht : step s a = some t) : Quiescent t := by
  have hgroup := OpenWclap.step_group_follows ht
  have hkept : ∀ task ∈ s.tasks, task.late = true →
      t.wclap.instanceGroup.hasError = true ∧
        (task.needsGuest = true → task.program.Ends Failing (· = 0)) :=
    fun task htask hlate => (hs.late task htask hlate).imp hgroup.hasError id
  cases OpenWclap.step_cases ht with
  | getError =>
    refine ⟨?_, hkept⟩
    rw [WclapModule.getError_instances]
    exact hs.main
  | start op =>
    refine ⟨by cases op <;> exact hs.main, fun task htask hlate => ?_⟩
    rcases List.mem_append.mp htask with htask | htask
    · exact hkept task htask hlate
    · -- the operation that begins here, after an error if it is late
      cases List.mem_singleton.mp htask
      exact ⟨hgroup.hasError hlate, operation_ends⟩
  | answer env hi =>
    refine ⟨(s.wclap.perform_prefix env _).ne_nil hs.main, fun task htask hlate => ?_⟩
    rcases List.mem_or_eq_of_mem_set htask with htask | rfl
    · exact hkept task htask hlate
    · -- the task that was answered has one answer less ahead of it
      obtain ⟨herror, hends⟩ := hs.late _ (List.mem_of_getElem? hi) hlate
      exact ⟨hgroup.hasError herror, fun hneeds =>
        (hends hneeds).answer (perform_failing _ herror)⟩
  | spawnThread env =>
    exact ⟨(s.wclap.spawnThread_instances env.setup env.grow).ne_nil hs.main, hkept⟩
  | growTable i entries => exact ⟨List.modify_eq_nil_iff.not.mpr hs.main, hkept⟩
  | setEntry i index entry => exact ⟨List.modify_eq_nil_iff.not.mpr hs.main, hkept⟩

/-- Under the invariant, a step is quiet if and only if its request is guarded. -/
theorem guarded_iff_quiet {s : OpenWclap} (a : Action) (hs : Quiescent s) :
    GuardedAfterError s a ↔ QuietAfterError s a := by
  cases a with
  | answer i env =>
    have hrequest : ∀ needsGuest r next,
        s.tasks[i]? = some ⟨true, needsGuest, .request r next⟩ →
        (AllQuiet (s.effects (.answer i env)) ↔ Guarded s.wclap env r) := by
      intro needsGuest r next hi
      rw [OpenWclap.effects, hi]
      exact perform_quiet_iff r (hs.late _ (List.mem_of_getElem? hi) rfl).1 hs.main
    constructor
    · rintro h ⟨⟨late, needsGuest, program⟩, hi, hlate⟩
      cases hlate
      cases program with
      | done result =>
        rw [OpenWclap.effects, hi]
        exact allQuiet_nil
      | request r next => exact (hrequest _ r next hi).mpr (h i env _ r next rfl hi)
    · rintro h _ _ needsGuest r next heq hi
      cases heq
      exact (hrequest needsGuest r next hi).mp (h ⟨_, hi, rfl⟩)
  | spawnThread env =>
    refine iff_of_true (fun _ _ _ _ _ h => nomatch h) fun herror => ?_
    rw [OpenWclap.effects, WclapModule.spawnThread_effects herror]
    exact allQuiet_nil
  | _ => exact iff_of_true (fun _ _ _ _ _ h => nomatch h) fun h => h.elim

/-- No result of an operation that has begun after an error is the guest's. -/
theorem Quiescent.zero {s : OpenWclap} (hs : Quiescent s) : ZeroAfterError s := by
  intro task htask hlate hneeds result hdone
  have hends := (hs.late task htask hlate).2 hneeds
  rw [hdone] at hends
  exact hends

/-- An operation that begins after an error runs no guest code, uses no handle
    that was never initialised, and returns 0 if it needed the guest: in exactly
    those runs in which none of them has its arena scope call `malloc()`, reads
    or writes the memory of an instance that has none, or is a thread that gets
    to its `wasi_thread_start()`. -/
theorem quiet_after_error_iff (is64 shared : Bool) (setup : SetupOutcome)
    (grow : HostFunction → GrowOutcome) (as : List Action) :
    (Steps step QuietAfterError (OpenWclap.begin is64 shared setup grow) as ∧
      States step ZeroAfterError (OpenWclap.begin is64 shared setup grow) as) ↔
      Steps step GuardedAfterError (OpenWclap.begin is64 shared setup grow) as := by
  have hbegin := begin_quiescent is64 shared setup grow
  have hquiet : Steps step GuardedAfterError _ as ↔ Steps step QuietAfterError _ as :=
    Steps.iff_of_invariant Quiescent (fun s a t hs ht => step_quiescent hs ht)
      (fun s a hs => guarded_iff_quiet a hs) hbegin
  have hquiescent : States step Quiescent _ as :=
    States.of_invariant Quiescent (fun s a t hs ht => step_quiescent hs ht) hbegin
  have hzero := hquiescent.mono fun s hs => hs.zero
  exact ⟨fun h => hquiet.mpr h.1, fun h => ⟨hquiet.mp h, hzero⟩⟩

/-- The module has no `malloc()`, so that `wclap_open` leaves an error; then
    `wclap_get_factory` calls the uninitialised `wtMallocFunc`. -/
theorem getFactory_calls_malloc :
    ¬ Steps step QuietAfterError
      (OpenWclap.begin false false (.failed .mallocMissing) fun _ => .grown)
      [.start (.getFactory true), .answer 1 { Environment.calm with room := false }] := by
  intro hquiet
  -- the second step is the first request of `getFactory`
  have hstarted := hquiet.2 _ rfl
  have huse := hstarted.1 ⟨_, rfl, rfl⟩ (.use .wtMallocFunc false) (by decide)
  exact Bool.noConfusion huse

end WclapBridge.Spec
