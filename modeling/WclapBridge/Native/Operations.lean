import WclapBridge.Native.Requests

/-!
# Operations on an open WCLAP

The operations of the API on a module, and their runs. Operations take turns
with each other, with the rest of the module's constructor, with the threads and
the callbacks of the guest, and with what guest code does to function tables: a
step of a run is one request, answered by `perform`.
-/

namespace WclapBridge.Native

/-! ## Operations -/

/-- The methods of `Plugin` which make requests, with what these depend on:
    `guiExt` is whether it is known, `helper` what the GUI helper answers. -/
inductive PluginMethod where
  | pluginInit
  | pluginDestroy
  | pluginActivate
  | pluginDeactivate
  | pluginStartProcessing
  | pluginStopProcessing
  | pluginReset
  | pluginProcess (process : ClapProcess)
  | pluginOnMainThread
  | pluginGetExtension (pluginExtId : ExtensionId)
  | ambisonic_is_config_supported
  | ambisonic_get_config
  | audioPortsActivation_can_activate_while_processing
  | audioPortsActivation_set_active
  | audioPortsConfig_count
  | audioPortsConfig_get
  | audioPortsConfig_select
  | audioPortsConfigInfo_current_config
  | audioPortsConfigInfo_get
  | audioPorts_count
  | audioPorts_get
  | configurableAudioPorts_can_apply_configuration (requests : List Bool)
  | configurableAudioPorts_apply_configuration (requests : List Bool)
  | gui_create (created guiExt : Bool)
  | gui_destroy (guiExt : Bool)
  | gui_get_size (guiExt : Bool) (helper : UInt64)
  | gui_can_resize (guiExt : Bool) (helper : UInt64)
  | gui_get_resize_hints (guiExt : Bool) (helper : UInt64)
  | gui_adjust_size (guiExt : Bool) (helper : UInt64)
  | gui_set_size (guiExt : Bool) (helper : UInt64)
  | gui_suggest_title (guiExt : Bool)
  | gui_show (guiExt : Bool) (helper : UInt64)
  | gui_hide (guiExt : Bool) (helper : UInt64)
  | latency_get
  | noteName_count
  | noteName_get
  | notePorts_count
  | notePorts_get
  | paramIndication_set_mapping (color label description : Bool)
  | paramIndication_set_automation (color : Bool)
  | params_count
  | params_get_info
  | params_get_value
  | params_value_to_text
  | params_text_to_value
  | params_flush (eventsIn : ClapInputEvents)
  | presetLoad_from_location (location load_key : Bool)
  | remoteControls_count
  | remoteControls_get
  | render_has_hard_realtime_requirement
  | render_set
  | stateContext_save
  | stateContext_load
  | state_save
  | state_load
  | surround_is_channel_mask_supported
  | surround_get_channel_map
  | tail_get
  | threadPool_exec
  | timerSupport_on_timer
  | trackInfo_changed
  | voiceInfo_get
  | webview_get_uri (uriCapacity : UInt32)
  | webview_get_resource (wasFileUri : Bool) (served : UInt64)
  | webview_receive

namespace PluginMethod

open Requests
open WclapModule (main)

/-- The requests of a method of a plugin with an audio thread. -/
def requests (audioThread : Nat) : PluginMethod → Requests UInt64
  | pluginInit | audioPortsActivation_can_activate_while_processing
  | audioPortsActivation_set_active | audioPortsConfig_count | audioPortsConfig_select
  | audioPortsConfigInfo_current_config | audioPorts_count | latency_get | noteName_count
  | notePorts_count | params_count | remoteControls_count
  | render_has_hard_realtime_requirement | render_set | surround_is_channel_mask_supported
  | tail_get => call main
  | pluginDestroy | pluginOnMainThread | threadPool_exec | timerSupport_on_timer
  | trackInfo_changed => callVoid main
  | pluginActivate | pluginStartProcessing => call audioThread
  | pluginDeactivate | pluginStopProcessing | pluginReset => callVoid audioThread
  | pluginProcess process => Requests.pluginProcess audioThread process
  | pluginGetExtension pluginExtId => do
    let wclapExt ← copyThenCall 1
    match pluginExtId with
    | .known _ => return wclapExt -- the static struct, unless `wclapExt` is null
    | .other _ => return 0
  | ambisonic_is_config_supported => copyThenCall 1
  | ambisonic_get_config | noteName_get | remoteControls_get | voiceInfo_get => getIfTrue 1
  | audioPortsConfig_get => getIfTrue 3
  | audioPortsConfigInfo_get => getIfTrue 2
  | audioPorts_get => getAnyway 1 2
  | notePorts_get | params_get_info | params_get_value => getAnyway 1 1
  | params_text_to_value => getAnyway 2 1
  | params_value_to_text | surround_get_channel_map => getArrayAnyway
  | configurableAudioPorts_can_apply_configuration requests
  | configurableAudioPorts_apply_configuration requests => configurableAudioPorts requests
  | gui_create created guiExt => if created then guiContinue guiExt 1 1 else pure 0
  | gui_destroy guiExt => guiContinue guiExt 0 0
  | gui_get_size guiExt helper => guiGet guiExt 2 2 helper
  | gui_can_resize guiExt helper => if guiExt then call main else pure helper
  | gui_get_resize_hints guiExt helper => guiGet guiExt 1 1 helper
  | gui_adjust_size guiExt helper => guiGet guiExt 2 2 helper
  | gui_set_size guiExt helper | gui_show guiExt helper | gui_hide guiExt helper =>
    guiContinue guiExt 0 helper
  | gui_suggest_title guiExt => guiContinue guiExt 1 0
  | paramIndication_set_mapping color label description => do
    let _ ← copyThenCall (color.toNat + label.toNat + description.toNat)
    return 0
  | paramIndication_set_automation color => do
    let _ ← copyThenCall color.toNat
    return 0
  | params_flush eventsIn => do
    Requests.openEvents audioThread eventsIn
    callVoid main
  | presetLoad_from_location location load_key =>
    copyThenCall (location.toNat + load_key.toNat)
  | stateContext_save | stateContext_load | state_save | state_load => withStream
  | webview_get_uri uriCapacity => Requests.webview_get_uri uriCapacity
  | webview_get_resource wasFileUri served => Requests.webview_get_resource wasFileUri served
  | webview_receive => Requests.webview_receive

/-- The methods whose answer is the guest's. The GUI methods go on without it,
    and files are served without it. -/
def needsGuest : PluginMethod → Bool
  | gui_create _ _ | gui_destroy _ | gui_get_size _ _ | gui_can_resize _ _
  | gui_get_resize_hints _ _ | gui_adjust_size _ _ | gui_set_size _ _ | gui_suggest_title _
  | gui_show _ _ | gui_hide _ _ => false
  | webview_get_resource wasFileUri _ => !wasFileUri
  | _ => true

end PluginMethod

/-- What can be begun on an open WCLAP. -/
inductive Operation where
  | getFactory (isPluginFactoryId : Bool)
  /-- `found` is whether there is a descriptor with the id. -/
  | createPlugin (found : Bool)
  | method (plugin : Nat) (pluginMethod : PluginMethod)
  /-- A thread which the guest has spawned begins. -/
  | runThread (index : Nat)

namespace Operation

/-- The requests of an operation that begins now. -/
def requests (m : WclapModule) : Operation → Requests UInt64
  | getFactory isPluginFactoryId => Requests.getFactory isPluginFactoryId m.pluginFactory
  | createPlugin found => Requests.createPlugin found
  | method plugin pluginMethod =>
    pluginMethod.requests (m.plugins.getD plugin WclapModule.main)
  | runThread index => Program.ask (.runThread index)

/-- Whether the answer of an operation that begins now is the guest's. -/
def needsGuest (m : WclapModule) : Operation → Bool
  | getFactory isPluginFactoryId => isPluginFactoryId && m.pluginFactory.isNone
  | createPlugin found => found
  | method _ pluginMethod => pluginMethod.needsGuest
  | runThread _ => true

end Operation

/-! ## Requests -/

/-- What comes of a request: of its calls of Wasmtime, and of what the model
    leaves open. -/
structure Environment where
  /-- What is read from guest memory. -/
  value : UInt64
  /-- Whether the arena scope has memory left, so that no `malloc()` is needed. -/
  room : Bool
  malloc : CallOutcome
  call : TableCallOutcome
  init : InitOutcome
  thread : ThreadOutcome
  setup : SetupOutcome
  grow : HostFunction → GrowOutcome

/-- Everything goes well. -/
def Environment.calm : Environment where
  value := 0
  room := true
  malloc := .returned 1024
  call := .called (.returned 1)
  init := .entry true 16
  thread := .called (.returned 0)
  setup := .ready [.null]
  grow _ := .grown

namespace WclapModule

/-- Let an instance of the module do something. -/
def withInstance (m : WclapModule) (i : Nat)
    (f : InstanceImpl → InstanceGroup → UInt64 × InstanceGroup × List Effect) :
    UInt64 × WclapModule × List Effect :=
  match m.instances[i]? with
  | none => (0, m, [])
  | some instance_ =>
    let (value, group, effects) := f instance_ m.instanceGroup
    (value, { m with instanceGroup := group }, effects)

/-- The answer to a request, and its effects. -/
def perform (m : WclapModule) (env : Environment) : Request → UInt64 × WclapModule × List Effect
  | .memory i => m.withInstance i fun instance_ group =>
      (env.value, group, wasmMemoryHandles instance_ group)
  | .reserve =>
    -- an arena takes more memory from the guest when it has no room left
    if env.room then (0, m, [])
    else m.withInstance main fun instance_ group => wtMalloc instance_ env.malloc group
  | .call i => m.withInstance i fun instance_ group => wtCall instance_ env.call group
  | .init =>
    let (entry, m, effects) :=
      m.withInstance main fun instance_ group => initInner instance_ env.init group
    -- `init32` truncates the address
    (if m.is64 then entry else entry.toUInt32.toUInt64, m, effects)
  | .newPlugin =>
    let (m, effects) := m.newPlugin env.setup
    (0, m, effects)
  | .setPluginFactory ptr => (0, { m with pluginFactory := some ptr }, [])
  | .setError error => (0, m.setError error, [])
  | .clearError => (0, { m with hasError := false }, [])
  | .runThread index =>
    match m.threads[index]? with
    | some (some thread) =>
      -- the slot is free again when the thread has ended
      let (_, m, effects) := m.withInstance thread.instance_ fun instance_ group =>
        let (group, effects) := runThread instance_ env.thread group
        (0, group, effects)
      (0, { m with threads := m.threads.set index none }, effects)
    | _ => (0, m, [])

theorem withInstance_follows (m : WclapModule) (i : Nat)
    (f : InstanceImpl → InstanceGroup → UInt64 × InstanceGroup × List Effect)
    (hf : ∀ instance_, m.instanceGroup.Follows (f instance_ m.instanceGroup).2.1) :
    m.Follows (m.withInstance i f).2.1 := by
  unfold withInstance
  split
  next => exact .refl m
  next instance_ _ => exact ⟨id, hf instance_⟩

theorem withInstance_instances (m : WclapModule) (i : Nat)
    (f : InstanceImpl → InstanceGroup → UInt64 × InstanceGroup × List Effect) :
    (m.withInstance i f).2.1.instances = m.instances ∧
      (m.withInstance i f).2.1.hostIndex = m.hostIndex := by
  unfold withInstance
  split <;> exact ⟨rfl, rfl⟩

/-- One request alone loses a failure. -/
theorem perform_follows (m : WclapModule) (env : Environment) {r : Request}
    (hr : r ≠ .clearError) : m.Follows (m.perform env r).2.1 := by
  cases r with
  | memory i => exact m.withInstance_follows i _ fun _ => .refl _
  | reserve =>
    simp only [perform]
    split
    next => exact .refl m
    next =>
      exact m.withInstance_follows main _ fun instance_ =>
        wtMalloc_follows instance_ env.malloc m.instanceGroup
  | call i => exact m.withInstance_follows i _ fun instance_ => wtCall_follows instance_ _ _
  | init => exact m.withInstance_follows main _ fun instance_ => initInner_follows instance_ _ _
  | newPlugin => exact m.newPlugin_follows env.setup
  | setPluginFactory ptr => exact ⟨id, .refl _⟩
  | setError error => exact (Follows.refl m).setError error
  | clearError => exact absurd rfl hr
  | runThread index =>
    simp only [perform]
    split
    next thread _ =>
      have hthread := m.withInstance_follows thread.instance_
        (fun instance_ group => (0, runThread instance_ env.thread group))
        fun instance_ => runThread_follows instance_ _ _
      exact ⟨hthread.hasError, hthread.instanceGroup⟩
    next => exact .refl m

/-- Instances are created for plugins only, and host functions are registered by
    other functions. -/
theorem perform_instances (m : WclapModule) (env : Environment) {r : Request}
    (hr : r ≠ .newPlugin) :
    (m.perform env r).2.1.instances = m.instances ∧
      (m.perform env r).2.1.hostIndex = m.hostIndex := by
  cases r with
  | memory i => exact m.withInstance_instances i _
  | reserve =>
    simp only [perform]
    split
    next => exact ⟨rfl, rfl⟩
    next => exact m.withInstance_instances main _
  | call i => exact m.withInstance_instances i _
  | init =>
    exact m.withInstance_instances main fun instance_ group => initInner instance_ env.init group
  | newPlugin => exact absurd rfl hr
  | setPluginFactory ptr => exact ⟨rfl, rfl⟩
  | setError error => exact ⟨rfl, rfl⟩
  | clearError => exact ⟨rfl, rfl⟩
  | runThread index =>
    simp only [perform]
    split
    next thread _ =>
      exact m.withInstance_instances thread.instance_ fun instance_ group =>
        (0, runThread instance_ env.thread group)
    next => exact ⟨rfl, rfl⟩

/-- No instance goes away. -/
theorem perform_prefix (m : WclapModule) (env : Environment) (r : Request) :
    m.instances <+: (m.perform env r).2.1.instances := by
  by_cases hr : r = .newPlugin
  · subst hr
    exact m.newPlugin_instances env.setup
  · exact (m.perform_instances env hr).1 ▸ List.prefix_rfl

/-- The error of the group stays. -/
theorem perform_group_follows (m : WclapModule) (env : Environment) (r : Request) :
    m.instanceGroup.Follows (m.perform env r).2.1.instanceGroup := by
  by_cases hr : r = .clearError
  · subst hr
    exact .refl _
  · exact (m.perform_follows env hr).instanceGroup

end WclapModule

/-! ## Runs -/

/-- An operation on its way. -/
structure Task where
  /-- Whether the group had an error when it began. -/
  late : Bool
  needsGuest : Bool
  program : Requests UInt64

/-- A WCLAP between `wclap_open` and `wclap_close`. The first task is the
    module's constructor, and so a part of `wclap_open`. -/
structure OpenWclap where
  wclap : WclapModule
  tasks : List Task

/-- What can happen to an open WCLAP. -/
inductive Action where
  /-- `wclap_get_error`. -/
  | getError
  | start (op : Operation)
  /-- The next request of a task is answered. -/
  | answer (task : Nat) (env : Environment)
  /-- Guest code calls `wasi::thread-spawn`. -/
  | spawnThread (env : Environment)
  /-- Guest code adds entries to its function table. -/
  | growTable (i : Nat) (entries : List TableEntry)
  /-- Guest code assigns to an entry of its function table. -/
  | setEntry (i index : Nat) (entry : TableEntry)

namespace OpenWclap

/-- `wclap_open` up to `mainThread->init()`, for a module without an error in
    its group. -/
def begin (is64 shared : Bool) (setup : SetupOutcome) (grow : HostFunction → GrowOutcome) :
    OpenWclap :=
  let (goesOn, wclap) := WclapModule.construct is64 shared setup grow
  { wclap, tasks := [⟨false, false, if goesOn then Requests.construct else pure 0⟩] }

/-- Whether `wclap_open` has returned. -/
def returned (s : OpenWclap) : Bool :=
  s.tasks.head?.any fun task => task.program.isDone

/-- Whether an operation can begin. -/
def canStart (s : OpenWclap) : Operation → Bool
  -- the host has the module when `wclap_open` has returned, the factory when it
  -- is not null, and a plugin when it has been created
  | .getFactory _ => s.returned
  | .createPlugin _ => s.returned && s.wclap.pluginFactory.any (· != 0)
  | .method plugin _ => s.returned && plugin < s.wclap.plugins.length
  | .runThread index => (s.wclap.threads.getD index none).any fun thread => !thread.started

/-- The module after an operation has begun: a thread begins once. -/
def started (m : WclapModule) : Operation → WclapModule
  | .runThread index =>
    { m with threads := m.threads.modify index (Option.map ({ · with started := true })) }
  | _ => m

/-- What a step does outside of the bridge. -/
def effects (s : OpenWclap) : Action → List Effect
  | .answer task env =>
    match s.tasks[task]? with
    | some ⟨_, _, .request r _⟩ => (s.wclap.perform env r).2.2
    | _ => []
  | .spawnThread env => (s.wclap.spawnThread env.setup env.grow).2.2
  | _ => []

/-- A step of a run. -/
def step (s : OpenWclap) : Action → Option OpenWclap
  | .getError => if s.returned then some { s with wclap := s.wclap.getError.2 } else none
  | .start op =>
    if s.canStart op then
      some
        { wclap := started s.wclap op
          tasks := s.tasks ++
            [⟨s.wclap.instanceGroup.hasError, op.needsGuest s.wclap, op.requests s.wclap⟩] }
    else none
  | .answer i env =>
    match s.tasks[i]? with
    | some ⟨late, needsGuest, .request r next⟩ =>
      let (x, wclap, _) := s.wclap.perform env r
      some { wclap, tasks := s.tasks.set i ⟨late, needsGuest, next x⟩ }
    | _ => none
  | .spawnThread env =>
    some { s with wclap := (s.wclap.spawnThread env.setup env.grow).2.1 }
  | .growTable i entries =>
    some { s with wclap.instances := s.wclap.instances.modify i fun instance_ =>
      { instance_ with table := instance_.table ++ entries } }
  | .setEntry i index entry =>
    some { s with wclap.instances := s.wclap.instances.modify i fun instance_ =>
      { instance_ with table := instance_.table.set index entry } }

/-- The steps, by their actions. -/
inductive Stepped (s : OpenWclap) : Action → OpenWclap → Prop where
  | getError : Stepped s .getError { s with wclap := s.wclap.getError.2 }
  | start (op : Operation) :
    Stepped s (.start op)
      { wclap := started s.wclap op
        tasks := s.tasks ++
          [⟨s.wclap.instanceGroup.hasError, op.needsGuest s.wclap, op.requests s.wclap⟩] }
  | answer {i : Nat} {late needsGuest : Bool} {r : Request} {next : UInt64 → Requests UInt64}
    (env : Environment) (h : s.tasks[i]? = some ⟨late, needsGuest, .request r next⟩) :
    Stepped s (.answer i env)
      { wclap := (s.wclap.perform env r).2.1
        tasks := s.tasks.set i ⟨late, needsGuest, next (s.wclap.perform env r).1⟩ }
  | spawnThread (env : Environment) :
    Stepped s (.spawnThread env)
      { s with wclap := (s.wclap.spawnThread env.setup env.grow).2.1 }
  | growTable (i : Nat) (entries : List TableEntry) :
    Stepped s (.growTable i entries)
      { s with wclap.instances := s.wclap.instances.modify i fun instance_ =>
        { instance_ with table := instance_.table ++ entries } }
  | setEntry (i index : Nat) (entry : TableEntry) :
    Stepped s (.setEntry i index entry)
      { s with wclap.instances := s.wclap.instances.modify i fun instance_ =>
        { instance_ with table := instance_.table.set index entry } }

theorem step_cases {s t : OpenWclap} {a : Action} (h : s.step a = some t) : Stepped s a t := by
  unfold step at h
  split at h
  next =>
    split at h
    next => cases h; exact .getError
    next => cases h
  next op =>
    split at h
    next => cases h; exact .start op
    next => cases h
  next i env =>
    split at h
    next heq => cases h; exact .answer env heq
    next => cases h
  next env => cases h; exact .spawnThread env
  next i entries => cases h; exact .growTable i entries
  next i index entry => cases h; exact .setEntry i index entry

/-- The action has the constructor clear `hasError`. -/
def Clears (s : OpenWclap) (a : Action) : Prop :=
  ∃ i env late needsGuest next,
    a = .answer i env ∧ s.tasks[i]? = some ⟨late, needsGuest, .request .clearError next⟩

/-- No other step loses a failure. -/
theorem step_follows {s t : OpenWclap} {a : Action} (h : s.step a = some t)
    (ha : ¬ s.Clears a) : s.wclap.Follows t.wclap := by
  cases step_cases h with
  | getError => exact s.wclap.getError_follows
  | start op => cases op <;> exact ⟨id, .refl _⟩
  | answer env htask =>
    -- of the requests, only `clearError` loses a failure
    refine s.wclap.perform_follows env fun hr => ha ?_
    subst hr
    exact ⟨_, _, _, _, _, rfl, htask⟩
  | spawnThread env => exact s.wclap.spawnThread_follows env.setup env.grow
  | growTable i entries => exact ⟨id, .refl _⟩
  | setEntry i index entry => exact ⟨id, .refl _⟩

theorem step_group_follows {s t : OpenWclap} {a : Action} (h : s.step a = some t) :
    s.wclap.instanceGroup.Follows t.wclap.instanceGroup := by
  by_cases ha : s.Clears a
  · obtain ⟨i, env, late, needsGuest, next, rfl, htask⟩ := ha
    cases step_cases h with
    | answer _ htask' => exact s.wclap.perform_group_follows env _
  · exact (step_follows h ha).instanceGroup

end OpenWclap

end WclapBridge.Native
