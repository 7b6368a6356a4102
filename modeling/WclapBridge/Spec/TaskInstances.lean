import WclapBridge.Spec.InstanceOwnership

/-!
# What an operation reaches

An operation uses the main thread and the audio thread of its own plugin. The function of a
thread of the guest runs on the thread's own instance. The thread gives up its slot when the
function has returned; as one task alone runs it, the slot is not another thread's by then.

## Key results

- `safe_method`: the instances that a method of a plugin uses
- `tasksOk_step`: what a step keeps
- `instances_owned`: every run
-/

namespace WclapBridge.Spec

open WclapBridge.Native
open WclapModule (main)

/-! ## Operations -/

/-- A request to the main thread or to an audio thread. -/
def OfPlugin (audioThread : Nat) : Request → Prop
  | .memory i | .call i => i = main ∨ i = audioThread
  | .runThread _ => False
  | _ => True

section Safe

open Requests

variable {audioThread : Nat} {Q : UInt64 → Prop} {U : Unit → Prop}

@[simp] theorem safe_memory_main : (memory main).Safe (OfPlugin audioThread) U ↔ U () := by
  simp [memory, ask_, OfPlugin]

@[simp] theorem safe_memory_audioThread :
    (memory audioThread).Safe (OfPlugin audioThread) U ↔ U () := by
  simp [memory, ask_, OfPlugin]

@[simp] theorem safe_read_main :
    (Requests.read main).Safe (OfPlugin audioThread) Q ↔ ∀ x, Q x := by
  simp [Requests.read, OfPlugin]

@[simp] theorem safe_reserve : reserve.Safe (OfPlugin audioThread) U ↔ U () := by
  simp [reserve, ask_, OfPlugin]

@[simp] theorem safe_copyAcross : copyAcross.Safe (OfPlugin audioThread) U ↔ U () := by
  simp [copyAcross]

@[simp] theorem safe_call_main : (call main).Safe (OfPlugin audioThread) Q ↔ ∀ x, Q x := by
  simp [call, OfPlugin]

@[simp] theorem safe_call_audioThread :
    (call audioThread).Safe (OfPlugin audioThread) Q ↔ ∀ x, Q x := by
  simp [call, OfPlugin]

@[simp] theorem safe_copyThenCall (copies : Nat) (hQ : ∀ x, Q x) :
    (copyThenCall copies).Safe (OfPlugin audioThread) Q := by
  simp [copyThenCall, hQ]

@[simp] theorem safe_openEvents (eventsIn : ClapInputEvents) (hU : U ()) :
    (Requests.openEvents audioThread eventsIn).Safe (OfPlugin audioThread) U := by
  simp [Requests.openEvents, Requests.tryCopyInputEvent, hU]

@[simp] theorem safe_copyTransport (transport : Option NativeEvent) (hU : U ()) :
    (Requests.copyTransport transport).Safe (OfPlugin audioThread) U := by
  cases transport with
  | none => simp [Requests.copyTransport, hU]
  | some event => simp [Requests.copyTransport, hU]

@[simp] theorem safe_copyChannels (data : Option (Nat → Nat)) (channel_count : UInt32)
    (hU : U ()) :
    (Requests.copyChannels audioThread data channel_count).Safe (OfPlugin audioThread) U := by
  cases data with
  | none => simp [Requests.copyChannels, hU]
  | some data => simp [Requests.copyChannels, hU]

@[simp] theorem safe_translatePorts (ports : Nat → AudioBuffer) (count : UInt32) (hU : U ()) :
    (Requests.translatePorts audioThread ports count).Safe (OfPlugin audioThread) U := by
  simp [Requests.translatePorts, hU]

@[simp] theorem safe_copyBackChannels (data : Option (Nat → Nat)) (channel_count : UInt32)
    (hU : U ()) :
    (Requests.copyBackChannels audioThread data channel_count).Safe (OfPlugin audioThread) U := by
  cases data with
  | none => simp [Requests.copyBackChannels, hU]
  | some data => simp [Requests.copyBackChannels, hU]

/-- The methods of a plugin. -/
theorem safe_method (method : PluginMethod) :
    (method.requests audioThread).Safe (OfPlugin audioThread) fun _ => True := by
  cases method with
  | pluginProcess process => simp [PluginMethod.requests, Requests.pluginProcess]
  | pluginGetExtension pluginExtId => cases pluginExtId <;> simp [PluginMethod.requests]
  | configurableAudioPorts_can_apply_configuration requests
  | configurableAudioPorts_apply_configuration requests =>
    simp [PluginMethod.requests, configurableAudioPorts]
  | webview_get_uri uriCapacity =>
    simp [PluginMethod.requests, Requests.webview_get_uri]
  | webview_get_resource wasFileUri served =>
    simp [PluginMethod.requests, Requests.webview_get_resource]
  | webview_receive => simp [PluginMethod.requests, Requests.webview_receive]
  | _ =>
    simp [PluginMethod.requests, callVoid, getIfTrue, getAnyway, getArrayAnyway, withStream,
      guiContinue, guiGet]

/-- The functions of the module use the main thread only. -/
theorem safe_construct : Requests.construct.Safe (OfPlugin main) fun _ => True := by
  simp [Requests.construct, Requests.bindGlobalArena, ask_, OfPlugin]

theorem safe_readDescriptor : readDescriptor.Safe (OfPlugin main) fun _ => True := by
  have hfeatures (n : Nat) : (readFeatures n).Safe (OfPlugin main) fun _ => True := by
    induction n with
    | zero => simp [readFeatures]
    | succ n ih => simp [readFeatures, ih]
  simp [readDescriptor, readString, hfeatures]

theorem safe_getFactory (isPluginFactoryId : Bool) (pluginFactory : Option UInt64) :
    (Requests.getFactory isPluginFactoryId pluginFactory).Safe (OfPlugin main)
      fun _ => True := by
  cases isPluginFactoryId with
  | false => simp [Requests.getFactory]
  | true =>
    cases pluginFactory with
    | none =>
      simp [Requests.getFactory, newPluginFactory, safe_readDescriptor, ask_, OfPlugin]
    | some ptr => simp [Requests.getFactory]

theorem safe_createPlugin (found : Bool) :
    (Requests.createPlugin found).Safe (OfPlugin main) fun _ => True := by
  simp [Requests.createPlugin, ask_, OfPlugin]

end Safe

/-! ## Steps -/

/-- A task uses the main thread and the audio thread of one plugin, or it runs the function of
    a thread that has begun. -/
inductive TaskOk (m : WclapModule) (program : Requests UInt64) : Prop where
  | plugin {audioThread : Nat} (h : audioThread = main ∨ audioThread ∈ m.plugins)
    (hsafe : program.Safe (OfPlugin audioThread) fun _ => True)
  | thread {index : Nat} {thread : Thread} (h : m.threads[index]? = some (some thread))
    (hstarted : thread.started = true) (hprogram : program = Program.ask (.runThread index))

structure TasksOk (s : OpenWclap) : Prop where
  tasks : ∀ task ∈ s.tasks, TaskOk s.wclap task.program
  /-- The function of a thread is run by one task. -/
  once : ∀ (i j : Nat) (task task' : Task) (index : Nat), s.tasks[i]? = some task →
    s.tasks[j]? = some task' → task.program = Program.ask (.runThread index) →
    task'.program = Program.ask (.runThread index) → i = j

/-- What a task uses stays, if the slots of the threads that have begun do. -/
theorem TaskOk.mono {m m' : WclapModule} {program : Requests UInt64} (h : TaskOk m program)
    (hplugins : m.plugins <+: m'.plugins)
    (hthreads : ∀ index thread, program = Program.ask (.runThread index) →
      m.threads[index]? = some (some thread) → thread.started = true →
      m'.threads[index]? = some (some thread)) : TaskOk m' program := by
  cases h with
  | plugin h hsafe => exact .plugin (h.imp id fun hmem => hplugins.subset hmem) hsafe
  | thread h hstarted hprogram =>
    exact .thread (hthreads _ _ hprogram h hstarted) hstarted hprogram

theorem withInstance_plugins (m : WclapModule) (i : Nat)
    (f : InstanceImpl → InstanceGroup → UInt64 × InstanceGroup × List Effect) :
    (m.withInstance i f).2.1.plugins = m.plugins := by
  unfold WclapModule.withInstance
  split
  next => rfl
  next => rfl

/-- No plugin goes away. -/
theorem perform_plugins (m : WclapModule) (env : Environment) (r : Request) :
    m.plugins <+: (m.perform env r).2.1.plugins := by
  cases r with
  | memory i => exact (withInstance_plugins m i _).symm ▸ List.prefix_rfl
  | reserve =>
    simp only [WclapModule.perform]
    split
    next => exact List.prefix_rfl
    next => exact (withInstance_plugins m main _).symm ▸ List.prefix_rfl
  | call i => exact (withInstance_plugins m i _).symm ▸ List.prefix_rfl
  | init =>
    have hsame := withInstance_plugins m main fun instance_ group =>
      initInner instance_ env.init group
    exact hsame.symm ▸ List.prefix_rfl
  | newPlugin =>
    simp only [WclapModule.perform, WclapModule.newPlugin]
    split
    next => exact List.prefix_append _ _
    next => exact List.prefix_append _ _
  | runThread index =>
    simp only [WclapModule.perform]
    split
    next thread _ =>
      have hsame := withInstance_plugins m thread.instance_ fun instance_ group =>
        (0, runThread instance_ env.thread group)
      exact hsame.symm ▸ List.prefix_rfl
    next => exact List.prefix_rfl
  | _ => exact List.prefix_rfl

/-- A thread that ends leaves the other slots alone. -/
theorem perform_runThread (m : WclapModule) (env : Environment) {index k : Nat} (hne : k ≠ index) :
    (m.perform env (.runThread index)).2.1.threads[k]? = m.threads[k]? := by
  simp only [WclapModule.perform]
  split
  next thread _ =>
    have hsame := (m.withInstance_keepsThreads thread.instance_ fun instance_ group =>
      (0, runThread instance_ env.thread group)).threads
    rw [List.getElem?_set_ne hne.symm]
    exact congrArg (·[k]?) hsame
  next => rfl

/-- A new thread does not take the slot of another one. -/
theorem spawnThread_keeps (m : WclapModule) (outcome : SetupOutcome)
    (grow : HostFunction → GrowOutcome) :
    (m.spawnThread outcome grow).2.1.plugins = m.plugins ∧
      ∀ (index : Nat) (thread : Thread), m.threads[index]? = some (some thread) →
        (m.spawnThread outcome grow).2.1.threads[index]? = some (some thread) := by
  unfold WclapModule.spawnThread
  split
  next => exact ⟨rfl, fun _ _ h => h⟩
  next =>
    split
    next => exact ⟨rfl, fun _ _ h => h⟩
    next =>
      split
      next => exact ⟨rfl, fun _ _ h => h⟩
      next instance_ group effects _ =>
        have hplugins := registerHosts_plugins { m with instanceGroup := group } instance_ grow
          hostFunctions
        have hthreads := (WclapModule.registerHosts_keepsThreads { m with instanceGroup := group }
          instance_ grow hostFunctions).threads
        rw [← WclapModule.addHostFunctions] at hplugins hthreads
        split
        next heq =>
          rw [heq] at hplugins hthreads
          refine ⟨hplugins, fun index thread h => ?_⟩
          rw [← h]
          exact congrArg (·[index]?) hthreads
        next m' instance' heq =>
          rw [heq] at hplugins hthreads
          refine ⟨hplugins, fun index thread h => ?_⟩
          have hold : m'.threads[index]? = some (some thread) := by
            rw [← h]
            exact congrArg (·[index]?) hthreads
          have hne : index ≠ SlotTable.firstFree m'.threads := by
            rintro rfl
            exact SlotTable.getElem?_firstFree _ _ hold
          exact (SlotTable.getElem?_put_of_ne hne _ _).mpr hold

theorem not_runThread {program : Requests UInt64} {audioThread : Nat}
    (h : program.Safe (OfPlugin audioThread) fun _ => True) (index : Nat) :
    program ≠ Program.ask (.runThread index) := by
  rintro rfl
  exact h.1

/-- A task is replaced by one that does not run the function of a thread. -/
theorem TasksOk.set {s : OpenWclap} (h : TasksOk s) {m : WclapModule} {i : Nat} {task : Task}
    (htask : TaskOk m task.program)
    (hnot : ∀ index, task.program ≠ Program.ask (.runThread index))
    (hothers : ∀ (j : Nat) (task' : Task), j ≠ i → s.tasks[j]? = some task' →
      TaskOk m task'.program) :
    TasksOk ⟨m, s.tasks.set i task⟩ := by
  have hold : ∀ (j : Nat) (task' : Task) (index : Nat), (s.tasks.set i task)[j]? = some task' →
      task'.program = Program.ask (.runThread index) → s.tasks[j]? = some task' := by
    intro j task' index hj hprogram
    rw [List.getElem?_set] at hj
    split at hj
    next =>
      split at hj
      next =>
        cases hj
        exact absurd hprogram (hnot index)
      next => cases hj
    next => exact hj
  refine ⟨fun task' htask' => ?_, fun j k a b index hj hk ha hb => ?_⟩
  · obtain ⟨j, hj⟩ := List.mem_iff_getElem?.mp htask'
    rw [List.getElem?_set] at hj
    split at hj
    next =>
      split at hj
      next =>
        cases hj
        exact htask
      next => cases hj
    next hne => exact hothers j task' (fun heq => hne heq.symm) hj
  · exact h.once j k a b index (hold j a index hj ha) (hold k b index hk hb) ha hb

/-- There is one task more, which does not run the function of a thread that another one
    runs. -/
theorem TasksOk.append {s : OpenWclap} (h : TasksOk s) {m : WclapModule} {task : Task}
    (htask : TaskOk m task.program) (hothers : ∀ task' ∈ s.tasks, TaskOk m task'.program)
    (hnew : ∀ task' ∈ s.tasks, ∀ index, task'.program = Program.ask (.runThread index) →
      task.program ≠ Program.ask (.runThread index)) : TasksOk ⟨m, s.tasks ++ [task]⟩ := by
  refine ⟨fun task' htask' => ?_, fun j k a b index hj hk ha hb => ?_⟩
  · rcases List.mem_append.mp htask' with hold | hlast
    · exact hothers task' hold
    · cases List.mem_singleton.mp hlast
      exact htask
  · rcases List.getElem?_concat_cases hj with hj | ⟨rfl, rfl⟩
    · rcases List.getElem?_concat_cases hk with hk | ⟨rfl, rfl⟩
      · exact h.once j k a b index hj hk ha hb
      · exact absurd hb (hnew a (List.mem_of_getElem? hj) index ha)
    · rcases List.getElem?_concat_cases hk with hk | ⟨rfl, rfl⟩
      · exact absurd ha (hnew b (List.mem_of_getElem? hk) index hb)
      · rfl

/-- The thread whose function a task is about to run has not begun before. -/
theorem canStart_of_step {s t : OpenWclap} {op : Operation} (h : s.step (.start op) = some t) :
    s.canStart op = true := by
  unfold OpenWclap.step at h
  dsimp only at h
  split at h
  next hcan => exact hcan
  next => cases h

theorem canStart_runThread {s : OpenWclap} {index : Nat}
    (h : s.canStart (.runThread index) = true) :
    ∃ thread, s.wclap.threads[index]? = some (some thread) ∧ thread.started = false := by
  replace h : (s.wclap.threads.getD index none).any (fun thread => !thread.started) = true := h
  rw [List.getD_eq_getElem?_getD] at h
  rcases hindex : s.wclap.threads[index]? with _ | _ | thread
  · rw [hindex] at h
    cases h
  · rw [hindex] at h
    cases h
  · rw [hindex] at h
    exact ⟨thread, rfl, Bool.not_eq_true' _ ▸ h⟩

/-- An operation that begins is one more task. -/
theorem TasksOk.start {s t : OpenWclap} (h : TasksOk s) {op : Operation}
    (ht : s.step (.start op) = some t) : TasksOk t := by
  have hcan := canStart_of_step ht
  have hkeeps : ∀ task ∈ s.tasks, TaskOk (OpenWclap.started s.wclap op) task.program := by
    intro task htask
    apply (h.tasks task htask).mono
    · cases op <;> exact List.prefix_rfl
    · intro index thread _ hthread hstarted
      cases op with
      | runThread index' =>
        show (s.wclap.threads.modify index' _)[index]? = _
        rw [List.getElem?_modify, hthread]
        split
        next =>
          -- it has begun already
          show some (some { thread with started := true }) = _
          rw [← hstarted]
        next => rfl
      | _ => exact hthread
  cases OpenWclap.step_cases ht with
  | start op =>
    -- what is not a thread uses the main thread and perhaps the audio thread of a plugin
    have hplugin : ∀ {audioThread : Nat},
        (audioThread = main ∨ audioThread ∈ (OpenWclap.started s.wclap op).plugins) →
        (op.requests s.wclap).Safe (OfPlugin audioThread) (fun _ => True) →
        TasksOk ⟨OpenWclap.started s.wclap op, s.tasks ++
          [⟨s.wclap.instanceGroup.hasError, op.needsGuest s.wclap, op.requests s.wclap⟩]⟩ :=
      fun haudio hsafe => h.append (.plugin haudio hsafe) hkeeps
        fun _ _ index _ => not_runThread hsafe index
    cases op with
    | getFactory isPluginFactoryId => exact hplugin (.inl rfl) (safe_getFactory _ _)
    | createPlugin found => exact hplugin (.inl rfl) (safe_createPlugin found)
    | method plugin pluginMethod =>
      refine hplugin ?_ (safe_method pluginMethod)
      rw [List.getD_eq_getElem?_getD]
      cases hplugin : s.wclap.plugins[plugin]? with
      | none => exact .inl rfl
      | some audioThread => exact .inr (List.mem_of_getElem? hplugin)
    | runThread index =>
      obtain ⟨thread, hslot, hfresh⟩ := canStart_runThread hcan
      have hbegun : (OpenWclap.started s.wclap (.runThread index)).threads[index]? =
          some (some { thread with started := true }) := by
        show (s.wclap.threads.modify index _)[index]? = _
        rw [List.getElem?_modify, hslot]
        simp
      refine h.append (.thread hbegun rfl rfl) hkeeps ?_
      rintro task' htask' index' hprogram heq
      obtain ⟨rfl⟩ := Request.runThread.inj (Program.request.inj heq).1
      cases h.tasks task' htask' with
      | plugin _ hsafe => exact not_runThread hsafe _ hprogram
      | thread hslot' hstarted hprogram' =>
        obtain ⟨rfl⟩ := Request.runThread.inj
          (Program.request.inj (hprogram.symm.trans hprogram')).1
        cases hslot.symm.trans hslot'
        exact Bool.noConfusion (hfresh.symm.trans hstarted)

/-- An answer: what the task does next is still its own. -/
theorem TasksOk.answer {s t : OpenWclap} (h : TasksOk s) {i : Nat} {env : Environment}
    (ht : s.step (.answer i env) = some t) : TasksOk t := by
  cases OpenWclap.step_cases ht with
  | @answer _ late needsGuest r next _ hi =>
    cases h.tasks _ (List.mem_of_getElem? hi) with
    | plugin haudio hsafe =>
      have hr : ∀ index, r ≠ .runThread index := by
        rintro index rfl
        exact hsafe.1
      have hthreads := (s.wclap.perform_keepsThreads env hr).threads
      have hplugins := perform_plugins s.wclap env r
      have hnext := hsafe.2 (s.wclap.perform env r).1
      apply h.set (.plugin (haudio.imp id fun hmem => hplugins.subset hmem) hnext)
        (not_runThread hnext)
      intro j task' _ hj
      apply (h.tasks task' (List.mem_of_getElem? hj)).mono hplugins
      intro index thread _ hthread _
      rw [hthreads]
      exact hthread
    | @thread index thread hthread hstarted hprogram =>
      obtain ⟨rfl, rfl⟩ := Program.request.inj hprogram
      have hdone : TaskOk (s.wclap.perform env (.runThread index)).2.1
          (.done (s.wclap.perform env (.runThread index)).1) :=
        @TaskOk.plugin _ _ main (.inl rfl) trivial
      refine h.set hdone (fun index heq => by cases heq) fun j task' hne hj => ?_
      apply (h.tasks task' (List.mem_of_getElem? hj)).mono (perform_plugins _ _ _)
      intro index' thread' hprogram' hthread' _
      -- another task, and so another slot
      have hindex : index' ≠ index := by
        rintro rfl
        exact hne (h.once j i task' _ index' hj hi hprogram' rfl)
      rw [perform_runThread _ _ hindex]
      exact hthread'

theorem tasksOk_step {s t : OpenWclap} {a : Action} (h : TasksOk s) (ht : s.step a = some t) :
    TasksOk t := by
  cases a with
  | start op => exact h.start ht
  | answer i env => exact h.answer ht
  | getError =>
    cases OpenWclap.step_cases ht with
    | getError =>
      have hsame : s.wclap.getError.2.plugins = s.wclap.plugins ∧
          s.wclap.getError.2.threads = s.wclap.threads := by
        unfold WclapModule.getError
        split
        next => exact ⟨rfl, rfl⟩
        next => split <;> exact ⟨rfl, rfl⟩
      refine ⟨fun task htask => (h.tasks task htask).mono (hsame.1 ▸ List.prefix_rfl) ?_, h.once⟩
      intro index thread _ hthread _
      rw [hsame.2]
      exact hthread
  | spawnThread env =>
    cases OpenWclap.step_cases ht with
    | spawnThread =>
      obtain ⟨hplugins, hthreads⟩ := spawnThread_keeps s.wclap env.setup env.grow
      refine ⟨fun task htask => (h.tasks task htask).mono (hplugins ▸ List.prefix_rfl) ?_, h.once⟩
      exact fun index thread _ hthread _ => hthreads index thread hthread
  | growTable i entries =>
    cases OpenWclap.step_cases ht with
    | growTable =>
      exact ⟨fun task htask => (h.tasks task htask).mono List.prefix_rfl
        fun _ _ _ hthread _ => hthread, h.once⟩
  | setEntry i index entry =>
    cases OpenWclap.step_cases ht with
    | setEntry =>
      exact ⟨fun task htask => (h.tasks task htask).mono List.prefix_rfl
        fun _ _ _ hthread _ => hthread, h.once⟩

/-! ## Runs -/

/-- A request finds the instance that it is for. -/
def HasInstance (m : WclapModule) : Request → Prop
  | .memory i | .call i => i < m.instances.length
  | .runThread index => ∃ thread, m.threads[index]? = some (some thread) ∧
      thread.started = true ∧ thread.instance_ < m.instances.length
  | _ => True

/-- So does each request that is answered. -/
def FindsInstance (s : OpenWclap) : Action → Prop
  | .answer i _ => ∀ late needsGuest r next,
      s.tasks[i]? = some ⟨late, needsGuest, .request r next⟩ → HasInstance s.wclap r
  | _ => True

theorem findsInstance {s : OpenWclap} (howned : InstancesOwned s.wclap) (htasks : TasksOk s)
    (a : Action) : FindsInstance s a := by
  cases a with
  | answer i env =>
    intro late needsGuest r next hi
    cases htasks.tasks _ (List.mem_of_getElem? hi) with
    | @plugin audioThread haudio hsafe =>
      have hmain : main < s.wclap.instances.length := howned.inRange .mainThread main rfl
      have hlt : audioThread < s.wclap.instances.length := by
        rcases haudio with rfl | hmem
        · exact hmain
        · obtain ⟨plugin, hplugin⟩ := List.mem_iff_getElem?.mp hmem
          exact howned.inRange (.audioThread plugin) audioThread hplugin
      cases r with
      | memory i =>
        rcases hsafe.1 with rfl | rfl
        · exact hmain
        · exact hlt
      | call i =>
        rcases hsafe.1 with rfl | rfl
        · exact hmain
        · exact hlt
      | runThread index => exact hsafe.1.elim
      | _ => exact trivial
    | @thread index thread hslot hstarted hprogram =>
      obtain ⟨rfl, rfl⟩ := Program.request.inj hprogram
      exact ⟨thread, hslot, hstarted,
        howned.inRange (.thread index) _ (instanceOf_thread.mpr ⟨thread, hslot, rfl⟩)⟩
  | _ => exact trivial

end WclapBridge.Spec
