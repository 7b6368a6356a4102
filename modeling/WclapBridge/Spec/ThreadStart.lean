import WclapBridge.Spec.HostTables
import WclapBridge.Spec.ThreadTable

/-!
# The start of a thread

A thread that has been spawned calls `wasi_thread_start` with its number and its
argument, unless `hadInit` is not set when it looks. That is so as long as
`_initialize()` runs, although guest code can spawn threads there.

## Key results

- `registerHosts_ok`: what has been registered again was registered without an
  error
- `threads_start_iff`: all threads start in exactly those runs in which none looks
  at `hadInit` too early
- `thread_refused`: a thread that does
-/

namespace WclapBridge.Spec

open WclapBridge.Native
open ThreadedWclap (step)

/-! ## What a spawn is good for -/

/-- The calls of `wasi_thread_start` on the instance of a thread. -/
def startsOf (s : ThreadedWclap) (thread : SpawnedThread) : List StartCall :=
  s.starts.filter (·.instance_ = thread.instance_)

/-- A thread starts once, with its number and its argument, unless there was an
    error or a request to stop when it began. -/
def StartsOnce (s : ThreadedWclap) (thread : SpawnedThread) : Prop :=
  match thread.phase with
  | .created | .starting _ => startsOf s thread = []
  | .refused => thread.late = true ∧ startsOf s thread = []
  | .running | .returned | .ended =>
    startsOf s thread = [⟨thread.instance_, thread.id, thread.given⟩] ∨
      (thread.late = true ∧ startsOf s thread = [])

/-- A thread that has not started yet can go on, at the latest when the destructor
    has unlocked `threadMutex`. -/
structure CanStart (host : ThreadHost) (s : ThreadedWclap) : Prop where
  created : ∀ k, s.phase k = some .created → s.unlocked = true →
    (step host s (.startUp k)).isSome = true
  starting : ∀ k thread, s.phase k = some (.starting thread) →
    (step host s (.runThread k)).isSome = true
  locked : s.unlocked = false → (step host s .clearContext).isSome = true

/-- A spawn that returns a number is not the cause of an error. -/
def SpawnHarmless (host : ThreadHost) (s : ThreadedWclap) (a : ThreadAction) : Prop :=
  ∀ t c setup grow id, a = .spawn c setup grow → step host s a = some t →
    t.answers = s.answers ++ [(c, id)] → 1 ≤ id.toInt →
    t.wclap.instanceGroup.hasError = true → s.wclap.instanceGroup.hasError = true

/-- A thread looks at `hadInit` when it is set. -/
def StartsAfterInit (s : ThreadedWclap) (a : ThreadAction) : Prop :=
  ∀ k thread found, a = .runThread k → s.spawned[k]? = some thread →
    thread.phase = .starting found → s.wclap.instanceGroup.hadInit = true ∨ thread.late = true

/-! ## Registering again -/

/-- The index of a host function that has been registered. -/
def ValidIndex (index : UInt64) : Prop :=
  index ≠ 0 ∧ index ≠ 0xFFFFFFFF

/-- Without an error, the function is at the end of the table. -/
theorem registerHost_grown {m : WclapModule} {instance_ : InstanceImpl} {fn : HostFunction}
    {outcome : GrowOutcome}
    (h : (m.registerHost instance_ fn outcome).2.1.instanceGroup.hasError = false) :
    (m.registerHost instance_ fn outcome).2.2.table ≠ [] ∧
      (instance_.table ≠ [] →
        ValidIndex ((m.registerHost instance_ fn outcome).2.1.hostIndex fn)) := by
  rw [m.registerHost_group] at h
  obtain ⟨hlt, hgrown⟩ := registerHostGeneric_grown h
  have hindex : instance_.table ≠ [] → ValidIndex (UInt64.ofNat instance_.table.length) := by
    intro htable
    have hpos := List.length_pos_iff.mpr htable
    have hlength : (UInt64.ofNat instance_.table.length).toNat = instance_.table.length :=
      UInt64.toNat_ofNat_of_lt' (Nat.lt_trans (Nat.lt_of_succ_lt hlt) (by decide))
    constructor
    · intro hzero
      rw [hzero] at hlength
      exact Nat.ne_of_lt hpos hlength
    · intro hmax
      rw [hmax] at hlength
      have : instance_.table.length = 0xFFFFFFFF := hlength.symm
      omega
  unfold WclapModule.registerHost
  rw [hgrown]
  dsimp only
  rw [truncated_index hlt]
  split
  next => simpa [WclapModule.setError] using hindex
  next =>
    split
    next => simpa [WclapModule.setError] using hindex
    next => simpa using hindex

/-- After an error, the index is -1. -/
theorem registerHostGeneric_failed {instance_ : InstanceImpl} {fn : HostFunction}
    {outcome : GrowOutcome} {group : InstanceGroup}
    (h : (registerHostGeneric instance_ fn outcome group).2.2.1.hasError = true) :
    (registerHostGeneric instance_ fn outcome group).1 = 0xFFFFFFFFFFFFFFFF := by
  unfold registerHostGeneric at h ⊢
  split
  next => rfl
  next herror =>
    rw [if_neg herror] at h
    cases outcome with
    | noType | error e => rfl
    | grown =>
      dsimp only at h ⊢
      split
      next => rfl
      next hlt =>
        rw [if_neg hlt] at h
        exact absurd h herror

/-- A function that has an index gets it again, or there is an error. -/
theorem registerHost_ok {m : WclapModule} {instance_ : InstanceImpl} {fn : HostFunction}
    {outcome : GrowOutcome} (h : (m.registerHost instance_ fn outcome).1 = true)
    (hindex : ValidIndex (m.hostIndex fn)) :
    (m.registerHost instance_ fn outcome).2.1.instanceGroup.hasError = false := by
  refine Bool.eq_false_iff.mpr fun herror => ?_
  rw [m.registerHost_group] at herror
  have hfailed := registerHostGeneric_failed herror
  unfold WclapModule.registerHost at h
  dsimp only at h
  rw [hfailed] at h
  split at h
  next => cases h
  next =>
    split at h
    next => cases h
    next hmatch => exact hmatch ⟨hindex.1, fun heq => hindex.2 heq.symm⟩

theorem registerHost_hostIndex_of_ne {m : WclapModule} {instance_ : InstanceImpl}
    {fn f : HostFunction} (outcome : GrowOutcome) (hf : f ≠ fn) :
    (m.registerHost instance_ fn outcome).2.1.hostIndex f = m.hostIndex f := by
  unfold WclapModule.registerHost
  dsimp only
  split
  next => exact if_neg hf
  next => split <;> exact if_neg hf

/-- The last of several functions that are registered has an index, and so there
    is no error if all goes well. -/
theorem registerHosts_ok {m : WclapModule} {instance_ : InstanceImpl}
    {grow : HostFunction → GrowOutcome} {fns : List HostFunction} {last : HostFunction}
    (hlast : last ∉ fns) (hindex : ValidIndex (m.hostIndex last))
    (h : (m.registerHosts instance_ grow (fns ++ [last])).1 = true) :
    (m.registerHosts instance_ grow (fns ++ [last])).2.1.instanceGroup.hasError = false := by
  induction fns generalizing m instance_ with
  | nil =>
    have hok := @registerHost_ok m instance_ last (grow last)
    simp only [List.nil_append, WclapModule.registerHosts] at h ⊢
    split
    next heq =>
      rw [heq] at h
      cases h
    next heq =>
      rw [heq] at hok
      exact hok rfl hindex
  | cons fn fns ih =>
    obtain ⟨hfn, hfns⟩ := not_or.mp (List.mem_cons.not.mp hlast)
    have hother := @registerHost_hostIndex_of_ne m instance_ fn _ (grow fn) hfn
    simp only [List.cons_append, WclapModule.registerHosts] at h ⊢
    split
    next heq =>
      rw [heq] at h
      cases h
    next heq =>
      rw [heq] at h hother
      exact ih hfns (hother ▸ hindex) h

/-- It keeps an index, or gets one, unless there is an error. -/
theorem registerHosts_validIndex {m : WclapModule} {instance_ : InstanceImpl}
    {grow : HostFunction → GrowOutcome} {fns : List HostFunction} {last : HostFunction}
    (hlast : last ∉ fns) (htable : fns ≠ [] ∨ instance_.table ≠ [])
    (hindex : ValidIndex (m.hostIndex last) ∨
      (m.registerHosts instance_ grow (fns ++ [last])).1 = true)
    (h : (m.registerHosts instance_ grow (fns ++ [last])).2.1.instanceGroup.hasError = false) :
    ValidIndex ((m.registerHosts instance_ grow (fns ++ [last])).2.1.hostIndex last) := by
  induction fns generalizing m instance_ with
  | nil =>
    have hgrown := @registerHost_grown m instance_ last (grow last)
    simp only [List.nil_append, WclapModule.registerHosts] at h ⊢
    split
    next heq =>
      rw [heq] at h hgrown
      exact (hgrown h).2 (htable.resolve_left fun hne => hne rfl)
    next heq =>
      rw [heq] at h hgrown
      exact (hgrown h).2 (htable.resolve_left fun hne => hne rfl)
  | cons fn fns ih =>
    obtain ⟨hfn, hfns⟩ := not_or.mp (List.mem_cons.not.mp hlast)
    have hother := @registerHost_hostIndex_of_ne m instance_ fn _ (grow fn) hfn
    have hgrown := @registerHost_grown m instance_ fn (grow fn)
    simp only [List.cons_append, WclapModule.registerHosts] at h hindex ⊢
    split
    next heq =>
      -- the registration ends here, before it comes to the last function
      rw [heq] at hother hindex
      exact hother ▸ hindex.resolve_right fun hok => Bool.noConfusion hok
    next m₁ instance₁ heq =>
      rw [heq] at h hother hindex hgrown
      have hfollows := m₁.registerHosts_follows instance₁ grow (fns ++ [last])
      have hgroup := hfollows.instanceGroup.hasError_eq_false h
      exact ih hfns (.inr (hgrown hgroup).1) (hindex.imp_left fun hvalid => hother ▸ hvalid) h

/-- Without an error, the last host function has an index. -/
def Registered (m : WclapModule) : Prop :=
  m.instanceGroup.hasError = false → ValidIndex (m.hostIndex .hostWebview_send)

private theorem hostFunctions_eq :
    hostFunctions = hostFunctions.dropLast ++ [.hostWebview_send] := rfl

private theorem hostWebview_send_not_mem : .hostWebview_send ∉ hostFunctions.dropLast := by
  decide

theorem Registered.mono {m m' : WclapModule} (hm : Registered m)
    (hindex : m'.hostIndex = m.hostIndex) (hgroup : m.instanceGroup.Follows m'.instanceGroup) :
    Registered m' :=
  fun h => hindex ▸ hm (hgroup.hasError_eq_false h)

theorem addHostFunctions_validIndex {m : WclapModule} {instance_ : InstanceImpl}
    {grow : HostFunction → GrowOutcome}
    (hindex : ValidIndex (m.hostIndex .hostWebview_send) ∨
      (m.addHostFunctions instance_ grow).1 = true)
    (hgroup : (m.addHostFunctions instance_ grow).2.1.instanceGroup.hasError = false) :
    ValidIndex ((m.addHostFunctions instance_ grow).2.1.hostIndex .hostWebview_send) := by
  rw [WclapModule.addHostFunctions, hostFunctions_eq] at hgroup hindex ⊢
  exact registerHosts_validIndex hostWebview_send_not_mem (.inl (by decide)) hindex hgroup

theorem addHostFunctions_registered {m : WclapModule} (instance_ : InstanceImpl)
    (grow : HostFunction → GrowOutcome) (hm : Registered m) :
    Registered (m.addHostFunctions instance_ grow).2.1 := by
  intro hgroup
  have hfollows := m.registerHosts_follows instance_ grow hostFunctions
  have hindex := hm (hfollows.instanceGroup.hasError_eq_false hgroup)
  exact addHostFunctions_validIndex (.inl hindex) hgroup

theorem addHostFunctions_ok {m : WclapModule} (instance_ : InstanceImpl)
    (grow : HostFunction → GrowOutcome) (hindex : ValidIndex (m.hostIndex .hostWebview_send))
    (h : (m.addHostFunctions instance_ grow).1 = true) :
    (m.addHostFunctions instance_ grow).2.1.instanceGroup.hasError = false := by
  rw [WclapModule.addHostFunctions, hostFunctions_eq] at h ⊢
  exact registerHosts_ok hostWebview_send_not_mem hindex h

theorem construct_registered (is64 shared : Bool) (setup : SetupOutcome)
    (grow : HostFunction → GrowOutcome) :
    Registered (WclapModule.construct is64 shared setup grow).2 := by
  obtain ⟨mainThread, effects, -, hinstances, hindex⟩ := WclapModule.base_spec is64 shared setup
  intro hgroup
  obtain ⟨ok, m, instance', hadd, heq⟩ := WclapModule.construct_of_ok hinstances hgroup
  rw [heq] at hgroup ⊢
  dsimp only at hgroup ⊢
  -- no function has an index yet, so that there is no mismatch
  have hok := (addHostFunctions_spec hadd rfl (.inl fun fn => congrFun hindex fn) hgroup).1
  have hm : ((WclapModule.base is64 shared setup).addHostFunctions mainThread grow).2.1 = m :=
    congrArg (·.2.1) hadd
  rw [← hm] at hgroup ⊢
  exact addHostFunctions_validIndex (.inr ((congrArg Prod.fst hadd).trans hok)) hgroup

theorem spawnLocked_registered {m m' : WclapModule} {setup : SetupOutcome}
    {grow : HostFunction → GrowOutcome} {slot : Option Nat} (hm : Registered m)
    (h : m.spawnLocked setup grow = (slot, m')) : Registered m' := by
  have hstart := startInstance_follows m.instanceGroup setup
  unfold WclapModule.spawnLocked at h
  split at h
  next group _ heq =>
    rw [heq] at hstart
    cases h
    exact hm.mono rfl hstart
  next instance_ group _ heq =>
    rw [heq] at hstart
    have hadd := addHostFunctions_registered (m := { m with instanceGroup := group }) instance_
      grow (hm.mono rfl hstart)
    split at h
    next heq' =>
      rw [heq'] at hadd
      cases h
      exact hadd
    next heq' =>
      rw [heq'] at hadd
      cases h
      exact hadd

/-- A spawn that does not fail leaves no error. -/
theorem spawnLocked_ok {m m' : WclapModule} {setup : SetupOutcome}
    {grow : HostFunction → GrowOutcome} {slot : Nat} (hm : Registered m)
    (h : m.spawnLocked setup grow = (some slot, m')) (hgroup : m.instanceGroup.hasError = false) :
    m'.instanceGroup.hasError = false := by
  unfold WclapModule.spawnLocked at h
  split at h
  next => cases h
  next instance_ group _ heq =>
    have hok := addHostFunctions_ok (m := { m with instanceGroup := group }) instance_ grow
      (hm hgroup)
    split at h
    next => cases h
    next heq' =>
      rw [heq'] at hok
      cases h
      exact hok rfl

/-! ## The invariant -/

/-- What a spawn is given is of the guest's pointer width, and kept. -/
structure GivenInvariant (host : ThreadHost) (s : ThreadedWclap) : Prop where
  table : TableInvariant host s
  registered : Registered s.wclap
  values : ∀ c value stage, s.calls c = some (value, stage) → value.is64 = s.wclap.is64
  given : ∀ record ∈ s.records,
    record.given.is64 = s.wclap.is64 ∧ record.threadArg = record.given.toThreadArg

theorem GivenInvariant.same {host : ThreadHost} {s t : ThreadedWclap}
    (hs : GivenInvariant host s) (ht : TableInvariant host t) (hregistered : Registered t.wclap)
    (his64 : t.wclap.is64 = s.wclap.is64) (hrecords : t.records = s.records)
    (hcalls : ∀ c value stage, t.calls c = some (value, stage) →
      (∃ stage, s.calls c = some (value, stage)) ∨ value.is64 = s.wclap.is64) :
    GivenInvariant host t where
  table := ht
  registered := hregistered
  values c value stage hc := by
    rw [his64]
    exact (hcalls c value stage hc).elim (fun ⟨stage, hc⟩ => hs.values c value stage hc) id
  given record hrecord := his64 ▸ hs.given record (hrecords ▸ hrecord)

/-- The value of a call stays the same. -/
theorem values_of_setCall {s : ThreadedWclap} {c : Caller} {value : WasmValue}
    {stage : SpawnStage} (hvalue : value.is64 = s.wclap.is64) (c' : Caller) (value' : WasmValue)
    (stage' : SpawnStage)
    (hc : (s.setCall c (some (value, stage))).calls c' = some (value', stage')) :
    (∃ stage, s.calls c' = some (value', stage)) ∨ value'.is64 = s.wclap.is64 := by
  rw [ThreadedWclap.calls_setCall] at hc
  split at hc
  next => cases hc; exact .inr hvalue
  next => exact .inl ⟨stage', hc⟩

theorem values_of_answer {s t : ThreadedWclap} {c : Caller}
    (ht : t.calls = (s.setCall c none).calls) (c' : Caller) (value : WasmValue)
    (stage : SpawnStage) (hc : t.calls c' = some (value, stage)) :
    (∃ stage, s.calls c' = some (value, stage)) ∨ value.is64 = s.wclap.is64 := by
  rw [ht, ThreadedWclap.calls_setCall] at hc
  split at hc
  next => cases hc
  next => exact .inl ⟨stage, hc⟩

/-- Requests do not register host functions. -/
theorem perform_registered {m : WclapModule} (env : Environment) (r : Request)
    (hm : Registered m) : Registered (m.perform env r).2.1 := by
  refine hm.mono ?_ (m.perform_group_follows env r)
  by_cases hr : r = .newPlugin
  · subst hr
    simp only [WclapModule.perform, WclapModule.newPlugin]
    split <;> rfl
  · exact (m.perform_instances env hr).2

/-- A step keeps the invariant. -/
theorem step_givenInvariant {host : ThreadHost} {s t : ThreadedWclap} {a : ThreadAction}
    (hs : GivenInvariant host s) (ht : step host s a = some t) : GivenInvariant host t := by
  have htable := step_tableInvariant hs.table ht
  have hsame : ∀ c value stage, s.calls c = some (value, stage) →
      (∃ stage, s.calls c = some (value, stage)) ∨ value.is64 = s.wclap.is64 :=
    fun _ _ stage h => .inl ⟨stage, h⟩
  have hgroup : ∀ group, s.wclap.instanceGroup.Follows group →
      Registered { s.wclap with instanceGroup := group } :=
    fun group h => hs.registered.mono rfl h
  have hself := InstanceGroup.Follows.refl s.wclap.instanceGroup
  cases ThreadedWclap.step_cases ht with
  | perform env hr =>
    exact hs.same htable (perform_registered env _ hs.registered)
      (s.wclap.perform_keepsThreads env hr).is64 rfl hsame
  | endInit outcome =>
    exact hs.same htable (hgroup _ (finishInit_follows outcome _)) rfl rfl hsame
  | test hcan hidle hvalue => exact hs.same htable hs.registered rfl rfl (values_of_setCall hvalue)
  | readFunction hc | readContext hc | enter hc =>
    exact hs.same htable hs.registered rfl rfl (values_of_setCall (hs.values _ _ _ hc))
  | testNull | enterError => exact hs.same htable hs.registered rfl rfl (values_of_answer rfl)
  | spawnFailed hc hlock h =>
    exact hs.same htable (spawnLocked_registered hs.registered h)
      (WclapModule.spawnLocked_none h).is64 rfl (values_of_answer rfl)
  | spawn hc hlock h =>
    obtain ⟨-, -, -, his64, -⟩ := WclapModule.spawnLocked_some h
    refine ⟨htable, spawnLocked_registered hs.registered h, fun c value stage hcall => ?_,
      fun record hrecord => ?_⟩
    · -- the width of the module has not changed
      obtain ⟨stage, hcall⟩ | hvalue := values_of_answer (s := s) rfl c value stage hcall
      · exact (hs.values c value stage hcall).trans his64.symm
      · exact hvalue.trans his64.symm
    · rw [ThreadedWclap.records, ThreadedWclap.answer, ThreadedWclap.setCall, List.map_append,
        List.mem_append] at hrecord
      rcases hrecord with hrecord | hrecord
      · obtain ⟨hgiven, harg⟩ := hs.given record hrecord
        exact ⟨hgiven.trans his64.symm, harg⟩
      · -- the new thread is given the value of the call
        cases List.mem_singleton.mp hrecord
        exact ⟨(hs.values _ _ _ hc).trans his64.symm, rfl⟩
  | startUp hk =>
    exact hs.same htable (hs.registered.mono rfl hself) rfl
      (List.map_set_of_eq hk (by rfl)) hsame
  | refused | start => exact hs.same htable hs.registered rfl (s.records_setPhase _ _) hsame
  | noStart message | refuse =>
    exact hs.same htable (hgroup _ (hself.setError _)) rfl (s.records_setPhase _ _) hsame
  | return_ outcome =>
    exact hs.same htable (hgroup _ (finishThread_follows outcome _)) rfl (s.records_setPhase _ _)
      hsame
  | finish =>
    exact hs.same htable (hs.registered.mono rfl hself) rfl (s.records_setPhase _ _) hsame
  | clearFunction => exact hs.same htable (hs.registered.mono rfl hself) rfl rfl hsame
  | wait | stopped =>
    exact hs.same htable hs.registered rfl (checkThreadsStopped_sameTable s).records hsame
  | init | clearContext => exact hs.same htable hs.registered rfl rfl hsame

theorem begin_givenInvariant (host : ThreadHost) (is64 shared : Bool) (setup : SetupOutcome)
    (grow : HostFunction → GrowOutcome) :
    GivenInvariant host (ThreadedWclap.begin is64 shared setup grow) :=
  ⟨begin_tableInvariant host is64 shared setup grow, construct_registered is64 shared setup grow,
    (fun _ _ _ h => nomatch h), (fun _ h => nomatch h)⟩

/-! ## Starting once -/

/-- Each spawned thread starts once. -/
def AllStartOnce (s : ThreadedWclap) : Prop :=
  ∀ (k : Nat) (thread : SpawnedThread), s.spawned[k]? = some thread → StartsOnce s thread

theorem StartsOnce.congr {s t : ThreadedWclap} {thread : SpawnedThread}
    (hs : StartsOnce s thread) (h : startsOf t thread = startsOf s thread) :
    StartsOnce t thread := by
  unfold StartsOnce at hs ⊢
  rwa [h]

/-- A thread is in another phase, and has started as often as before. -/
theorem AllStartOnce.setPhase {s t : ThreadedWclap} {k : Nat} {phase : ThreadPhase}
    (hs : AllStartOnce s) (hspawned : t.spawned = (s.setPhase k phase).spawned)
    (hstarts : t.starts = s.starts)
    (hk : ∀ thread, s.spawned[k]? = some thread → StartsOnce s thread →
      StartsOnce s { thread with phase }) : AllStartOnce t := by
  have hsame : ∀ thread, startsOf t thread = startsOf s thread :=
    fun thread => congrArg (List.filter _) hstarts
  intro j thread hj
  rw [hspawned] at hj
  rcases ThreadedWclap.setPhase_cases hj with ⟨-, hj⟩ | ⟨-, thread, hthread, rfl⟩
  · exact (hs j thread hj).congr (hsame _)
  · exact (hk thread hthread (hs k thread hthread)).congr (hsame _)

/-- No thread has started on the next instance. -/
theorem starts_next {host : ThreadHost} {s : ThreadedWclap} (hs : TableInvariant host s) :
    s.starts.filter (·.instance_ = s.wclap.instances.length) = [] := by
  refine List.filter_eq_nil_iff.mpr fun start hstart heq => ?_
  obtain ⟨record, hrecord, hinstance, -⟩ := hs.started start hstart
  have hlt := hs.fresh record hrecord
  rw [← hinstance, of_decide_eq_true heq] at hlt
  exact Nat.lt_irrefl _ hlt

theorem phase_eq {s : ThreadedWclap} {k : Nat} {thread : SpawnedThread} {phase : ThreadPhase}
    (hk : s.spawned[k]? = some thread) (hphase : s.phase k = some phase) :
    thread.phase = phase := by
  rw [ThreadedWclap.phase, hk] at hphase
  exact Option.some.inj hphase

/-- What holds of a thread, in terms of its phase. -/
theorem StartsOnce.of_phase {s : ThreadedWclap} {thread : SpawnedThread} {phase : ThreadPhase}
    (hs : StartsOnce s thread) (hphase : thread.phase = phase) :
    StartsOnce s { thread with phase } := by
  subst hphase
  exact hs

/-- A thread that looks at `hadInit` has not started before. -/
theorem StartsOnce.not_started {s : ThreadedWclap} {k : Nat} {thread : SpawnedThread}
    {found : Option Nat} (hs : StartsOnce s thread) (hk : s.spawned[k]? = some thread)
    (hphase : s.phase k = some (.starting found)) : startsOf s thread = [] :=
  hs.of_phase (phase_eq hk hphase)

/-- A step keeps it if it is not too early for the thread that starts. -/
theorem step_allStartOnce {host : ThreadHost} (hhost : host.threadStart = .function)
    {s t : ThreadedWclap} {a : ThreadAction} (hs : AllStartOnce s) (hinv : GivenInvariant host s)
    (ha : StartsAfterInit s a) (ht : step host s a = some t) : AllStartOnce t := by
  cases ThreadedWclap.step_cases ht with
  | spawn hc hlock h =>
    intro k thread hk
    change (s.spawned ++ [s.newThread _ _])[k]? = some thread at hk
    rw [List.getElem?_append] at hk
    split at hk
    next => exact hs k thread hk
    next =>
      rw [List.getElem?_singleton] at hk
      split at hk
      next =>
        -- the new thread has an instance of its own
        cases hk
        exact starts_next hinv.table
      next => cases hk
  | @startUp k thread hk hphase =>
    intro j thread' hj
    rw [List.getElem?_set] at hj
    split at hj
    next heq =>
      rw [if_pos (heq ▸ (List.getElem?_eq_some_iff.mp hk).1)] at hj
      cases hj
      have hcreated := (hs k thread hk).of_phase hphase
      exact hcreated
    next => exact hs j thread' hj
  | @refused k j hphase hinit =>
    refine hs.setPhase rfl rfl fun thread hk honce => ?_
    -- without `hadInit`, the thread has begun late
    have hready := ha k thread _ rfl hk (phase_eq hk hphase)
    exact ⟨hready.resolve_left (by simp [hinit]), honce.not_started hk hphase⟩
  | noStart message hphase hstart => exact absurd hhost hstart
  | @start k j thread hphase hj =>
    cases hinv.table.ownRecord k _ hphase
    intro i thread' hi
    rcases ThreadedWclap.setPhase_cases hi with ⟨hik, hi⟩ | ⟨-, thread', hthread', rfl⟩
    · -- the call is on the instance of another thread
      refine (hs i thread' hi).congr ?_
      have hne : thread.instance_ ≠ thread'.instance_ := fun heq =>
        hik (hinv.table.owned.owner_unique (owners_getElem? hi) (owners_getElem? hj) heq.symm)
      simp [startsOf, List.filter_append, hne]
    · cases hj.symm.trans hthread'
      have hstarts := (hs k thread hj).not_started hj hphase
      refine .inl ?_
      -- the number in the record is that of the slot, and the argument the one given
      have hrecord := hinv.table.record _ (List.mem_map_of_mem (List.mem_of_getElem? hj))
      obtain ⟨his64, hvalue⟩ := hinv.given _ (List.mem_map_of_mem (List.mem_of_getElem? hj))
      have hid : thread.index.toInt32 = thread.id := by
        rw [hrecord.index, hrecord.id, UInt32.toInt32_ofNat']
      have harg : WasmValue.ofThreadArg s.wclap.is64 thread.threadArg = thread.given := by
        rw [← his64, hvalue, WasmValue.ofThreadArg_toThreadArg]
      unfold startsOf at hstarts ⊢
      simp only [List.filter_append, hid, harg]
      rw [hstarts]
      simp
  | refuse hphase =>
    refine hs.setPhase rfl rfl fun thread hk honce => ?_
    have hstarting := honce.of_phase (phase_eq hk hphase)
    exact .inr hstarting
  | return_ outcome hphase =>
    refine hs.setPhase rfl rfl fun thread hk honce => ?_
    have hrunning := honce.of_phase (phase_eq hk hphase)
    exact hrunning
  | finish hk hphase =>
    refine hs.setPhase rfl rfl fun thread' hk' honce => ?_
    cases hk.symm.trans hk'
    have hreturned := honce.of_phase hphase
    exact hreturned
  | wait | stopped =>
    intro k thread hk
    change (s.spawned.map _)[k]? = some thread at hk
    rw [List.getElem?_map] at hk
    obtain ⟨thread, hthread, rfl⟩ := Option.map_eq_some_iff.mp hk
    exact hs k thread hthread
  | _ => exact hs

/-- It is too early for a thread that has to be refused. -/
theorem startsAfterInit_of_next {host : ThreadHost} {s : ThreadedWclap} {a : ThreadAction}
    (hs : GivenInvariant host s) (hnext : ∀ t, step host s a = some t → AllStartOnce t) :
    StartsAfterInit s a := by
  rintro k thread found rfl hk hphase
  by_contra hearly
  obtain ⟨hinit, hlate⟩ := not_or.mp hearly
  have hstarting : s.phase k = some (.starting found) := Option.map_eq_some_iff.mpr ⟨_, hk, hphase⟩
  cases hs.table.ownRecord k _ hstarting
  -- the thread is refused though it has begun in time
  have hrefused : step host s (.runThread k) = some (s.setPhase k .refused) := by
    simp [step, hstarting, hk, hinit]
  have hthread : (s.setPhase k .refused).spawned[k]? = some { thread with phase := .refused } := by
    simp [ThreadedWclap.setPhase, hk]
  exact hlate (hnext _ hrefused k _ hthread).1

theorem GivenInvariant.canStart {host : ThreadHost} {s : ThreadedWclap}
    (hs : GivenInvariant host s) : CanStart host s where
  created k hk hlock := by
    obtain ⟨thread, hthread, hphase⟩ := Option.map_eq_some_iff.mp hk
    simp [step, hthread, hphase, hlock]
  starting k found hk := by
    cases hs.table.ownRecord k found hk
    obtain ⟨thread, hthread, hphase⟩ := Option.map_eq_some_iff.mp hk
    simp only [step, hk, hthread]
    split
    next => rfl
    next => split <;> rfl
  locked hlock := by
    have hclearing : s.destructor = .clearing := by simpa [ThreadedWclap.unlocked] using hlock
    simp [step, hclearing]

theorem GivenInvariant.spawnHarmless {host : ThreadHost} {s : ThreadedWclap} {a : ThreadAction}
    (hs : GivenInvariant host s) : SpawnHarmless host s a := by
  rintro t c setup grow id rfl ht hanswer hid herror
  cases ThreadedWclap.step_cases ht with
  | spawnFailed =>
    cases List.append_cancel_left hanswer
    exact absurd hid (by decide)
  | spawn hc hlock h =>
    by_contra hgroup
    have hok := spawnLocked_ok hs.registered h (Bool.eq_false_iff.mpr hgroup)
    exact Bool.noConfusion (herror.symm.trans hok)

/-- Each spawned thread calls `wasi_thread_start` once, on its own instance, with
    its number and its argument, unless there was an error or a request to stop
    when it began, and no spawn that goes well leaves an error: in exactly those
    runs in which no other thread looks at `hadInit` before it is set. -/
theorem threads_start_iff (host : ThreadHost) (hhost : host.threadStart = .function)
    (is64 shared : Bool) (setup : SetupOutcome) (grow : HostFunction → GrowOutcome)
    (as : List ThreadAction) :
    (States (step host) (fun s => AllStartOnce s ∧ CanStart host s)
        (ThreadedWclap.begin is64 shared setup grow) as ∧
      Steps (step host) (SpawnHarmless host) (ThreadedWclap.begin is64 shared setup grow) as) ↔
      Steps (step host) StartsAfterInit (ThreadedWclap.begin is64 shared setup grow) as := by
  have hgiven : States (step host) (GivenInvariant host) _ as :=
    .of_invariant _ (fun s a t hs ht => step_givenInvariant hs ht)
      (begin_givenInvariant host is64 shared setup grow)
  constructor
  · rintro ⟨hstates, -⟩
    exact .of_next (fun s a hs hnext => startsAfterInit_of_next hs.2 fun t ht => (hnext t ht).1.1)
      (hstates.and hgiven)
  · intro hsteps
    have honce : States (step host) (fun s => AllStartOnce s ∧ GivenInvariant host s) _ as :=
      .of_steps _ (fun s a t hs ha ht =>
        ⟨step_allStartOnce hhost hs.1 hs.2 ha ht, step_givenInvariant hs.2 ht⟩)
        ⟨fun k thread hk => absurd (List.mem_of_getElem? hk) List.not_mem_nil,
          begin_givenInvariant host is64 shared setup grow⟩ hsteps
    exact ⟨honce.mono fun s hs => ⟨hs.1, hs.2.canStart⟩,
      .of_states (fun s a hs => hs.spawnHarmless) hgiven⟩

/-! ## Spawning early and late -/

/-- A system that runs two threads at a time, and a guest with a
    `wasi_thread_start`. -/
private def twoThreads : ThreadHost :=
  ⟨.function, 2, by decide⟩

/-- Guest code on a thread of the host spawns a thread, which looks at `hadInit`. -/
private def spawnAndStart : List ThreadAction :=
  [.test (.host 0) (.i32 (-5)), .readFunction (.host 0), .readContext (.host 0), .enter (.host 0),
    .spawn (.host 0) (.ready [.null]) fun _ => .grown, .startUp 0, .runThread 0]

/-- That is after `init()`. -/
private def spawnLate : List ThreadAction :=
  [.beginInit, .endInit (.entry true 16)] ++ spawnAndStart

/-- That is while `_initialize()` runs. -/
private def spawnEarly : List ThreadAction :=
  [.beginInit] ++ spawnAndStart ++ [.endInit (.entry true 16), .refuse 0]

/-- A late thread starts. -/
theorem threads_start_late :
    States (step twoThreads) (fun s => AllStartOnce s ∧ CanStart twoThreads s)
        (ThreadedWclap.begin false true (.ready [.null]) fun _ => .grown) spawnLate ∧
      Steps (step twoThreads) (SpawnHarmless twoThreads)
        (ThreadedWclap.begin false true (.ready [.null]) fun _ => .grown) spawnLate := by
  refine (threads_start_iff twoThreads rfl false true _ _ _).mpr ?_
  have hother : ∀ {s a}, (∀ k, a ≠ .runThread k) → StartsAfterInit s a :=
    fun ha k _ _ heq => absurd heq (ha k)
  refine .cons (hother (by simp)) rfl <| .cons (hother (by simp)) rfl <|
    .cons (hother (by simp)) rfl <| .cons (hother (by simp)) rfl <|
    .cons (hother (by simp)) rfl <| .cons (hother (by simp)) rfl <|
    .cons (hother (by simp)) rfl <| .cons (hother (by simp)) rfl <|
    .cons (fun _ _ _ _ _ _ => .inl rfl) rfl trivial

/-- An early thread is refused, and leaves an error. -/
theorem thread_refused :
    ¬ (States (step twoThreads) (fun s => AllStartOnce s ∧ CanStart twoThreads s)
        (ThreadedWclap.begin false true (.ready [.null]) fun _ => .grown) spawnEarly ∧
      Steps (step twoThreads) (SpawnHarmless twoThreads)
        (ThreadedWclap.begin false true (.ready [.null]) fun _ => .grown) spawnEarly) := by
  rintro ⟨hstates, -⟩
  have hrun : ∃ t thread, spawnEarly.foldlM (step twoThreads)
        (ThreadedWclap.begin false true (.ready [.null]) fun _ => .grown) = some t ∧
      t.answers = [(.host 0, 1)] ∧
      t.wclap.instanceGroup.error = some "Instance Group not initialised before .runThread()" ∧
      t.starts = [] ∧ t.spawned[0]? = some thread ∧ thread.phase = .returned ∧
      thread.late = false :=
    ⟨_, _, rfl, rfl, rfl, rfl, rfl, rfl, rfl⟩
  obtain ⟨t, thread, ht, -, -, hstarts, hthread, hphase, hlate⟩ := hrun
  have honce := (hstates.at_end ht).1 0 thread hthread
  simp [StartsOnce, startsOf, hphase, hstarts, hlate] at honce

end WclapBridge.Spec
