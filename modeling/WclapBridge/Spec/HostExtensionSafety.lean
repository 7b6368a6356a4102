import WclapBridge.ForStd.Transition
import WclapBridge.Native.HostCallbacks
import Mathlib.Tactic.ByContra

/-!
# Null host extensions

A guest can call every registered host function at any time. Most of them read
a function pointer out of a host struct without a check, so the calls that are
safe are those for which the plugin has already been asked for the struct, and
its host has it. We show that these are exactly the safe calls.

## Key results

- `hostFunction_nullDereference_iff`: when a callback goes through null
- `no_null_dereference_iff`: the safe runs
- `log_without_extension`: a run that is not
-/

namespace WclapBridge.Spec

open WclapBridge.Native

/-- The pointer which a callback uses without a check. -/
def uncheckedField (fn : HostFunction) : Option HostExtension :=
  match fn with
  | .hostTemplate_get_extension | .hostTemplate_request_restart | .hostTemplate_request_process
  | .hostTemplate_request_callback | .inputEventsTemplate_size | .inputEventsTemplate_get
  | .outputEventsTemplate_try_push | .istreamTemplate_read | .ostreamTemplate_write => none
  | .hostAmbisonic_changed => some .hostAmbisonic
  | .hostAudioPortsConfig_rescan => some .hostAudioPortsConfig
  | .hostAudioPorts_is_rescan_flag_supported | .hostAudioPorts_rescan => some .hostAudioPorts
  | .hostGui_resize_hints_changed | .hostGui_request_resize | .hostGui_request_show
  | .hostGui_request_hide | .hostGui_closed => some .hostGui
  | .hostLatency_changed => some .hostLatency
  | .hostLog_log => some .hostLog
  | .hostNoteName_changed => some .hostNoteName
  | .hostNotePorts_supported_dialects | .hostNotePorts_rescan => some .hostNotePorts
  | .hostParams_rescan | .hostParams_clear | .hostParams_request_flush => some .hostParams
  | .hostPresetLoad_on_error | .hostPresetLoad_loaded => some .hostPresetLoad
  | .hostRemoteControls_changed | .hostRemoteControls_suggest_page => some .hostRemoteControls
  | .hostState_mark_dirty => some .hostState
  | .hostSurround_changed => some .hostSurround
  | .hostTail_changed => some .hostTail
  | .hostThreadCheck_is_main_thread | .hostThreadCheck_is_audio_thread => some .hostThreadCheck
  | .hostThreadPool_request_exec => some .hostThreadPool
  | .hostTimerSupport_register_timer | .hostTimerSupport_unregister_timer =>
    some .hostTimerSupport
  | .hostTrackInfo_get => some .hostTrackInfo
  | .hostVoiceInfo_changed => some .hostVoiceInfo
  | .hostWebview_send => some .hostWebview

theorem callHost_eq_nullDereference (ext : Nat) : callHost ext = .nullDereference ↔ ext = 0 := by
  unfold callHost
  split
  next h => simp [h]
  next h => simp [h]

/-- The callbacks with a check of their own do not go through null. -/
theorem checked_ne_nullDereference (ext : Nat) (value : Option Int) :
    (if ext = 0 then Forwarded.returned value else callHost ext) ≠ .nullDereference := by
  split
  next => exact nofun
  next h => exact fun hnull => h ((callHost_eq_nullDereference ext).mp hnull)

/-- A callback goes through null exactly if it resolves a plugin whose pointer
    for its unchecked field is null. -/
theorem hostFunction_nullDereference_iff (fn : HostFunction) (plugin : Option PluginHost) :
    hostFunction fn plugin = .nullDereference ↔
      ∃ p field, plugin = some p ∧ uncheckedField fn = some field ∧ p.hostExt field = 0 := by
  cases plugin with
  | none => cases fn <;> simp [hostFunction, forward, forwardToHost, forwardToPlugin]
  | some p =>
    cases fn <;>
      simp [hostFunction, forward, forwardToHost, forwardToPlugin, uncheckedField, webviewSend,
        callHost_eq_nullDereference, outputEventsSink, istreamRead, ostreamWrite,
        checked_ne_nullDereference]

/-! ## Runs -/

/-- The pointers of a plugin are those for which `pluginInit` has asked. -/
def AskedFor (p : PluginHost) (next : Nat) : Prop :=
  ∀ field, p.hostExt field =
    if field ∈ pluginInitFields.take next then p.host.get_extension field else 0

/-- All plugins have the pointers they have asked for. -/
def AllAskedFor (s : PluginTable) : Prop :=
  ∀ index p next, s.pluginList index = some (p, next) → AskedFor p next

/-- `pluginInit` asks for every extension. -/
theorem mem_pluginInitFields (field : HostExtension) : field ∈ pluginInitFields := by
  cases field <;> decide

theorem AskedFor.getHostExt {p : PluginHost} {next i : Nat} {field : HostExtension}
    (h : AskedFor p next) (hfield : pluginInitFields[i]? = some field) (hi : i ≤ next) :
    AskedFor (p.getHostExt field) (max next (i + 1)) := by
  intro e
  simp only [PluginHost.getHostExt]
  by_cases he : e = field
  · subst he
    rw [if_pos rfl, if_pos]
    obtain ⟨hlt, hget⟩ := List.getElem?_eq_some_iff.mp hfield
    rw [List.mem_take_iff_getElem]
    exact ⟨i, by omega, hget⟩
  · rw [if_neg he, h e]
    -- only the field asked for can be new
    have hmem : e ∈ pluginInitFields.take (max next (i + 1)) ↔ e ∈ pluginInitFields.take next := by
      rcases Nat.lt_or_ge i next with hlt | hge
      · rw [Nat.max_eq_left hlt]
      · obtain rfl := Nat.le_antisymm hi hge
        rw [Nat.max_eq_right (Nat.le_succ i), List.take_add_one, hfield]
        simp [he]
    simp only [hmem]

theorem AllAskedFor.set {s : PluginTable} (h : AllAskedFor s) (index : Nat)
    {q : Option (PluginHost × Nat)} (hq : ∀ p next, q = some (p, next) → AskedFor p next) :
    AllAskedFor (s.set index q) := by
  intro i p next hi
  simp only [PluginTable.set] at hi
  split at hi
  next => exact hq p next hi
  next => exact h i p next hi

/-- Every step keeps the pointers those that were asked for. -/
theorem step_allAskedFor (s : PluginTable) (a : PluginAction) (t : PluginTable)
    (hs : AllAskedFor s) (hstep : s.step a = some t) : AllAskedFor t := by
  cases a with
  | create index host =>
    simp only [PluginTable.step] at hstep
    split at hstep
    next =>
      cases hstep
      -- a new plugin has no pointer yet
      refine hs.set index fun p next hq => ?_
      cases hq
      exact fun field => rfl
    next => exact nomatch hstep
  | getHostExt index i =>
    simp only [PluginTable.step] at hstep
    split at hstep
    next p next field hp hfield =>
      split at hstep
      next hi =>
        cases hstep
        refine hs.set index fun p' next' hq => ?_
        cases hq
        exact (hs index p next hp).getHostExt hfield hi
      next => exact nomatch hstep
    next => exact nomatch hstep
  | setStreams index hostIstream hostOstream hostOutputEvents =>
    -- the streams are none of the fields that `pluginInit` fills
    simp only [PluginTable.step] at hstep
    split at hstep
    next p next hp =>
      cases hstep
      refine hs.set index fun p' next' hq => ?_
      cases hq
      exact hs index p next hp
    next => exact nomatch hstep
  | destroy index =>
    cases hstep
    exact hs.set index fun p next hq => nomatch hq
  | guestCall fn index =>
    cases hstep
    exact hs

/-- A guest call that resolves a plugin uses only a pointer that `pluginInit` has
    asked for, and that the host has. -/
def AskedAndSupported (s : PluginTable) (a : PluginAction) : Prop :=
  ∀ fn index p next field, a = .guestCall fn index → s.pluginList index = some (p, next) →
    uncheckedField fn = some field →
    field ∈ pluginInitFields.take next ∧ p.host.get_extension field ≠ 0

/-- In a state whose plugins have the pointers they have asked for, the safe
    calls are those whose pointer was asked for and is supported. -/
theorem forwarded_iff {s : PluginTable} (hs : AllAskedFor s) (a : PluginAction) :
    s.forwarded a ≠ .nullDereference ↔ AskedAndSupported s a := by
  constructor
  · -- a pointer that was not asked for, or that the host does not have, is null
    rintro h fn index p next field rfl hp hfield
    by_contra hnot
    apply h
    refine (hostFunction_nullDereference_iff _ _).mpr ⟨p, field, ?_, hfield, ?_⟩
    · rw [PluginTable.getPlugin, hp]
      rfl
    · rw [hs index p next hp field]
      by_cases hmem : field ∈ pluginInitFields.take next
      · rw [if_pos hmem]
        by_contra hne
        exact hnot ⟨hmem, hne⟩
      · rw [if_neg hmem]
  · intro h hnull
    cases a with
    | guestCall fn index =>
      obtain ⟨p, field, hp, hfield, hzero⟩ := (hostFunction_nullDereference_iff _ _).mp hnull
      obtain ⟨⟨p', next⟩, hlist, rfl⟩ := Option.map_eq_some_iff.mp hp
      obtain ⟨hmem, hne⟩ := h fn index p' next field rfl hlist hfield
      rw [hs index p' next hlist field, if_pos hmem] at hzero
      exact hne hzero
    | create index host => exact nomatch hnull
    | getHostExt index i => exact nomatch hnull
    | setStreams index hostIstream hostOstream hostOutputEvents => exact nomatch hnull
    | destroy index => exact nomatch hnull

/-- **No step of a run goes through a null pointer if and only if every guest
    call of the run uses a pointer that was asked for and is supported.** -/
theorem no_null_dereference_iff (as : List PluginAction) :
    Steps PluginTable.step (fun s a => s.forwarded a ≠ .nullDereference) PluginTable.init as ↔
      Steps PluginTable.step AskedAndSupported PluginTable.init as :=
  Steps.iff_of_invariant AllAskedFor step_allAskedFor (fun _ a hs => forwarded_iff hs a)
    fun _ _ _ h => nomatch h

/-! ## Counterexample -/

/-- A host with every extension but the log. -/
private def hostWithoutLog : ClapHost where
  get_extension e := if e = .hostLog then 0 else 0x1000

/-- A plugin is created and initialised. -/
private def createAndInit : List PluginAction :=
  .create 1 hostWithoutLog :: (List.range 20).map (.getHostExt 1)

/-- The guest calls the log function from the table, without asking for the
    extension: the call goes through a null pointer. -/
theorem log_without_extension :
    ¬ Steps PluginTable.step (fun s a => s.forwarded a ≠ .nullDereference) PluginTable.init
      (createAndInit ++ [.guestCall .hostLog_log 1]) := by
  intro h
  exact h.last (t := (createAndInit.foldlM PluginTable.step PluginTable.init).get (by decide))
    (Option.some_get _).symm (by decide)

end WclapBridge.Spec
