import WclapBridge.ForStd.List
import WclapBridge.ForStd.Transition
import WclapBridge.Native.GlobalInit

/-!
# The lifetime of the engine

The counter of open WCLAPs keeps the engine from being deleted under them, but
opening a WCLAP increments it after the group has been created, and closing one
decrements it before the module is deleted.

## Key results

- `counted_step`: the counter has the WCLAPs between these two points
- `engineSafe_iff`: the engine outlives all groups and modules in exactly those
  runs in which it is deleted outside of the two windows
- `deinit_while_closing`: a run in which it is not
-/

namespace WclapBridge.Spec

open WclapBridge.Native
open BridgeProcess (step)

/-- The step deletes the engine or puts another one in its place. -/
def EndsEngine (s : BridgeProcess) (a : BridgeAction) : Prop :=
  ∃ t engine, step s a = some t ∧ s.globals.globalWasmEngine = some engine ∧
    t.globals.globalWasmEngine ≠ some engine

/-- No group or module exists when the engine ends. -/
def EngineSafe (s : BridgeProcess) (a : BridgeAction) : Prop :=
  EndsEngine s a → ∀ wclap ∈ s.wclaps, ¬ wclap.Exists

/-- `globalInitOK` means that there is an engine with the time limit. -/
def EngineReady (s : BridgeProcess) : Prop :=
  s.globals.globalInitOK = true →
    ∃ engine, s.globals.globalWasmEngine = some engine ∧
      engine.timeLimitMs = s.globals.globalInitMs

/-- A WCLAP is between the creation of its group and the increment of the counter,
    or between the decrement and the deletion of its module. -/
def InWindow : WclapStage → Prop
  | .creating | .created _ | .closing => True
  | _ => False

/-- The call would delete the engine: it is `wclap_global_deinit`, or
    `wclap_global_init` with another time limit, after a successful initialisation and
    with a counter of zero. -/
def Deletes (s : BridgeProcess) (a : BridgeAction) : Prop :=
  s.globals.globalInitOK = true ∧ s.globals.activeWclapCount = 0 ∧
    (a = .wclap_global_deinit ∨ ∃ timeLimitMs outcome,
      a = .wclap_global_init timeLimitMs outcome ∧ timeLimitMs.toNat ≠ s.globals.globalInitMs)

/-- No WCLAP is in one of the windows when a call deletes the engine. -/
def OutsideWindows (s : BridgeProcess) (a : BridgeAction) : Prop :=
  Deletes s a → ∀ wclap ∈ s.wclaps, ¬ InWindow wclap

/-! ## The invariant -/

/-- What holds in every state that can be reached. -/
structure GlobalsOk (s : BridgeProcess) : Prop where
  count : s.globals.activeWclapCount = s.wclaps.countP WclapStage.isCounted
  ready : EngineReady s
  noEngine : s.globals.globalInitOK = false → s.globals.globalWasmEngine = none
  fresh : ∀ engine, s.globals.globalWasmEngine = some engine →
    engine.id < s.globals.engineCount

theorem globalsOk_new : GlobalsOk .new :=
  ⟨rfl, (fun h => nomatch h), fun _ => rfl, (fun _ h => nomatch h)⟩

theorem move_eq_some {s t : BridgeProcess} {i : Nat} {before after : WclapStage}
    (h : s.move i before after = some t) :
    s.wclaps[i]? = some before ∧ t = { s with wclaps := s.wclaps.set i after } := by
  unfold BridgeProcess.move at h
  split at h
  next hi => exact ⟨hi, (Option.some.inj h).symm⟩
  next => cases h

/-- A WCLAP goes on, and the counter with it. -/
theorem GlobalsOk.set {s : BridgeProcess} (hs : GlobalsOk s) {i n : Nat}
    {before after : WclapStage} (hi : s.wclaps[i]? = some before)
    (hn : n + (if before.isCounted then 1 else 0) =
      s.globals.activeWclapCount + if after.isCounted then 1 else 0) :
    GlobalsOk ⟨{ s.globals with activeWclapCount := n }, s.wclaps.set i after⟩ := by
  have hset := List.countP_set_add (p := WclapStage.isCounted) hi after
  have hcount := hs.count
  exact ⟨by dsimp only; omega, hs.ready, hs.noEngine, hs.fresh⟩

/-- A WCLAP goes on without the counter. -/
theorem GlobalsOk.move {s t : BridgeProcess} (hs : GlobalsOk s) {i : Nat}
    {before after : WclapStage} (h : s.move i before after = some t)
    (heq : before.isCounted = after.isCounted) : GlobalsOk t := by
  obtain ⟨hi, rfl⟩ := move_eq_some h
  exact hs.set (n := s.globals.activeWclapCount) hi (by rw [heq])

/-- After `InstanceGroup::globalInit`, there is an engine if it returned `true`. -/
theorem setGlobalInit_ok {g : BridgeGlobals} {wclaps : List WclapStage}
    (hcount : g.activeWclapCount = wclaps.countP WclapStage.isCounted)
    (hnone : g.globalWasmEngine = none) (ms : Nat) (outcome : GlobalInitOutcome) :
    GlobalsOk ⟨(g.setGlobalInit ms outcome).2, wclaps⟩ := by
  cases outcome with
  | engine =>
    refine ⟨hcount, fun _ => ⟨_, rfl, rfl⟩, (fun h => nomatch h), fun engine h => ?_⟩
    cases h
    exact Nat.lt_succ_self _
  | noConfig | noCache =>
    refine ⟨hcount, (fun h => nomatch h), fun _ => hnone, fun engine h => ?_⟩
    cases hnone.symm.trans h
  | noEngine => exact ⟨hcount, (fun h => nomatch h), fun _ => rfl, (fun _ h => nomatch h)⟩

theorem globalsOk_step {s t : BridgeProcess} {a : BridgeAction} (hs : GlobalsOk s)
    (h : step s a = some t) : GlobalsOk t := by
  cases a with
  | wclap_global_init timeLimitMs outcome =>
    obtain ⟨⟨result, globals⟩, hinit, rfl⟩ := Option.map_eq_some_iff.mp h
    dsimp only
    rcases BridgeGlobals.wclap_global_init_cases hinit with
      ⟨-, -, -, rfl⟩ | ⟨-, -, -, heq⟩ | ⟨hfailed, heq⟩
    · exact hs
    · -- the engine before it has been deleted
      obtain ⟨-, rfl⟩ := Prod.mk.inj heq
      exact setGlobalInit_ok (g := s.globals.instanceGlobalDeinit) hs.count rfl _ _
    · -- there was none
      obtain ⟨-, rfl⟩ := Prod.mk.inj heq
      exact setGlobalInit_ok hs.count (hs.noEngine hfailed) _ _
  | wclap_global_deinit =>
    obtain ⟨globals, hdeinit, rfl⟩ := Option.map_eq_some_iff.mp h
    rcases BridgeGlobals.wclap_global_deinit_cases hdeinit with ⟨-, -, rfl⟩ | ⟨-, rfl⟩
    · exact ⟨hs.count, (fun h => nomatch h), fun _ => rfl, (fun _ h => nomatch h)⟩
    · exact hs
  | test =>
    simp only [step] at h
    split at h
    next =>
      cases h
      refine ⟨?_, hs.ready, hs.noEngine, hs.fresh⟩
      rw [hs.count, List.countP_append]
      rfl
    next =>
      cases h
      exact hs
  | giveUp i | createInstanceGroup i | created i error | deleteGroup i | construct i | delete i =>
    exact hs.move h rfl
  | increment i =>
    obtain ⟨t, hmove, rfl⟩ := Option.map_eq_some_iff.mp h
    obtain ⟨hi, rfl⟩ := move_eq_some hmove
    exact hs.set hi rfl
  | decrement i =>
    obtain ⟨t, hmove, rfl⟩ := Option.map_eq_some_iff.mp h
    obtain ⟨hi, rfl⟩ := move_eq_some hmove
    -- the counter has this WCLAP
    have hpos : 0 < s.globals.activeWclapCount := by
      rw [hs.count]
      exact List.countP_pos_iff.mpr ⟨_, List.mem_of_getElem? hi, rfl⟩
    exact hs.set hi (Nat.sub_add_cancel hpos)

/-! ## Where the engine ends -/

theorem exists_iff (wclap : WclapStage) :
    wclap.Exists ↔ InWindow wclap ∨ wclap.isCounted = true := by
  cases wclap <;> simp [WclapStage.Exists, InWindow, WclapStage.isCounted]

theorem globals_move {s t : BridgeProcess} {i : Nat} {before after : WclapStage}
    (h : s.move i before after = some t) : t.globals = s.globals := by
  obtain ⟨-, rfl⟩ := move_eq_some h
  rfl

theorem deletes_of_endsEngine {s : BridgeProcess} (hs : GlobalsOk s) {a : BridgeAction}
    (h : EndsEngine s a) : Deletes s a := by
  obtain ⟨t, engine, hstep, hengine, hends⟩ := h
  cases a with
  | wclap_global_init timeLimitMs outcome =>
    obtain ⟨⟨result, globals⟩, hinit, rfl⟩ := Option.map_eq_some_iff.mp hstep
    rcases BridgeGlobals.wclap_global_init_cases hinit with
      ⟨-, -, -, rfl⟩ | ⟨hok, hms, hcount, -⟩ | ⟨hfailed, -⟩
    · exact absurd hengine hends
    · exact ⟨hok, hcount, .inr ⟨timeLimitMs, outcome, rfl, hms⟩⟩
    · -- without an initialisation there is no engine to end
      rw [hs.noEngine hfailed] at hengine
      cases hengine
  | wclap_global_deinit =>
    obtain ⟨globals, hdeinit, rfl⟩ := Option.map_eq_some_iff.mp hstep
    rcases BridgeGlobals.wclap_global_deinit_cases hdeinit with ⟨hok, hcount, -⟩ | ⟨-, rfl⟩
    · exact ⟨hok, hcount, .inl rfl⟩
    · exact absurd hengine hends
  | test =>
    simp only [step] at hstep
    split at hstep <;>
    · cases hstep
      exact absurd hengine hends
  | giveUp i | createInstanceGroup i | created i error | deleteGroup i | construct i | delete i =>
    rw [globals_move hstep] at hends
    exact absurd hengine hends
  | increment i | decrement i =>
    obtain ⟨t, hmove, rfl⟩ := Option.map_eq_some_iff.mp hstep
    dsimp only at hends
    rw [globals_move hmove] at hends
    exact absurd hengine hends

theorem endsEngine_of_deletes {s : BridgeProcess} (hs : GlobalsOk s) {a : BridgeAction}
    (h : Deletes s a) : EndsEngine s a := by
  obtain ⟨hok, hcount, ha⟩ := h
  obtain ⟨engine, hengine, -⟩ := hs.ready hok
  rcases ha with rfl | ⟨timeLimitMs, outcome, rfl, hms⟩
  · refine ⟨{ s with globals := { s.globals.instanceGlobalDeinit with globalInitOK := false } },
      engine, ?_, hengine, (nomatch ·)⟩
    simp [step, BridgeGlobals.wclap_global_deinit, hok, hcount]
  · refine ⟨{ s with globals :=
        (s.globals.instanceGlobalDeinit.setGlobalInit timeLimitMs.toNat outcome).2 },
      engine, ?_, hengine, ?_⟩
    · simp [step, BridgeGlobals.wclap_global_init, hok, hcount, hms]
    · cases outcome with
      | engine =>
        -- the new engine is none of those before
        rintro ⟨⟩
        exact Nat.lt_irrefl _ (hs.fresh _ hengine)
      | _ => exact (nomatch ·)

theorem endsEngine_iff {s : BridgeProcess} (hs : GlobalsOk s) (a : BridgeAction) :
    EndsEngine s a ↔ Deletes s a :=
  ⟨deletes_of_endsEngine hs, endsEngine_of_deletes hs⟩

theorem engineSafe_iff_outsideWindows {s : BridgeProcess} (hs : GlobalsOk s) (a : BridgeAction) :
    OutsideWindows s a ↔ EngineSafe s a := by
  unfold EngineSafe OutsideWindows
  rw [endsEngine_iff hs]
  -- none of the WCLAPs is counted, so that those which exist are in a window
  refine forall_congr' fun hdeletes => forall₂_congr fun wclap hmem => ?_
  have hcounted : ¬ wclap.isCounted = true := by
    refine List.countP_eq_zero.mp ?_ wclap hmem
    rw [← hs.count]
    exact hdeletes.2.1
  rw [exists_iff, or_iff_left hcounted]

/-- In every run, `globalInitOK` means that there is an engine with the time limit;
    and the engine outlives all groups and modules if and only if no call deletes it
    while a WCLAP is in one of the windows. -/
theorem engineSafe_iff (run : List BridgeAction) :
    States step EngineReady .new run ∧
      (Steps step EngineSafe .new run ↔ Steps step OutsideWindows .new run) :=
  ⟨(States.of_invariant GlobalsOk (fun _ _ _ => globalsOk_step) globalsOk_new).mono
      fun _ hs => hs.ready,
    (Steps.iff_of_invariant GlobalsOk (fun _ _ _ => globalsOk_step)
      (fun _ a hs => engineSafe_iff_outsideWindows hs a) globalsOk_new).symm⟩

/-- A WCLAP is opened and closed, up to the deletion of its module. -/
private def closingRun : List BridgeAction :=
  [.wclap_global_init 250 .engine, .test, .createInstanceGroup 0, .created 0 false,
    .increment 0, .construct 0, .decrement 0]

/-- `wclap_global_deinit` deletes the engine while `wclap_close` deletes a module. -/
theorem deinit_while_closing :
    ¬ Steps step EngineSafe .new (closingRun ++ [.wclap_global_deinit]) := by
  intro h
  have hsafe := h.last rfl
  exact hsafe ⟨_, ⟨0, 250⟩, rfl, rfl, (nomatch ·)⟩ .closing (List.mem_singleton_self _)
    trivial

end WclapBridge.Spec
