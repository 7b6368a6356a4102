import WclapBridge.ForStd.Transition
import WclapBridge.Native.Operations

/-!
# Recorded failures

A failure is recorded in the module or in its group, and `wclap_get_error` looks
at both. Nothing ever clears the error of the group. The error of the module is
cleared by the last statement of the module's constructor, and that loses a
failure which guest code has caused in the meantime: a thread that it spawned
could not be given the same host functions.

## Key results

- `error_latched_iff`: a recorded failure is reported from then on, unless the
  constructor clears the only record of it
- `spawn_failure_lost`: a run in which it does
-/

namespace WclapBridge.Spec

open WclapBridge.Native
open OpenWclap (step)

/-- If the constructor clears the error of the module, there is none, or the
    group has one as well. -/
def LosesNoFailure (s : OpenWclap) (a : Action) : Prop :=
  s.Clears a → s.wclap.hasError = true → s.wclap.instanceGroup.hasError = true

/-- Clearing an error which the group does not have loses it. -/
private theorem not_recorded_of_clears {s : OpenWclap} {a : Action} (ha : s.Clears a)
    (hgroup : ¬ s.wclap.instanceGroup.hasError = true) :
    ∃ t, step s a = some t ∧ ¬ t.wclap.Recorded := by
  obtain ⟨i, env, late, needsGuest, next, rfl, htask⟩ := ha
  refine ⟨{ wclap := { s.wclap with hasError := false }
            tasks := s.tasks.set i ⟨late, needsGuest, next 0⟩ }, ?_, ?_⟩
  · simp only [step, htask, WclapModule.perform]
  · simp [WclapModule.Recorded, hgroup]

/-- A step keeps a recorded failure if and only if it meets the condition. -/
private theorem keeps_recorded_iff (s : OpenWclap) (a : Action) :
    (∀ t, step s a = some t → s.wclap.Recorded → t.wclap.Recorded) ↔ LosesNoFailure s a := by
  constructor
  · -- the step that clears is possible, so it has to keep the failure
    intro h ha herror
    refine Decidable.byContradiction fun hgroup => ?_
    obtain ⟨t, ht, hlost⟩ := not_recorded_of_clears ha hgroup
    exact hlost (h t ht (.inl herror))
  · intro h t ht hrecorded
    by_cases ha : s.Clears a
    · -- the group keeps what the module forgets
      have hgroup : s.wclap.instanceGroup.hasError = true := hrecorded.elim (h ha) id
      exact .inr ((OpenWclap.step_group_follows ht).hasError hgroup)
    · exact (OpenWclap.step_follows ht ha).recorded hrecorded

/-- From `wclap_open` on, once a failure has been recorded, `wclap_get_error`
    returns true: in exactly those runs in which the constructor does not clear
    the only record of one. -/
theorem error_latched_iff (is64 shared : Bool) (setup : SetupOutcome)
    (grow : HostFunction → GrowOutcome) (as : List Action) :
    Stays step (fun s => s.wclap.Recorded) (fun s => s.wclap.getError.1 = true)
        (OpenWclap.begin is64 shared setup grow) as ↔
      Steps step LosesNoFailure (OpenWclap.begin is64 shared setup grow) as := by
  have hreport : (fun s : OpenWclap => s.wclap.getError.1 = true) = fun s => s.wclap.Recorded :=
    funext fun s => propext s.wclap.getError_iff
  rw [hreport, stays_iff_steps]
  exact Steps.congr keeps_recorded_iff

/-! ## A lost failure -/

/-- While `clap_entry.init()` runs, the guest spawns a thread. The function table
    of its instance is longer than that of the main thread, since the start
    function of the module grows it from the second time on. -/
private def spawnLonger : Action :=
  .spawnThread { Environment.calm with setup := .ready [.null, .null] }

/-- `wclap_open` goes well up to the call of `clap_entry.init()`. -/
private def untilInit : List Action :=
  List.replicate 55 (.answer 0 .calm)

/-- The failure to register the host functions for the thread is recorded and
    reported; when `clap_entry.init()` has returned, it no longer is. -/
theorem spawn_failure_lost :
    ¬ Stays step (fun s => s.wclap.Recorded) (fun s => s.wclap.getError.1 = true)
      (OpenWclap.begin false true (.ready [.null]) fun _ => .grown)
      ((untilInit ++ [spawnLonger]) ++ List.replicate 2 (.answer 0 .calm)) := by
  intro hstays
  have hspawned : ∃ t, (untilInit ++ [spawnLonger]).foldlM step
      (OpenWclap.begin false true (.ready [.null]) fun _ => .grown) = some t ∧
      t.wclap.Recorded ∧
      ((List.replicate 2 (.answer 0 .calm)).foldlM step t).map
        (fun s => (s.returned, s.wclap.getError.1)) = some (true, false) :=
    ⟨_, rfl, .inl rfl, rfl⟩
  obtain ⟨t, ht, hrecorded, hlost⟩ := hspawned
  obtain ⟨u, hu, hreturned⟩ := Option.map_eq_some_iff.mp hlost
  have hreport := (hstays _ _ t rfl ht hrecorded).at_end hu
  rw [(Prod.mk.inj hreturned).2] at hreport
  exact Bool.false_ne_true hreport

end WclapBridge.Spec
