import WclapBridge.ForStd.Transition
import WclapBridge.Native.GroupErrors

/-!
# The first error of a group

The error that a group tells of should be its first, and each error object of Wasmtime's
should be deleted once. The overload for Wasmtime's errors does not look again when it
has the lock: where two threads have both found no error, the second one takes the place
of the first, whose object nobody has any more.

## Key results

- `step_owners`: a step moves an error object, or gives up the one it overwrites
- `firstErrorKept_iff`: the runs in which no stored error object is overwritten
-/

namespace WclapBridge.Spec

open WclapBridge.Native
open GroupErrors (step)

variable {s t : GroupErrors} {a : ErrorAction}

/-- Each error object that was passed in is in one place, or has been deleted once, and
    in the end it has been deleted. -/
structure ObjectsAccounted (s : GroupErrors) : Prop where
  once : ∀ object < s.objects.length, s.owners object = 1
  atEnd : s.destroyed = true → ∀ object < s.objects.length, s.deleted.count object = 1

/-- The first error is told of from then on, and no error object is lost. -/
structure FirstErrorKept (s : GroupErrors) (as : List ErrorAction) : Prop where
  first : ∀ e, Stays step (fun s => s.error = some e) (fun s => s.error = some e) s as
  accounted : States step ObjectsAccounted s as

/-- If a call stores an error object, there is none yet. -/
def StoresFirst (s : GroupErrors) : ErrorAction → Prop
  | .goOn i => ∀ object, s.calls[i]? = some (.wtErrorTested object) → s.wtError = none
  | _ => True

/-- What holds in every run. -/
structure Orderly (s : GroupErrors) : Prop where
  /-- Only error objects that were passed in are anywhere. -/
  known : ∀ object, s.objects.length ≤ object → s.owners object = 0
  /-- The group is destroyed after all calls. -/
  quiet : s.destroyed = true → ∀ call ∈ s.calls, call = .returned

/-! ## Steps -/

theorem step_goOn {i : Nat} {call : SetErrorCall} (hrunning : s.destroyed = false)
    (hcall : s.calls[i]? = some call) : step s (.goOn i) = s.goOn i call := by
  simp only [step, hrunning, Bool.false_eq_true, if_false, hcall, Option.bind_some]

/-- The steps of a call. -/
theorem goOn_owners {i : Nat} {call : SetErrorCall} (hs : s.destroyed = false)
    (hcall : s.calls[i]? = some call) (h : s.goOn i call = some t) (object : Nat) :
    t.owners object + (s.overwrites i object).toNat = s.owners object := by
  have hrecord (message : String) : ((s.recordMessage message).moveCall i .returned).owners object +
      (call.holds object).toNat = s.owners object := by
    rw [GroupErrors.owners_moveCall (by rw [GroupErrors.calls_recordMessage]; exact hcall),
      GroupErrors.owners_recordMessage]
    rfl
  cases call with
  | message message =>
    -- a message is no error object
    cases h
    simp only [GroupErrors.overwrites, hcall, Bool.and_false]
    exact hrecord message
  | trap isTimeout timeoutMessage otherMessage =>
    cases h
    simp only [GroupErrors.overwrites, hcall, Bool.and_false]
    exact hrecord _
  | wtError e =>
    simp only [GroupErrors.overwrites, hcall, Bool.and_false]
    simp only [GroupErrors.goOn] at h
    split at h
    next =>
      -- from the hands of the call to those that are deleted
      cases h
      have hmove := GroupErrors.owners_moveCall (s := s.delete e) hcall .returned object
      rw [GroupErrors.owners_delete] at hmove
      exact Nat.add_right_cancel hmove
    next =>
      -- it stays in the hands of the call
      cases h
      exact Nat.add_right_cancel (GroupErrors.owners_moveCall hcall (.wtErrorTested e) object)
  | wtErrorTested e =>
    -- from the hands of the call to the group, in the place of what is there
    cases h
    simp only [GroupErrors.overwrites, hcall, Bool.and_true]
    have hmove := GroupErrors.owners_moveCall (s := s.storeWtError e) hcall .returned object
    have hstore := GroupErrors.owners_storeWtError hs e object
    simp only [SetErrorCall.holds, Bool.toNat_false] at hmove
    omega
  | returned => exact absurd h.symm (Option.some_ne_none t)

/-- A step moves an error object, or gives up the one it overwrites. -/
theorem step_owners (h : step s a = some t) (object : Nat) :
    t.owners object + s.lost a object = s.owners object + s.passedIn a object := by
  obtain ⟨hs, hstep⟩ := GroupErrors.stepTo_of_step h
  cases hstep with
  | setError message => exact GroupErrors.owners_begin s _ object
  | setTrap isTimeout timeoutMessage otherMessage => exact GroupErrors.owners_begin s _ object
  | setWtError e => exact GroupErrors.owners_begin _ _ object
  | goOn i call t hcall ht => exact goOn_owners hs hcall ht object
  | destroy hcalls => exact GroupErrors.owners_destroy hs object

/-- Error objects are numbered as they are passed in. -/
theorem step_objects (h : step s a = some t) (object : Nat) :
    object < t.objects.length ↔ object < s.objects.length ∨ s.passedIn a object = 1 := by
  obtain ⟨-, hstep⟩ := GroupErrors.stepTo_of_step h
  cases hstep with
  | setError message => simp [GroupErrors.begin, GroupErrors.passedIn]
  | setTrap isTimeout timeoutMessage otherMessage =>
    simp [GroupErrors.begin, GroupErrors.passedIn]
  | setWtError e =>
    simp only [GroupErrors.begin, GroupErrors.passedIn, List.length_append, List.length_singleton,
      Nat.lt_succ_iff_lt_or_eq]
    cases heq : s.objects.length == object with
    | true => simp [beq_iff_eq.mp heq]
    | false => simp [Ne.symm (beq_eq_false_iff_ne.mp heq)]
  | goOn i call t hcall ht => simp [(GroupErrors.goOn_frame ht).1, GroupErrors.passedIn]
  | destroy hcalls => simp [GroupErrors.destroy, GroupErrors.passedIn]

/-- An object that is there is not passed in again. -/
theorem passedIn_of_lt {object : Nat} (h : object < s.objects.length) (a : ErrorAction) :
    s.passedIn a object = 0 := by
  cases a with
  | setWtError e =>
    have hne : (s.objects.length == object) = false := beq_eq_false_iff_ne.mpr (Nat.ne_of_gt h)
    simp only [GroupErrors.passedIn, hne, Bool.toNat_false]
  | _ => rfl

/-- What is in order stays so. -/
theorem orderly_step (hs : Orderly s) (h : step s a = some t) : Orderly t := by
  refine ⟨fun object hobject => ?_, ?_⟩
  · have hnew := mt (step_objects h object).mpr (Nat.not_lt.mpr hobject)
    rw [not_or, Nat.not_lt] at hnew
    have howners := step_owners h object
    rw [hs.known object hnew.1] at howners
    have hle : s.passedIn a object ≤ 1 := by
      cases a with
      | setWtError e => exact Bool.toNat_le _
      | _ => exact Nat.zero_le 1
    omega
  · obtain ⟨hrunning, hstep⟩ := GroupErrors.stepTo_of_step h
    intro hdestroyed
    cases hstep with
    | destroy hcalls => exact hcalls
    | goOn i call t hcall ht =>
      rw [(GroupErrors.goOn_frame ht).2, hrunning] at hdestroyed
      exact Bool.noConfusion hdestroyed
    | _ => exact Bool.noConfusion (hrunning.symm.trans hdestroyed)

/-- If no error object is overwritten, each of them stays in one place. -/
theorem once_step (hs : Orderly s) (honce : ∀ object < s.objects.length, s.owners object = 1)
    (ha : StoresFirst s a) (h : step s a = some t) :
    ∀ object < t.objects.length, t.owners object = 1 := by
  intro object hobject
  have howners := step_owners h object
  have hlost : s.lost a object = 0 := by
    cases a with
    | goOn i =>
      simp only [GroupErrors.lost, GroupErrors.overwrites]
      split
      next e hcall => rw [ha e hcall]; rfl
      next => rw [Bool.and_false]; rfl
    | _ => rfl
  by_cases hold : object < s.objects.length
  · rw [honce object hold, passedIn_of_lt hold a] at howners
    omega
  · have hnew := ((step_objects h object).mp hobject).resolve_left hold
    rw [hs.known object (Nat.not_lt.mp hold), hnew] at howners
    omega

/-- In the end nobody has an error object any more. -/
theorem accounted_of_once (hs : Orderly s)
    (honce : ∀ object < s.objects.length, s.owners object = 1) : ObjectsAccounted s := by
  refine ⟨honce, fun hdestroyed object hobject => ?_⟩
  have hheld : s.held object = 0 := by
    refine List.countP_eq_zero.mpr fun call hcall => ?_
    rw [hs.quiet hdestroyed call hcall]
    exact Bool.false_ne_true
  have howners := honce object hobject
  simp only [GroupErrors.owners, GroupErrors.stored, hheld, hdestroyed] at howners
  simpa using howners

/-- If no error object is overwritten, the error stays. -/
theorem error_step (ha : StoresFirst s a) (h : step s a = some t) {e : GroupError}
    (he : s.error = some e) : t.error = some e := by
  obtain ⟨-, hstep⟩ := GroupErrors.stepTo_of_step h
  have hasError : s.hasError = true := by
    unfold GroupErrors.error at he
    unfold GroupErrors.hasError
    cases hmessage : s.constantErrorMessage with
    | some message => rfl
    | none =>
      rw [hmessage] at he
      obtain ⟨object, hobject, -⟩ := Option.map_eq_some_iff.mp he
      rw [hobject]
      rfl
  -- the locked section of the messages looks again
  have hrecord (message : String) : s.recordMessage message = s := if_pos hasError
  cases hstep with
  | goOn i call t hcall ht =>
    cases call with
    | message message =>
      cases ht
      rw [hrecord]
      exact he
    | trap isTimeout timeoutMessage otherMessage =>
      cases ht
      rw [hrecord]
      exact he
    | wtError object =>
      simp only [GroupErrors.goOn, hasError, if_true] at ht
      cases ht
      exact he
    | wtErrorTested object =>
      -- there is no error object yet, so the error is a message, which comes first
      cases ht
      rw [GroupErrors.error, ha object hcall] at he
      cases hmessage : s.constantErrorMessage with
      | some message =>
        rw [hmessage] at he
        simp only [GroupErrors.error, GroupErrors.moveCall, GroupErrors.storeWtError, hmessage]
        exact he
      | none =>
        rw [hmessage] at he
        exact absurd he.symm (Option.some_ne_none e)
    | returned => exact absurd ht.symm (Option.some_ne_none t)
  | _ => exact he

/-- The error object that is stored was passed in. -/
theorem object_lt_of_stored (hs : Orderly s) (hrunning : s.destroyed = false) {object : Nat}
    (h : s.wtError = some object) : object < s.objects.length := by
  refine Nat.lt_of_not_le fun hle => ?_
  have howners := hs.known object hle
  simp [GroupErrors.owners, GroupErrors.stored, hrunning, h] at howners

/-! ## Runs -/

/-- An error object that is overwritten is nowhere any more. -/
theorem storesFirst_of_accounted (hs : ObjectsAccounted s ∧ Orderly s)
    (hnext : ∀ t, step s a = some t → ObjectsAccounted t ∧ Orderly t) : StoresFirst s a := by
  cases a with
  | goOn i =>
    intro e hcall
    cases hwt : s.wtError with
    | none => rfl
    | some object =>
      have hrunning : s.destroyed = false := Bool.eq_false_iff.mpr fun hdestroyed =>
        nomatch hs.2.quiet hdestroyed _ (List.mem_of_getElem? hcall)
      have hobject := object_lt_of_stored hs.2 hrunning hwt
      -- the object that was there before the step has no owner after it
      have hstep : step s (.goOn i) = some ((s.storeWtError e).moveCall i .returned) :=
        step_goOn hrunning hcall
      have howners := step_owners hstep object
      have hnew := (hnext _ hstep).1.once object ((step_objects hstep object).mpr (.inl hobject))
      simp only [GroupErrors.lost, GroupErrors.overwrites, hwt, hcall, GroupErrors.passedIn,
        hs.1.once object hobject, hnew] at howners
      simp at howners
  | _ => exact trivial

theorem orderly_opened : Orderly .opened :=
  ⟨fun _ _ => rfl, fun h => Bool.noConfusion h⟩

/-- The first error is told of, and each error object is deleted once, in exactly those
    runs in which none is stored in the place of another. -/
theorem firstErrorKept_iff (as : List ErrorAction) :
    FirstErrorKept .opened as ↔ Steps step StoresFirst .opened as := by
  have horderly : States step Orderly .opened as :=
    States.of_invariant Orderly (fun s a t hs h => orderly_step hs h) orderly_opened
  constructor
  · intro h
    exact Steps.of_next (fun s a => storesFirst_of_accounted) (h.accounted.and horderly)
  · intro h
    refine ⟨fun e => stays_iff_steps.mpr (Steps.mono (fun s a ha t ht he => error_step ha ht he) h),
      ?_⟩
    have hinv := States.of_steps
      (fun s => Orderly s ∧ ∀ object < s.objects.length, s.owners object = 1)
      (fun s a t hs ha ht => ⟨orderly_step hs.1 ht, once_step hs.1 hs.2 ha ht⟩)
      ⟨orderly_opened, fun object hobject => absurd hobject (Nat.not_lt_zero _)⟩ h
    exact hinv.mono fun s hs => accounted_of_once hs.1 hs.2

/-- Two threads find no error, and then both store theirs. -/
private def bothTested : List ErrorAction :=
  [.setWtError "a", .setWtError "b", .goOn 0, .goOn 1, .goOn 0]

/-- The group tells of the second error after the first. -/
theorem secondError_replaces : ¬ FirstErrorKept .opened (bothTested ++ [.goOn 1]) := by
  intro h
  have hrun : ∃ t u, bothTested.foldlM step .opened = some t ∧ t.error = some (.wtError 0) ∧
      [ErrorAction.goOn 1].foldlM step t = some u ∧ u.error = some (.wtError 1) :=
    ⟨_, _, rfl, rfl, rfl, rfl⟩
  obtain ⟨t, u, ht, hfirst, hu, hsecond⟩ := hrun
  have hkept := (h.first (.wtError 0) bothTested [.goOn 1] t rfl ht hfirst).at_end hu
  rw [hsecond] at hkept
  exact absurd hkept (by decide)

/-! ## The locked sections -/

/-- A group is seen to have an error by its messages. -/
theorem toGroup_hasError (hs : Orderly s) (hrunning : s.destroyed = false)
    (group : InstanceGroup) : (s.toGroup group).hasError = s.hasError := by
  unfold InstanceGroup.hasError GroupErrors.hasError GroupErrors.toGroup
  cases hwt : s.wtError with
  | none => rfl
  | some object =>
    have hobject := object_lt_of_stored hs hrunning hwt
    simp [List.getElem?_eq_getElem hobject]

/-- The locked section for a message is the whole overload. -/
theorem recordMessage_toGroup (hs : Orderly s) (hrunning : s.destroyed = false)
    (message : String) (group : InstanceGroup) :
    (s.recordMessage message).toGroup group = (s.toGroup group).setError message := by
  have hgroup := toGroup_hasError hs hrunning group
  unfold GroupErrors.recordMessage InstanceGroup.setError
  rw [hgroup]
  split <;> rfl

/-- That for an error object is the whole overload if there still is no error. -/
theorem storeWtError_toGroup (hs : Orderly s) (hrunning : s.destroyed = false)
    {object : Nat} {e : String} (hobject : s.objects[object]? = some e)
    (herror : s.hasError = false) (group : InstanceGroup) :
    (s.storeWtError object).toGroup group = (s.toGroup group).setWtError e := by
  have hgroup := toGroup_hasError hs hrunning group
  rw [InstanceGroup.setWtError, hgroup, herror, if_neg Bool.false_ne_true]
  simp [GroupErrors.toGroup, GroupErrors.storeWtError, hobject]

end WclapBridge.Spec
