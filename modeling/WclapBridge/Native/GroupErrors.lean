import WclapBridge.ForStd.List
import WclapBridge.Native.InstanceGroup

/-!
# Errors from several threads

`InstanceGroup::setError` has three overloads. The one for messages looks for an error
and records its own under the lock of the group. The one for Wasmtime's errors looks
first, and takes the lock afterwards. The one for traps calls the first.

A test without the lock, or a section with it, is one step. The error objects of Wasmtime
are numbered in the order in which they are passed in.
-/

namespace WclapBridge.Native

/-- How far a call of `setError` is. Calls for null return at once, and are left out. -/
inductive SetErrorCall where
  /-- `setError(const char *)`, before its locked section. -/
  | message (message : String)
  /-- `setError(wasmtime_error_t *)`, before its test. -/
  | wtError (object : Nat)
  /-- The same, after a test that has found no error. -/
  | wtErrorTested (object : Nat)
  /-- `setError(wasm_trap_t *, …)`, before it calls the first overload. -/
  | trap (isTimeout : Bool) (timeoutMessage otherMessage : String)
  | returned
  deriving DecidableEq

/-- The call has the error object in its hands. -/
def SetErrorCall.holds (object : Nat) : SetErrorCall → Bool
  | .wtError e | .wtErrorTested e => e == object
  | .message _ | .trap _ _ _ | .returned => false

/-- What `error()` tells: a message, or that of an error object. -/
inductive GroupError where
  | message (message : String)
  | wtError (object : Nat)
  deriving DecidableEq

/-- The part of an `InstanceGroup` that has to do with errors, with the calls of
    `setError` by all threads. -/
structure GroupErrors where
  constantErrorMessage : Option String
  wtError : Option Nat
  calls : List SetErrorCall
  /-- The error objects that were passed in, by their messages. -/
  objects : List String
  /-- For each call of `wasmtime_error_delete`, the error object. -/
  deleted : List Nat
  destroyed : Bool

/-- What can happen to the errors of a group. -/
inductive ErrorAction where
  /-- A thread calls `setError` for a message. -/
  | setError (message : String)
  /-- A thread calls `setError` for an error object. -/
  | setWtError (e : String)
  /-- A thread calls `setError` for a trap. -/
  | setTrap (isTimeout : Bool) (timeoutMessage otherMessage : String)
  /-- A call of `setError` does its next step. -/
  | goOn (call : Nat)
  /-- The destructor of the group. -/
  | destroy
  deriving DecidableEq

namespace GroupErrors

/-- A new group, which `wclap_open` has found to be without an error. -/
def opened : GroupErrors := ⟨none, none, [], [], [], false⟩

def hasError (s : GroupErrors) : Bool :=
  s.constantErrorMessage.isSome || s.wtError.isSome

/-- `error()`. -/
def error (s : GroupErrors) : Option GroupError :=
  match s.constantErrorMessage with
  | some message => some (.message message)
  | none => s.wtError.map .wtError

/-- The call is at another place. -/
def moveCall (s : GroupErrors) (i : Nat) (call : SetErrorCall) : GroupErrors :=
  { s with calls := s.calls.set i call }

/-- The locked section of `setError(const char *)`. -/
def recordMessage (s : GroupErrors) (message : String) : GroupErrors :=
  if s.hasError then s else { s with constantErrorMessage := some message }

/-- The locked section of `setError(wasmtime_error_t *)`. -/
def storeWtError (s : GroupErrors) (object : Nat) : GroupErrors :=
  { s with wtError := some object }

/-- `wasmtime_error_delete`. -/
def delete (s : GroupErrors) (object : Nat) : GroupErrors :=
  { s with deleted := s.deleted ++ [object] }

/-- The next step of a call. -/
def goOn (s : GroupErrors) (i : Nat) : SetErrorCall → Option GroupErrors
  | .message message => some ((s.recordMessage message).moveCall i .returned)
  | .wtError object =>
    -- Keep first error, but log the new one
    if s.hasError then some ((s.delete object).moveCall i .returned)
    else some (s.moveCall i (.wtErrorTested object))
  | .wtErrorTested object => some ((s.storeWtError object).moveCall i .returned)
  | .trap isTimeout timeoutMessage otherMessage =>
    let message := if isTimeout then timeoutMessage else otherMessage
    some ((s.recordMessage message).moveCall i .returned)
  | .returned => none

/-- A thread begins a call. -/
def begin (s : GroupErrors) (call : SetErrorCall) : GroupErrors :=
  { s with calls := s.calls ++ [call] }

/-- `~InstanceGroup`. -/
def destroy (s : GroupErrors) : GroupErrors :=
  { s with deleted := s.deleted ++ s.wtError.toList, destroyed := true }

/-- A group that is destroyed is not used any more, and it is not destroyed while a call
    is on its way. -/
def step (s : GroupErrors) (a : ErrorAction) : Option GroupErrors :=
  if s.destroyed then none
  else
    match a with
    | .setError message => some (s.begin (.message message))
    | .setWtError e =>
      some ({ s with objects := s.objects ++ [e] }.begin (.wtError s.objects.length))
    | .setTrap isTimeout timeoutMessage otherMessage =>
      some (s.begin (.trap isTimeout timeoutMessage otherMessage))
    | .goOn i => s.calls[i]?.bind (s.goOn i)
    | .destroy => if s.calls.all (· = .returned) then some s.destroy else none

/-- The group, with the messages of its errors. -/
def toGroup (s : GroupErrors) (group : InstanceGroup) : InstanceGroup :=
  { group with
    constantErrorMessage := s.constantErrorMessage
    wtError := s.wtError.bind (s.objects[·]?) }

/-! ## What a step does -/

/-- The steps, with what they depend on. -/
inductive StepTo (s : GroupErrors) : ErrorAction → GroupErrors → Prop where
  | setError (message : String) : StepTo s (.setError message) (s.begin (.message message))
  | setWtError (e : String) :
    StepTo s (.setWtError e)
      ({ s with objects := s.objects ++ [e] }.begin (.wtError s.objects.length))
  | setTrap (isTimeout : Bool) (timeoutMessage otherMessage : String) :
    StepTo s (.setTrap isTimeout timeoutMessage otherMessage)
      (s.begin (.trap isTimeout timeoutMessage otherMessage))
  | goOn (i : Nat) (call : SetErrorCall) (t : GroupErrors) (hcall : s.calls[i]? = some call)
    (ht : s.goOn i call = some t) : StepTo s (.goOn i) t
  | destroy (hcalls : ∀ call ∈ s.calls, call = .returned) : StepTo s .destroy s.destroy

theorem stepTo_of_step {s t : GroupErrors} {a : ErrorAction} (h : s.step a = some t) :
    s.destroyed = false ∧ StepTo s a t := by
  unfold step at h
  split at h
  next => exact nomatch h
  next hs =>
    refine ⟨Bool.eq_false_iff.mpr hs, ?_⟩
    cases a with
    | setError message =>
      cases h
      exact .setError message
    | setWtError e =>
      cases h
      exact .setWtError e
    | setTrap isTimeout timeoutMessage otherMessage =>
      cases h
      exact .setTrap isTimeout timeoutMessage otherMessage
    | goOn i =>
      obtain ⟨call, hcall, ht⟩ := Option.bind_eq_some_iff.mp h
      exact .goOn i call t hcall ht
    | destroy =>
      dsimp only at h
      split at h
      next hcalls =>
        cases h
        exact .destroy fun call hcall => of_decide_eq_true (List.all_eq_true.mp hcalls call hcall)
      next => exact nomatch h

/-- A call changes nothing but the errors. -/
theorem goOn_frame {s t : GroupErrors} {i : Nat} {call : SetErrorCall}
    (h : s.goOn i call = some t) : t.objects = s.objects ∧ t.destroyed = s.destroyed := by
  have hrecord (message : String) : (s.recordMessage message).objects = s.objects ∧
      (s.recordMessage message).destroyed = s.destroyed := by
    unfold recordMessage
    split <;> exact ⟨rfl, rfl⟩
  cases call with
  | message message =>
    cases h
    exact hrecord message
  | trap isTimeout timeoutMessage otherMessage =>
    cases h
    exact hrecord _
  | wtError e =>
    simp only [goOn] at h
    split at h <;> cases h <;> exact ⟨rfl, rfl⟩
  | wtErrorTested e =>
    cases h
    exact ⟨rfl, rfl⟩
  | returned => exact nomatch h

/-! ## Where an error object is -/

/-- The calls that have the error object in their hands. -/
def held (s : GroupErrors) (object : Nat) : Nat :=
  s.calls.countP (·.holds object)

/-- Whether the group has the error object. -/
def stored (s : GroupErrors) (object : Nat) : Nat :=
  (!s.destroyed && s.wtError == some object).toNat

/-- How many places have the error object, or have deleted it. -/
def owners (s : GroupErrors) (object : Nat) : Nat :=
  s.held object + s.stored object + s.deleted.count object

/-- Whether the next step of a call takes the place of a stored error object. -/
def overwrites (s : GroupErrors) (i object : Nat) : Bool :=
  s.wtError == some object &&
    match s.calls[i]? with
    | some (.wtErrorTested _) => true
    | _ => false

/-- How many places of an error object a step gives up. -/
def lost (s : GroupErrors) : ErrorAction → Nat → Nat
  | .goOn i, object => (s.overwrites i object).toNat
  | _, _ => 0

/-- How many a step adds: a new object is in the hands of its call. -/
def passedIn (s : GroupErrors) : ErrorAction → Nat → Nat
  | .setWtError _, object => (s.objects.length == object).toNat
  | _, _ => 0

theorem held_moveCall {s : GroupErrors} {i : Nat} {call : SetErrorCall}
    (h : s.calls[i]? = some call) (next : SetErrorCall) (object : Nat) :
    (s.moveCall i next).held object + (call.holds object).toNat =
      s.held object + (next.holds object).toNat := by
  have hset := List.countP_set_add (p := (·.holds object)) h next
  have hnat : ∀ b : Bool, (if b = true then 1 else 0) = b.toNat := fun b => by cases b <;> rfl
  rw [hnat, hnat] at hset
  exact hset

theorem held_begin (s : GroupErrors) (call : SetErrorCall) (object : Nat) :
    (s.begin call).held object = s.held object + (call.holds object).toNat := by
  cases hcall : call.holds object <;> simp [held, begin, hcall]

@[simp] theorem stored_moveCall (s : GroupErrors) (i : Nat) (next : SetErrorCall) (object : Nat) :
    (s.moveCall i next).stored object = s.stored object := rfl

@[simp] theorem stored_begin (s : GroupErrors) (call : SetErrorCall) (object : Nat) :
    (s.begin call).stored object = s.stored object := rfl

@[simp] theorem calls_recordMessage (s : GroupErrors) (message : String) :
    (s.recordMessage message).calls = s.calls := by
  unfold recordMessage
  split <;> rfl

theorem owners_recordMessage (s : GroupErrors) (message : String) (object : Nat) :
    (s.recordMessage message).owners object = s.owners object := by
  unfold recordMessage
  split <;> rfl

/-- A call that moves on keeps, gives away or takes its object. -/
theorem owners_moveCall {s : GroupErrors} {i : Nat} {call : SetErrorCall}
    (h : s.calls[i]? = some call) (next : SetErrorCall) (object : Nat) :
    (s.moveCall i next).owners object + (call.holds object).toNat =
      s.owners object + (next.holds object).toNat := by
  have hheld := held_moveCall h next object
  simp only [owners, stored_moveCall]
  simp only [moveCall] at hheld ⊢
  omega

theorem owners_begin (s : GroupErrors) (call : SetErrorCall) (object : Nat) :
    (s.begin call).owners object = s.owners object + (call.holds object).toNat := by
  have hheld := held_begin s call object
  simp only [owners, stored_begin]
  simp only [begin] at hheld ⊢
  omega

theorem count_deleted (deleted : List Nat) (e object : Nat) :
    (deleted ++ [e]).count object = deleted.count object + (e == object).toNat := by
  rw [List.count_append, List.count_singleton]
  cases e == object <;> rfl

theorem owners_delete (s : GroupErrors) (e object : Nat) :
    (s.delete e).owners object = s.owners object + (e == object).toNat := by
  simp only [owners, delete, count_deleted, held, stored]
  omega

/-- The stored object is the new one. -/
theorem owners_storeWtError {s : GroupErrors} (hs : s.destroyed = false) (e object : Nat) :
    (s.storeWtError e).owners object + (s.wtError == some object).toNat =
      s.owners object + (e == object).toNat := by
  simp only [owners, storeWtError, held, stored, hs]
  simp
  omega

/-- The stored object is deleted. -/
theorem owners_destroy {s : GroupErrors} (hs : s.destroyed = false) (object : Nat) :
    s.destroy.owners object = s.owners object := by
  simp only [owners, destroy, held, stored, hs]
  cases s.wtError with
  | none => simp
  | some e =>
    rw [Option.toList_some, count_deleted]
    simp
    omega

end GroupErrors

end WclapBridge.Native
