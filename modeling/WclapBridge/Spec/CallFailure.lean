import WclapBridge.Native.GuestCall
import WclapBridge.Spec.MemoryAccess

/-!
# Failed calls, and the slots of a call

A call that fails returns zero in each of its types, since the slot that holds its
result is cleared on each way out. The number of slots is another matter: Wasmtime is
told of one, however many arguments there are.

## Key results

- `call_result_of_fails`: what a call that fails returns
- `call_slotCount`: what Wasmtime is told
- `callContract_iff`: when a call is in order
-/

namespace WclapBridge.Spec

open WclapBridge.Native

variable {is64 : Bool} {table : FunctionTable} {group : InstanceGroup} {fnPtr : Pointer is64}
  {ret : ReturnType} {args : List Arg} {stack : ValRaw}

/-- The ways in which a call fails. -/
inductive CallFails (table : FunctionTable) (group : InstanceGroup) (fnPtr : Pointer is64)
    (slots : List ValRaw) : Prop where
  | hasError (h : group.hasError = true)
  | unresolved (h : table fnPtr.toUInt64 = none)
  | notFunction (h : table fnPtr.toUInt64 = some .other)
  | error (run : List ValRaw → CallOutcome) (e : String)
    (h : table fnPtr.toUInt64 = some (.funcref run)) (hrun : run slots = .error e)
  | timeout (run : List ValRaw → CallOutcome)
    (h : table fnPtr.toUInt64 = some (.funcref run)) (hrun : run slots = .timeout)
  | trap (run : List ValRaw → CallOutcome)
    (h : table fnPtr.toUInt64 = some (.funcref run)) (hrun : run slots = .trap)

/-- A function of the guest's is called. -/
def CallMade (table : FunctionTable) (group : InstanceGroup) (fnPtr : Pointer is64) : Prop :=
  group.hasError = false ∧ ∃ run, table fnPtr.toUInt64 = some (.funcref run)

/-- How many results there are. -/
def resultCount : ReturnType → Nat
  | none => 0
  | some _ => 1

/-- A call is in order: it returns zero if it fails, and Wasmtime is told of as many
    slots as there are arguments and results. -/
structure CallContract (table : FunctionTable) (group : InstanceGroup) (fnPtr : Pointer is64)
    (ret : ReturnType) (args : List Arg) (stack : ValRaw) : Prop where
  failure : CallFails table group fnPtr (callSlots ret args stack).1 →
    (InstanceImpl.call table group fnPtr ret args stack).result = ret.zero
  slots : ∀ n, (InstanceImpl.call table group fnPtr ret args stack).slotCount = some n →
    max args.length (resultCount ret) ≤ n

/-! ## Failures -/

/-- A call that fails clears the slot of the result. -/
theorem wtCallRaw_of_fails {slots : List ValRaw} (h : CallFails table group fnPtr slots)
    (argN : Nat) :
    (wtCallRaw table group fnPtr.toUInt64 slots argN).argsAndResults = clearResult slots argN := by
  unfold wtCallRaw
  split
  next => rfl
  next hno =>
    cases h with
    | hasError h => exact absurd h hno
    | unresolved h => rw [h]
    | notFunction h => rw [h]
    | error run e h hrun => simp only [h, hrun]
    | timeout run h hrun => simp only [h, hrun]
    | trap run h hrun => simp only [h, hrun]

/-- What a call that fails returns. -/
theorem call_result_of_fails (h : CallFails table group fnPtr (callSlots ret args stack).1) :
    (InstanceImpl.call table group fnPtr ret args stack).result = ret.zero := by
  cases ret with
  | none => rfl
  | some t =>
    obtain ⟨hslots, hargN⟩ := callSlots_some t args stack
    -- what is left in the first slot, which is there even without arguments
    have hresult : (InstanceImpl.call table group fnPtr (some t) args stack).result =
        wasmValToArg t ((wtCallRaw table group fnPtr.toUInt64 (callSlots (some t) args stack).1
          (callSlots (some t) args stack).2).argsAndResults.headD 0) := rfl
    rw [hresult, wtCallRaw_of_fails h, headD_clearResult hslots hargN, wasmValToArg_zero]
    rfl

/-! ## Slots -/

/-- Wasmtime is told of one slot. -/
theorem wtCallRaw_slotCount (slots : List ValRaw) (argN n : Nat) :
    (wtCallRaw table group fnPtr.toUInt64 slots argN).slotCount = some n ↔
      CallMade table group fnPtr ∧ n = 1 := by
  unfold wtCallRaw CallMade
  split
  next h => simp [h]
  next h =>
    rw [Bool.not_eq_true] at h
    rcases htable : table fnPtr.toUInt64 with _ | _ | run
    · simp
    · simp
    · have heq : ∀ n, some 1 = some n ↔ n = 1 := fun n => by simp [eq_comm]
      dsimp only
      split <;> simp [h, heq]

theorem call_slotCount (n : Nat) :
    (InstanceImpl.call table group fnPtr ret args stack).slotCount = some n ↔
      CallMade table group fnPtr ∧ n = 1 :=
  wtCallRaw_slotCount _ _ _

/-! ## The contract -/

/-- Every call returns zero if it fails. The slots are right if and only if there is at
    most one argument, or the guest is not called. -/
theorem callContract_iff (table : FunctionTable) (group : InstanceGroup) (fnPtr : Pointer is64)
    (ret : ReturnType) (args : List Arg) (stack : ValRaw) :
    CallContract table group fnPtr ret args stack ↔
      (CallMade table group fnPtr → args.length ≤ 1) := by
  constructor
  · intro h hmade
    have hslots := h.slots 1 ((call_slotCount 1).mpr ⟨hmade, rfl⟩)
    omega
  · intro h
    refine ⟨call_result_of_fails, fun n hn => ?_⟩
    obtain ⟨hmade, rfl⟩ := (call_slotCount n).mp hn
    -- there is never more than one result
    have hresults : resultCount ret ≤ 1 := by cases ret <;> simp [resultCount]
    exact Nat.max_le.mpr ⟨h hmade, hresults⟩

/-- A function for a plugin and an index, as many extensions have. -/
theorem pluginCall_slots :
    ¬ CallContract (fun _ => some (.funcref fun _ => .returned 1)) (InstanceGroup.opened false)
      (Pointer.ofNat 3 : Pointer false) (some .bool)
      [⟨.pointer false, Pointer.ofNat 64⟩, ⟨.uint32, (0 : UInt32)⟩] 0 := by
  intro h
  exact absurd (h.slots 1 rfl) (by decide)

/-- `callAt` is a call in order, or not, of the function that is found in memory. -/
theorem callAt_eq_call (mem : LinearMemory) (fnPtrPtr : Pointer is64) :
    ∃ fnPtr, mem.callAt fnPtrPtr = some fnPtr ∧
      InstanceImpl.callAt table group mem fnPtrPtr ret args stack =
        InstanceImpl.call table group fnPtr ret args stack := by
  obtain ⟨fnPtr, hfnPtr⟩ := Option.ne_none_iff_exists'.mp (callAt_ne_none mem fnPtrPtr)
  exact ⟨fnPtr, hfnPtr, by rw [InstanceImpl.callAt, hfnPtr]⟩

end WclapBridge.Spec
