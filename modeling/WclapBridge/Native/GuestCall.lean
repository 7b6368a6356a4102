import WclapBridge.Native.Arena
import WclapBridge.Native.InstanceGroup

/-!
# Calls with arguments

`InstanceImpl::call` converts its arguments to an array of `wasmtime_val_raw`, in
which Wasmtime finds them and leaves the result. After a failure `wtCall` clears the
first slot instead.

A slot is a union of sixteen bytes; only the first eight are used here.
-/

namespace WclapBridge.Native

/-- The C++ types of arguments and results. Floating-point values are bit patterns. -/
inductive ArgType where
  | bool
  | int8
  | uint8
  | int16
  | uint16
  | int32
  | uint32
  | int64
  | uint64
  | float
  | double
  | pointer (is64 : Bool)
  deriving DecidableEq

namespace ArgType

/-- The values of a type. -/
def Value : ArgType → Type
  | bool => Bool
  | int8 => Int8
  | uint8 => UInt8
  | int16 => Int16
  | uint16 => UInt16
  | int32 => Int32
  | uint32 | float => UInt32
  | int64 => Int64
  | uint64 | double => UInt64
  | pointer is64 => Pointer is64

/-- `false`, 0 or the null pointer. -/
def zero : (t : ArgType) → t.Value
  | bool => false
  | int8 => (0 : Int8)
  | uint8 => (0 : UInt8)
  | int16 => (0 : Int16)
  | uint16 => (0 : UInt16)
  | int32 => (0 : Int32)
  | uint32 | float => (0 : UInt32)
  | int64 => (0 : Int64)
  | uint64 | double => (0 : UInt64)
  | pointer _ => Pointer.null

end ArgType

/-- The part of a `wasmtime_val_raw` that is used. -/
abbrev ValRaw := UInt64

/-- `val = {}` and `val.i32 = v`, which `val.f32 = v` does alike. -/
def ValRaw.ofI32 (v : UInt32) : ValRaw := v.toUInt64

/-- `v.i32`, and `v.f32`. -/
def ValRaw.i32 (v : ValRaw) : UInt32 := v.toUInt32

/-- `argToWasmVal`. -/
def argToWasmVal : (t : ArgType) → t.Value → ValRaw
  | .bool, v => .ofI32 (UInt32.ofNat (Bool.toNat v))
  | .int8, v => .ofI32 (Int8.toInt32 v).toUInt32
  | .uint8, v => .ofI32 (UInt8.toUInt32 v)
  | .int16, v => .ofI32 (Int16.toInt32 v).toUInt32
  | .uint16, v => .ofI32 (UInt16.toUInt32 v)
  | .int32, v => .ofI32 (Int32.toUInt32 v)
  | .uint32, v | .float, v => .ofI32 v
  | .int64, v => Int64.toUInt64 v
  | .uint64, v | .double, v => v
  | .pointer false, v => .ofI32 (UInt32.ofNat (Pointer.toNat v))
  | .pointer true, v => Pointer.toUInt64 v

/-- `wasmValToArg`. -/
def wasmValToArg : (t : ArgType) → ValRaw → t.Value
  | .bool, v => decide (v.i32 ≠ 0)
  | .int8, v => v.i32.toInt32.toInt8
  | .uint8, v => v.i32.toUInt8
  | .int16, v => v.i32.toInt32.toInt16
  | .uint16, v => v.i32.toUInt16
  | .int32, v => v.i32.toInt32
  | .uint32, v | .float, v => v.i32
  | .int64, v => UInt64.toInt64 v
  | .uint64, v | .double, v => v
  | .pointer false, v => Pointer.ofNat v.i32.toNat
  | .pointer true, v => Pointer.ofNat (UInt64.toNat v)

/-- An argument with its type. -/
abbrev Arg := (t : ArgType) × t.Value

/-- The type of the result: `none` is `void`. -/
abbrev ReturnType := Option ArgType

/-- What a call returns. -/
def ReturnType.Value : ReturnType → Type
  | none => Unit
  | some t => t.Value

/-- `{}`. -/
def ReturnType.zero : (ret : ReturnType) → ReturnType.Value ret
  | none => ()
  | some t => t.zero

/-- What an entry of the function table is for `wasmtime_table_get`. -/
inductive TableItem where
  /-- It is not of the kind `WASMTIME_FUNCREF`. -/
  | other
  /-- A function, with what comes of a call for what it finds in the slots. -/
  | funcref (run : List ValRaw → CallOutcome)

/-- `wtFunctionTable`, by index. -/
abbrev FunctionTable := UInt64 → Option TableItem

/-- What `wtCall` leaves behind: the slots, the group, and the number of slots that
    `wasmtime_func_call_unchecked` is told of, if it is called. -/
structure RawCall where
  argsAndResults : List ValRaw
  group : InstanceGroup
  slotCount : Option Nat

/-- `if (argN > 0) argsAndResults[0].i64 = 0;` -/
def clearResult (argsAndResults : List ValRaw) (argN : Nat) : List ValRaw :=
  if argN > 0 then argsAndResults.set 0 0 else argsAndResults

/-- `InstanceImpl::wtCall`, with its slots. -/
def wtCallRaw (table : FunctionTable) (group : InstanceGroup) (fnP : UInt64)
    (argsAndResults : List ValRaw) (argN : Nat) : RawCall :=
  if group.hasError then ⟨clearResult argsAndResults argN, group, none⟩
  else
    match table fnP with
    | none =>
      ⟨clearResult argsAndResults argN, group.setError "function pointer doesn't resolve", none⟩
    | some .other =>
      -- Shouldn't ever happen, but who knows
      ⟨clearResult argsAndResults argN,
        group.setError "function pointer doesn't resolve to a function", none⟩
    | some (.funcref run) =>
      let slotCount := 1
      match run argsAndResults with
      | .error e =>
        ⟨clearResult argsAndResults argN, group.setWtError e, some slotCount⟩
      | .timeout =>
        ⟨clearResult argsAndResults argN, group.setError "WCLAP function call timeout",
          some slotCount⟩
      | .trap =>
        ⟨clearResult argsAndResults argN, group.setError "WCLAP function call threw (trapped)",
          some slotCount⟩
      | .returned value => ⟨argsAndResults.set 0 value, group, some slotCount⟩

/-- The array of slots that `call` sets up, and the `argN` it passes. `stack` is what an
    uninitialised slot holds. -/
def callSlots (ret : ReturnType) (args : List Arg) (stack : ValRaw) : List ValRaw × Nat :=
  match ret, args with
  | none, args => (args.map fun arg => argToWasmVal arg.1 arg.2, args.length)
  | some _, arg :: args =>
    ((arg :: args).map fun arg => argToWasmVal arg.1 arg.2, (arg :: args).length)
  -- still need one slot for the return value
  | some _, [] => ([stack], 1)

/-- What comes of `call`. -/
structure CallResult (ret : ReturnType) where
  result : ReturnType.Value ret
  group : InstanceGroup
  slotCount : Option Nat

/-- `InstanceImpl::call`. The templates for `wclap32` and `wclap64` functions are the
    same. -/
def InstanceImpl.call (table : FunctionTable) (group : InstanceGroup) {is64 : Bool}
    (fnPtr : Pointer is64) (ret : ReturnType) (args : List Arg) (stack : ValRaw) :
    CallResult ret :=
  let (wasmVals, argN) := callSlots ret args stack
  let raw := wtCallRaw table group fnPtr.toUInt64 wasmVals argN
  let result : ReturnType.Value ret :=
    match ret with
    | none => ()
    | some t => wasmValToArg t (raw.argsAndResults.headD 0)
  ⟨result, raw.group, raw.slotCount⟩

/-- `InstanceImpl::callAt`: the call, if there is one, or else `{}`. -/
def InstanceImpl.callAt (table : FunctionTable) (group : InstanceGroup) (mem : LinearMemory)
    {is64 : Bool} (fnPtrPtr : Pointer is64) (ret : ReturnType) (args : List Arg)
    (stack : ValRaw) : CallResult ret :=
  match mem.callAt fnPtrPtr with
  | some fnPtr => InstanceImpl.call table group fnPtr ret args stack
  | none => ⟨ret.zero, group, none⟩

/-! ## The slots and the values -/

/-- A cleared slot is the zero value of each type. -/
theorem wasmValToArg_zero (t : ArgType) : wasmValToArg t 0 = t.zero := by
  cases t with
  | pointer is64 => cases is64 <;> rfl
  | _ => rfl

/-- A call with a result has a slot for it, and an `argN` that says so. -/
theorem callSlots_some (t : ArgType) (args : List Arg) (stack : ValRaw) :
    (callSlots (some t) args stack).1 ≠ [] ∧ 0 < (callSlots (some t) args stack).2 := by
  cases args with
  | nil => exact ⟨List.cons_ne_nil _ _, Nat.zero_lt_one⟩
  | cons arg args => exact ⟨List.cons_ne_nil _ _, Nat.succ_pos _⟩

theorem headD_clearResult {slots : List ValRaw} {argN : Nat} (hslots : slots ≠ [])
    (hargN : 0 < argN) : (clearResult slots argN).headD 0 = 0 := by
  obtain ⟨slot, slots, rfl⟩ := List.exists_cons_of_ne_nil hslots
  rw [clearResult, if_pos hargN]
  rfl

/-- A call that goes well leaves its result in the first slot. -/
theorem wtCallRaw_returned {table : FunctionTable} {group : InstanceGroup} {fnP : UInt64}
    {slots : List ValRaw} {run : List ValRaw → CallOutcome} {value : UInt64}
    (hgroup : group.hasError = false) (htable : table fnP = some (.funcref run))
    (hrun : run slots = .returned value) (argN : Nat) :
    wtCallRaw table group fnP slots argN = ⟨slots.set 0 value, group, some 1⟩ := by
  simp only [wtCallRaw, hgroup, Bool.false_eq_true, if_false, htable, hrun]

/-! ## The model without slots -/

/-- The outcome of a call, as `wtCall` takes it. -/
def tableOutcome (slots : List ValRaw) : Option TableItem → TableCallOutcome
  | none => .unresolved
  | some .other => .notFunction
  | some (.funcref run) => .called (run slots)

/-- `wtCall` is `wtCallRaw` without the slots. -/
theorem wtCallRaw_group (instance_ : InstanceImpl) (table : FunctionTable)
    (group : InstanceGroup) (fnP : UInt64) (slots : List ValRaw) (argN : Nat) :
    (wtCallRaw table group fnP slots argN).group =
      (wtCall instance_ (tableOutcome slots (table fnP)) group).2.1 := by
  unfold wtCallRaw wtCall
  split
  next => rfl
  next =>
    rcases table fnP with _ | _ | run
    · rfl
    · rfl
    · simp only [tableOutcome]
      cases run slots <;> rfl

end WclapBridge.Native
