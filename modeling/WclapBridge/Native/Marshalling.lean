import Mathlib.Data.Prod.TProd
import WclapBridge.Native.GuestCall
import WclapBridge.Native.ModuleSetup

/-!
# Values on their way into guest code and out of it

A `wasmtime_val_raw` is a union, and Wasmtime finds a value only in the member for its
type. Three families of overloads have to agree on this: `argToWasmVal` assigns to a
member, `wasmValToArg` reads one, and `wasmValTypeCode` tells Wasmtime about it. The
last is what `makeWasmtimeFuncType` declares the type of a host function with.

`Native.GuestCall` looks at the bytes of a slot; here it is the member that was
assigned, and another one cannot be read.
-/

namespace WclapBridge.Native

/-! ## Single values -/

/-- A `wasmtime_val_raw`, by the member that was assigned, or a `wasmtime_val_t`, which
    says this itself. Floating-point values are bit patterns. -/
inductive WasmVal where
  | i32 (v : Int32)
  | i64 (v : Int64)
  | f32 (v : UInt32)
  | f64 (v : UInt64)
  deriving DecidableEq

namespace WasmVal

/-- The kind of value that has this member. -/
def kind : WasmVal → ValKind
  | i32 _ => .i32
  | i64 _ => .i64
  | f32 _ => .f32
  | f64 _ => .f64

/-- The bytes that are used. -/
def raw : WasmVal → ValRaw
  | i32 v => .ofI32 v.toUInt32
  | i64 v => v.toUInt64
  | f32 v => .ofI32 v
  | f64 v => v

/-- `v.i32`. -/
def i32? : WasmVal → Option Int32
  | i32 v => some v
  | _ => none

/-- `v.i64`. -/
def i64? : WasmVal → Option Int64
  | i64 v => some v
  | _ => none

/-- `v.f32`. -/
def f32? : WasmVal → Option UInt32
  | f32 v => some v
  | _ => none

/-- `v.f64`. -/
def f64? : WasmVal → Option UInt64
  | f64 v => some v
  | _ => none

/-- The overloads of `argToWasmVal`, with their casts. -/
def argToWasmVal : (t : ArgType) → t.Value → WasmVal
  | .int32, v => .i32 v
  | .int64, v => .i64 v
  | .float, v => .f32 v
  | .double, v => .f64 v
  -- cast others to the four main types
  | .bool, v => .i32 (Int32.ofNat (Bool.toNat v))
  | .int8, v => .i32 (Int8.toInt32 v)
  | .uint8, v => .i32 (UInt8.toUInt32 v).toInt32
  | .int16, v => .i32 (Int16.toInt32 v)
  | .uint16, v => .i32 (UInt16.toUInt32 v).toInt32
  | .uint32, v => .i32 (UInt32.toInt32 v)
  | .uint64, v => .i64 (UInt64.toInt64 v)
  | .pointer false, v => .i32 (UInt32.ofNat (Pointer.toNat v)).toInt32
  | .pointer true, v => .i64 (Pointer.toUInt64 v).toInt64

/-- The specialisations of `wasmValToArg`, with their casts. -/
def wasmValToArg : (t : ArgType) → WasmVal → Option t.Value
  | .bool, v => v.i32?.map fun v => decide (v ≠ 0)
  | .int8, v => v.i32?.map Int32.toInt8
  | .uint8, v => v.i32?.map fun v => v.toUInt32.toUInt8
  | .int16, v => v.i32?.map Int32.toInt16
  | .uint16, v => v.i32?.map fun v => v.toUInt32.toUInt16
  | .int32, v => v.i32?
  | .uint32, v => v.i32?.map Int32.toUInt32
  | .int64, v => v.i64?
  | .uint64, v => v.i64?.map Int64.toUInt64
  | .float, v => v.f32?
  | .double, v => v.f64?
  | .pointer false, v => v.i32?.map fun v => Pointer.ofNat v.toUInt32.toNat
  | .pointer true, v => v.i64?.map fun v => Pointer.ofNat v.toUInt64.toNat

end WasmVal

/-- The specialisations of `wasmValTypeCode`. -/
def wasmValTypeCode : ArgType → ValKind
  | .bool | .int8 | .uint8 | .int16 | .uint16 | .int32 | .uint32 => .i32
  | .int64 | .uint64 => .i64
  | .float => .f32
  | .double => .f64
  | .pointer false => .i32
  | .pointer true => .i64

/-! ## Signatures -/

/-- The arguments of a function: `std::tuple<Args...>`. -/
abbrev Args (types : List ArgType) : Type := List.TProd ArgType.Value types

/-- `{argToWasmVal(args)...}`. -/
def wasmVals : (types : List ArgType) → Args types → List WasmVal
  | [], _ => []
  | t :: types, (v, args) => .argToWasmVal t v :: wasmVals types args

/-- The slots that `call` sets up: the result needs one, too. `stack` is what it holds
    before. -/
def callVals : (ret : ReturnType) → (types : List ArgType) → Args types → WasmVal → List WasmVal
  | some _, [], _, stack => [stack]
  | _, types, args, _ => wasmVals types args

/-- A `wasm_functype_t`. -/
structure FuncType where
  params : List ValKind
  results : List ValKind
  deriving DecidableEq

/-- `setWasmtimeValTypes<index, Args...>`. -/
def setWasmtimeValTypes (index : Nat) :
    List ArgType → List (Option ValKind) → List (Option ValKind)
  | [], vec => vec
  | first :: args, vec =>
    setWasmtimeValTypes (index + 1) args (vec.set index (some (wasmValTypeCode first)))

/-- `wasm_functype_new`, which needs vectors whose elements are all set. -/
def wasmFunctypeNew (params results : List (Option ValKind)) : Option FuncType := do
  let params ← params.mapM id
  let results ← results.mapM id
  some ⟨params, results⟩

/-- `makeWasmtimeFuncType<Return, Args...>`. -/
def makeWasmtimeFuncType (ret : ReturnType) (args : List ArgType) : Option FuncType :=
  let params := setWasmtimeValTypes 0 args (List.replicate args.length none)
  let results :=
    match ret with
    | none => []
    | some t => [some (wasmValTypeCode t)]
  wasmFunctypeNew params results

/-- `wasmValToArg<Args>(wasmArgs[Is])...`, the first of `Is` being `index`. -/
def argsFrom (wasmArgs : List WasmVal) (index : Nat) : (types : List ArgType) → Option (Args types)
  | [] => some ⟨⟩
  | t :: types => do
    let v ← wasmArgs[index]?
    let v ← v.wasmValToArg t
    let args ← argsFrom wasmArgs (index + 1) types
    some (v, args)

/-- `argsAsTuple`. -/
def argsAsTuple {Context : Type} (context : Context) (types : List ArgType)
    (wasmArgs : List WasmVal) : Option (Context × Args types) :=
  (argsFrom wasmArgs 0 types).map fun args => (context, args)

/-- `wasmValToArg<Return>(wasmVals[0])`, unless there is no result. -/
def resultFrom : (ret : ReturnType) → List WasmVal → Option (ReturnType.Value ret)
  | none, _ => some ()
  | some t, wasmVals => do
    let v ← wasmVals[0]?
    v.wasmValToArg t

/-! ## Host functions -/

/-- The `WrappedFn` that `registerHostGeneric` makes. `World` is what the native function
    can change. -/
structure WrappedFn (Context World : Type) (ret : ReturnType) (types : List ArgType) where
  context : Context
  nativeFn : Context → Args types → World → ReturnType.Value ret × World

/-- `argsResults[0] = argToWasmVal(result)`, unless there is no result. -/
def storeResult : (ret : ReturnType) → ReturnType.Value ret → List WasmVal → List WasmVal
  | none, _, argsResults => argsResults
  | some t, result, argsResults => argsResults.set 0 (.argToWasmVal t result)

/-- `WrappedFn::unchecked`, by which guest code calls a host function. -/
def WrappedFn.unchecked {Context World : Type} {ret : ReturnType} {types : List ArgType}
    (wrapped : WrappedFn Context World ret types) (argsResults : List WasmVal) (world : World) :
    Option (List WasmVal × World) := do
  let (context, args) ← argsAsTuple wrapped.context types argsResults
  let (result, world) := wrapped.nativeFn context args world
  some (storeResult ret result argsResults, world)

/-! ## Addresses on their way through other integers -/

/-- `args[0]` in `wtMalloc`. -/
def mallocArg (is64 : Bool) (bytes : UInt64) : WasmVal :=
  if is64 then .i64 bytes.toInt64 else .i32 bytes.toUInt32.toInt32

/-- What `wtMalloc` makes of `results[0]`, whose `i32` is sign-extended. -/
def mallocResult : (is64 : Bool) → (result : WasmVal) → UInt64
  | true, .i64 v => v.toUInt64
  | true, _ => 0
  | false, .i32 v => v.toInt64.toUInt64
  | false, _ => 0

/-- A call of `malloc()` that returns, with what it makes of its argument. -/
def mallocReturned (is64 : Bool) (malloc : WasmVal → WasmVal) (bytes : UInt64) : CallOutcome :=
  .returned (mallocResult is64 (malloc (mallocArg is64 bytes)))

/-- The global `clap_entry`, as `updateClapEntry` stores it, if it is a pointer of the
    right size. An `i32` is sign-extended. -/
def updateClapEntry : (is64 : Bool) → WasmVal → Option UInt64
  | false, .i32 v => some v.toInt64.toUInt64
  | true, .i64 v => some v.toUInt64
  | _, _ => none

/-- A `wasiInit` that finds this value. -/
def initFound (is64 called : Bool) (v : WasmVal) : InitOutcome :=
  match updateClapEntry is64 v with
  | some wclapEntryAs64 => .entry called wclapEntryAs64
  | none => .entryType called

namespace InstanceImpl

def malloc32 (instance_ : InstanceImpl) (malloc : WasmVal → WasmVal) (group : InstanceGroup)
    (size : UInt32) : UInt32 :=
  (wtMalloc instance_ (mallocReturned false malloc size.toUInt64) group).1.toUInt32

def malloc64 (instance_ : InstanceImpl) (malloc : WasmVal → WasmVal) (group : InstanceGroup)
    (size : UInt64) : UInt64 :=
  (wtMalloc instance_ (mallocReturned true malloc size) group).1

def init32 (instance_ : InstanceImpl) (called : Bool) (clap_entry : WasmVal)
    (group : InstanceGroup) : UInt32 :=
  (initInner instance_ (initFound false called clap_entry) group).1.toUInt32

def init64 (instance_ : InstanceImpl) (called : Bool) (clap_entry : WasmVal)
    (group : InstanceGroup) : UInt64 :=
  (initInner instance_ (initFound true called clap_entry) group).1

end InstanceImpl

/-- The argument for a new thread, as `wtWasiThreadSpawn` reads it. -/
def threadSpawnArg (is64 : Bool) (values : List WasmVal) : Option UInt64 := do
  let v ← values[0]?
  if is64 then v.i64?.map Int64.toUInt64 else v.i32?.map fun v => v.toUInt32.toUInt64

/-- `wasmVals` in `runThread`. -/
def threadVals (is64 : Bool) (threadId : UInt32) (threadArg : UInt64) : List WasmVal :=
  [.i32 threadId.toInt32,
    if is64 then .i64 threadArg.toInt64 else .i32 threadArg.toUInt32.toInt32]

/-! ## The bytes of the slots -/

theorem i32_ofI32 (v : UInt32) : (ValRaw.ofI32 v).i32 = v :=
  UInt32.toUInt32_toUInt64 v

theorem raw_argToWasmVal (t : ArgType) (v : t.Value) :
    (WasmVal.argToWasmVal t v).raw = argToWasmVal t v := by
  cases t with
  | pointer is64 => cases is64 <;> rfl
  | _ => rfl

theorem raw_of_i32? {v : WasmVal} {x : Int32} (h : v.i32? = some x) : v.raw.i32 = x.toUInt32 := by
  cases v with
  | i32 y =>
    cases h
    exact i32_ofI32 _
  | _ => cases h

theorem raw_of_i64? {v : WasmVal} {x : Int64} (h : v.i64? = some x) : v.raw = x.toUInt64 := by
  cases v with
  | i64 y =>
    cases h
    rfl
  | _ => cases h

theorem raw_of_f32? {v : WasmVal} {x : UInt32} (h : v.f32? = some x) : v.raw.i32 = x := by
  cases v with
  | f32 y =>
    cases h
    exact i32_ofI32 _
  | _ => cases h

theorem raw_of_f64? {v : WasmVal} {x : UInt64} (h : v.f64? = some x) : v.raw = x := by
  cases v with
  | f64 y =>
    cases h
    rfl
  | _ => cases h

theorem raw_of_map_i32? {α : Type} {cast : Int32 → α} {v : WasmVal} {x : α}
    (h : v.i32?.map cast = some x) : cast v.raw.i32.toInt32 = x := by
  obtain ⟨y, hy, rfl⟩ := Option.map_eq_some_iff.mp h
  rw [raw_of_i32? hy, Int32.toInt32_toUInt32]

theorem raw_of_map_i64? {α : Type} {cast : Int64 → α} {v : WasmVal} {x : α}
    (h : v.i64?.map cast = some x) : cast (UInt64.toInt64 v.raw) = x := by
  obtain ⟨y, hy, rfl⟩ := Option.map_eq_some_iff.mp h
  rw [raw_of_i64? hy, Int64.toInt64_toUInt64]

/-- What is read from the right member is what its bytes are. -/
theorem wasmValToArg_raw {t : ArgType} {v : WasmVal} {x : t.Value}
    (h : v.wasmValToArg t = some x) : wasmValToArg t v.raw = x := by
  cases t with
  | int8 | uint8 | int16 | uint16 | uint32 => exact raw_of_map_i32? h
  | bool =>
    rw [← raw_of_map_i32? h]
    -- zero has the same bits in both types
    have hzero : v.raw.i32 = 0 ↔ v.raw.i32.toInt32 = 0 :=
      ⟨congrArg UInt32.toInt32, congrArg Int32.toUInt32⟩
    exact decide_eq_decide.mpr (not_congr hzero)
  | uint64 => exact raw_of_map_i64? h
  | int32 => exact congrArg UInt32.toInt32 (raw_of_i32? h)
  | int64 => exact congrArg UInt64.toInt64 (raw_of_i64? h)
  | float => exact raw_of_f32? h
  | double => exact raw_of_f64? h
  | pointer is64 =>
    cases is64 with
    | false => exact raw_of_map_i32? h
    | true => exact raw_of_map_i64? h

/-- The arguments with their types. -/
def argList : (types : List ArgType) → Args types → List Arg
  | [], _ => []
  | t :: types, (v, args) => ⟨t, v⟩ :: argList types args

theorem map_raw_wasmVals (types : List ArgType) (args : Args types) :
    (wasmVals types args).map WasmVal.raw =
      (argList types args).map fun arg => argToWasmVal arg.1 arg.2 := by
  induction types with
  | nil => rfl
  | cons t types ih =>
    obtain ⟨v, args⟩ := args
    simp only [wasmVals, argList, List.map_cons, raw_argToWasmVal, ih]

/-- The slots of `call` are those of `Native.GuestCall`. -/
theorem callSlots_argList (ret : ReturnType) (types : List ArgType) (args : Args types)
    (stack : WasmVal) : (callSlots ret (argList types args) stack.raw).1 =
      (callVals ret types args stack).map WasmVal.raw := by
  cases ret with
  | none => exact (map_raw_wasmVals types args).symm
  | some t =>
    cases types with
    | nil => rfl
    | cons u types => exact (map_raw_wasmVals (u :: types) args).symm

end WclapBridge.Native
