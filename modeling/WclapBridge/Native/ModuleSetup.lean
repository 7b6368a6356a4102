import WclapBridge.Native.InstanceGroup

/-!
# What a Wasm module has to have

`InstanceGroup::setup` reads the types of a module's exports and imports: that of
`clap_entry` tells whether the WCLAP is a 64-bit one, and a shared memory makes it a
threaded one. `InstanceImpl::setup` looks for the exports of an instance.

Wasmtime reports the types as they are in the module. What else it answers is a
parameter.
-/

namespace WclapBridge.Native

/-! ## Modules -/

/-- The value types of Wasm. -/
inductive ValKind where
  | i32
  | i64
  | f32
  | f64
  | v128
  | funcref
  | externref
  deriving DecidableEq

/-- The type of a memory. -/
structure MemoryType where
  shared : Bool
  is64 : Bool
  deriving DecidableEq

/-- The type of a table. -/
structure TableType where
  element : ValKind
  min : UInt32
  max : Option UInt32
  deriving DecidableEq

/-- The type of an import or export. -/
inductive ExternType where
  | func (params results : List ValKind)
  | global (content : ValKind)
  | memory (type : MemoryType)
  | table (type : TableType)
  deriving DecidableEq

structure ImportType where
  module : String
  name : String
  type : ExternType

structure ExportType where
  name : String
  type : ExternType

/-- A Wasm module, by its imports and exports. -/
structure WasmModule where
  imports : List ImportType
  exports : List ExportType

/-- `wasmtime_instance_export_get`. -/
def WasmModule.exportGet (m : WasmModule) (name : String) : Option ExternType :=
  (m.exports.find? fun e => e.name = name).map ExportType.type

/-- The limit that `wasm_tabletype_limits` reports for a table without one. -/
def wasmLimitsMaxDefault : UInt32 := 0xFFFFFFFF

/-- `wasm_tabletype_limits(type)->max`. -/
def TableType.limitsMax (type : TableType) : UInt32 :=
  type.max.getD wasmLimitsMaxDefault

/-! ## The group -/

/-- The places where `InstanceGroup::setup` gives up. -/
inductive GroupFailure where
  | module (e : String)
  | entryNotGlobal
  | entryNotAddress
  | entryMissing
  | nonSharedMemory
  | memoryWidth (mem64 : Bool)
  | multipleMemories
  | sharedMemory (e : String)
  | noSharedMemory
  deriving DecidableEq

/-- The group with its error. -/
def GroupFailure.record : GroupFailure → InstanceGroup
  | module e | sharedMemory e => { InstanceGroup.opened false with wtError := some e }
  | entryNotGlobal => stopWithError "clap_entry is not a global (value) export"
  | entryNotAddress => stopWithError "clap_entry must be 32-bit or 64-bit memory address"
  | entryMissing => stopWithError "clap_entry not exported"
  | nonSharedMemory => stopWithError "imports non-shared memory"
  | memoryWidth true => stopWithError "64-bit memory but 32-bit clap_entry"
  | memoryWidth false => stopWithError "32-bit memory but 64-bit clap_entry"
  | multipleMemories => stopWithError "multiple memory imports"
  | noSharedMemory => stopWithError "Shared memory wasn't created"
where
  /-- The lambda of `InstanceGroup::setup`, which assigns without a look. -/
  stopWithError (message : String) : InstanceGroup :=
    { InstanceGroup.opened false with constantErrorMessage := some message }

/-- Each way of giving up leaves an error. -/
@[simp] theorem GroupFailure.hasError_record (f : GroupFailure) : f.record.hasError = true := by
  cases f with
  | memoryWidth mem64 => cases mem64 <;> rfl
  | _ => rfl

/-- The `wtSharedMemory` of a group, with the names it is imported by. -/
structure SharedMemoryImport where
  type : MemoryType
  module : String
  name : String
  deriving DecidableEq

/-- What `setup` leaves in the group. -/
structure GroupSetup where
  is64 : Bool
  wtSharedMemory : Option SharedMemoryImport
  deriving DecidableEq

/-- The group, without an error. -/
def GroupSetup.group (s : GroupSetup) : InstanceGroup :=
  .opened s.wtSharedMemory.isSome

/-- What comes of `wasmtime_sharedmemory_new`. -/
inductive SharedMemoryOutcome where
  | error (e : String)
  | null
  | created

/-- The loop that looks for `clap_entry`, with `foundClapEntry` and `wasm64`. -/
def findClapEntry : List ExportType → Bool → Bool → Except GroupFailure (Bool × Bool)
  | [], foundClapEntry, wasm64 => .ok (foundClapEntry, wasm64)
  | e :: exports, foundClapEntry, wasm64 =>
    if e.name ≠ "clap_entry" then findClapEntry exports foundClapEntry wasm64
    else
      match e.type with
      | .global .i64 => .ok (true, true)
      | .global .i32 => findClapEntry exports true wasm64
      | .global _ => .error .entryNotAddress
      | .func _ _ | .memory _ | .table _ => .error .entryNotGlobal

/-- The loop that looks for a shared memory among the imports. -/
def findSharedMemory (wasm64 : Bool) (outcome : SharedMemoryOutcome) :
    List ImportType → Option SharedMemoryImport → Except GroupFailure (Option SharedMemoryImport)
  | [], wtSharedMemory => .ok wtSharedMemory
  | i :: imports, wtSharedMemory =>
    match i.type with
    | .memory type =>
      if !type.shared then .error .nonSharedMemory
      else if type.is64 ≠ wasm64 then .error (.memoryWidth type.is64)
      else if wtSharedMemory.isSome then .error .multipleMemories
      else
        match outcome with
        | .error e => .error (.sharedMemory e)
        | .null => .error .noSharedMemory
        | .created => findSharedMemory wasm64 outcome imports (some ⟨type, i.module, i.name⟩)
    | .func _ _ | .global _ | .table _ => findSharedMemory wasm64 outcome imports wtSharedMemory

/-- `InstanceGroup::setup`. `moduleError` is what `wasmtime_module_new` says. -/
def setupGroup (moduleError : Option String) (outcome : SharedMemoryOutcome) (m : WasmModule) :
    Except GroupFailure GroupSetup :=
  match moduleError with
  | some e => .error (.module e)
  | none => do
    let (foundClapEntry, wasm64) ← findClapEntry m.exports false false
    if !foundClapEntry then throw .entryMissing
    let wtSharedMemory ← findSharedMemory wasm64 outcome m.imports none
    return ⟨wasm64, wtSharedMemory⟩

/-! ## The exports of an instance -/

/-- `wtMemory`: the exported memory. A shared one is the group's. -/
def findMemory (s : GroupSetup) (m : WasmModule) : Except SetupFailure (Option MemoryType) :=
  match m.exportGet "memory" with
  | some (.memory type) =>
    if !type.shared then .ok (some type)
    -- TODO: it should be the same as the import
    else if s.wtSharedMemory.isNone then .error .sharedNotImported
    else .ok none
  | some _ => .error .memoryKind
  | none => if s.wtSharedMemory.isNone then .error .noMemory else .ok none

/-- `InstanceImpl::updateClapEntry`, by the type of the global. -/
def checkClapEntry (s : GroupSetup) (m : WasmModule) : Except SetupFailure Unit :=
  match m.exportGet "clap_entry" with
  | none => .error .entryMissing
  | some (.global content) =>
    if content = .i32 ∧ !s.is64 then .ok ()
    else if content = .i64 ∧ s.is64 then .ok ()
    else .error .entryType
  | some _ => .error .entryKind

/-- The part of `setup` that looks for `malloc`. -/
def checkMalloc (s : GroupSetup) (m : WasmModule) : Except SetupFailure Unit :=
  match m.exportGet "malloc" with
  | none => .error .mallocMissing
  | some (.func params results) =>
    match params, results with
    | [param], [result] =>
      if param ≠ result then .error .mallocSignature
      else if s.is64 then if param ≠ .i64 then .error .mallocSignature else .ok ()
      else if param ≠ .i32 then .error .mallocSignature else .ok ()
    | _, _ => .error .mallocSignature
  | some _ => .error .mallocKind

/-- The loop that looks for the first function table, which `wtFunctionTable` is. -/
def findFunctionTable : List ExportType → Except SetupFailure TableType
  | [] => .error .noTable
  | e :: exports =>
    match e.type with
    | .table type =>
      if type.element = .funcref then
        if type.limitsMax < 65536 ∨ type.limitsMax - 65536 < type.min then .error .tableTooSmall
        else .ok type
      else findFunctionTable exports
    | .func _ _ | .global _ | .memory _ => findFunctionTable exports

/-- What an instance has found. -/
structure InstanceExports where
  wtMemory : Option MemoryType
  wtFunctionTable : TableType
  deriving DecidableEq

/-- The part of `InstanceImpl::setup` from "Find exports" on. -/
def findExports (s : GroupSetup) (m : WasmModule) : Except SetupFailure InstanceExports := do
  let wtMemory ← findMemory s m
  checkClapEntry s m
  checkMalloc s m
  let wtFunctionTable ← findFunctionTable m.exports
  return ⟨wtMemory, wtFunctionTable⟩

/-- What comes of `InstanceImpl::setup`. `started` is where it gives up before the
    instance has started, if it does, and `table` the function table of the instance. -/
def exportsOutcome (s : GroupSetup) (m : WasmModule) (started : Option SetupFailure)
    (table : List TableEntry) : SetupOutcome :=
  match started with
  | some f => .failed f
  | none =>
    match findExports s m with
    | .error f => .failed f
    | .ok _ => .ready table

/-- The memory that `wasmMemory` uses. -/
def accessedMemory (s : GroupSetup) (found : InstanceExports) : Option MemoryType :=
  match s.wtSharedMemory with
  | some shared => some shared.type
  | none => found.wtMemory

end WclapBridge.Native
