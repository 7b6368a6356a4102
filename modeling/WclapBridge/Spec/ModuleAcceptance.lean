import WclapBridge.Native.ModuleSetup

/-!
# The modules that are accepted

A module that gets through both procedures of `setup` has an entry, a `malloc` and a
function table of the right types. The memory is only checked on one of its two
routes: an imported one has the width of the entry, an exported one need not.

## Key results

- `findSharedMemory_spec`: what the loop over the imports has found
- `findFunctionTable_spec`: what the loop over the exports has found
- `moduleAcceptance_iff`: which modules are accepted rightly
-/

namespace WclapBridge.Spec

open WclapBridge.Native

variable {m : WasmModule} {s : GroupSetup}

/-! ## Imports and exports -/

/-- The type of an address. -/
def pointerKind (is64 : Bool) : ValKind :=
  if is64 then .i64 else .i32

/-- The memories among some imports. -/
def importedMemories (imports : List ImportType) : List MemoryType :=
  imports.filterMap fun i =>
    match i.type with
    | .memory type => some type
    | .func _ _ | .global _ | .table _ => none

/-- The single imported shared memory, or else the exported one. -/
def bridgeMemory (m : WasmModule) : Option MemoryType :=
  match importedMemories m.imports with
  | [type] => if type.shared then some type else none
  | _ :: _ :: _ => none
  | [] =>
    match m.exportGet "memory" with
    | some (.memory type) => if type.shared then none else some type
    | _ => none

/-- The first exported function table. -/
structure FirstFunctionTable (exports : List ExportType) (type : TableType) : Prop where
  element : type.element = .funcref
  first : ∃ before name after, exports = before ++ ⟨name, .table type⟩ :: after ∧
    ∀ e ∈ before, ∀ type', e.type = .table type' → type'.element ≠ .funcref

/-- The bridge has what it needs. -/
structure ModuleAccepted (s : GroupSetup) (m : WasmModule) : Prop where
  entry : m.exportGet "clap_entry" = some (.global (pointerKind s.is64))
  memory : ∃ type, bridgeMemory m = some type ∧ type.is64 = s.is64
  malloc : m.exportGet "malloc" = some (.func [pointerKind s.is64] [pointerKind s.is64])
  /-- With what `wasmMemory` and `registerHostGeneric` use. -/
  found : ∃ found, findExports s m = .ok found ∧ accessedMemory s found = bridgeMemory m ∧
    FirstFunctionTable m.exports found.wtFunctionTable ∧
    found.wtFunctionTable.min.toNat + 65536 ≤ found.wtFunctionTable.limitsMax.toNat

/-- The exported memory has the width of the entry, if there is no imported one. -/
def MemoryWidthAgrees (m : WasmModule) : Prop :=
  importedMemories m.imports = [] → ∀ type, m.exportGet "memory" = some (.memory type) →
    (type.is64 = true ↔ m.exportGet "clap_entry" = some (.global .i64))

/-! ## The group -/

/-- The loop over the imports, once it has found a memory. -/
theorem findSharedMemory_some {wasm64 : Bool} {outcome : SharedMemoryOutcome}
    {imports : List ImportType} {shared : SharedMemoryImport}
    {r : Option SharedMemoryImport}
    (h : findSharedMemory wasm64 outcome imports (some shared) = .ok r) :
    importedMemories imports = [] ∧ r = some shared := by
  induction imports with
  | nil =>
    cases h
    exact ⟨rfl, rfl⟩
  | cons i imports ih =>
    obtain ⟨module, name, type⟩ := i
    cases type with
    | memory type =>
      -- a second memory is one too many
      simp only [findSharedMemory] at h
      split at h
      next => cases h
      next =>
        split at h
        next => cases h
        next => cases h
    | func params results => exact ih h
    | global content => exact ih h
    | table type => exact ih h

/-- What the loop over the imports has found. -/
theorem findSharedMemory_spec {wasm64 : Bool} {outcome : SharedMemoryOutcome}
    {imports : List ImportType} {r : Option SharedMemoryImport}
    (h : findSharedMemory wasm64 outcome imports none = .ok r) :
    (importedMemories imports = [] ∧ r = none) ∨
      ∃ shared, importedMemories imports = [shared.type] ∧ r = some shared ∧
        shared.type.shared = true ∧ shared.type.is64 = wasm64 := by
  induction imports with
  | nil =>
    cases h
    exact .inl ⟨rfl, rfl⟩
  | cons i imports ih =>
    obtain ⟨module, name, type⟩ := i
    cases type with
    | memory type =>
      simp only [findSharedMemory] at h
      split at h
      next => cases h
      next hshared =>
        split at h
        next => cases h
        next hwidth =>
          cases outcome with
          | error e => cases h
          | null => cases h
          | created =>
            -- it is the only one, or the loop had not come to its end
            obtain ⟨hrest, hr⟩ := findSharedMemory_some h
            refine .inr ⟨⟨type, module, name⟩, ?_, hr, ?_, ?_⟩
            · exact congrArg (type :: ·) hrest
            · simpa using hshared
            · simpa using hwidth
    | func params results => exact ih h
    | global content => exact ih h
    | table type => exact ih h

/-- What a sequence of checks leaves if it succeeds. -/
theorem bind_eq_ok {ε α β : Type} {x : Except ε α} {f : α → Except ε β} {b : β}
    (h : (x >>= f) = .ok b) : ∃ a, x = .ok a ∧ f a = .ok b := by
  cases x with
  | error e => cases h
  | ok a => exact ⟨a, rfl, h⟩

/-- What the group knows of the memory. -/
theorem setupGroup_spec {moduleError : Option String} {outcome : SharedMemoryOutcome}
    (h : setupGroup moduleError outcome m = .ok s) :
    findSharedMemory s.is64 outcome m.imports none = .ok s.wtSharedMemory := by
  unfold setupGroup at h
  split at h
  next => cases h
  next =>
    obtain ⟨⟨foundClapEntry, wasm64⟩, -, h⟩ := bind_eq_ok h
    cases foundClapEntry with
    | false => cases h
    | true =>
      obtain ⟨wtSharedMemory, hshared, h⟩ := bind_eq_ok h
      cases h
      exact hshared

/-! ## The instance -/

theorem checkClapEntry_spec (h : checkClapEntry s m = .ok ()) :
    m.exportGet "clap_entry" = some (.global (pointerKind s.is64)) := by
  unfold checkClapEntry at h
  split at h
  next => cases h
  next content hentry =>
    split at h
    next hkind =>
      obtain ⟨rfl, his64⟩ := hkind
      rw [Bool.not_eq_true'] at his64
      rw [hentry, his64]
      rfl
    next =>
      split at h
      next hkind =>
        obtain ⟨rfl, his64⟩ := hkind
        rw [hentry, his64]
        rfl
      next => cases h
  next => cases h

theorem checkMalloc_spec (h : checkMalloc s m = .ok ()) :
    m.exportGet "malloc" = some (.func [pointerKind s.is64] [pointerKind s.is64]) := by
  unfold checkMalloc at h
  split at h
  next => cases h
  next params results hmalloc =>
    split at h
    next param result =>
      split at h
      next => cases h
      next hsame =>
        -- one type, which is that of an address
        obtain rfl : param = result := Decidable.not_not.mp hsame
        rw [hmalloc]
        split at h
        next his64 =>
          split at h
          next => cases h
          next hkind =>
            obtain rfl : param = .i64 := Decidable.not_not.mp hkind
            rw [pointerKind, if_pos his64]
        next his64 =>
          split at h
          next => cases h
          next hkind =>
            obtain rfl : param = .i32 := Decidable.not_not.mp hkind
            rw [pointerKind, if_neg his64]
    next => cases h
  next => cases h

/-- There is room for the host functions. -/
theorem room_of_limits {min max : UInt32} (h : ¬ (max < 65536 ∨ max - 65536 < min)) :
    min.toNat + 65536 ≤ max.toNat := by
  obtain ⟨hmax, hmin⟩ := not_or.mp h
  rw [UInt32.not_lt, UInt32.le_iff_toNat_le] at hmax hmin
  have hsub : (max - 65536).toNat = max.toNat - 65536 :=
    UInt32.toNat_sub_of_le _ _ (UInt32.le_iff_toNat_le.mpr hmax)
  have hconst : (65536 : UInt32).toNat = 65536 := rfl
  omega

/-- What the loop over the exports has found. -/
theorem findFunctionTable_spec {exports : List ExportType} {type : TableType}
    (h : findFunctionTable exports = .ok type) :
    FirstFunctionTable exports type ∧ type.min.toNat + 65536 ≤ type.limitsMax.toNat := by
  induction exports with
  | nil => cases h
  | cons e exports ih =>
    obtain ⟨name, etype⟩ := e
    -- an export that is passed over is not a function table
    have hnext (hother : ∀ type', etype = .table type' → type'.element ≠ .funcref)
        (h : findFunctionTable exports = .ok type) :
        FirstFunctionTable (⟨name, etype⟩ :: exports) type ∧
          type.min.toNat + 65536 ≤ type.limitsMax.toNat := by
      obtain ⟨⟨helement, before, name', after, rfl, hbefore⟩, hroom⟩ := ih h
      refine ⟨⟨helement, ⟨name, etype⟩ :: before, name', after, rfl, ?_⟩, hroom⟩
      intro e he type' htype'
      rcases List.mem_cons.mp he with rfl | he
      · exact hother type' htype'
      · exact hbefore e he type' htype'
    cases etype with
    | table type' =>
      simp only [findFunctionTable] at h
      split at h
      next helement =>
        split at h
        next => cases h
        next hlimits =>
          cases h
          refine ⟨⟨helement, [], name, exports, rfl, ?_⟩, room_of_limits hlimits⟩
          exact fun _ he => absurd he List.not_mem_nil
      next helement =>
        refine hnext (fun type'' heq => ?_) h
        cases heq
        exact helement
    | func params results => exact hnext (fun _ => nofun) h
    | global content => exact hnext (fun _ => nofun) h
    | memory type' => exact hnext (fun _ => nofun) h

/-- The memory that is found is that of the module. -/
theorem findMemory_spec {moduleError : Option String} {outcome : SharedMemoryOutcome}
    (hgroup : setupGroup moduleError outcome m = .ok s) {wtMemory : Option MemoryType}
    (h : findMemory s m = .ok wtMemory) (wtFunctionTable : TableType) :
    ∃ type, accessedMemory s ⟨wtMemory, wtFunctionTable⟩ = some type ∧ bridgeMemory m = some type ∧
      ((importedMemories m.imports ≠ [] ∧ type.is64 = s.is64) ∨
        (importedMemories m.imports = [] ∧ m.exportGet "memory" = some (.memory type))) := by
  rcases findSharedMemory_spec (setupGroup_spec hgroup) with
    ⟨hnone, hs⟩ | ⟨shared, hone, hs, hshared, hwidth⟩
  · -- an exported memory, since there is no other
    unfold findMemory at h
    rw [hs] at h
    split at h
    next type htype =>
      split at h
      next hshared =>
        cases h
        rw [Bool.not_eq_true'] at hshared
        refine ⟨type, by rw [accessedMemory, hs], ?_, .inr ⟨hnone, htype⟩⟩
        simp [bridgeMemory, hnone, htype, hshared]
      next => cases h
    next => cases h
    next => cases h
  · -- the imported one, whatever is exported
    refine ⟨shared.type, by rw [accessedMemory, hs], ?_, .inl ⟨?_, hwidth⟩⟩
    · simp [bridgeMemory, hone, hshared]
    · rw [hone]
      exact List.cons_ne_nil _ _

/-! ## Acceptance -/

/-- An instance that is set up has found its exports. -/
theorem findExports_of_setup {group : InstanceGroup} {started : Option SetupFailure}
    {table : List TableEntry}
    (h : (setup group (exportsOutcome s m started table)).2.hasError = false) :
    ∃ found, findExports s m = .ok found := by
  have houtcome := setup_table h
  unfold exportsOutcome at houtcome
  split at houtcome
  next => cases houtcome
  next =>
    split at houtcome
    next => cases houtcome
    next found hfound => exact ⟨found, hfound⟩

/-- A module for which both procedures end without an error is accepted rightly if and
    only if the memory it exports, in case it imports none, is as wide as its entry. -/
theorem moduleAcceptance_iff {moduleError : Option String} {outcome : SharedMemoryOutcome}
    {started : Option SetupFailure} {table : List TableEntry}
    (hgroup : setupGroup moduleError outcome m = .ok s)
    (hinstance : (setup s.group (exportsOutcome s m started table)).2.hasError = false) :
    ModuleAccepted s m ↔ MemoryWidthAgrees m := by
  obtain ⟨found, hfound⟩ := findExports_of_setup hinstance
  -- the checks, one after another
  obtain ⟨wtMemory, hmemory, hchecks⟩ := bind_eq_ok hfound
  obtain ⟨⟨⟩, hclapEntry, hchecks⟩ := bind_eq_ok hchecks
  obtain ⟨⟨⟩, hmalloc, hchecks⟩ := bind_eq_ok hchecks
  obtain ⟨wtFunctionTable, htable, hchecks⟩ := bind_eq_ok hchecks
  cases hchecks
  have hentry := checkClapEntry_spec hclapEntry
  obtain ⟨type, haccessed, hbridge, hroute⟩ := findMemory_spec hgroup hmemory wtFunctionTable
  have hwidth : s.is64 = true ↔ m.exportGet "clap_entry" = some (.global .i64) := by
    rw [hentry]
    cases s.is64 <;> simp [pointerKind]
  constructor
  · intro h hnone type' htype'
    obtain ⟨type'', hbridge', hsame⟩ := h.memory
    -- nothing but the assumption says how wide an exported memory is
    rcases hroute with ⟨hsome, -⟩ | ⟨-, htype⟩
    · exact absurd hnone hsome
    · rw [htype] at htype'
      cases htype'
      rw [hbridge] at hbridge'
      cases hbridge'
      rw [hsame, hwidth]
  · intro h
    refine ⟨hentry, ⟨type, hbridge, ?_⟩, checkMalloc_spec hmalloc, _, hfound,
      haccessed.trans hbridge.symm, findFunctionTable_spec htable⟩
    rcases hroute with ⟨-, hsame⟩ | ⟨hnone, htype⟩
    · -- checked by the loop over the imports
      exact hsame
    · exact Bool.eq_iff_iff.mpr ((h hnone type htype).trans hwidth.symm)

/-- A 32-bit WCLAP with what it needs, and a memory of some width. -/
def module32 (mem64 : Bool) : WasmModule where
  imports := []
  exports :=
    [⟨"memory", .memory ⟨false, mem64⟩⟩, ⟨"clap_entry", .global .i32⟩,
      ⟨"malloc", .func [.i32] [.i32]⟩, ⟨"__indirect_function_table", .table ⟨.funcref, 1, none⟩⟩]

theorem moduleAcceptance_module32 :
    ModuleAccepted ⟨false, none⟩ (module32 false) ↔ MemoryWidthAgrees (module32 false) := by
  have hgroup : setupGroup none .created (module32 false) = .ok ⟨false, none⟩ := rfl
  have hinstance : (setup (GroupSetup.group ⟨false, none⟩)
      (exportsOutcome ⟨false, none⟩ (module32 false) none [])).2.hasError = false := rfl
  exact moduleAcceptance_iff hgroup hinstance

/-- The bridge takes addresses of 32 bits for a memory of 64. -/
theorem exportedMemory64_accepted :
    setupGroup none .created (module32 true) = .ok ⟨false, none⟩ ∧
      (setup (GroupSetup.group ⟨false, none⟩)
        (exportsOutcome ⟨false, none⟩ (module32 true) none [])).2.hasError = false ∧
      ¬ ModuleAccepted ⟨false, none⟩ (module32 true) := by
  refine ⟨rfl, rfl, fun h => ?_⟩
  obtain ⟨type, hbridge, hsame⟩ := h.memory
  cases hbridge
  exact absurd hsame (by decide)

end WclapBridge.Spec
