import Mathlib.Algebra.Group.Nat.Defs
import WclapBridge.Native.HostFunctions

/-!
# Instance groups and instances

`InstanceGroup` is one loaded WCLAP: its shared memory, its error, and whether
it had its `init()`. Each `InstanceImpl` of it has Wasmtime handles of its own,
which `setup` fills in one after another, and a function table of its own.

The functions that reach Wasmtime return the effects they have: guest code that
runs, and handles that are used. What Wasmtime answers is a parameter.
-/

namespace WclapBridge.Native

/-! ## Errors -/

/-- `InstanceGroup`. The two kinds of error are kept by their messages. -/
structure InstanceGroup where
  /-- Whether there is a `wtSharedMemory`. -/
  shared : Bool
  hadInit : Bool
  constantErrorMessage : Option String
  wtError : Option String
  /-- Whether `singleThread` is set. -/
  singleThread : Bool

namespace InstanceGroup

def hasError (group : InstanceGroup) : Bool :=
  group.constantErrorMessage.isSome || group.wtError.isSome

/-- `setError(const char *)`: the first error is kept. -/
def setError (group : InstanceGroup) (message : String) : InstanceGroup :=
  if group.hasError then group else { group with constantErrorMessage := some message }

/-- `setError(wasmtime_error_t *)`, for an error that is not null. -/
def setWtError (group : InstanceGroup) (e : String) : InstanceGroup :=
  if group.hasError then group else { group with wtError := some e }

/-- `error()`. -/
def error (group : InstanceGroup) : Option String :=
  match group.constantErrorMessage with
  | some message => some message
  | none => group.wtError

@[simp] theorem hasError_setError (group : InstanceGroup) (message : String) :
    (group.setError message).hasError = true := by
  unfold setError
  split
  next h => exact h
  next => rfl

@[simp] theorem hasError_setWtError (group : InstanceGroup) (e : String) :
    (group.setWtError e).hasError = true := by
  unfold setWtError
  split
  next h => exact h
  next => simp [hasError]

@[simp] theorem shared_setError (group : InstanceGroup) (message : String) :
    (group.setError message).shared = group.shared := by
  unfold setError
  split <;> rfl

@[simp] theorem shared_setWtError (group : InstanceGroup) (e : String) :
    (group.setWtError e).shared = group.shared := by
  unfold setWtError
  split <;> rfl

theorem error_isSome (group : InstanceGroup) : group.error.isSome = group.hasError := by
  unfold error hasError
  cases group.constantErrorMessage <;> rfl

/-- A new group, of which `wclap_open` has seen that it has no error. -/
def opened (shared : Bool) : InstanceGroup :=
  ⟨shared, false, none, none, false⟩

/-- What a group can become: an error stays, and so does the kind of memory. -/
structure Follows (group group' : InstanceGroup) : Prop where
  shared : group'.shared = group.shared
  hasError : group.hasError = true → group'.hasError = true

namespace Follows

theorem refl (group : InstanceGroup) : Follows group group :=
  ⟨rfl, id⟩

theorem trans {group₁ group₂ group₃ : InstanceGroup} (h₁ : Follows group₁ group₂)
    (h₂ : Follows group₂ group₃) : Follows group₁ group₃ :=
  ⟨h₂.shared.trans h₁.shared, h₂.hasError ∘ h₁.hasError⟩

/-- A new error may be recorded. -/
theorem setError {group group' : InstanceGroup} (h : Follows group group') (message : String) :
    Follows group (group'.setError message) :=
  ⟨(shared_setError _ _).trans h.shared, fun _ => hasError_setError _ _⟩

theorem setWtError {group group' : InstanceGroup} (h : Follows group group') (e : String) :
    Follows group (group'.setWtError e) :=
  ⟨(shared_setWtError _ _).trans h.shared, fun _ => hasError_setWtError _ _⟩

theorem hasError_eq_false {group group' : InstanceGroup} (h : Follows group group')
    (hgroup : group'.hasError = false) : group.hasError = false :=
  Bool.eq_false_iff.mpr fun herror => Bool.eq_false_iff.mp hgroup (h.hasError herror)

end Follows

end InstanceGroup

/-! ## Instances -/

/-- The members of `InstanceImpl` which `setup` fills in. `wtContext` stands for
    the store as well. -/
inductive Handle where
  | wtContext
  | wtInstance
  | wtMemory
  | wtMallocFunc
  | wtFunctionTable
  deriving DecidableEq

/-- An entry of a function table. -/
inductive TableEntry where
  | null
  | guest (fn : Nat)
  | host (fn : HostFunction)
  deriving DecidableEq

/-- `InstanceImpl`: which handles are initialised, and the function table. -/
structure InstanceImpl where
  initialised : Handle → Bool
  table : List TableEntry

/-- The places where `InstanceImpl::setup` gives up, in order. -/
inductive SetupFailure where
  | store
  | context
  | linker
  | linkWasi
  | wasiConfig
  | setWasi (e : String)
  | threadSpawn (e : String)
  | sharedMemory (e : String)
  | instantiate (e : String)
  | instantiateTimeout
  | instantiateTrap
  | sharedNotImported
  | memoryKind
  | noMemory
  | entryMissing
  | entryType
  | entryKind
  | mallocMissing
  | mallocSignature
  | mallocKind
  | tableTooSmall
  | noTable

namespace SetupFailure

/-- The error that is recorded: Wasmtime's own, or a message. -/
def record (group : InstanceGroup) : SetupFailure → InstanceGroup
  | store => group.setError "Failed to create store"
  | context => group.setError "Failed to get context"
  | linker => group.setError "error creating linker"
  | linkWasi => group.setError "error linking WASI"
  | wasiConfig => group.setError "Failed to create WASI config"
  | setWasi e => (group.setWtError e).setError "Failed to configure WASI"
  | threadSpawn e => (group.setWtError e).setError "error linking wasi::thread-spawn import"
  | sharedMemory e => (group.setWtError e).setError "error linking shared-memory import"
  | instantiate e => (group.setWtError e).setError "Failed to create instance (error)"
  | instantiateTimeout => group.setError "Failed to start instance (timeout)"
  | instantiateTrap => group.setError "Failed to start instance (trap)"
  | sharedNotImported => group.setError "exported shared memory, but didn't import it"
  | memoryKind => group.setError "exported memory isn't a (Shared)Memory"
  | noMemory => group.setError "must either export memory or import shared memory"
  | entryMissing => group.setError "clap_entry not exported"
  | entryType => group.setError "clap_entry is not a (correctly-sized) pointer"
  | entryKind => group.setError "clap_entry isn't a Global"
  | mallocMissing => group.setError "malloc not exported"
  | mallocSignature => group.setError "malloc() function signature mismatch"
  | mallocKind => group.setError "malloc isn't a Function"
  | tableTooSmall =>
    group.setError "exported function table can't grow enough for CLAP host functions"
  | noTable => group.setError "couldn't find function table in WCLAP"

/-- The handles that are initialised by then. -/
def initialised (shared : Bool) : SetupFailure → Handle → Bool
  | store, _ | context, _ => false
  | linker, h | linkWasi, h | wasiConfig, h | setWasi _, h | threadSpawn _, h
  | sharedMemory _, h | instantiate _, h | instantiateTimeout, h | instantiateTrap, h =>
    h = .wtContext
  | sharedNotImported, h | memoryKind, h | noMemory, h => h = .wtContext ∨ h = .wtInstance
  -- without a shared memory, an exported one has been found
  | entryMissing, h | entryType, h | entryKind, h | mallocMissing, h | mallocSignature, h
  | mallocKind, h => h = .wtContext ∨ h = .wtInstance ∨ (h = .wtMemory ∧ shared = false)
  | tableTooSmall, h | noTable, h =>
    h = .wtContext ∨ h = .wtInstance ∨ (h = .wtMemory ∧ shared = false) ∨ h = .wtMallocFunc

/-- Whether `wasmtime_linker_instantiate` has been called by then, which runs the
    guest's start function. -/
def instantiated : SetupFailure → Bool
  | store | context | linker | linkWasi | wasiConfig | setWasi _ | threadSpawn _
  | sharedMemory _ => false
  | _ => true

@[simp] theorem hasError_record (group : InstanceGroup) (f : SetupFailure) :
    (f.record group).hasError = true := by
  cases f <;> simp [record]

@[simp] theorem shared_record (group : InstanceGroup) (f : SetupFailure) :
    (f.record group).shared = group.shared := by
  cases f <;> simp [record]

end SetupFailure

/-- What an instance does outside of the bridge. -/
inductive Effect where
  /-- Guest code runs. -/
  | guestCode
  /-- A handle is used, which was initialised or not. -/
  | use (h : Handle) (initialised : Bool)
  deriving DecidableEq

/-- Nothing runs, and the handle is there. -/
def Effect.Quiet : Effect → Prop
  | .guestCode => False
  | .use _ initialised => initialised = true

/-- What comes of a `setup` in a group without an error: where it gives up, or
    the function table of the new instance. -/
inductive SetupOutcome where
  | failed (f : SetupFailure)
  | ready (table : List TableEntry)

/-- Whether `wasmtime_linker_instantiate` is called. -/
def SetupOutcome.instantiated : SetupOutcome → Bool
  | .failed f => f.instantiated
  | .ready _ => true

/-- `InstanceImpl::setup`, as part of the constructor. -/
def setup (group : InstanceGroup) (outcome : SetupOutcome) : InstanceImpl × InstanceGroup :=
  if group.hasError then (⟨fun _ => false, []⟩, group)
  else
    match outcome with
    | .failed f => (⟨f.initialised group.shared, []⟩, f.record group)
    -- a shared memory is the group's, and `wtMemory` stays unset
    | .ready table => (⟨fun h => h ≠ .wtMemory ∨ group.shared = false, table⟩, group)

theorem setup_follows (group : InstanceGroup) (outcome : SetupOutcome) :
    group.Follows (setup group outcome).2 := by
  unfold setup
  split
  next => exact .refl group
  next =>
    cases outcome with
    | failed f => exact ⟨f.shared_record group, fun _ => f.hasError_record group⟩
    | ready table => exact .refl group

/-- An instance that is set up without an error has the table it was created
    with. -/
theorem setup_table {group : InstanceGroup} {outcome : SetupOutcome}
    (h : (setup group outcome).2.hasError = false) :
    outcome = .ready (setup group outcome).1.table := by
  unfold setup at h ⊢
  split at h
  next herror => exact absurd herror (Bool.eq_false_iff.mp h)
  next herror =>
    cases outcome with
    | failed f => exact absurd (f.hasError_record group) (Bool.eq_false_iff.mp h)
    | ready table => rw [if_neg herror]

/-- `InstanceGroup::startInstance`: a group without a shared memory has one
    instance only. The guest's start function runs if `setup` gets that far. -/
def startInstance (group : InstanceGroup) (outcome : SetupOutcome) :
    Option InstanceImpl × InstanceGroup × List Effect :=
  if group.singleThread then (none, group, [])
  else
    -- `setup` uses no handle that it has not just initialised
    let effects := if group.hasError || !outcome.instantiated then [] else [.guestCode]
    let (thread, group) := setup group outcome
    (some thread, { group with singleThread := !group.shared }, effects)

theorem startInstance_follows (group : InstanceGroup) (outcome : SetupOutcome) :
    group.Follows (startInstance group outcome).2.1 := by
  have hsetup := setup_follows group outcome
  unfold startInstance
  split
  next => exact .refl group
  next => exact ⟨hsetup.shared, hsetup.hasError⟩

theorem startInstance_table {group group' : InstanceGroup} {outcome : SetupOutcome}
    {instance_ : InstanceImpl} {effects : List Effect}
    (h : startInstance group outcome = (some instance_, group', effects))
    (hgroup : group'.hasError = false) : outcome = .ready instance_.table := by
  unfold startInstance at h
  split at h
  next => cases h
  next =>
    cases h
    exact setup_table hgroup

/-- Nothing runs after an error. -/
theorem startInstance_effects {group : InstanceGroup} (h : group.hasError = true)
    (outcome : SetupOutcome) : (startInstance group outcome).2.2 = [] := by
  simp only [startInstance, h, Bool.true_or, if_true]
  split <;> rfl

/-! ## Reaching Wasmtime -/

namespace InstanceImpl

/-- Use some of the handles. -/
def uses (instance_ : InstanceImpl) (handles : List Handle) : List Effect :=
  handles.map fun h => .use h (instance_.initialised h)

end InstanceImpl

/-- What comes of a call into the guest. -/
inductive CallOutcome where
  | error (e : String)
  | timeout
  | trap
  | returned (value : UInt64)

/-- What comes of a call through the function table: the pointer may lead
    nowhere. -/
inductive TableCallOutcome where
  | unresolved
  | notFunction
  | called (outcome : CallOutcome)

/-- `InstanceImpl::wtCall`: the result, which is 0 after an error. -/
def wtCall (instance_ : InstanceImpl) (outcome : TableCallOutcome) (group : InstanceGroup) :
    UInt64 × InstanceGroup × List Effect :=
  if group.hasError then (0, group, [])
  else
    let lookup := instance_.uses [.wtContext, .wtFunctionTable]
    match outcome with
    | .unresolved => (0, group.setError "function pointer doesn't resolve", lookup)
    | .notFunction => (0, group.setError "function pointer doesn't resolve to a function", lookup)
    | .called (.error e) => (0, group.setWtError e, lookup ++ [.guestCode])
    | .called .timeout => (0, group.setError "WCLAP function call timeout", lookup ++ [.guestCode])
    | .called .trap =>
      (0, group.setError "WCLAP function call threw (trapped)", lookup ++ [.guestCode])
    | .called (.returned value) => (value, group, lookup ++ [.guestCode])

theorem wtCall_follows (instance_ : InstanceImpl) (outcome : TableCallOutcome)
    (group : InstanceGroup) : group.Follows (wtCall instance_ outcome group).2.1 := by
  have hself := InstanceGroup.Follows.refl group
  unfold wtCall
  split
  next => exact hself
  next =>
    rcases outcome with _ | _ | _ | _ | _ | _
    · exact hself.setError _
    · exact hself.setError _
    · exact hself.setWtError _
    · exact hself.setError _
    · exact hself.setError _
    · exact hself

/-- After an error, no guest code is called and the result is 0. -/
theorem wtCall_of_hasError {group : InstanceGroup} (h : group.hasError = true)
    (instance_ : InstanceImpl) (outcome : TableCallOutcome) :
    wtCall instance_ outcome group = (0, group, []) := by
  rw [wtCall, if_pos h]

/-- `InstanceImpl::wtMalloc`. There is no look at the error here. -/
def wtMalloc (instance_ : InstanceImpl) (outcome : CallOutcome) (group : InstanceGroup) :
    UInt64 × InstanceGroup × List Effect :=
  let effects := instance_.uses [.wtContext, .wtMallocFunc] ++ [.guestCode]
  match outcome with
  | .error e => (0, (group.setWtError e).setError "calling malloc() failed", effects)
  | .timeout => (0, group.setError "malloc() timeout", effects)
  | .trap => (0, group.setError "malloc() threw (trapped)", effects)
  | .returned value => (value, group, effects)

theorem wtMalloc_follows (instance_ : InstanceImpl) (outcome : CallOutcome)
    (group : InstanceGroup) : group.Follows (wtMalloc instance_ outcome group).2.1 := by
  have hself := InstanceGroup.Follows.refl group
  cases outcome with
  | error e => exact (hself.setWtError e).setError _
  | timeout => exact hself.setError _
  | trap => exact hself.setError _
  | returned value => exact hself

/-- Whatever `malloc()` does, guest code has run. -/
theorem guestCode_mem_wtMalloc (instance_ : InstanceImpl) (outcome : CallOutcome)
    (group : InstanceGroup) : Effect.guestCode ∈ (wtMalloc instance_ outcome group).2.2 := by
  cases outcome <;> simp [wtMalloc]

/-- What comes of looking for `wasi_thread_start` and calling it. -/
inductive ThreadOutcome where
  | missing
  | notFunction
  | called (outcome : CallOutcome)

/-- Whether `wasi_thread_start` is called. -/
def ThreadOutcome.isCalled : ThreadOutcome → Bool
  | .called _ => true
  | _ => false

/-- `InstanceImpl::runThread`. It looks at `hadInit`, but not at the error. -/
def runThread (instance_ : InstanceImpl) (outcome : ThreadOutcome) (group : InstanceGroup) :
    InstanceGroup × List Effect :=
  if group.hadInit = false then
    (group.setError "Instance Group not initialised before .runThread()", [])
  else
    let lookup := instance_.uses [.wtContext, .wtInstance]
    match outcome with
    | .missing => (group.setError "wasi_thread_start not found", lookup)
    | .notFunction => (group.setError "wasi_thread_start isn't a function", lookup)
    | .called (.error e) =>
      ((group.setWtError e).setError "error calling wasi_thread_start()", lookup ++ [.guestCode])
    | .called .timeout =>
      (group.setError "wasi_thread_start() terminated early", lookup ++ [.guestCode])
    | .called .trap =>
      (group.setError "wasi_thread_start() threw (trapped)", lookup ++ [.guestCode])
    | .called (.returned _) => (group, lookup ++ [.guestCode])

theorem runThread_follows (instance_ : InstanceImpl) (outcome : ThreadOutcome)
    (group : InstanceGroup) : group.Follows (runThread instance_ outcome group).1 := by
  have hself := InstanceGroup.Follows.refl group
  unfold runThread
  split
  next => exact hself.setError _
  next =>
    rcases outcome with _ | _ | _ | _ | _ | _
    · exact hself.setError _
    · exact hself.setError _
    · exact (hself.setWtError _).setError _
    · exact hself.setError _
    · exact hself.setError _
    · exact hself

/-- What comes of `wasiInit`: looking for `_initialize`, calling it, and looking
    for `clap_entry` again. A WCLAP need not have an `_initialize`: `called` is
    whether there was one to call. -/
inductive InitOutcome where
  | notFunction
  | signature
  | error (e : String)
  | timeout
  | trap
  | entryMissing (called : Bool)
  | entryType (called : Bool)
  | entryKind (called : Bool)
  | entry (called : Bool) (wclapEntryAs64 : UInt64)

/-- `InstanceImpl::initInner`, with `wasiInit`: the address of `clap_entry`. -/
def initInner (instance_ : InstanceImpl) (outcome : InitOutcome) (group : InstanceGroup) :
    UInt64 × InstanceGroup × List Effect :=
  if group.hasError then (0, group, [])
  else if group.hadInit then (0, group.setError "Tried to `.init()` WCLAP twice", [])
  else
    let lookup := instance_.uses [.wtContext, .wtInstance]
    let ran (called : Bool) := if called then lookup ++ [.guestCode] else lookup
    let failed (group : InstanceGroup) := group.setError "`.wasiInit()` returned false"
    match outcome with
    | .notFunction => (0, failed (group.setError "_initialize isn't a function"), lookup)
    | .signature => (0, failed (group.setError "_initialize() function signature mismatch"), lookup)
    | .error e =>
      (0, failed ((group.setWtError e).setError "error calling _initialize()"), ran true)
    | .timeout => (0, failed (group.setError "_initialize() timeout"), ran true)
    | .trap => (0, failed (group.setError "_initialize() threw (trapped)"), ran true)
    -- from here on it is `updateClapEntry` that looks
    | .entryMissing called =>
      (0, failed (group.setError "clap_entry not exported"), ran called)
    | .entryType called =>
      (0, failed (group.setError "clap_entry is not a (correctly-sized) pointer"),
        ran called)
    | .entryKind called =>
      (0, failed (group.setError "clap_entry isn't a Global"), ran called)
    | .entry called wclapEntryAs64 =>
      (wclapEntryAs64, { group with hadInit := true }, ran called)

theorem initInner_follows (instance_ : InstanceImpl) (outcome : InitOutcome)
    (group : InstanceGroup) : group.Follows (initInner instance_ outcome group).2.1 := by
  have hself := InstanceGroup.Follows.refl group
  unfold initInner
  split
  next => exact hself
  next =>
    split
    next => exact hself.setError _
    next =>
      cases outcome with
      | error e => exact ((hself.setWtError e).setError _).setError _
      | entry called wclapEntryAs64 => exact ⟨rfl, id⟩
      | _ => exact (hself.setError _).setError _

/-- After an error, no guest code is called and the address is null. -/
theorem initInner_of_hasError {group : InstanceGroup} (h : group.hasError = true)
    (instance_ : InstanceImpl) (outcome : InitOutcome) :
    initInner instance_ outcome group = (0, group, []) := by
  rw [initInner, if_pos h]

/-- The handles that `wasmMemory` uses; those of a shared memory belong to the
    group and are always there. There is no look at the error here. -/
def wasmMemoryHandles (instance_ : InstanceImpl) (group : InstanceGroup) : List Effect :=
  if group.shared then [] else instance_.uses [.wtContext, .wtMemory]

/-- What comes of creating a function type and of growing the table. -/
inductive GrowOutcome where
  | noType
  | error (e : String)
  | grown

/-- `InstanceImpl::registerHostGeneric`: the index of the new entry, or
    `2 ^ 64 - 1`. `wasmtime_table_grow` returns the old size; a table has fewer
    than `2 ^ 32` entries. -/
def registerHostGeneric (instance_ : InstanceImpl) (fn : HostFunction) (outcome : GrowOutcome)
    (group : InstanceGroup) : UInt64 × InstanceImpl × InstanceGroup × List Effect :=
  if group.hasError then (0xFFFFFFFFFFFFFFFF, instance_, group, [])
  else
    let effects := instance_.uses [.wtContext, .wtFunctionTable]
    let tooLarge := instance_.table.length + 1 ≥ 2 ^ 32
    match outcome with
    | .noType =>
      (0xFFFFFFFFFFFFFFFF, instance_, group.setError "failed to create WASM function type", [])
    | .error e =>
      (0xFFFFFFFFFFFFFFFF, instance_,
        (group.setWtError e).setError "failed to add function-table entries for host methods",
        effects)
    | .grown =>
      -- Wasmtime refuses to grow a table to `2 ^ 32` entries
      if tooLarge then
        (0xFFFFFFFFFFFFFFFF, instance_, (group.setWtError "failed to grow table by `1`").setError
          "failed to add function-table entries for host methods", effects)
      else
        (UInt64.ofNat instance_.table.length,
          { instance_ with table := instance_.table ++ [.host fn] }, group, effects)

theorem registerHostGeneric_follows (instance_ : InstanceImpl) (fn : HostFunction)
    (outcome : GrowOutcome) (group : InstanceGroup) :
    group.Follows (registerHostGeneric instance_ fn outcome group).2.2.1 := by
  have hself := InstanceGroup.Follows.refl group
  unfold registerHostGeneric
  split
  next => exact hself
  next =>
    cases outcome with
    | noType => exact hself.setError _
    | error e => exact (hself.setWtError e).setError _
    | grown =>
      dsimp only
      split
      next => exact (hself.setWtError _).setError _
      next => exact hself

/-- After an error, nothing is registered. -/
theorem registerHostGeneric_of_hasError {group : InstanceGroup} (h : group.hasError = true)
    (instance_ : InstanceImpl) (fn : HostFunction) (outcome : GrowOutcome) :
    registerHostGeneric instance_ fn outcome group =
      (0xFFFFFFFFFFFFFFFF, instance_, group, []) := by
  rw [registerHostGeneric, if_pos h]

/-- What has been registered without an error is the last entry of the table. -/
theorem registerHostGeneric_grown {instance_ : InstanceImpl} {fn : HostFunction}
    {outcome : GrowOutcome} {group : InstanceGroup}
    (h : (registerHostGeneric instance_ fn outcome group).2.2.1.hasError = false) :
    instance_.table.length + 1 < 2 ^ 32 ∧
      registerHostGeneric instance_ fn outcome group =
        (UInt64.ofNat instance_.table.length,
          { instance_ with table := instance_.table ++ [.host fn] }, group,
          instance_.uses [.wtContext, .wtFunctionTable]) := by
  unfold registerHostGeneric at h ⊢
  split at h
  next herror => exact absurd herror (Bool.eq_false_iff.mp h)
  next herror =>
    cases outcome with
    | noType => simp at h
    | error e => simp at h
    | grown =>
      dsimp only at h ⊢
      split at h
      next => simp at h
      next hlt => exact ⟨Nat.lt_of_not_le hlt, by rw [if_neg herror, if_neg hlt]⟩

end WclapBridge.Native
