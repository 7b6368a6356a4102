import Mathlib.Data.List.Count

/-!
# The global state of the bridge

`wclap_global_init` and `wclap_global_deinit` create and delete the Wasmtime
engine that all WCLAPs share. They hold a mutex. Opening and closing a WCLAP do
not: they look at `globalInitOK` and count the open WCLAPs in
`activeWclapCount`.

A step of a run is a body under the mutex, an access to one of the atomic
variables, or what a thread does with an `InstanceGroup` or `WclapModule`
between these.
-/

namespace WclapBridge.Native

/-- A Wasmtime engine: which one it is, and the time limit in its configuration. -/
structure Engine where
  id : Nat
  timeLimitMs : Nat
  deriving DecidableEq

/-- What `InstanceGroup::globalInit` gets from Wasmtime. -/
inductive GlobalInitOutcome where
  | noConfig
  | noCache
  | noEngine
  | engine
  deriving DecidableEq

/-- The global variables. The counter has as many WCLAPs as fit in memory. -/
structure BridgeGlobals where
  globalInitMs : Nat
  activeWclapCount : Nat
  globalInitOK : Bool
  globalWasmEngine : Option Engine
  /-- How many engines there have been. -/
  engineCount : Nat

namespace BridgeGlobals

def new : BridgeGlobals where
  globalInitMs := 0
  activeWclapCount := 0
  globalInitOK := false
  globalWasmEngine := none
  engineCount := 0

/-- `InstanceGroup::globalInit`. -/
def instanceGlobalInit (g : BridgeGlobals) (timeLimitMs : Nat) :
    GlobalInitOutcome → Bool × BridgeGlobals
  | .noConfig | .noCache => (false, g)
  | .noEngine => (false, { g with globalWasmEngine := none })
  | .engine =>
    (true,
      { g with
        globalWasmEngine := some ⟨g.engineCount, timeLimitMs⟩
        engineCount := g.engineCount + 1 })

/-- `InstanceGroup::globalDeinit`. -/
def instanceGlobalDeinit (g : BridgeGlobals) : BridgeGlobals :=
  { g with globalWasmEngine := none }

/-- The end of `wclap_global_init`. -/
def setGlobalInit (g : BridgeGlobals) (ms : Nat) (outcome : GlobalInitOutcome) :
    Bool × BridgeGlobals :=
  let (globalInitOK, g) := { g with globalInitMs := ms }.instanceGlobalInit ms outcome
  (globalInitOK, { g with globalInitOK })

/-- `wclap_global_init`, or `none` where it aborts. -/
def wclap_global_init (g : BridgeGlobals) (timeLimitMs : UInt32) (outcome : GlobalInitOutcome) :
    Option (Bool × BridgeGlobals) :=
  let ms := timeLimitMs.toNat
  if g.globalInitOK then
    if ms = g.globalInitMs then some (true, g)
    else if g.activeWclapCount > 0 then none
    else some (g.instanceGlobalDeinit.setGlobalInit ms outcome)
  else some (g.setGlobalInit ms outcome)

/-- `wclap_global_deinit`, or `none` where it aborts. -/
def wclap_global_deinit (g : BridgeGlobals) : Option BridgeGlobals :=
  if g.globalInitOK then
    if g.activeWclapCount > 0 then none
    else some { g.instanceGlobalDeinit with globalInitOK := false }
  else some g

/-- What a `wclap_global_init` that returns can have done. -/
theorem wclap_global_init_cases {g : BridgeGlobals} {timeLimitMs : UInt32}
    {outcome : GlobalInitOutcome} {result : Bool} {g' : BridgeGlobals}
    (h : g.wclap_global_init timeLimitMs outcome = some (result, g')) :
    (g.globalInitOK = true ∧ timeLimitMs.toNat = g.globalInitMs ∧ result = true ∧ g' = g) ∨
      (g.globalInitOK = true ∧ timeLimitMs.toNat ≠ g.globalInitMs ∧ g.activeWclapCount = 0 ∧
        (result, g') = g.instanceGlobalDeinit.setGlobalInit timeLimitMs.toNat outcome) ∨
      (g.globalInitOK = false ∧ (result, g') = g.setGlobalInit timeLimitMs.toNat outcome) := by
  unfold wclap_global_init at h
  dsimp only at h
  split at h
  next hok =>
    split at h
    next hms =>
      cases h
      exact .inl ⟨hok, hms, rfl, rfl⟩
    next hms =>
      split at h
      next => cases h
      next hcount =>
        exact .inr (.inl ⟨hok, hms, Nat.eq_zero_of_not_pos hcount, (Option.some.inj h).symm⟩)
  next hok => exact .inr (.inr ⟨Bool.eq_false_iff.mpr hok, (Option.some.inj h).symm⟩)

/-- What a `wclap_global_deinit` that returns can have done. -/
theorem wclap_global_deinit_cases {g g' : BridgeGlobals} (h : g.wclap_global_deinit = some g') :
    (g.globalInitOK = true ∧ g.activeWclapCount = 0 ∧
        g' = { g.instanceGlobalDeinit with globalInitOK := false }) ∨
      (g.globalInitOK = false ∧ g' = g) := by
  unfold wclap_global_deinit at h
  split at h
  next hok =>
    split at h
    next => cases h
    next hcount => exact .inl ⟨hok, Nat.eq_zero_of_not_pos hcount, (Option.some.inj h).symm⟩
  next hok => exact .inr ⟨Bool.eq_false_iff.mpr hok, (Option.some.inj h).symm⟩

end BridgeGlobals

/-! ## Opening and closing -/

/-- Where `wclap_open_with_dirs` or `wclap_close` is with a WCLAP. -/
inductive WclapStage where
  /-- `globalInitOK` was set. -/
  | tested
  /-- In `createInstanceGroup`. -/
  | creating
  /-- There is an `InstanceGroup`, with an error or without. -/
  | created (error : Bool)
  /-- `activeWclapCount` is incremented: in the constructor of `WclapModule`. -/
  | counted
  | opened
  /-- `activeWclapCount` is decremented: in the destructor of `WclapModule`. -/
  | closing
  | gone
  deriving DecidableEq

/-- An `InstanceGroup` or `WclapModule` exists, is constructed or destroyed. -/
def WclapStage.Exists : WclapStage → Prop
  | creating | created _ | counted | opened | closing => True
  | tested | gone => False

/-- The counter includes it. -/
def WclapStage.isCounted : WclapStage → Bool
  | counted | opened => true
  | _ => false

/-- The global variables, and the WCLAPs that threads have begun to open. -/
structure BridgeProcess where
  globals : BridgeGlobals
  wclaps : List WclapStage

inductive BridgeAction where
  | wclap_global_init (timeLimitMs : UInt32) (outcome : GlobalInitOutcome)
  | wclap_global_deinit
  /-- `wclap_open_with_dirs` tests `globalInitOK`. -/
  | test
  /-- It cannot read the module. -/
  | giveUp (i : Nat)
  | createInstanceGroup (i : Nat)
  | created (i : Nat) (error : Bool)
  /-- It deletes a group with an error. -/
  | deleteGroup (i : Nat)
  | increment (i : Nat)
  | construct (i : Nat)
  /-- `wclap_close` of a WCLAP that is open. -/
  | decrement (i : Nat)
  | delete (i : Nat)

namespace BridgeProcess

def new : BridgeProcess := ⟨.new, []⟩

/-- A WCLAP goes from one stage to another. -/
def move (s : BridgeProcess) (i : Nat) (before after : WclapStage) : Option BridgeProcess :=
  if s.wclaps[i]? = some before then some { s with wclaps := s.wclaps.set i after } else none

/-- The process ends where it aborts. -/
def step (s : BridgeProcess) : BridgeAction → Option BridgeProcess
  | .wclap_global_init timeLimitMs outcome =>
    (s.globals.wclap_global_init timeLimitMs outcome).map fun (_, globals) => { s with globals }
  | .wclap_global_deinit => s.globals.wclap_global_deinit.map fun globals => { s with globals }
  | .test =>
    if s.globals.globalInitOK then some { s with wclaps := s.wclaps ++ [.tested] }
    else some s -- returns null
  | .giveUp i => s.move i .tested .gone
  | .createInstanceGroup i => s.move i .tested .creating
  | .created i error => s.move i .creating (.created error)
  | .deleteGroup i => s.move i (.created true) .gone
  | .increment i =>
    (s.move i (.created false) .counted).map fun s =>
      { s with globals.activeWclapCount := s.globals.activeWclapCount + 1 }
  | .construct i => s.move i .counted .opened
  | .decrement i =>
    (s.move i .opened .closing).map fun s =>
      { s with globals.activeWclapCount := s.globals.activeWclapCount - 1 }
  | .delete i => s.move i .closing .gone

end BridgeProcess

end WclapBridge.Native
