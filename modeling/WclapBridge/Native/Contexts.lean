import WclapBridge.Native.Events
import Mathlib.Logic.Function.Basic

/-!
# Context fields

A module hands structs to its guest that lead back to one of its plugins: copies
of the templates of `WclapModuleBase`, with the plugin's index in `pluginList` in
their context field. The `wclap_host` of a plugin is in the plugin's arena, which
goes back to the pool with `~Plugin`; the event lists and streams are in arena
scopes that end with a call.

A step of a run is an operation of the bridge on guest memory or on `pluginList`,
on any thread, or what guest code does to the memory between two of them.
-/

namespace WclapBridge.Native

variable {is64 : Bool}

/-- The structs with a context field, by the overloads of `getPlugin` and
    `setPlugin`. -/
inductive ContextStruct where
  | host
  | inputEvents
  | outputEvents
  | istream
  | ostream
  deriving DecidableEq

/-- The templates of `WclapModuleBase`, as they are copied, and the offsets of
    `host_data` and `ctx` in them. -/
structure ContextTemplates (is64 : Bool) where
  template : ContextStruct → List UInt8
  ctx : ContextStruct → Nat
  ctx_le : ∀ k, ctx k + (pointerCodec is64).width ≤ (template k).length

/-- A copy of a template. The guest has it once a plugin is set. -/
structure ContextObject (is64 : Bool) where
  kind : ContextStruct
  ptr : Pointer is64
  scope : Nat
  plugin : Option Nat
  /-- Guest code has changed its context field since then. -/
  changed : Bool

/-- A plugin that has been constructed. -/
structure PluginRecord where
  pluginListIndex : UInt32
  arena : Nat
  destroyCalled : Bool
  /-- `~Plugin` has returned its arena to the pool. -/
  arenaReturned : Bool

/-- The guest memory of a module, what its arenas have handed out, and its
    plugins, which are numbered as they are constructed. -/
structure ModuleContexts (is64 : Bool) where
  mem : LinearMemory
  /-- Blocks for anything else than a copy of a template, with their scopes. -/
  blocks : List (Nat × Block)
  objects : Nat → Option (ContextObject is64)
  objectCount : Nat
  /-- What `IndexLookup::get` finds. -/
  pluginList : Nat → Option Nat
  plugins : Nat → Option PluginRecord
  pluginCount : Nat

/-- A step. Where an arena places a block, and which index `IndexLookup::retain`
    picks, is part of it. -/
inductive ContextAction (is64 : Bool) where
  /-- `copyAcross` of a template. -/
  | copyAcross (scope : Nat) (kind : ContextStruct) (ptr : Pointer is64)
  /-- `reserve` or `array`. -/
  | reserve (scope : Nat) (ptr : Pointer is64) (size : Nat)
  /-- `setArray` or `set` in a block that was reserved. -/
  | setArray (ptr : Pointer is64) (bytes : List UInt8)
  /-- The constructor of `Plugin`, with a copy of the host template. -/
  | construct (object : Nat) (pluginListIndex : UInt32)
  /-- `setPlugin` in a call of a plugin. -/
  | setPlugin (object plugin : Nat)
  /-- The end of `pluginDestroy`. -/
  | destroy (plugin : Nat)
  /-- `~Plugin`, which aborts for a plugin that was not destroyed. -/
  | returnArena (plugin : Nat)
  /-- The end of a scope that is not the arena of a plugin. -/
  | closeScope (scope : Nat)
  /-- Guest code runs, or the bridge writes where guest code told it to. -/
  | guest (mem : LinearMemory)

namespace ModuleContexts

/-- A module without plugins. -/
def new (mem : LinearMemory) : ModuleContexts is64 where
  mem
  blocks := []
  objects _ := none
  objectCount := 0
  pluginList _ := none
  plugins _ := none
  pluginCount := 0

variable (ts : ContextTemplates is64)

/-- The context field of a copy. -/
def context (mem : LinearMemory) (kind : ContextStruct) (obj : Pointer is64) : Pointer is64 :=
  mem.get (pointerCodec is64) (obj.offset (ts.ctx kind)) 0

/-- `WclapModuleBase::getPlugin`. -/
def getPlugin (s : ModuleContexts is64) (kind : ContextStruct) (obj : Pointer is64) : Option Nat :=
  s.pluginList (context ts s.mem kind obj).toNat

/-- What the functions that the guest calls work on, with the fields of each plugin. -/
def toBridgeState (s : ModuleContexts is64) (fields : Nat → PluginEvents is64) :
    BridgeState is64 where
  guest := ⟨s.mem, s.blocks.map Prod.snd⟩
  pluginList i := (s.pluginList i).map fields
  pushed := []

/-- The memory after `WclapModuleBase::setPlugin`. -/
def memSetPlugin (mem : LinearMemory) (kind : ContextStruct) (obj : Pointer is64)
    (pluginListIndex : UInt32) : LinearMemory :=
  (Native.setPlugin ⟨mem, []⟩ obj (ts.ctx kind) pluginListIndex).mem

/-- A scope is not the arena of a plugin. -/
def noArena (s : ModuleContexts is64) (scope : Nat) : Bool :=
  (List.range s.pluginCount).all fun p =>
    (s.plugins p).all fun plugin => plugin.arena ≠ scope || plugin.arenaReturned

/-- The memory of a scope is free for others. -/
def release (s : ModuleContexts is64) (scope : Nat) : ModuleContexts is64 :=
  { s with
    blocks := s.blocks.filter (·.1 ≠ scope)
    objects := fun i => (s.objects i).filter (·.scope ≠ scope) }

/-- A plugin is retained in `pluginList`. -/
def retain (s : ModuleContexts is64) (plugin : PluginRecord) : ModuleContexts is64 :=
  { s with
    pluginList :=
      Function.update s.pluginList plugin.pluginListIndex.toNat (some s.pluginCount)
    plugins := Function.update s.plugins s.pluginCount (some plugin)
    pluginCount := s.pluginCount + 1 }

/-- A copy for a plugin. -/
def handOut (s : ModuleContexts is64) (i : Nat) (object : ContextObject is64) (plugin : Nat)
    (pluginListIndex : UInt32) : ModuleContexts is64 :=
  { s with
    mem := memSetPlugin ts s.mem object.kind object.ptr pluginListIndex
    objects := Function.update s.objects i
      (some { object with plugin := some plugin, changed := false }) }

def step (s : ModuleContexts is64) : ContextAction is64 → Option (ModuleContexts is64)
  | .copyAcross scope kind ptr =>
    let bytes := ts.template kind
    some
      { s with
        mem := (s.mem.setArray ptr bytes (UInt64.ofNat bytes.length) 1).getD s.mem
        objects := Function.update s.objects s.objectCount
          (some { kind, ptr, scope, plugin := none, changed := false })
        objectCount := s.objectCount + 1 }
  | .reserve scope ptr size => some { s with blocks := s.blocks ++ [(scope, ⟨ptr.toNat, size⟩)] }
  | .setArray ptr bytes =>
    if s.blocks.any fun (_, b) =>
        b.start ≤ ptr.toNat ∧ ptr.toNat + bytes.length ≤ b.start + b.size then
      some { s with mem := (s.mem.setArray ptr bytes (UInt64.ofNat bytes.length) 1).getD s.mem }
    else none
  | .construct i pluginListIndex =>
    match s.objects i with
    | some object =>
      -- the scope is committed, and is the arena of the plugin from now on
      if object.kind = .host ∧ object.plugin = none ∧ s.noArena object.scope then
        some ((s.retain ⟨pluginListIndex, object.scope, false, false⟩).handOut ts i object
          s.pluginCount pluginListIndex)
      else none
    | none => none
  | .setPlugin i p =>
    match s.objects i, s.plugins p with
    | some object, some plugin =>
      if object.kind ≠ .host ∧ object.plugin = none then
        some (s.handOut ts i object p plugin.pluginListIndex)
      else none
    | _, _ => none
  | .destroy p =>
    match s.plugins p with
    | some plugin =>
      if plugin.destroyCalled then none
      else
        some
          { s with
            plugins := Function.update s.plugins p (some { plugin with destroyCalled := true })
            pluginList := Function.update s.pluginList plugin.pluginListIndex.toNat none }
    | none => none
  | .returnArena p =>
    match s.plugins p with
    | some plugin =>
      if plugin.destroyCalled ∧ ¬ plugin.arenaReturned then
        some
          { s.release plugin.arena with
            plugins := Function.update s.plugins p (some { plugin with arenaReturned := true }) }
      else none
    | none => none
  | .closeScope scope => if s.noArena scope then some (s.release scope) else none
  | .guest mem =>
    -- linear memory does not shrink
    if s.mem.size ≤ mem.size then
      some
        { s with
          mem
          objects := fun i => (s.objects i).map fun object =>
            { object with
              changed := object.changed ||
                context ts mem object.kind object.ptr ≠
                  context ts s.mem object.kind object.ptr } }
    else none

end ModuleContexts

end WclapBridge.Native
