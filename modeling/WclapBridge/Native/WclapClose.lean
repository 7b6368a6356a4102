import WclapBridge.Native.Operations

/-!
# From `wclap_open` to `wclap_close`

The runs of an open WCLAP go on until it is closed, and keep a record of the
guest functions that are called.

`wclap_close` deletes the `WclapModule`. Its destructor keeps the guest from
spawning threads, that of `WclapModuleBase` waits for those which there are, and
then their fields are destroyed: the arenas may call the guest, on the main
thread.
-/

namespace WclapBridge.Native

open WclapModule (main)

/-- The functions in the guest's `clap_entry`. -/
inductive EntryFunction where
  | init
  | deinit
  | get_factory
  deriving DecidableEq

/-- A function of the guest. -/
inductive GuestFunction where
  | clap_entry (field : EntryFunction)
  -- those of its `clap_plugin_factory`
  | get_plugin_count
  | get_plugin_descriptor
  | create_plugin
  /-- One of a plugin or of its extensions. -/
  | plugin
  /-- The start function of the module, when an instance is created. -/
  | start
  /-- `_initialize`. -/
  | wasiInit
  | wasi_thread_start
  | malloc
  /-- One that the destructor of an arena calls. -/
  | release
  deriving DecidableEq

/-- A guest function has been called. -/
structure GuestCall where
  function : GuestFunction
  /-- The instance on which it was called. -/
  instance_ : Nat
  /-- What it returned, or 0. -/
  result : UInt64
  /-- In `wclap_close`. -/
  closing : Bool
  deriving DecidableEq

/-! ## Who calls what -/

/-- The guest functions that an operation calls by their pointers, in this order. -/
def Operation.callee : Operation → Nat → GuestFunction
  | .getFactory _, 0 => .clap_entry .get_factory
  | .getFactory _, 1 => .get_plugin_count
  | .getFactory _, _ => .get_plugin_descriptor
  | .createPlugin _, _ => .create_plugin
  | .method _ _, _ => .plugin
  | .runThread _, _ => .wasi_thread_start

/-- The guest functions that a task calls by their pointers, in this order, and how
    many of these calls it has come to. -/
structure TaskCalls where
  callee : Nat → GuestFunction
  count : Nat

namespace TaskCalls

/-- The constructor of `WclapModule`. -/
def construct : TaskCalls := ⟨fun _ => .clap_entry .init, 0⟩

def operation (op : Operation) : TaskCalls := ⟨op.callee, 0⟩

/-- After a request has been answered. -/
def answered (c : TaskCalls) : Request → TaskCalls
  | .call _ => { c with count := c.count + 1 }
  | _ => c

end TaskCalls

/-- A call, if guest code has run. -/
def guestCalls (effects : List Effect) (call : GuestCall) : List GuestCall :=
  if .guestCode ∈ effects then [call] else []

/-- The guest calls in the answer to a request. -/
def WclapModule.requestCalls (m : WclapModule) (callee : GuestFunction) (closing : Bool)
    (env : Environment) (r : Request) : List GuestCall :=
  let (x, _, effects) := m.perform env r
  match r with
  | .call i => guestCalls effects ⟨callee, i, x, closing⟩
  | .reserve => guestCalls effects ⟨.malloc, main, x, closing⟩
  | .init => guestCalls effects ⟨.wasiInit, main, 0, closing⟩
  | .newPlugin => guestCalls effects ⟨.start, m.instances.length, 0, closing⟩
  | .runThread index =>
    match m.threads.getD index none with
    | some thread => guestCalls effects ⟨.wasi_thread_start, thread.instance_, 0, closing⟩
    | none => []
  | .memory _ | .setPluginFactory _ | .setError _ | .clearError => []

/-! ## Runs -/

/-- Where `wclap_close` is. -/
inductive CloseStage where
  /-- It has not been called. -/
  | opened
  /-- The destructor of `WclapModuleBase` waits. -/
  | stopping
  /-- The fields are destroyed. -/
  | destroying
  | closed
  deriving DecidableEq

/-- A WCLAP from `wclap_open` to the end of `wclap_close`. -/
structure WclapLifetime where
  openWclap : OpenWclap
  /-- For each of its tasks. -/
  taskCalls : List TaskCalls
  stage : CloseStage
  calls : List GuestCall

inductive LifetimeAction where
  | action (a : Action)
  /-- `wclap_close`, with the destructor of `WclapModule`. -/
  | wclap_close
  /-- `checkThreadsStopped` returns `true`. Until then, the calls of the threads may
      time out: see `ThreadOutcome`. -/
  | threadsStopped
  /-- The destructor of an arena calls a guest function. -/
  | release (outcome : TableCallOutcome)
  | closed

/-- Whether it can happen while `wclap_close` waits. The host has no access to the
    WCLAP any more, but the guest's threads run on. -/
def Action.whileStopping : Action → Bool
  | .getError => false
  | .start (.runThread _) => true
  | .start _ => false
  | .answer _ _ | .spawnThread _ | .growTable _ _ | .setEntry _ _ _ => true

namespace WclapLifetime

def begin (is64 shared : Bool) (setup : SetupOutcome) (grow : HostFunction → GrowOutcome) :
    WclapLifetime where
  openWclap := .begin is64 shared setup grow
  taskCalls := [.construct]
  stage := .opened
  calls := guestCalls (startInstance (InstanceGroup.opened shared) setup).2.2 ⟨.start, main, 0, false⟩

/-- Whether `wclap_close` has been called. -/
def closing (s : WclapLifetime) : Bool :=
  s.stage ≠ .opened

/-- The guest functions that are called in a step. -/
def actionCalls (s : WclapLifetime) : Action → List GuestCall
  | .answer i env =>
    match s.openWclap.tasks[i]?, s.taskCalls[i]? with
    | some ⟨_, _, .request r _⟩, some c =>
      s.openWclap.wclap.requestCalls (c.callee c.count) s.closing env r
    | _, _ => []
  | .spawnThread env =>
    let (_, _, effects) := s.openWclap.wclap.spawnThread env.setup env.grow
    guestCalls effects ⟨.start, s.openWclap.wclap.instances.length, 0, s.closing⟩
  | .getError | .start _ | .growTable _ _ | .setEntry _ _ _ => []

/-- The tasks of the next state. -/
def actionTasks (s : WclapLifetime) : Action → List TaskCalls
  | .start op => s.taskCalls ++ [.operation op]
  | .answer i _ =>
    match s.openWclap.tasks[i]? with
    | some ⟨_, _, .request r _⟩ => s.taskCalls.modify i (·.answered r)
    | _ => s.taskCalls
  | .getError | .spawnThread _ | .growTable _ _ | .setEntry _ _ _ => s.taskCalls

/-- A step of a run. -/
def step (s : WclapLifetime) : LifetimeAction → Option WclapLifetime
  | .action a =>
    if s.stage = .opened ∨ (s.stage = .stopping ∧ a.whileStopping) then
      (s.openWclap.step a).map fun openWclap =>
        { s with
          openWclap
          taskCalls := s.actionTasks a
          calls := s.calls ++ s.actionCalls a }
    else none
  | .wclap_close =>
    if s.stage = .opened ∧ s.openWclap.returned then
      some { s with stage := .stopping, openWclap.wclap.wasiThreadSpawn := false }
    else none
  | .threadsStopped =>
    if s.stage = .stopping ∧ s.openWclap.wclap.threads.all Option.isNone then
      some { s with stage := .destroying }
    else none
  | .release outcome =>
    if s.stage = .destroying then
      let (x, wclap, effects) :=
        s.openWclap.wclap.withInstance main fun instance_ group => wtCall instance_ outcome group
      some
        { s with
          openWclap.wclap := wclap
          calls := s.calls ++ guestCalls effects ⟨.release, main, x, s.closing⟩ }
    else none
  | .closed => if s.stage = .destroying then some { s with stage := .closed } else none

end WclapLifetime

end WclapBridge.Native
