import WclapBridge.Native.BridgePlugin

/-!
# The handles in `wclapList`

An element of `wclapList` owns the handle of its WCLAP: it is moved when the
vector grows, and closes the handle when it is destroyed. Here the bridge plugin
keeps a record of what it passes to the bridge, handle by handle.

A handle is a pointer to a new `WclapModule`, or null. The modules are numbered
in the order in which they are opened.
-/

namespace WclapBridge.Native

/-- A `void *` of the bridge. -/
abbrev WclapHandle := Option Nat

/-- A call of the bridge. -/
inductive BridgeCall where
  | wclap_open (path : String) (result : WclapHandle)
  | wclap_get_error (handle : WclapHandle)
  | wclap_get_factory (handle : WclapHandle)
  | wclap_close (handle : WclapHandle)
  deriving DecidableEq

/-- The handle that is passed. -/
def BridgeCall.argument : BridgeCall → Option WclapHandle
  | .wclap_open _ _ => none
  | .wclap_get_error handle | .wclap_get_factory handle | .wclap_close handle => some handle

/-- `struct Wclap`. -/
structure WclapOwner where
  handle : WclapHandle
  pluginFactory : Option DescriptorList

namespace WclapOwner

/-- `Wclap(Wclap &&other)`: the new element, and what `other` is then. -/
def moved (other : WclapOwner) : WclapOwner × WclapOwner :=
  (⟨other.handle, other.pluginFactory⟩, { other with handle := none })

/-- `~Wclap()`. -/
def destroy (w : WclapOwner) : List BridgeCall :=
  if w.handle.isSome then [.wclap_close w.handle] else []

end WclapOwner

/-- The bridge plugin, with its vector of WCLAPs and what it has called. -/
structure WclapScan where
  /-- How many modules there have been. -/
  opened : Nat
  wclapList : List WclapOwner
  capacity : Nat
  calls : List BridgeCall
  /-- The process has ended. -/
  crashed : Bool

namespace WclapScan

def new : WclapScan := ⟨0, [], 0, [], false⟩

-- `growth` is how the vector grows
variable (growth : Nat → Nat)

/-- `wclapList.emplace_back`: a vector that is full moves its elements to a larger one,
    and destroys what is left of them. -/
def emplace_back (s : WclapScan) (w : WclapOwner) : WclapScan :=
  if s.wclapList.length < s.capacity then { s with wclapList := s.wclapList ++ [w] }
  else
    { s with
      wclapList := s.wclapList.map (·.moved.1) ++ [w]
      capacity := growth s.capacity
      calls := s.calls ++ s.wclapList.flatMap (·.moved.2.destroy) }

/-- The body of the loop in `scanWclapDirectory`, if the process is still there. -/
def scanEntry (s : WclapScan) (entry : String × WclapOpened) : WclapScan :=
  if s.crashed then s
  else if entry.1.endsWith ".wclap" then
    match entry.2 with
    | .null => -- `wclap_get_error` uses the pointer
      { s with
        calls := s.calls ++ [.wclap_open entry.1 none, .wclap_get_error none]
        crashed := true }
    | .error _ =>
      { s with
        opened := s.opened + 1
        calls := s.calls ++ [.wclap_open entry.1 (some s.opened),
          .wclap_get_error (some s.opened), .wclap_close (some s.opened)] }
    | .opened _ pluginFactory =>
      emplace_back growth
        { s with
          opened := s.opened + 1
          calls := s.calls ++ [.wclap_open entry.1 (some s.opened),
            .wclap_get_error (some s.opened), .wclap_get_factory (some s.opened)] }
        ⟨some s.opened, pluginFactory⟩
  else s

def scanWclapDirectory (s : WclapScan) (directory : WclapDirectory) : WclapScan :=
  match directory.entries with
  | none => s
  | some entries => entries.foldl (scanEntry growth) s

/-- `wclapList.clear()` in the last `clap_deinit`. -/
def clear (s : WclapScan) : WclapScan :=
  { s with wclapList := [], calls := s.calls ++ s.wclapList.flatMap (·.destroy) }

end WclapScan

/-! ## Runs -/

inductive ScanAction where
  | scanWclapDirectory (directory : WclapDirectory)
  | clap_deinit

namespace WclapScan

def perform (growth : Nat → Nat) (s : WclapScan) : ScanAction → WclapScan
  | .scanWclapDirectory directory => s.scanWclapDirectory growth directory
  | .clap_deinit => s.clear

/-- A step of a run, or `none` where the process ends. -/
def step (growth : Nat → Nat) (s : WclapScan) (a : ScanAction) : Option WclapScan :=
  let s := s.perform growth a
  if s.crashed then none else some s

end WclapScan

end WclapBridge.Native
