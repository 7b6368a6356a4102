import WclapBridge.Native.Contexts
import WclapBridge.ForStd.Transition

/-!
# State streams

In `state_save` and `state_load` the guest gets a stream object, and the plugin
holds the host's stream until the call ends. `ostreamWrite` and `istreamRead` pass
the bytes on through a local buffer of 1024 bytes.

The guest is the list of what it does in the call: it uses the stream, or runs
code of its own.
-/

namespace WclapBridge.Native

variable {is64 : Bool}

/-- The fields of `Plugin` under `hostStreamsMutex`. A stream of the host is
    identified by a number. -/
structure PluginStreams where
  hostIstream : Option Nat
  hostOstream : Option Nat

/-- The guest memory, the plugins by index (`IndexLookup`), what each
    `clap_istream` has left to read, and what each `clap_ostream` has received. -/
structure StreamState (is64 : Bool) where
  guest : GuestState
  pluginList : Nat → Option PluginStreams
  istreams : Nat → List UInt8
  ostreams : Nat → List UInt8

/-- How a host reads, given what its stream has left and the size of the buffer:
    its result, and what it leaves in the buffer behind the bytes it has read. -/
abbrev HostRead := List UInt8 → UInt64 → Int64 × List UInt8

/-- The result of a host's `write` of some bytes. -/
abbrev HostWrite := List UInt8 → Int64

namespace StreamState

def mem (s : StreamState is64) : LinearMemory := s.guest.mem

/-- Assign to a field of the plugin at an index. -/
def modifyPlugin (s : StreamState is64) (index : Nat) (f : PluginStreams → PluginStreams) :
    StreamState is64 :=
  { s with pluginList := Function.update s.pluginList index ((s.pluginList index).map f) }

/-- `clap_istream.read`: the result, the buffer, and the stream without the
    bytes that were read. -/
def hostRead (s : StreamState is64) (stream : Nat) (read : HostRead) (size : UInt64) :
    Int64 × List UInt8 × StreamState is64 :=
  let left := s.istreams stream
  let (result, rest) := read left size
  (result, left.take result.toNatClampNeg ++ rest,
    { s with
      istreams := Function.update s.istreams stream (left.drop result.toNatClampNeg) })

/-- `clap_ostream.write`: the result, and the stream with the bytes it accepted. -/
def hostWrite (s : StreamState is64) (stream : Nat) (write : HostWrite) (buffer : List UInt8) :
    Int64 × StreamState is64 :=
  let result := write buffer
  (result,
    { s with
      ostreams := Function.update s.ostreams stream
        (s.ostreams stream ++ buffer.take result.toNatClampNeg) })

/-! ## Host functions -/

/-- `Plugin::istreamRead`. -/
def istreamRead (s : StreamState is64) (p : PluginStreams) (read : HostRead)
    (buffer : Pointer is64) (size : UInt64) : Int64 × StreamState is64 :=
  match p.hostIstream with
  | none => (-1, s)
  | some hostIstream =>
    let size := if size > 1024 then 1024 else size -- 1kB max
    let (result, localBuffer, s) := s.hostRead hostIstream read size
    if result > 0 ∧ result ≤ 1024 then
      (result, { s with guest := s.guest.setArray buffer localBuffer 1 result.toUInt64 })
    else (result, s)

/-- `Plugin::ostreamWrite`. -/
def ostreamWrite (s : StreamState is64) (p : PluginStreams) (write : HostWrite)
    (buffer : Pointer is64) (size : UInt64) : Int64 × StreamState is64 :=
  match p.hostOstream with
  | none => (-1, s)
  | some hostOstream =>
    let size := if size > 1024 then 1024 else size -- 1kB max
    let localBuffer := (s.mem.getArray buffer 1 size).getD []
    s.hostWrite hostOstream write localBuffer

variable (ts : ContextTemplates is64)

/-- `WclapModuleBase::getPlugin` for a stream. -/
def getPlugin (s : StreamState is64) (kind : ContextStruct) (obj : Pointer is64) :
    Option PluginStreams :=
  s.pluginList (ModuleContexts.context ts s.mem kind obj).toNat

/-- `WclapModule::istreamTemplate_read`. -/
def istreamTemplate_read (s : StreamState is64) (read : HostRead) (obj buffer : Pointer is64)
    (size : UInt64) : Int64 × StreamState is64 :=
  match s.getPlugin ts .istream obj with
  | some plugin => s.istreamRead plugin read buffer size
  | none => (-1, s)

/-- `WclapModule::ostreamTemplate_write`. -/
def ostreamTemplate_write (s : StreamState is64) (write : HostWrite) (obj buffer : Pointer is64)
    (size : UInt64) : Int64 × StreamState is64 :=
  match s.getPlugin ts .ostream obj with
  | some plugin => s.ostreamWrite plugin write buffer size
  | none => (-1, s)

/-- `copyAcross` of a template, and `setPlugin`. -/
def copyTemplate (s : StreamState is64) (arena : Arena is64) (kind : ContextStruct)
    (pluginListIndex : UInt32) : Pointer is64 × StreamState is64 :=
  let bytes := ts.template kind
  let (ptr, guest) := s.guest.reserve arena bytes.length bytes.length
  let guest := guest.setArray ptr bytes (UInt64.ofNat bytes.length) 1
  (ptr, { s with guest := setPlugin guest ptr (ts.ctx kind) pluginListIndex })

end StreamState

/-! ## Saving -/

/-- What a guest does in its `save`. -/
inductive SaveAction (is64 : Bool) where
  /-- It calls `write`, which the host answers. -/
  | write (buffer : Pointer is64) (size : UInt64) (answer : HostWrite)
  /-- It runs code of its own. -/
  | guest (mem : LinearMemory)

/-- A guest in its `save`, and how far it has advanced by the results of its
    writes. -/
structure Saving (is64 : Bool) where
  streams : StreamState is64
  advanced : Nat

namespace Saving

def step (ts : ContextTemplates is64) (streamPtr : Pointer is64) (s : Saving is64) :
    SaveAction is64 → Option (Saving is64)
  | .write buffer size answer =>
    let (result, streams) := s.streams.ostreamTemplate_write ts answer streamPtr buffer size
    some ⟨streams, s.advanced + result.toNatClampNeg⟩
  | .guest mem =>
    -- linear memory does not shrink
    if s.streams.mem.size ≤ mem.size then
      some { s with streams := { s.streams with guest := { s.streams.guest with mem } } }
    else none

end Saving

/-- `Plugin::state_save` up to its call of the guest. -/
def state_save_enter (ts : ContextTemplates is64) (arena : Arena is64) (s : StreamState is64)
    (pluginListIndex : UInt32) (stream : Nat) : Pointer is64 × Saving is64 :=
  let (streamPtr, s) := s.copyTemplate ts arena .ostream pluginListIndex
  let s := s.modifyPlugin pluginListIndex.toNat fun p => { p with hostOstream := some stream }
  (streamPtr, ⟨s, 0⟩)

/-- `Plugin::state_save`, with what the guest does in its call. -/
def state_save (ts : ContextTemplates is64) (arena : Arena is64) (s : StreamState is64)
    (pluginListIndex : UInt32) (stream : Nat) (guestSave : List (SaveAction is64)) :
    Option (Saving is64) := do
  let (streamPtr, saving) := state_save_enter ts arena s pluginListIndex stream
  let saved ← guestSave.foldlM (Saving.step ts streamPtr) saving
  some
    { saved with
      streams := saved.streams.modifyPlugin pluginListIndex.toNat fun p =>
        { p with hostOstream := none } }

/-! ## Loading -/

/-- What a guest does in its `load`. -/
inductive LoadAction (is64 : Bool) where
  /-- It calls `read`, which the host answers, and takes the bytes that were read
      from the buffer. -/
  | read (buffer : Pointer is64) (size : UInt64) (answer : HostRead)
  /-- It runs code of its own. -/
  | guest (mem : LinearMemory)

/-- A guest in its `load`, and the bytes it has received from its reads. -/
structure Loading (is64 : Bool) where
  streams : StreamState is64
  received : List UInt8

namespace Loading

def step (ts : ContextTemplates is64) (streamPtr : Pointer is64) (s : Loading is64) :
    LoadAction is64 → Option (Loading is64)
  | .read buffer size answer =>
    let (result, streams) := s.streams.istreamTemplate_read ts answer streamPtr buffer size
    some ⟨streams, s.received ++ streams.mem.bytes.read buffer.toNat result.toNatClampNeg⟩
  | .guest mem =>
    -- linear memory does not shrink
    if s.streams.mem.size ≤ mem.size then
      some { s with streams := { s.streams with guest := { s.streams.guest with mem } } }
    else none

end Loading

/-- `Plugin::state_load` up to its call of the guest. -/
def state_load_enter (ts : ContextTemplates is64) (arena : Arena is64) (s : StreamState is64)
    (pluginListIndex : UInt32) (stream : Nat) : Pointer is64 × Loading is64 :=
  let (streamPtr, s) := s.copyTemplate ts arena .istream pluginListIndex
  let s := s.modifyPlugin pluginListIndex.toNat fun p => { p with hostIstream := some stream }
  (streamPtr, ⟨s, []⟩)

/-- `Plugin::state_load`, with what the guest does in its call. -/
def state_load (ts : ContextTemplates is64) (arena : Arena is64) (s : StreamState is64)
    (pluginListIndex : UInt32) (stream : Nat) (guestLoad : List (LoadAction is64)) :
    Option (Loading is64) := do
  let (streamPtr, loading) := state_load_enter ts arena s pluginListIndex stream
  let loaded ← guestLoad.foldlM (Loading.step ts streamPtr) loading
  some
    { loaded with
      streams := loaded.streams.modifyPlugin pluginListIndex.toNat fun p =>
        { p with hostIstream := none } }

end WclapBridge.Native
