import WclapBridge.Native.Arena

/-!
# Event lists

The methods of `Plugin` which carry CLAP events across the bridge:
`tryCopyInputEvent` copies the host's events into an arena scope, the guest
reads that list with `inputEventsSize` and `inputEventsGet`, and
`outputEventsTryPush` hands the guest's events to the host. The functions of
`WclapModule` which the guest calls resolve the plugin through the context
field of the event list first.
-/

namespace WclapBridge.Native

variable {is64 : Bool}

def CLAP_CORE_EVENT_SPACE_ID : UInt16 := 0

/-- The fields of `Plugin` under `hostEventsMutex`. A `clap_output_events` of
    the host is identified by a number. -/
structure PluginEvents (is64 : Bool) where
  inputEvents : List (Pointer is64)
  hostOutputEvents : Option Nat

/-- The state that event callbacks work on: guest memory, the plugins by index
    (`IndexLookup`), and the calls of the host's `try_push` so far. -/
structure BridgeState (is64 : Bool) where
  guest : GuestState
  pluginList : Nat → Option (PluginEvents is64)
  pushed : List (Nat × NativeEvent)

namespace BridgeState

def mem (s : BridgeState is64) : LinearMemory := s.guest.mem

/-- Assign to all fields of the plugin at an index. -/
def setPluginEvents (s : BridgeState is64) (index : Nat) (p : PluginEvents is64) :
    BridgeState is64 :=
  { s with pluginList := fun i => if i = index then some p else s.pluginList i }

/-- Assign to a field of the plugin at an index. -/
def modifyPluginEvents (s : BridgeState is64) (index : Nat)
    (f : PluginEvents is64 → PluginEvents is64) : BridgeState is64 :=
  { s with pluginList := fun i =>
      if i = index then (s.pluginList i).map f else s.pluginList i }

end BridgeState

/-! ## Host to guest -/

/-- `size` bytes of host memory from an event on. A well-formed event is at
    least as long; what lies behind a shorter one is not modelled, and reads as
    zeros. -/
def NativeEvent.objectBytes (abi : Abi is64) (event : NativeEvent) (size : Nat) : List UInt8 :=
  let rest := match event.body with
    | .plain _ rest => rest
    | _ => []
  (abi.header.encode event.header ++ rest ++ List.replicate size 0).take size

/-- The branch of `tryCopyInputEvent` for pointer-free events. -/
def copyPlainEvent (abi : Abi is64) (arena : Arena is64) (event : NativeEvent)
    (g : GuestState) : Pointer is64 × GuestState :=
  let size := event.header.size.toNat
  let (bytes, g) := g.reserve arena size 8
  (bytes, g.setArray bytes (event.objectBytes abi size) (UInt64.ofNat 1) (UInt64.ofNat size))

/-- The branch of `tryCopyInputEvent` for parameter values and modulations. -/
def copyParamValue (abi : Abi is64) (arena : Arena is64) (header : EventHeader)
    (valueEvent : ParamValue) (g : GuestState) : Pointer is64 × GuestState :=
  g.copyAcross arena abi.paramValue
    { header
      param_id := valueEvent.param_id
      cookie := Pointer.ofNat valueEvent.cookie.toNat
      note_id := valueEvent.note_id
      port_index := valueEvent.port_index
      channel := valueEvent.channel
      key := valueEvent.key
      value := valueEvent.value }

/-- The branch of `tryCopyInputEvent` for system-exclusive messages. -/
def copyMidiSysex (abi : Abi is64) (arena : Arena is64) (header : EventHeader)
    (sysex : MidiSysex) (g : GuestState) : Pointer is64 × GuestState :=
  let size := sysex.size.toNat
  let (wBuffer, g) := g.array arena 1 size
  let g := g.setArray wBuffer (sysex.buffer.take size) (UInt64.ofNat 1) (UInt64.ofNat size)
  g.copyAcross arena abi.midiSysex
    { header, port_index := sysex.port_index, buffer := wBuffer, size := sysex.size }

/-- `Plugin::tryCopyInputEvent`. It appends to `inputEvents`. The two casts to
    another event struct are of events which have that struct; the model copies
    nothing for others. -/
def tryCopyInputEvent (abi : Abi is64) (arena : Arena is64) (event : NativeEvent)
    (inputEvents : List (Pointer is64)) (g : GuestState) : List (Pointer is64) × GuestState :=
  let type := event.header.type
  if event.header.space_id ≠ CLAP_CORE_EVENT_SPACE_ID then (inputEvents, g)
  else if type ≤ 4 ∨ (type ≥ 7 ∧ type ≤ 10) ∨ type = 12 then
    let (bytes, g) := copyPlainEvent abi arena event g
    (inputEvents ++ [bytes], g)
  else if type = 5 ∨ type = 6 then
    match event.body with
    | .paramValue valueEvent =>
      let (wValueEventPtr, g) := copyParamValue abi arena event.header valueEvent g
      (inputEvents ++ [wValueEventPtr], g)
    | _ => (inputEvents, g)
  else if type = 11 then
    match event.body with
    | .midiSysex sysex =>
      let (wSysexPtr, g) := copyMidiSysex abi arena event.header sysex g
      (inputEvents ++ [wSysexPtr], g)
    | _ => (inputEvents, g)
  else (inputEvents, g)

/-- `clap_input_events`: what the host's `size` and `get` return. -/
structure ClapInputEvents where
  size : UInt32
  get : Nat → NativeEvent

/-- The loop of `pluginProcess` and `params_flush` over the host's events. -/
def copyInputEvents (abi : Abi is64) (arena : Arena is64) (eventsIn : ClapInputEvents)
    (g : GuestState) : List (Pointer is64) × GuestState :=
  let count := eventsIn.size
  forLoop count.toNat
    (fun i (inputEvents, g) => tryCopyInputEvent abi arena (eventsIn.get i) inputEvents g) ([], g)

/-- `Plugin::inputEventsSize`. -/
def PluginEvents.inputEventsSize (p : PluginEvents is64) : UInt32 :=
  UInt32.ofNat p.inputEvents.length

/-- `Plugin::inputEventsGet`. -/
def PluginEvents.inputEventsGet (p : PluginEvents is64) (index : UInt32) : Pointer is64 :=
  if h : index.toNat < p.inputEvents.length then p.inputEvents[index.toNat] else Pointer.null

/-! ## Guest to host -/

/-- The branches of `outputEventsTryPush` that copy a pointer-free struct:
    `getArray` of `sizeof(nativeEvent)` bytes, and the size put right. -/
def readPlainEvent (abi : Abi is64) (mem : LinearMemory) (event : Pointer is64)
    (s : PlainStruct) : NativeEvent :=
  let size := abi.sizeof (.plain s)
  let bytes := (mem.getArray event (UInt64.ofNat 1) (UInt64.ofNat size.toNat)).getD []
  { header := { abi.header.decode (bytes.take abi.header.width) with size }
    body := .plain s (bytes.drop abi.header.width) }

/-- The branch of `outputEventsTryPush` for parameter values and modulations. -/
def readParamValue (abi : Abi is64) (mem : LinearMemory) (event : Pointer is64) : NativeEvent :=
  let wEvent := mem.get abi.paramValue event 0
  { header := { wEvent.header with size := abi.sizeof .paramValue }
    body := .paramValue
      { param_id := wEvent.param_id
        -- a host `void *` is wide enough for either guest pointer
        cookie := wEvent.cookie.toUInt64
        note_id := wEvent.note_id
        port_index := wEvent.port_index
        channel := wEvent.channel
        key := wEvent.key
        value := wEvent.value } }

/-- The branch of `outputEventsTryPush` for system-exclusive messages: the
    struct comes from one read of guest memory, its bytes from another. -/
def readMidiSysex (abi : Abi is64) (mem memBuffer : LinearMemory) (event : Pointer is64) :
    Option NativeEvent :=
  let wEvent := mem.get abi.midiSysex event 0
  if wEvent.size > 1024 then none -- too big, and we don't want to allocate here
  else
    let bytes := (memBuffer.getArray wEvent.buffer (UInt64.ofNat 1)
      (UInt64.ofNat wEvent.size.toNat)).getD []
    -- a local array of 1024 bytes, of which the first `size` are set
    let buffer := bytes ++ List.replicate (1024 - bytes.length) 0
    some
      { header := { wEvent.header with size := abi.sizeof .midiSysex }
        body := .midiSysex { port_index := wEvent.port_index, buffer, size := wEvent.size } }

/-- `Plugin::outputEventsTryPush`, up to the call of the host's `try_push`: the
    event handed over, or `none` where the code returns `false` without calling
    it. Other guest threads may run between the reads: `mems i` is the guest
    memory at the `i`-th one. -/
def outputEventsTryPush (abi : Abi is64) (mems : Nat → LinearMemory) (p : PluginEvents is64)
    (event : Pointer is64) : Option NativeEvent :=
  if p.hostOutputEvents = none then none
  else
    let eventHeader := (mems 0).get abi.header event 0
    let type := eventHeader.type
    if eventHeader.space_id ≠ CLAP_CORE_EVENT_SPACE_ID then none
    else if type < 4 then some (readPlainEvent abi (mems 1) event .note)
    else if type = 4 then some (readPlainEvent abi (mems 1) event .noteExpression)
    else if type = 5 ∨ type = 6 then some (readParamValue abi (mems 1) event)
    else if type = 7 ∨ type = 8 then some (readPlainEvent abi (mems 1) event .paramGesture)
    else if type = 9 then some (readPlainEvent abi (mems 1) event .transport)
    else if type = 10 then some (readPlainEvent abi (mems 1) event .midi)
    else if type = 11 then readMidiSysex abi (mems 1) (mems 2) event
    else if type = 12 then some (readPlainEvent abi (mems 1) event .midi2)
    else none

/-! ## The functions the guest calls -/

/-- `WclapModuleBase::getPlugin`: the plugin whose index is in the context field
    of a struct. -/
def getPlugin (s : BridgeState is64) (obj : Pointer is64) (ctxOffset : Nat) :
    Option (PluginEvents is64) :=
  let dataPtr := s.mem.get (pointerCodec is64) (obj.offset ctxOffset) 0
  s.pluginList dataPtr.toNat

/-- `WclapModuleBase::setPlugin`. -/
def setPlugin (g : GuestState) (obj : Pointer is64) (ctxOffset : Nat)
    (pluginListIndex : UInt32) : GuestState :=
  g.set (pointerCodec is64) (obj.offset ctxOffset) (Pointer.ofNat pluginListIndex.toNat) 0

/-- `WclapModule::inputEventsTemplate_size`. -/
def inputEventsTemplate_size (abi : Abi is64) (s : BridgeState is64) (obj : Pointer is64) :
    UInt32 :=
  match getPlugin s obj abi.inputEventsCtx with
  | some plugin => plugin.inputEventsSize
  | none => 0

/-- `WclapModule::inputEventsTemplate_get`. -/
def inputEventsTemplate_get (abi : Abi is64) (s : BridgeState is64) (obj : Pointer is64)
    (index : UInt32) : Pointer is64 :=
  match getPlugin s obj abi.inputEventsCtx with
  | some plugin => plugin.inputEventsGet index
  | none => Pointer.null

/-- `WclapModule::outputEventsTemplate_try_push`, guest memory staying as it is.
    `hostTryPush` is the host's answer to an event it is handed. -/
def outputEventsTemplate_try_push (abi : Abi is64) (hostTryPush : NativeEvent → Bool)
    (s : BridgeState is64) (obj event : Pointer is64) : Bool × BridgeState is64 :=
  match getPlugin s obj abi.outputEventsCtx with
  | none => (false, s)
  | some plugin =>
    match plugin.hostOutputEvents, outputEventsTryPush abi (fun _ => s.mem) plugin event with
    | some sink, some nativeEvent =>
      (hostTryPush nativeEvent, { s with pushed := s.pushed ++ [(sink, nativeEvent)] })
    | _, _ => (false, s)

end WclapBridge.Native
