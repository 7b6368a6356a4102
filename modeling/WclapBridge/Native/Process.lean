import WclapBridge.Native.Events

/-!
# Audio processing

`Plugin::pluginProcess` and `Plugin::params_flush`. The audio buffers of the
host are copied into an arena scope, channel by channel, the guest's function is
called, and the output buffers are copied back and checked. The guest is a
parameter: any function of the state it finds.

Audio samples are bit patterns; `SampleFormat` is what `checkBuffers` needs to
know of them.
-/

namespace WclapBridge.Native

variable {is64 : Bool} {S : Type}

/-! ## Samples -/

/-- A sample type with the operations of `checkBuffers`. -/
structure SampleFormat (S : Type) where
  codec : Codec S
  zero : S
  /-- `static constexpr S limit = 100`. -/
  limit : S
  /-- `std::abs`. -/
  abs : S → S
  /-- The comparison `<`. -/
  lt : S → S → Bool
  isNaN : S → Bool
  isNaN_abs : ∀ a, isNaN (abs a) = isNaN a
  not_lt_of_isNaN : ∀ a b, isNaN a = true → lt a b = false

/-- The IEEE binary format of `k` bytes whose positive infinity is `infinity`:
    the order is that of the magnitudes with their sign, and a NaN is what lies
    beyond infinity. -/
def SampleFormat.ieee (k : Nat) (infinity limit : Nat) : SampleFormat (BitVec (8 * k)) :=
  let magnitude (a : BitVec (8 * k)) : Nat := a.toNat % 2 ^ (8 * k - 1)
  let signed (a : BitVec (8 * k)) : Int :=
    if a.toNat < 2 ^ (8 * k - 1) then magnitude a else - magnitude a
  let isNaN (a : BitVec (8 * k)) : Bool := infinity < magnitude a
  { codec := Codec.bits k
    zero := 0
    limit := BitVec.ofNat _ limit
    abs a := BitVec.ofNat _ (magnitude a)
    lt a b := !isNaN a && !isNaN b && signed a < signed b
    isNaN
    isNaN_abs a := by
      have hlt : a.toNat % 2 ^ (8 * k - 1) < 2 ^ (8 * k) := by
        exact Nat.lt_of_le_of_lt (Nat.mod_le _ _) a.isLt
      simp only [isNaN, magnitude, BitVec.toNat_ofNat, Nat.mod_eq_of_lt hlt, Nat.mod_mod]
    not_lt_of_isNaN a b h := by simp only [h, Bool.not_true, Bool.false_and] }

/-- `float`. -/
def float : SampleFormat (BitVec (8 * 4)) := SampleFormat.ieee 4 0x7F800000 0x42C80000

/-- `double`. -/
def double : SampleFormat (BitVec (8 * 8)) :=
  SampleFormat.ieee 8 0x7FF0000000000000 0x4059000000000000

example : float.lt (float.abs 0xC2C7FFFF) float.limit = true := by decide
example : float.lt (float.abs 0xC2C80000) float.limit = false := by decide
example : float.lt (float.abs 0x7FC00000) float.limit = false := by decide

/-- The sample memory of the host, by type. Addresses count samples. -/
structure HostSamples where
  floats : Cells (BitVec (8 * 4))
  doubles : Cells (BitVec (8 * 8))

/-! ## The host's structs -/

/-- `clap_audio_buffer`. A `data32` or `data64` that is not null points to the
    host address of each channel. -/
structure AudioBuffer where
  data32 : Option (Nat → Nat)
  data64 : Option (Nat → Nat)
  channel_count : UInt32
  latency : UInt32
  constant_mask : UInt64

/-- `clap_process`. The host's output list is identified by a number; it may be
    null. -/
structure ClapProcess where
  steady_time : Int64
  frames_count : UInt32
  transport : Option NativeEvent
  audio_inputs : Nat → AudioBuffer
  audio_outputs : Nat → AudioBuffer
  audio_inputs_count : UInt32
  audio_outputs_count : UInt32
  in_events : ClapInputEvents
  out_events : Option Nat

/-- The templates of `WclapModuleBase` with the registered callbacks. -/
structure EventTemplates (is64 : Bool) where
  inputEventsTemplate : WInputEvents is64
  outputEventsTemplate : WOutputEvents is64

/-! ## Before the call -/

/-- The event lists of one call in guest memory. -/
structure EventLists (is64 : Bool) where
  inEvents : Pointer is64
  outEvents : Pointer is64
  inputEvents : List (Pointer is64)

/-- The first part of `pluginProcess`, and of `params_flush`: both event lists,
    with the plugin's index as their context, and the host's input events. -/
def openEvents (abi : Abi is64) (arena : Arena is64) (templates : EventTemplates is64)
    (pluginListIndex : UInt32) (eventsIn : ClapInputEvents) (g : GuestState) :
    EventLists is64 × GuestState :=
  let (inEvents, g) := g.copyAcross arena abi.inputEvents templates.inputEventsTemplate
  let (outEvents, g) := g.copyAcross arena abi.outputEvents templates.outputEventsTemplate
  let g := setPlugin g inEvents abi.inputEventsCtx pluginListIndex
  let g := setPlugin g outEvents abi.outputEventsCtx pluginListIndex
  let (inputEvents, g) := copyInputEvents abi arena eventsIn g
  (⟨inEvents, outEvents, inputEvents⟩, g)

/-- The transport event, which contains no pointers. -/
def copyTransport (abi : Abi is64) (arena : Arena is64) (transport : Option NativeEvent)
    (g : GuestState) : Pointer is64 × GuestState :=
  match transport with
  | none => (Pointer.null, g)
  | some event =>
    let size := (abi.sizeof (.plain .transport)).toNat
    let (ptr, g) := g.reserve arena size 8
    (ptr, g.setArray ptr (event.objectBytes abi size) (UInt64.ofNat size) (UInt64.ofNat 1))

/-- An iteration of the loop over the channels: a copy of the samples from host
    address `channel` on, and its address in element `c` of `wData`. -/
def copyChannel (F : SampleFormat S) (arena : Arena is64) (host : Cells S) (channel : Nat)
    (frames_count : UInt32) (wData : Pointer is64) (c : Nat) (g : GuestState) : GuestState :=
  let (array, g) := g.array arena F.codec.width frames_count.toNat
  let g := g.setArray array (F.codec.encodeList (host.read channel frames_count.toNat))
    (UInt64.ofNat F.codec.width) (UInt64.ofNat frames_count.toNat)
  g.set (pointerCodec is64) wData array c

/-- The two blocks of `translateBuffer`, for `data32` and for `data64`: an array
    of pointers, and an array of samples for each channel. -/
def copyChannels (F : SampleFormat S) (arena : Arena is64) (host : Cells S)
    (data : Option (Nat → Nat)) (channel_count frames_count : UInt32) (g : GuestState) :
    Pointer is64 × GuestState :=
  match data with
  | none => (Pointer.null, g)
  | some data =>
    let (wData, g) := g.array arena (pointerCodec is64).width channel_count.toNat
    (wData, forLoop channel_count.toNat
      (fun c g => copyChannel F arena host (data c) frames_count wData c g) g)

/-- The lambda `translateBuffer`. -/
def translateBuffer (abi : Abi is64) (arena : Arena is64) (host : HostSamples)
    (frames_count : UInt32) (buffer : AudioBuffer) (wBufferPtr : Pointer is64) (g : GuestState) :
    GuestState :=
  let (data32, g) :=
    copyChannels float arena host.floats buffer.data32 buffer.channel_count frames_count g
  let (data64, g) :=
    copyChannels double arena host.doubles buffer.data64 buffer.channel_count frames_count g
  g.set abi.audioBuffer wBufferPtr
    { data32
      data64
      channel_count := buffer.channel_count
      latency := buffer.latency
      constant_mask := buffer.constant_mask } 0

/-- The loops over the input ports and over the output ports. -/
def translatePorts (abi : Abi is64) (arena : Arena is64) (host : HostSamples)
    (frames_count : UInt32) (ports : Nat → AudioBuffer) (count : UInt32) (g : GuestState) :
    Pointer is64 × GuestState :=
  let (wPorts, g) := g.array arena abi.audioBuffer.width count.toNat
  (wPorts, forLoop count.toNat (fun portIndex g =>
    translateBuffer abi arena host frames_count (ports portIndex)
      (wPorts.offset (abi.audioBuffer.width * portIndex)) g) g)

/-- What `pluginProcess` has in its hands when it calls the guest. -/
structure PreparedProcess (is64 : Bool) where
  lists : EventLists is64
  wProcess : WProcess is64
  processPtr : Pointer is64
  guest : GuestState

/-- `pluginProcess` up to the call: everything it puts into guest memory. -/
def prepareProcess (abi : Abi is64) (arena : Arena is64) (templates : EventTemplates is64)
    (pluginListIndex : UInt32) (host : HostSamples) (process : ClapProcess) (g : GuestState) :
    PreparedProcess is64 :=
  let (lists, g) := openEvents abi arena templates pluginListIndex process.in_events g
  let (transport, g) := copyTransport abi arena process.transport g
  let (audio_inputs, g) := translatePorts abi arena host process.frames_count
    process.audio_inputs process.audio_inputs_count g
  let (audio_outputs, g) := translatePorts abi arena host process.frames_count
    process.audio_outputs process.audio_outputs_count g
  let wProcess : WProcess is64 :=
    { steady_time := process.steady_time
      frames_count := process.frames_count
      transport
      audio_inputs
      audio_outputs
      audio_inputs_count := process.audio_inputs_count
      audio_outputs_count := process.audio_outputs_count
      in_events := lists.inEvents
      out_events := lists.outEvents }
  let (processPtr, g) := g.copyAcross arena abi.process wProcess
  ⟨lists, wProcess, processPtr, g⟩

/-! ## After the call -/

/-- `Plugin::checkBuffers`. -/
def checkBuffers (F : SampleFormat S) (buffer length : Nat) (host : Cells S) : Cells S :=
  forLoop length (fun i host =>
    let a := F.abs (host (buffer + i))
    if !F.lt a F.limit then host.write (buffer + i) [F.zero] else host) host

/-- An iteration of the copy-back loop over the channels: the samples behind
    element `c` of `wData` to host address `channel`. -/
def copyBackChannel (F : SampleFormat S) (mem : LinearMemory) (wData : Pointer is64)
    (channel : Nat) (frames_count : UInt32) (c : Nat) (host : Cells S) : Cells S :=
  let channelPtr := mem.get (pointerCodec is64) wData c
  let bytes := (mem.getArray channelPtr (UInt64.ofNat F.codec.width)
    (UInt64.ofNat frames_count.toNat)).getD []
  let host := host.write channel (F.codec.decodeList frames_count.toNat bytes)
  checkBuffers F channel frames_count.toNat host

/-- The two blocks of the copy-back loop, for `data32` and for `data64`. -/
def copyBackChannels (F : SampleFormat S) (mem : LinearMemory) (wData : Pointer is64)
    (data : Option (Nat → Nat)) (channel_count frames_count : UInt32) (host : Cells S) :
    Cells S :=
  match data with
  | none => host
  | some data =>
    forLoop channel_count.toNat
      (fun c host => copyBackChannel F mem wData (data c) frames_count c host) host

/-- The loop over the output ports after the call. -/
def copyBack (abi : Abi is64) (mem : LinearMemory) (wProcess : WProcess is64)
    (process : ClapProcess) (host : HostSamples) : HostSamples :=
  forLoop wProcess.audio_outputs_count.toNat (fun portIndex host =>
    let buffer := process.audio_outputs portIndex
    let wBuffer := mem.get abi.audioBuffer wProcess.audio_outputs portIndex
    { floats := copyBackChannels float mem wBuffer.data32 buffer.data32 buffer.channel_count
        wProcess.frames_count host.floats
      doubles := copyBackChannels double mem wBuffer.data64 buffer.data64 buffer.channel_count
        wProcess.frames_count host.doubles }) host

/-! ## The methods -/

/-- `Plugin::pluginProcess` up to the guest's `process`: what has been prepared,
    and the state in which the guest is called. -/
def processCall (abi : Abi is64) (arena : Arena is64) (templates : EventTemplates is64)
    (pluginListIndex : UInt32) (process : ClapProcess) (host : HostSamples)
    (s : BridgeState is64) : PreparedProcess is64 × BridgeState is64 :=
  let prepared := prepareProcess abi arena templates pluginListIndex host process s.guest
  let s := { s with guest := prepared.guest }
  (prepared, s.setPluginEvents pluginListIndex.toNat
    { inputEvents := prepared.lists.inputEvents, hostOutputEvents := process.out_events })

/-- `Plugin::pluginProcess`. The guest's `process` is any function of the
    pointer it is given and of the state; its result code is passed on. -/
def pluginProcess {ρ : Type} (abi : Abi is64) (arena : Arena is64)
    (templates : EventTemplates is64) (pluginListIndex : UInt32)
    (guestProcess : Pointer is64 → BridgeState is64 → ρ × BridgeState is64)
    (process : ClapProcess) (host : HostSamples) (s : BridgeState is64) :
    ρ × HostSamples × BridgeState is64 :=
  let (prepared, s) := processCall abi arena templates pluginListIndex process host s
  let (resultCode, s) := guestProcess prepared.processPtr s
  let s := s.modifyPluginEvents pluginListIndex.toNat ({ · with hostOutputEvents := none })
  (resultCode, copyBack abi s.mem prepared.wProcess process host, s)

/-- `Plugin::params_flush`. The guest's `flush` is any function of the two
    pointers it is given and of the state. -/
def params_flush {ρ : Type} (abi : Abi is64) (arena : Arena is64)
    (templates : EventTemplates is64) (pluginListIndex : UInt32)
    (guestFlush : Pointer is64 → Pointer is64 → BridgeState is64 → ρ × BridgeState is64)
    (eventsIn : ClapInputEvents) (eventsOut : Option Nat) (s : BridgeState is64) :
    ρ × BridgeState is64 :=
  let (lists, guest) := openEvents abi arena templates pluginListIndex eventsIn s.guest
  let s := { s with guest }
  let s := s.setPluginEvents pluginListIndex.toNat
    { inputEvents := lists.inputEvents, hostOutputEvents := eventsOut }
  let (result, s) := guestFlush lists.inEvents lists.outEvents s
  (result, s.modifyPluginEvents pluginListIndex.toNat ({ · with hostOutputEvents := none }))

end WclapBridge.Native
