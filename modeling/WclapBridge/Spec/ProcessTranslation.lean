import WclapBridge.Spec.ProcessLayout

/-!
# Audio process translation

What the guest sees of a `clap_process` when it follows the pointers, and what
the host has in its output buffers afterwards. The guest reads its memory
directly, without the clamp that the bridge applies to its own accesses.

## Key results

- `guestView_eq`: the guest sees what the host passed
- `Outputs.copyBackPorts_spec`: the output buffers after the call
- `pluginProcess_translates`: both, for a whole call
-/

namespace WclapBridge.Spec

open WclapBridge.Native

variable {is64 : Bool} {S α : Type}

/-! ## The two views -/

/-- An audio port, the same on both sides. -/
structure PortView where
  channel_count : UInt32
  latency : UInt32
  constant_mask : UInt64
  /-- Samples by channel and frame, or `none` for a null pointer. -/
  data32 : Option (List (List (BitVec (8 * 4))))
  data64 : Option (List (List (BitVec (8 * 8))))

/-- A process struct, the same on both sides. The transport is given by the
    bytes of the struct, or `none` for a null pointer. -/
structure ProcessView where
  steady_time : Int64
  frames_count : UInt32
  transport : Option (List UInt8)
  audio_inputs : List PortView
  audio_outputs : List PortView

/-- A port as the host passes it. -/
def hostPort (host : HostSamples) (frames_count : UInt32) (buffer : AudioBuffer) : PortView where
  channel_count := buffer.channel_count
  latency := buffer.latency
  constant_mask := buffer.constant_mask
  data32 := buffer.data32.map fun data => (List.range buffer.channel_count.toNat).map fun c =>
    host.floats.read (data c) frames_count.toNat
  data64 := buffer.data64.map fun data => (List.range buffer.channel_count.toNat).map fun c =>
    host.doubles.read (data c) frames_count.toNat

/-- The process struct as the host passes it. -/
def hostView (abi : Abi is64) (host : HostSamples) (process : ClapProcess) : ProcessView where
  steady_time := process.steady_time
  frames_count := process.frames_count
  transport := process.transport.map fun event =>
    event.objectBytes abi (abi.sizeof (.plain .transport)).toNat
  audio_inputs := (List.range process.audio_inputs_count.toNat).map fun i =>
    hostPort host process.frames_count (process.audio_inputs i)
  audio_outputs := (List.range process.audio_outputs_count.toNat).map fun i =>
    hostPort host process.frames_count (process.audio_outputs i)

/-- The guest loads element `i` of an array. -/
def load (c : Codec α) (mem : LinearMemory) (ptr : Pointer is64) (i : Nat) : α :=
  c.decodeAt mem.bytes ptr.toNat i

/-- The channels which the guest finds behind a pointer. -/
def guestChannels (F : SampleFormat S) (mem : LinearMemory) (wData : Pointer is64)
    (channel_count frames_count : UInt32) : Option (List (List S)) :=
  if wData = Pointer.null then none
  else some ((List.range channel_count.toNat).map fun c =>
    F.codec.decodeArray mem.bytes (load (pointerCodec is64) mem wData c).toNat frames_count.toNat)

/-- The port which the guest finds at index `i` of an array. -/
def guestPort (abi : Abi is64) (mem : LinearMemory) (frames_count : UInt32)
    (wPorts : Pointer is64) (i : Nat) : PortView :=
  let wBuffer := load abi.audioBuffer mem wPorts i
  { channel_count := wBuffer.channel_count
    latency := wBuffer.latency
    constant_mask := wBuffer.constant_mask
    data32 := guestChannels float mem wBuffer.data32 wBuffer.channel_count frames_count
    data64 := guestChannels double mem wBuffer.data64 wBuffer.channel_count frames_count }

/-- What the guest finds when it follows the pointers from its process struct. -/
def guestView (abi : Abi is64) (mem : LinearMemory) (processPtr : Pointer is64) : ProcessView :=
  let wProcess := load abi.process mem processPtr 0
  { steady_time := wProcess.steady_time
    frames_count := wProcess.frames_count
    transport :=
      if wProcess.transport = Pointer.null then none
      else some (mem.bytes.read wProcess.transport.toNat (abi.sizeof (.plain .transport)).toNat)
    audio_inputs := (List.range wProcess.audio_inputs_count.toNat).map fun i =>
      guestPort abi mem wProcess.frames_count wProcess.audio_inputs i
    audio_outputs := (List.range wProcess.audio_outputs_count.toNat).map fun i =>
      guestPort abi mem wProcess.frames_count wProcess.audio_outputs i }

/-! ## Before the call -/

/-- In range, the guest loads what the bridge would read. -/
theorem load_eq_get {c : Codec α} {mem : LinearMemory} {ptr : Pointer is64} {n i : Nat}
    (h : InRange mem ptr (c.width * n)) (hi : i < n) : load c mem ptr i = mem.get c ptr i :=
  (h.get hi).symm

theorem guestChannels_eq {F : SampleFormat S} {host : Cells S} {data : Option (Nat → Nat)}
    {channel_count frames_count : UInt32} {wData : Pointer is64} {mem : LinearMemory}
    (h : ChannelsAt F host data channel_count.toNat frames_count.toNat wData mem) :
    guestChannels F mem wData channel_count frames_count =
      data.map fun data => (List.range channel_count.toNat).map fun c =>
        host.read (data c) frames_count.toNat := by
  cases data with
  | none => exact if_pos h
  | some data =>
    obtain ⟨hne, hin, hchannel⟩ := h
    rw [guestChannels, if_neg hne, Option.map_some, Option.some.injEq]
    apply List.map_congr_left
    intro c hc
    rw [List.mem_range] at hc
    rw [load_eq_get hin hc]
    exact (hchannel c hc).2

theorem guestPort_eq {abi : Abi is64} {host : HostSamples} {frames_count : UInt32}
    {ports : Nat → AudioBuffer} {count : Nat} {wPorts : Pointer is64} {mem : LinearMemory}
    (h : PortsAt abi host frames_count.toNat ports count wPorts mem) {i : Nat} (hi : i < count) :
    guestPort abi mem frames_count wPorts i = hostPort host frames_count (ports i) := by
  have hport := h.port i hi
  have hget := load_eq_get h.inRange hi
  simp only [guestPort, hostPort, hget, hport.channel_count, hport.latency, hport.constant_mask,
    guestChannels_eq hport.data32, guestChannels_eq hport.data64]

/-- The guest sees what the host passed. -/
theorem guestView_eq {abi : Abi is64} {arena : Arena is64} {templates : EventTemplates is64}
    {pluginListIndex : UInt32} {host : HostSamples} {process : ClapProcess} {g : GuestState}
    (hok : ArenaOk is64
      (prepareProcess abi arena templates pluginListIndex host process g).guest) :
    let prepared := prepareProcess abi arena templates pluginListIndex host process g
    guestView abi prepared.guest.mem prepared.processPtr = hostView abi host process := by
  intro prepared
  obtain ⟨-, h⟩ := prepareProcess_spec hok
  have hprocess : load abi.process prepared.guest.mem prepared.processPtr 0 = prepared.wProcess :=
    (load_eq_get h.inRange Nat.zero_lt_one).trans h.wProcess
  -- the transport is null for both, or a copy
  have htransport : (if prepared.wProcess.transport = Pointer.null then none
      else some (prepared.guest.mem.bytes.read prepared.wProcess.transport.toNat
        (abi.sizeof (.plain .transport)).toNat)) = process.transport.map fun event =>
          event.objectBytes abi (abi.sizeof (.plain .transport)).toNat := by
    have ht := h.transport
    cases hevent : process.transport with
    | none =>
      rw [hevent] at ht
      exact if_pos ht
    | some event =>
      rw [hevent] at ht
      rw [if_neg ht.1, ht.2, Option.map_some]
  simp only [guestView, hostView, hprocess, htransport, ProcessView.mk.injEq, true_and]
  refine ⟨rfl, rfl, ?_, ?_⟩
  · apply List.map_congr_left
    intro i hi
    exact guestPort_eq h.audio_inputs (List.mem_range.mp hi)
  · apply List.map_congr_left
    intro i hi
    exact guestPort_eq h.audio_outputs (List.mem_range.mp hi)

/-! ## After the call -/

/-- A sample after `checkBuffers`. -/
def checked (F : SampleFormat S) (a : S) : S := if F.lt (F.abs a) F.limit then a else F.zero

/-- `checkBuffers` replaces a NaN. -/
theorem checked_of_isNaN {F : SampleFormat S} {a : S} (h : F.isNaN a = true) :
    checked F a = F.zero := by
  rw [checked, F.not_lt_of_isNaN _ _ (by rw [F.isNaN_abs, h])]
  rfl

/-- `checkBuffers` checks the samples of its buffer. -/
theorem checkBuffers_spec (F : SampleFormat S) (buffer length : Nat) (host : Cells S) (x : Nat) :
    checkBuffers F buffer length host x =
      if span buffer length x then checked F (host x) else host x := by
  -- the invariant: the samples below `i` are checked
  refine forLoop_inv (fun i (t : Cells S) =>
    t x = if span buffer i x then checked F (host x) else host x) ?_ ?_
  · rw [if_neg (by simp only [span]; omega)]
  intro i t _ ht
  have hwrite : (if !F.lt (F.abs (t (buffer + i))) F.limit then t.write (buffer + i) [F.zero]
      else t) x = if x = buffer + i then checked F (t x) else t x := by
    by_cases hx : x = buffer + i
    · subst hx
      rw [if_pos rfl, checked]
      cases F.lt (F.abs (t (buffer + i))) F.limit with
      | true => rfl
      | false => exact Cells.write_of_inside t (buffer + i) [F.zero] Nat.zero_lt_one
    · rw [if_neg hx]
      split
      · exact Cells.write_of_outside _ _ _ (by simp only [span, List.length_singleton]; omega)
      · rfl
  simp only [hwrite, ht]
  by_cases hx : x = buffer + i
  · rw [if_pos hx, if_neg (by simp only [span]; omega), if_pos (by simp only [span]; omega)]
  · rw [if_neg hx]
    have hspan : span buffer (i + 1) x ↔ span buffer i x := by
      simp only [span]
      omega
    simp only [hspan]

/-- A channel is copied back to its samples, checked, and to nothing else. -/
theorem copyBackChannel_spec {F : SampleFormat S} {mem : LinearMemory} {wData : Pointer is64}
    {channel : Nat} {frames_count : UInt32} {c : Nat} {array : Pointer is64}
    (hget : mem.get (pointerCodec is64) wData c = array)
    (hin : InRange mem array (F.codec.width * frames_count.toNat)) (host : Cells S) :
    (∀ f < frames_count.toNat, copyBackChannel F mem wData channel frames_count c host
        (channel + f) = checked F (F.codec.decodeAt mem.bytes array.toNat f)) ∧
      ∀ x, ¬ span channel frames_count.toNat x →
        copyBackChannel F mem wData channel frames_count c host x = host x := by
  have hbytes : F.codec.decodeList frames_count.toNat
      ((mem.getArray array (UInt64.ofNat F.codec.width) (UInt64.ofNat frames_count.toNat)).getD
        []) = F.codec.decodeArray mem.bytes array.toNat frames_count.toNat := by
    rw [hin.getArray, Option.getD_some, F.codec.decodeList_read]
  have hlen : (F.codec.decodeArray mem.bytes array.toNat frames_count.toNat).length =
      frames_count.toNat := by
    rw [Codec.decodeArray, List.length_map, List.length_range]
  constructor
  · intro f hf
    simp only [copyBackChannel, hget, hbytes, checkBuffers_spec]
    rw [if_pos (by simp only [span]; omega), Cells.write_of_inside _ _ _ (by rw [hlen]; exact hf)]
    simp only [Codec.decodeArray, List.getElem_map, List.getElem_range]
  · intro x hx
    simp only [copyBackChannel, hget, hbytes, checkBuffers_spec]
    rw [if_neg hx, Cells.write_of_outside _ _ _ (by rw [hlen]; exact hx)]

/-- The output buffers of one sample type: for each port the channels, if its
    pointer is not null, and their number. -/
structure Outputs where
  count : Nat
  data : Nat → Option (Nat → Nat)
  channel_count : Nat → UInt32
  frames_count : UInt32

namespace Outputs

/-- Channel `c` of port `p` covers the host address `x`. -/
def Covers (o : Outputs) (p c x : Nat) : Prop :=
  ∃ data, o.data p = some data ∧ span (data c) o.frames_count.toNat x

/-- The host address `x` is covered by a channel which is copied back later. -/
def CoveredLater (o : Outputs) (p c x : Nat) : Prop :=
  ∃ p' < o.count, ∃ c' < (o.channel_count p').toNat,
    (p < p' ∨ p = p' ∧ c < c') ∧ o.Covers p' c' x

/-- The host memory `host'` has the guest's samples, checked, in the output
    buffers, and is `host` everywhere else. Where channels share host memory,
    the last one counts. -/
structure CopiedBack (o : Outputs) (F : SampleFormat S) (sample : (p c f : Nat) → S)
    (host host' : Cells S) : Prop where
  output : ∀ p < o.count, ∀ data, o.data p = some data → ∀ c < (o.channel_count p).toNat,
    ∀ f < o.frames_count.toNat, ¬ o.CoveredLater p c (data c + f) →
      host' (data c + f) = checked F (sample p c f)
  other : ∀ x, (∀ p < o.count, ∀ c < (o.channel_count p).toNat, ¬ o.Covers p c x) →
    host' x = host x

/-- Every channel of the ports is where `wData` and `array` say. -/
def ArraysInRange (o : Outputs) (F : SampleFormat S) (mem : LinearMemory)
    (wData : Nat → Pointer is64) (array : Nat → Nat → Pointer is64) : Prop :=
  ∀ p < o.count, o.data p ≠ none → ∀ c < (o.channel_count p).toNat,
    mem.get (pointerCodec is64) (wData p) c = array p c ∧
      InRange mem (array p c) (F.codec.width * o.frames_count.toNat)

variable {o : Outputs} {F : SampleFormat S} {mem : LinearMemory} {wData : Nat → Pointer is64}
  {array : Nat → Nat → Pointer is64}

/-- The channels of a port change only what they cover. -/
theorem copyBackChannels_other (h : o.ArraysInRange F mem wData array) {p x : Nat}
    (hp : p < o.count) (hx : ∀ c < (o.channel_count p).toNat, ¬ o.Covers p c x)
    (host : Cells S) :
    copyBackChannels F mem (wData p) (o.data p) (o.channel_count p) o.frames_count host x =
      host x := by
  cases hdata : o.data p with
  | none => rfl
  | some data =>
    refine forLoop_unchanged (fun t : Cells S => t x) fun c hc t => ?_
    obtain ⟨hget, hin⟩ := h p hp (by rw [hdata]; exact Option.some_ne_none data) c hc
    exact (copyBackChannel_spec hget hin t).2 x fun hspan => hx c hc ⟨data, hdata, hspan⟩

/-- The loop over the ports copies back every channel. -/
theorem copyBackPorts_spec (h : o.ArraysInRange F mem wData array) (host : Cells S) :
    o.CopiedBack F (fun p c f => F.codec.decodeAt mem.bytes (array p c).toNat f) host
      (forLoop o.count (fun p host => copyBackChannels F mem (wData p) (o.data p)
        (o.channel_count p) o.frames_count host) host) := by
  constructor
  · -- the last iteration to write to the address is this port's, and in it this
    -- channel's
    intro p hp data hdata c hc f hf hlast
    have hports := forLoop_last (fun t : Cells S => t (data c + f)) (s := host) hp
      fun p' hp' hlt t => copyBackChannels_other h hp'
        (fun c' hc' hcovers => hlast ⟨p', hp', c', hc', Or.inl hlt, hcovers⟩) t
    refine hports.trans ?_
    simp only [hdata]
    obtain ⟨hget, hin⟩ := h p hp (by rw [hdata]; exact Option.some_ne_none data) c hc
    refine (forLoop_last (fun t : Cells S => t (data c + f)) hc ?_).trans ?_
    · intro c' hc' hlt t
      obtain ⟨hget', hin'⟩ := h p hp (by rw [hdata]; exact Option.some_ne_none data) c' hc'
      exact (copyBackChannel_spec hget' hin' t).2 _ fun hspan =>
        hlast ⟨p, hp, c', hc', Or.inr ⟨rfl, hlt⟩, data, hdata, hspan⟩
    · exact (copyBackChannel_spec hget hin _).1 f hf
  · intro x hx
    exact forLoop_unchanged (fun t : Cells S => t x) fun p hp t =>
      copyBackChannels_other h hp (hx p hp) t

end Outputs

/-- The `data32` buffers of the host's output ports. -/
def outputs32 (process : ClapProcess) : Outputs where
  count := process.audio_outputs_count.toNat
  data p := (process.audio_outputs p).data32
  channel_count p := (process.audio_outputs p).channel_count
  frames_count := process.frames_count

/-- The `data64` buffers of the host's output ports. -/
def outputs64 (process : ClapProcess) : Outputs where
  count := process.audio_outputs_count.toNat
  data p := (process.audio_outputs p).data64
  channel_count p := (process.audio_outputs p).channel_count
  frames_count := process.frames_count

/-- The output buffer which the guest finds for a port. -/
def outBuffer (abi : Abi is64) (mem : LinearMemory) (processPtr : Pointer is64) (p : Nat) :
    WAudioBuffer is64 :=
  load abi.audioBuffer mem (load abi.process mem processPtr 0).audio_outputs p

/-- The channel which the guest finds for a port, through `data32` or `data64`. -/
def outChannel (abi : Abi is64) (wData : WAudioBuffer is64 → Pointer is64) (mem : LinearMemory)
    (processPtr : Pointer is64) (p c : Nat) : Pointer is64 :=
  load (pointerCodec is64) mem (wData (outBuffer abi mem processPtr p)) c

/-- The guest's sample at a port, channel and frame. -/
def guestSample (abi : Abi is64) (F : SampleFormat S) (wData : WAudioBuffer is64 → Pointer is64)
    (mem : LinearMemory) (processPtr : Pointer is64) (p c f : Nat) : S :=
  F.codec.decodeAt mem.bytes (outChannel abi wData mem processPtr p c).toNat f

/-- The pointers to the output channels of one sample type are the same before
    and after. -/
structure LeavesChannels (abi : Abi is64) (o : Outputs)
    (wData : WAudioBuffer is64 → Pointer is64) (processPtr : Pointer is64)
    (before after : LinearMemory) : Prop where
  data : ∀ p < o.count, o.data p ≠ none →
    wData (outBuffer abi after processPtr p) = wData (outBuffer abi before processPtr p)
  channel : ∀ p < o.count, o.data p ≠ none → ∀ c < (o.channel_count p).toNat,
    outChannel abi wData after processPtr p c = outChannel abi wData before processPtr p c

/-- The guest has left the pointer fields of the structs alone. A linear memory
    does not shrink. -/
structure LeavesPointers (abi : Abi is64) (process : ClapProcess) (processPtr : Pointer is64)
    (before after : LinearMemory) : Prop where
  size : before.size.toNat ≤ after.size.toNat
  audio_outputs : (load abi.process after processPtr 0).audio_outputs =
    (load abi.process before processPtr 0).audio_outputs
  data32 : LeavesChannels abi (outputs32 process) (·.data32) processPtr before after
  data64 : LeavesChannels abi (outputs64 process) (·.data64) processPtr before after

/-- The bridge reads back from where the guest finds its channels. -/
theorem arraysInRange {abi : Abi is64} {F : SampleFormat S} {o : Outputs} {host : Cells S}
    {wData : WAudioBuffer is64 → Pointer is64} {processPtr wPorts : Pointer is64}
    {before after : LinearMemory} (hsize : before.size.toNat ≤ after.size.toNat)
    (hbefore : (load abi.process before processPtr 0).audio_outputs = wPorts)
    (hafter : (load abi.process after processPtr 0).audio_outputs = wPorts)
    (hin : InRange before wPorts (abi.audioBuffer.width * o.count))
    (hports : ∀ p < o.count, ChannelsAt F host (o.data p) (o.channel_count p).toNat
      o.frames_count.toNat (wData (before.get abi.audioBuffer wPorts p)) before)
    (hleaves : LeavesChannels abi o wData processPtr before after) :
    o.ArraysInRange F after (fun p => wData (after.get abi.audioBuffer wPorts p))
      (outChannel abi wData after processPtr) := by
  intro p hp hdata c hc
  have hbuffer : after.get abi.audioBuffer wPorts p = outBuffer abi after processPtr p := by
    rw [outBuffer, hafter, load_eq_get (hin.of_size hsize) hp]
  have hbuffer' : before.get abi.audioBuffer wPorts p = outBuffer abi before processPtr p := by
    rw [outBuffer, hbefore, load_eq_get hin hp]
  have hchannels := hports p hp
  obtain ⟨data, hsome⟩ := Option.ne_none_iff_exists'.mp hdata
  -- the pointers to the channels are as they were before the guest was called
  rw [hsome, hbuffer', ← hleaves.data p hp hdata] at hchannels
  obtain ⟨-, hwData, hchannel⟩ := hchannels
  have harray : outChannel abi wData after processPtr p c =
      before.get (pointerCodec is64) (wData (outBuffer abi after processPtr p)) c := by
    rw [hleaves.channel p hp hdata c hc, outChannel, ← hleaves.data p hp hdata,
      load_eq_get hwData hc]
  refine ⟨?_, ?_⟩
  · -- the bridge follows the same pointers as the guest
    show after.get _ (wData (after.get abi.audioBuffer wPorts p)) c = _
    rw [hbuffer, outChannel, load_eq_get (hwData.of_size hsize) hc]
  · rw [harray]
    exact (hchannel c hc).1.of_size hsize

/-- The `float` part of the copy-back loop. -/
theorem copyBack_floats (abi : Abi is64) (mem : LinearMemory) (wProcess : WProcess is64)
    (process : ClapProcess) (host : HostSamples) :
    (copyBack abi mem wProcess process host).floats =
      forLoop wProcess.audio_outputs_count.toNat (fun p t => copyBackChannels float mem
        (mem.get abi.audioBuffer wProcess.audio_outputs p).data32
        (process.audio_outputs p).data32 (process.audio_outputs p).channel_count
        wProcess.frames_count t) host.floats :=
  forLoop_map HostSamples.floats fun _ _ => rfl

/-- The `double` part of the copy-back loop. -/
theorem copyBack_doubles (abi : Abi is64) (mem : LinearMemory) (wProcess : WProcess is64)
    (process : ClapProcess) (host : HostSamples) :
    (copyBack abi mem wProcess process host).doubles =
      forLoop wProcess.audio_outputs_count.toNat (fun p t => copyBackChannels double mem
        (mem.get abi.audioBuffer wProcess.audio_outputs p).data64
        (process.audio_outputs p).data64 (process.audio_outputs p).channel_count
        wProcess.frames_count t) host.doubles :=
  forLoop_map HostSamples.doubles fun _ _ => rfl

/-! ## Main result -/

/-- **Audio process translation.** The guest sees what the host passed. If it
    leaves the pointers alone, the host has its samples, each replaced by zero
    unless it is below the limit, and nothing else has changed. -/
theorem pluginProcess_translates {ρ : Type} (abi : Abi is64) (arena : Arena is64)
    (templates : EventTemplates is64) (pluginListIndex : UInt32)
    (guestProcess : Pointer is64 → BridgeState is64 → ρ × BridgeState is64)
    (process : ClapProcess) (host : HostSamples) (s : BridgeState is64)
    (hok : ArenaOk is64
      (prepareProcess abi arena templates pluginListIndex host process s.guest).guest) :
    let call := processCall abi arena templates pluginListIndex process host s
    let processPtr := call.1.processPtr
    let after := (guestProcess processPtr call.2).2.mem
    let host' := (pluginProcess abi arena templates pluginListIndex guestProcess process host
      s).2.1
    guestView abi call.2.mem processPtr = hostView abi host process ∧
      (LeavesPointers abi process processPtr call.2.mem after →
        (outputs32 process).CopiedBack float
          (guestSample abi float (·.data32) after processPtr) host.floats host'.floats ∧
        (outputs64 process).CopiedBack double
          (guestSample abi double (·.data64) after processPtr) host.doubles host'.doubles) ∧
      (∀ a, float.isNaN a = true → checked float a = float.zero) ∧
      (∀ a, double.isNaN a = true → checked double a = double.zero) := by
  intro call processPtr after host'
  refine ⟨guestView_eq hok, fun hleaves => ?_, fun _ => checked_of_isNaN,
    fun _ => checked_of_isNaN⟩
  obtain ⟨-, h⟩ := prepareProcess_spec hok
  have hbefore : (load abi.process call.2.mem processPtr 0).audio_outputs =
      call.1.wProcess.audio_outputs :=
    congrArg WProcess.audio_outputs ((load_eq_get h.inRange Nat.zero_lt_one).trans h.wProcess)
  -- the bridge goes on with its own copy of the process struct, whose pointer to
  -- the outputs is the one that the guest has left alone
  have hafter := hleaves.audio_outputs.trans hbefore
  have hfloats := Outputs.copyBackPorts_spec (arraysInRange (o := outputs32 process)
    hleaves.size hbefore hafter h.audio_outputs.inRange
    (fun p hp => (h.audio_outputs.port p hp).data32) hleaves.data32) host.floats
  have hdoubles := Outputs.copyBackPorts_spec (arraysInRange (o := outputs64 process)
    hleaves.size hbefore hafter h.audio_outputs.inRange
    (fun p hp => (h.audio_outputs.port p hp).data64) hleaves.data64) host.doubles
  have hfloats' := copyBack_floats abi after call.1.wProcess process host
  have hdoubles' := copyBack_doubles abi after call.1.wProcess process host
  exact ⟨hfloats' ▸ hfloats, hdoubles' ▸ hdoubles⟩

/-! ## A stereo output -/

/-- A process struct with one output port of two channels at these host
    addresses, and one frame. -/
private def stereoProcess (data : Nat → Nat) : ClapProcess where
  steady_time := 0
  frames_count := 1
  transport := none
  audio_inputs _ := ⟨none, none, 0, 0, 0⟩
  audio_outputs _ := ⟨some data, none, 2, 0, 0⟩
  audio_inputs_count := 0
  audio_outputs_count := 1
  in_events := ⟨0, fun _ => ⟨⟨16, 0, CLAP_CORE_EVENT_SPACE_ID, 0, 0⟩, .plain .note []⟩⟩
  out_events := none

private def stereoTemplates : EventTemplates false :=
  ⟨⟨Pointer.null, Pointer.null, Pointer.null⟩, ⟨Pointer.null, Pointer.null⟩⟩

private def stereoState : BridgeState false where
  guest := { mem := LinearMemory.onePage, blocks := [] }
  pluginList _ := none
  pushed := []

private def silence : HostSamples := ⟨fun _ => 0, fun _ => 0⟩

/-- A guest that puts the samples 1.0 and 2.0 into the channels of port 0. -/
private def stereoGuest (processPtr : Pointer false) (s : BridgeState false) :
    Unit × BridgeState false :=
  let channel := outChannel (Abi.clap false) (·.data32) s.mem processPtr 0
  let bytes := (s.mem.bytes.write (channel 0).toNat (float.codec.encode 0x3F800000)).write
    (channel 1).toNat (float.codec.encode 0x40000000)
  ((), { s with guest := { s.guest with mem := { s.mem with bytes } } })

private def stereoCall (data : Nat → Nat) : PreparedProcess false × BridgeState false :=
  processCall (Abi.clap false) bumpArena stereoTemplates 1 (stereoProcess data) silence
    stereoState

private def stereoAfter (data : Nat → Nat) : LinearMemory :=
  (stereoGuest (stereoCall data).1.processPtr (stereoCall data).2).2.mem

private theorem stereo_leavesPointers {data : Nat → Nat}
    (hdata : data = id ∨ data = fun _ => 0) :
    LeavesPointers (Abi.clap false) (stereoProcess data) (stereoCall data).1.processPtr
      (stereoCall data).2.mem (stereoAfter data) := by
  have hcount : ∀ p < (outputs32 (stereoProcess data)).count, p = 0 :=
    fun p hp => Nat.lt_one_iff.mp hp
  -- the guest writes to the channels only, and these are no pointers
  rcases hdata with rfl | rfl
  all_goals
    refine ⟨by decide +kernel, by decide +kernel, ⟨fun p hp _ => ?_, fun p hp _ c hc => ?_⟩,
      fun p hp h => absurd rfl h, fun p hp h => absurd rfl h⟩
    · obtain rfl := hcount p hp
      decide +kernel
    · obtain rfl := hcount p hp
      revert c
      decide +kernel

/-- Both channels come back to a host that has two buffers for them. -/
theorem stereo_translates :
    let r := pluginProcess (Abi.clap false) bumpArena stereoTemplates 1 stereoGuest
      (stereoProcess id) silence stereoState
    r.2.1.floats 0 = 0x3F800000 ∧ r.2.1.floats 1 = 0x40000000 := by
  have h := (pluginProcess_translates (Abi.clap false) bumpArena stereoTemplates 1 stereoGuest
    (stereoProcess id) silence stereoState (by decide +kernel)).2.1
      (stereo_leavesPointers (Or.inl rfl))
  have hlast : ∀ c < 2, ¬ (outputs32 (stereoProcess id)).CoveredLater 0 c c := by
    rintro c - ⟨p, hp, c', -, hlater, data, hdata, hspan⟩
    obtain rfl := Nat.lt_one_iff.mp hp
    injection hdata with hdata
    subst hdata
    have hlt : c < c' := hlater.elim (fun h => absurd h (Nat.lt_irrefl 0)) (·.2)
    exact absurd hspan.1 (Nat.not_le.mpr hlt)
  have hzero := h.1.output 0 (by decide) id rfl 0 (by decide) 0 (by decide) (hlast 0 (by decide))
  have hone := h.1.output 0 (by decide) id rfl 1 (by decide) 0 (by decide) (hlast 1 (by decide))
  exact ⟨hzero.trans (by decide +kernel), hone.trans (by decide +kernel)⟩

/-- A host that has one buffer for both channels gets the second one: the sample
    of channel 0 is not there, although it is below the limit. -/
theorem shared_buffer_overwritten :
    let r := pluginProcess (Abi.clap false) bumpArena stereoTemplates 1 stereoGuest
      (stereoProcess fun _ => 0) silence stereoState
    let call := stereoCall fun _ => 0
    ArenaOk false call.1.guest ∧
      LeavesPointers (Abi.clap false) (stereoProcess fun _ => 0) call.1.processPtr call.2.mem
        (stereoAfter fun _ => 0) ∧
      r.2.1.floats 0 ≠ checked float (guestSample (Abi.clap false) float (·.data32)
        (stereoAfter fun _ => 0) call.1.processPtr 0 0 0) := by
  exact ⟨by decide +kernel, stereo_leavesPointers (Or.inr rfl), by decide +kernel⟩

end WclapBridge.Spec
