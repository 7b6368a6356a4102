import WclapBridge.Spec.EventCopy

/-!
# The structs of `process` in guest memory

`prepareProcess` builds a graph of pointers in guest memory: the process struct,
two arrays of audio buffers, for each buffer up to two arrays of channel
pointers, and the channels. We show which host data is found behind each of the
pointers, and that no step disturbs what another one has written. The proofs
follow the loops of the code; `fillArray` is the induction for all of them.

## Key results

- `copyChannels_spec`, `translateBuffer_spec`, `translatePorts_spec`: the audio
  buffers
- `prepareProcess_spec`: the whole graph
-/

namespace WclapBridge.Spec

open WclapBridge.Native

variable {is64 : Bool} {S : Type}

/-- Guest memory has a copy of a channel behind element `c` of `wData`. -/
def ChannelAt (F : SampleFormat S) (host : Cells S) (channel frames_count : Nat)
    (wData : Pointer is64) (c : Nat) (mem : LinearMemory) : Prop :=
  let array := mem.get (pointerCodec is64) wData c
  InRange mem array (F.codec.width * frames_count) ∧
    F.codec.decodeArray mem.bytes array.toNat frames_count = host.read channel frames_count

/-- Guest memory has a copy of the channels of a port behind `wData`. -/
def ChannelsAt (F : SampleFormat S) (host : Cells S) (data : Option (Nat → Nat))
    (channel_count frames_count : Nat) (wData : Pointer is64) (mem : LinearMemory) : Prop :=
  match data with
  | none => wData = Pointer.null
  | some data =>
    wData ≠ Pointer.null ∧ InRange mem wData ((pointerCodec is64).width * channel_count) ∧
      ∀ c < channel_count, ChannelAt F host (data c) frames_count wData c mem

/-- Guest memory has a copy of an audio buffer at index `i` of an array. -/
structure PortAt (abi : Abi is64) (host : HostSamples) (frames_count : Nat)
    (buffer : AudioBuffer) (wPorts : Pointer is64) (i : Nat) (mem : LinearMemory) : Prop where
  data32 : ChannelsAt float host.floats buffer.data32 buffer.channel_count.toNat frames_count
    (mem.get abi.audioBuffer wPorts i).data32 mem
  data64 : ChannelsAt double host.doubles buffer.data64 buffer.channel_count.toNat frames_count
    (mem.get abi.audioBuffer wPorts i).data64 mem
  channel_count : (mem.get abi.audioBuffer wPorts i).channel_count = buffer.channel_count
  latency : (mem.get abi.audioBuffer wPorts i).latency = buffer.latency
  constant_mask : (mem.get abi.audioBuffer wPorts i).constant_mask = buffer.constant_mask

theorem ne_null_of_pos {ptr : Pointer is64} (h : 0 < ptr.toNat) : ptr ≠ Pointer.null := by
  rintro rfl
  simp at h

/-! ## Channels -/

theorem copyChannel_later {F : SampleFormat S} {arena : Arena is64} {host : Cells S}
    {channel : Nat} {frames_count : UInt32} {wData : Pointer is64} {c : Nat} (g : GuestState) :
    Later g (copyChannel F arena host channel frames_count wData c g) :=
  ((array_later _ _).trans (setArray_later _ _ _ _)).trans (set_later _ _ _ _)

/-- One iteration: a channel in a new block, and a pointer to it in the array. -/
theorem copyChannel_spec {F : SampleFormat S} {arena : Arena is64} {host : Cells S}
    {channel : Nat} {frames_count : UInt32} {wData : Pointer is64} {n c : Nat} {g : GuestState}
    (hc : c < n) (hwData : InRange g.mem wData ((pointerCodec is64).width * n))
    (halloc : ∀ x, span wData.toNat ((pointerCodec is64).width * n) x → Allocated g.blocks x)
    (hok : ArenaOk is64 (copyChannel F arena host channel frames_count wData c g)) :
    let g' := copyChannel F arena host channel frames_count wData c g
    Extends g g' (span (wData.toNat + (pointerCodec is64).width * c) (pointerCodec is64).width) ∧
      SettledElement g g' wData.toNat
        (OfBytes g.mem.size (ChannelAt F host channel frames_count.toNat wData c))
        (pointerCodec is64).width c := by
  intro g'
  let samples := host.read channel frames_count.toNat
  have hlen : samples.length = frames_count.toNat := Cells.length_read _ _ _
  have hplaced : Placed is64 g _ (g.array arena F.codec.width frames_count.toNat).1
      (F.codec.encodeList samples) :=
    placed_of_setArray rfl (by rw [F.codec.length_encodeList, hlen])
      ((set_later _ _ _ _).arenaOk hok)
  have hin := hwData.of_size_eq hplaced.grown.size
  obtain ⟨hset, -⟩ := set_extends hin hc (g.array arena F.codec.width frames_count.toNat).1
  have hsize : g'.mem.size = g.mem.size := hset.size.trans hplaced.grown.size
  refine ⟨(hplaced.grown.mono of_nowhere).trans hset fun _ _ h => h, fun X hX hdisj => ?_⟩
  -- the samples, whatever happens to the old blocks and to this element
  have hsamples := (hplaced.settled
    (fun x => X x ∨ span (wData.toNat + (pointerCodec is64).width * c)
      (pointerCodec is64).width x) ?_).grows hset.grows (fun x hx => Or.inr hx)
    (fun x hx => Or.inl hx)
  · -- the pointer to them, in the array
    have hpointer := set_settled hin hc (g.array arena F.codec.width frames_count.toNat).1
      fun x hx => ⟨(halloc x (span_element hc hx)).mono hplaced.grown.grows.blocks,
        fun hxX => hdisj x hxX hx⟩
    refine (hsamples.and hpointer).imp ?_
    rintro m ⟨hm₁, hm₂⟩ mem rfl hmem
    have hget := hm₂ mem rfl (hmem.trans hplaced.grown.size.symm)
    have hrange := hplaced.inRange.of_size_eq (hmem.trans hplaced.grown.size.symm)
    rw [F.codec.length_encodeList, hlen] at hrange
    rw [F.codec.length_encodeList] at hm₁
    have hread := F.codec.decodeArray_of_read _ _ _ hm₁
    rw [hlen] at hread
    rw [ChannelAt, hget]
    exact ⟨hrange, hread⟩
  · rintro x (hx | hx)
    · exact hX x hx
    · exact halloc x (span_element hc hx)

theorem copyChannels_later {F : SampleFormat S} {arena : Arena is64} {host : Cells S}
    {data : Option (Nat → Nat)} {channel_count frames_count : UInt32} (g : GuestState) :
    Later g (copyChannels F arena host data channel_count frames_count g).2 := by
  cases data with
  | none => exact Later.refl g
  | some data => exact (array_later _ _).trans (Later.forLoop _ fun _ _ => copyChannel_later _)

/-- `copyChannels` leaves the old blocks alone, and what it has copied stays
    there whatever is written to them. -/
theorem copyChannels_spec {F : SampleFormat S} {arena : Arena is64} {host : Cells S}
    {data : Option (Nat → Nat)} {channel_count frames_count : UInt32} {g : GuestState}
    (hok : ArenaOk is64 (copyChannels F arena host data channel_count frames_count g).2) :
    let r := copyChannels F arena host data channel_count frames_count g
    Extends g r.2 nowhere ∧ ∀ X, (∀ x, X x → Allocated g.blocks x) →
      Settled r.2.toHeap X (OfBytes g.mem.size
        (ChannelsAt F host data channel_count.toNat frames_count.toNat r.1)) := by
  cases data with
  | none => exact ⟨Extends.refl g _, fun X hX m hm mem hmem hsize => rfl⟩
  | some data =>
    intro r
    let r₁ := g.array arena (pointerCodec is64).width channel_count.toNat
    have hlater : Later r₁.2 r.2 := Later.forLoop _ fun _ _ => copyChannel_later _
    have hok₁ : ArenaOk is64 r₁.2 := hlater.arenaOk hok
    have hblock : ⟨r₁.1.toNat, (pointerCodec is64).width * channel_count.toNat⟩ ∈ r₁.2.blocks :=
      reserve_mem_blocks _ _
    have hin : InRange r₁.2.mem r₁.1 ((pointerCodec is64).width * channel_count.toNat) :=
      hok₁.inRange hblock
    have hnew : ∀ x, span r₁.1.toNat ((pointerCodec is64).width * channel_count.toNat) x →
        ¬ Allocated g.blocks x := fun x hx => reserve_fresh hlater.blocks hok hx
    -- the array of pointers is a new block, which the loop fills
    obtain ⟨hext, hchannels⟩ := fillArray
      (Q := fun c => OfBytes g.mem.size
        (ChannelAt F host (data c) frames_count.toNat r₁.1 c))
      (fun _ _ => copyChannel_later _) hok (fun x hx => ⟨_, hblock, hx⟩)
      fun c t hc ht hokt => by
        have hsize : t.mem.size = g.mem.size := ht.size
        rw [← hsize]
        exact copyChannel_spec hc (hin.of_size_eq ht.size)
          (fun x hx => Allocated.mono ⟨_, hblock, hx⟩ ht.blocks) hokt
    refine ⟨(reserve_extends _ _ _).trans hext fun x hx hw => absurd hx (hnew x hw),
      fun X hX m hm mem hmem hsize => ⟨?_, ?_, fun c hc => ?_⟩⟩
    · exact ne_null_of_pos (hok₁.pos _ hblock)
    · exact hin.of_size_eq hsize
    · refine hchannels c hc X ?_ ?_ m hm mem hmem hsize
      · exact fun x hx => (hX x hx).mono (List.prefix_append _ _)
      · exact fun x hx hspan => hnew x hspan (hX x hx)

/-! ## Ports -/

theorem translateBuffer_later {abi : Abi is64} {arena : Arena is64} {host : HostSamples}
    {frames_count : UInt32} {buffer : AudioBuffer} {wBufferPtr : Pointer is64}
    (g : GuestState) :
    Later g (translateBuffer abi arena host frames_count buffer wBufferPtr g) :=
  ((copyChannels_later _).trans (copyChannels_later _)).trans (set_later _ _ _ _)

/-- One iteration of the loops over the ports: an audio buffer, the channels it
    points to being in new blocks. -/
theorem translateBuffer_spec {abi : Abi is64} {arena : Arena is64} {host : HostSamples}
    {frames_count : UInt32} {buffer : AudioBuffer} {wPorts : Pointer is64} {n i : Nat}
    {g : GuestState} (hi : i < n) (hwPorts : InRange g.mem wPorts (abi.audioBuffer.width * n))
    (halloc : ∀ x, span wPorts.toNat (abi.audioBuffer.width * n) x → Allocated g.blocks x)
    (hok : ArenaOk is64 (translateBuffer abi arena host frames_count buffer
      (wPorts.offset (abi.audioBuffer.width * i)) g)) :
    let g' := translateBuffer abi arena host frames_count buffer
      (wPorts.offset (abi.audioBuffer.width * i)) g
    Extends g g' (span (wPorts.toNat + abi.audioBuffer.width * i) abi.audioBuffer.width) ∧
      SettledElement g g' wPorts.toNat
        (OfBytes g.mem.size (PortAt abi host frames_count.toNat buffer wPorts i))
        abi.audioBuffer.width i := by
  intro g'
  let r₁ := copyChannels float arena host.floats buffer.data32 buffer.channel_count
    frames_count g
  let r₂ := copyChannels double arena host.doubles buffer.data64 buffer.channel_count
    frames_count r₁.2
  let wBuffer : WAudioBuffer is64 :=
    ⟨r₁.1, r₂.1, buffer.channel_count, buffer.latency, buffer.constant_mask⟩
  have hok₂ : ArenaOk is64 r₂.2 := (set_later _ _ _ _).arenaOk hok
  obtain ⟨hext₂, hdata64⟩ := copyChannels_spec hok₂
  obtain ⟨hext₁, hdata32⟩ := copyChannels_spec (hext₂.later.arenaOk hok₂)
  have hext := hext₁.more hext₂
  obtain ⟨hoff, helement⟩ := (hwPorts.of_size_eq hext.size).element hi
  have helement₁ : InRange r₂.2.mem (wPorts.offset (abi.audioBuffer.width * i))
      (abi.audioBuffer.width * 1) := by rwa [Nat.mul_one]
  obtain ⟨hset, -⟩ := set_extends helement₁ Nat.zero_lt_one wBuffer
  -- element 0 from the offset on is element `i` of the array
  have hspan : ∀ x, span ((wPorts.offset (abi.audioBuffer.width * i)).toNat +
      abi.audioBuffer.width * 0) abi.audioBuffer.width x ↔
      span (wPorts.toNat + abi.audioBuffer.width * i) abi.audioBuffer.width x := fun x => by
    rw [hoff, Nat.mul_zero, Nat.add_zero]
  refine ⟨(hext.mono of_nowhere).trans hset fun x _ hx => (hspan x).mp hx,
    fun X hX hdisj => ?_⟩
  have hbuffer := set_settled helement₁ Nat.zero_lt_one wBuffer (X := X) fun x hx =>
    ⟨(halloc x (span_element hi ((hspan x).mp hx))).mono hext.grows.blocks,
      fun hxX => hdisj x hxX ((hspan x).mp hx)⟩
  -- the channels, whatever happens to the old blocks and to this element
  have hY : ∀ x, X x ∨ span (wPorts.toNat + abi.audioBuffer.width * i)
      abi.audioBuffer.width x → Allocated g.blocks x := by
    rintro x (hx | hx)
    · exact hX x hx
    · exact halloc x (span_element hi hx)
  have hsettled32 := ((hdata32 _ hY).more hext₂.grows).grows
    hset.grows (fun x hx => Or.inr ((hspan x).mp hx)) fun x hx => Or.inl hx
  have hsettled64 := (hdata64 _ fun x hx => (hY x hx).mono hext₁.grows.blocks).grows
    hset.grows (fun x hx => Or.inr ((hspan x).mp hx)) fun x hx => Or.inl hx
  refine (hbuffer.and (hsettled32.and hsettled64)).imp ?_
  rintro m ⟨hm, hm32, hm64⟩ mem rfl hmem
  have hget : mem.get abi.audioBuffer wPorts i = wBuffer := by
    have h : mem.get abi.audioBuffer (wPorts.offset (abi.audioBuffer.width * i)) 0 = wBuffer :=
      hm mem rfl (hmem.trans hext.size.symm)
    rwa [LinearMemory.get, Nat.mul_zero, Pointer.offset_zero] at h
  constructor <;> rw [hget]
  · exact hm32 mem rfl hmem
  · exact hm64 mem rfl (hmem.trans hext₁.size.symm)

/-- Guest memory has a copy of all ports behind `wPorts`. -/
structure PortsAt (abi : Abi is64) (host : HostSamples) (frames_count : Nat)
    (ports : Nat → AudioBuffer) (count : Nat) (wPorts : Pointer is64) (mem : LinearMemory) :
    Prop where
  inRange : InRange mem wPorts (abi.audioBuffer.width * count)
  port : ∀ i < count, PortAt abi host frames_count (ports i) wPorts i mem

/-- `translatePorts` leaves the old blocks alone, and what it has copied stays
    there whatever is written to them. -/
theorem translatePorts_spec {abi : Abi is64} {arena : Arena is64} {host : HostSamples}
    {frames_count : UInt32} {ports : Nat → AudioBuffer} {count : UInt32} {g : GuestState}
    (hok : ArenaOk is64 (translatePorts abi arena host frames_count ports count g).2) :
    let r := translatePorts abi arena host frames_count ports count g
    Extends g r.2 nowhere ∧ ∀ X, (∀ x, X x → Allocated g.blocks x) →
      Settled r.2.toHeap X (OfBytes g.mem.size
        (PortsAt abi host frames_count.toNat ports count.toNat r.1)) := by
  intro r
  let r₁ := g.array arena abi.audioBuffer.width count.toNat
  have hlater : Later r₁.2 r.2 := Later.forLoop _ fun _ _ => translateBuffer_later _
  have hblock : ⟨r₁.1.toNat, abi.audioBuffer.width * count.toNat⟩ ∈ r₁.2.blocks :=
    reserve_mem_blocks _ _
  have hin : InRange r₁.2.mem r₁.1 (abi.audioBuffer.width * count.toNat) :=
    (hlater.arenaOk hok).inRange hblock
  have hnew : ∀ x, span r₁.1.toNat (abi.audioBuffer.width * count.toNat) x →
      ¬ Allocated g.blocks x := fun x hx => reserve_fresh hlater.blocks hok hx
  -- the array of audio buffers is a new block, which the loop fills
  obtain ⟨hext, hports⟩ := fillArray
    (Q := fun i => OfBytes g.mem.size
      (PortAt abi host frames_count.toNat (ports i) r₁.1 i))
    (fun _ _ => translateBuffer_later _) hok (fun x hx => ⟨_, hblock, hx⟩)
    fun i t hi ht hokt => by
      have hsize : t.mem.size = g.mem.size := ht.size
      rw [← hsize]
      exact translateBuffer_spec hi (hin.of_size_eq ht.size)
        (fun x hx => Allocated.mono ⟨_, hblock, hx⟩ ht.blocks) hokt
  refine ⟨(reserve_extends _ _ _).trans hext fun x hx hw => absurd hx (hnew x hw),
    fun X hX m hm mem hmem hsize => ⟨?_, fun i hi => ?_⟩⟩
  · exact hin.of_size_eq hsize
  · refine hports i hi X ?_ ?_ m hm mem hmem hsize
    · exact fun x hx => (hX x hx).mono (List.prefix_append _ _)
    · exact fun x hx hspan => hnew x hspan (hX x hx)

/-! ## The whole graph -/

/-- Guest memory has a copy of the transport event. -/
def TransportAt (abi : Abi is64) (transport : Option NativeEvent) (ptr : Pointer is64)
    (mem : LinearMemory) : Prop :=
  match transport with
  | none => ptr = Pointer.null
  | some event =>
    let size := (abi.sizeof (.plain .transport)).toNat
    ptr ≠ Pointer.null ∧ mem.bytes.read ptr.toNat size = event.objectBytes abi size

theorem copyTransport_spec {abi : Abi is64} {arena : Arena is64}
    {transport : Option NativeEvent} {g : GuestState}
    (hok : ArenaOk is64 (copyTransport abi arena transport g).2) :
    let r := copyTransport abi arena transport g
    Extends g r.2 nowhere ∧
      Settled r.2.toHeap nowhere (OfBytes g.mem.size (TransportAt abi transport r.1)) := by
  cases transport with
  | none => exact ⟨Extends.refl g _, fun m hm mem hmem hsize => rfl⟩
  | some event =>
    have hplaced := placed_of_setArray (Nat.mul_one _).symm
      (by rw [length_objectBytes, Nat.mul_one]) hok
    refine ⟨hplaced.grown, hplaced.unwritten.imp ?_⟩
    rintro m hm mem rfl hmem
    rw [length_objectBytes] at hm
    exact ⟨ne_null_of_pos hplaced.pos, hm⟩

/-- Guest memory has a copy of the process struct, and of all it points to. -/
structure ProcessAt (abi : Abi is64) (host : HostSamples) (process : ClapProcess)
    (prepared : PreparedProcess is64) (mem : LinearMemory) : Prop where
  inRange : InRange mem prepared.processPtr (abi.process.width * 1)
  wProcess : mem.get abi.process prepared.processPtr 0 = prepared.wProcess
  transport : TransportAt abi process.transport prepared.wProcess.transport mem
  audio_inputs : PortsAt abi host process.frames_count.toNat process.audio_inputs
    process.audio_inputs_count.toNat prepared.wProcess.audio_inputs mem
  audio_outputs : PortsAt abi host process.frames_count.toNat process.audio_outputs
    process.audio_outputs_count.toNat prepared.wProcess.audio_outputs mem

/-- `prepareProcess` adds to `openEvents` and leaves the old blocks alone. When
    it is done, guest memory has a copy of the whole process struct. -/
theorem prepareProcess_spec {abi : Abi is64} {arena : Arena is64}
    {templates : EventTemplates is64} {pluginListIndex : UInt32} {host : HostSamples}
    {process : ClapProcess} {g : GuestState} :
    let prepared := prepareProcess abi arena templates pluginListIndex host process g
    ArenaOk is64 prepared.guest →
      Extends (openEvents abi arena templates pluginListIndex process.in_events g).2
        prepared.guest nowhere ∧
      ProcessAt abi host process prepared prepared.guest.mem := by
  intro prepared hok
  let r₀ := openEvents abi arena templates pluginListIndex process.in_events g
  let r₁ := copyTransport abi arena process.transport r₀.2
  let r₂ := translatePorts abi arena host process.frames_count process.audio_inputs
    process.audio_inputs_count r₁.2
  let r₃ := translatePorts abi arena host process.frames_count process.audio_outputs
    process.audio_outputs_count r₂.2
  -- each step is in order because the state after the last one is
  have hplaced : Placed is64 r₃.2 prepared.guest prepared.processPtr
      (abi.process.encode prepared.wProcess) := placed_of_copyAcross hok
  obtain ⟨hext₃, houtputs⟩ := translatePorts_spec (hplaced.grown.later.arenaOk hok)
  obtain ⟨hext₂, hinputs⟩ :=
    translatePorts_spec ((hext₃.later.trans hplaced.grown.later).arenaOk hok)
  obtain ⟨hext₁, htransport⟩ := copyTransport_spec
    ((hext₂.later.trans (hext₃.later.trans hplaced.grown.later)).arenaOk hok)
  have hext₃₄ := hext₃.more hplaced.grown
  have hext₂₄ := hext₂.more hext₃₄
  have hext₁₄ := hext₁.more hext₂₄
  refine ⟨hext₁₄, ?_, ?_, ?_, ?_, ?_⟩
  · have hin := hplaced.inRange
    rwa [Codec.length_encode, ← Nat.mul_one abi.process.width] at hin
  · exact ofBytes_holds (hplaced.get (X := nowhere) of_nowhere)
  -- what was copied earlier has stayed while the rest was copied
  · exact (htransport.more hext₂₄.grows).holds _ rfl hext₁₄.size
  · exact ((hinputs nowhere of_nowhere).more hext₃₄.grows).holds _ rfl hext₂₄.size
  · exact ((houtputs nowhere of_nowhere).more hplaced.grown.grows).holds _ rfl hext₃₄.size

end WclapBridge.Spec
