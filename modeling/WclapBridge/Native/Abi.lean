import WclapBridge.Native.Memory

/-!
# CLAP structs on both sides of the bridge

The CLAP headers and their guest twins (`wclap32`, `wclap64`) declare the
structs which the bridge copies field by field. The headers are not part of
this repository, so their layout is a parameter: an `Abi` gives, for one pointer
width, the codec of each guest struct that the bridge reads or writes as a
struct and the size of each native event struct. What the code relies on (its
casts between event headers and whole events) are the fields of `Abi` that are
laws. `Abi.clap` is the natural alignment of the published structs.
-/

namespace WclapBridge.Native

/-- `clap_event_header`, and `wclap_event_header`, which has the same layout. -/
structure EventHeader where
  size : UInt32
  time : UInt32
  space_id : UInt16
  type : UInt16
  flags : UInt32
  deriving DecidableEq

/-- The pointer-free native event structs, which are copied bytewise. -/
inductive PlainStruct where
  | note
  | noteExpression
  | paramGesture
  | transport
  | midi
  | midi2
  deriving DecidableEq

/-- The native event structs. `clap_event_param_mod` is treated as
    `clap_event_param_value`. -/
inductive EventStruct where
  | plain (s : PlainStruct)
  | paramValue
  | midiSysex
  deriving DecidableEq

/-- The fields of `clap_event_param_value` after the header. The `double` is
    kept as its bit pattern, the cookie as the bits of a host `void *`. -/
structure ParamValue where
  param_id : UInt32
  cookie : UInt64
  note_id : Int32
  port_index : Int16
  channel : Int16
  key : Int16
  value : UInt64
  deriving DecidableEq

/-- The fields of `clap_event_midi_sysex` after the header, `buffer` being the
    host array it points to. -/
structure MidiSysex where
  port_index : UInt16
  buffer : List UInt8
  size : UInt32
  deriving DecidableEq

/-- What follows the header of a native event: raw bytes for the pointer-free
    structs, fields for the others. -/
inductive EventBody where
  | plain (s : PlainStruct) (rest : List UInt8)
  | paramValue (fields : ParamValue)
  | midiSysex (fields : MidiSysex)
  deriving DecidableEq

def EventBody.struct : EventBody → EventStruct
  | .plain s _ => .plain s
  | .paramValue _ => .paramValue
  | .midiSysex _ => .midiSysex

/-- A native event. -/
structure NativeEvent where
  header : EventHeader
  body : EventBody
  deriving DecidableEq

/-- `wclap_event_param_value`. -/
structure WParamValue (is64 : Bool) where
  header : EventHeader
  param_id : UInt32
  cookie : Pointer is64
  note_id : Int32
  port_index : Int16
  channel : Int16
  key : Int16
  value : UInt64

/-- `wclap_event_midi_sysex`. -/
structure WMidiSysex (is64 : Bool) where
  header : EventHeader
  port_index : UInt16
  buffer : Pointer is64
  size : UInt32

/-- `wclap_input_events`. -/
structure WInputEvents (is64 : Bool) where
  ctx : Pointer is64
  size : Pointer is64
  get : Pointer is64

/-- `wclap_output_events`. -/
structure WOutputEvents (is64 : Bool) where
  ctx : Pointer is64
  try_push : Pointer is64

/-- `wclap_audio_buffer`. -/
structure WAudioBuffer (is64 : Bool) where
  data32 : Pointer is64
  data64 : Pointer is64
  channel_count : UInt32
  latency : UInt32
  constant_mask : UInt64

/-- `wclap_process`. -/
structure WProcess (is64 : Bool) where
  steady_time : Int64
  frames_count : UInt32
  transport : Pointer is64
  audio_inputs : Pointer is64
  audio_outputs : Pointer is64
  audio_inputs_count : UInt32
  audio_outputs_count : UInt32
  in_events : Pointer is64
  out_events : Pointer is64

/-- A pointer in guest memory. -/
def pointerCodec : (is64 : Bool) → Codec (Pointer is64)
  | false => (Codec.bits 4).imap (fun v => (⟨v⟩ : Pointer false)) (·.wasmPointer) fun _ => rfl
  | true => (Codec.bits 8).imap (fun v => (⟨v⟩ : Pointer true)) (·.wasmPointer) fun _ => rfl

/-- The layout of the CLAP structs for one pointer width. -/
structure Abi (is64 : Bool) where
  header : Codec EventHeader
  paramValue : Codec (WParamValue is64)
  midiSysex : Codec (WMidiSysex is64)
  inputEvents : Codec (WInputEvents is64)
  outputEvents : Codec (WOutputEvents is64)
  audioBuffer : Codec (WAudioBuffer is64)
  process : Codec (WProcess is64)
  /-- `sizeof` of the native event structs; the pointer-free ones have the same
      layout in the guest. -/
  sizeof : EventStruct → UInt32
  /-- The offset of `ctx` in `wclap_input_events` and `wclap_output_events`. -/
  inputEventsCtx : Nat
  outputEventsCtx : Nat
  header_le : ∀ s, header.width ≤ (sizeof (.plain s)).toNat
  header_le_paramValue : header.width ≤ paramValue.width
  header_le_midiSysex : header.width ≤ midiSysex.width
  header_paramValue : ∀ bs, (paramValue.decode bs).header = header.decode (bs.take header.width)
  header_midiSysex : ∀ bs, (midiSysex.decode bs).header = header.decode (bs.take header.width)
  inputEventsCtx_le : inputEventsCtx + (pointerCodec is64).width ≤ inputEvents.width
  outputEventsCtx_le : outputEventsCtx + (pointerCodec is64).width ≤ outputEvents.width

/-! ## Natural alignment

The structs of the published headers, laid out field by field. -/

/-- 16 bytes. -/
def eventHeaderCodec : Codec EventHeader :=
  (Codec.u32.prod (Codec.u32.prod (Codec.u16.prod (Codec.u16.prod Codec.u32)))).imap
    (fun (size, time, space_id, type, flags) => ⟨size, time, space_id, type, flags⟩)
    (fun h => (h.size, h.time, h.space_id, h.type, h.flags)) fun _ => rfl

/-- Padding in front of an aligned field, in 64-bit structs only. -/
def padding64 : Bool → Nat
  | false => 0
  | true => 4

/-- 48 or 56 bytes. -/
def paramValueCodec (is64 : Bool) : Codec (WParamValue is64) :=
  (eventHeaderCodec.prod ((Codec.u32.pad (padding64 is64)).prod ((pointerCodec is64).prod
    (Codec.i32.prod (Codec.i16.prod (Codec.i16.prod ((Codec.i16.pad 6).prod
      Codec.u64))))))).imap
    (fun (header, param_id, cookie, note_id, port_index, channel, key, value) =>
      ⟨header, param_id, cookie, note_id, port_index, channel, key, value⟩)
    (fun e => (e.header, e.param_id, e.cookie, e.note_id, e.port_index, e.channel, e.key,
      e.value)) fun _ => rfl

/-- 28 or 40 bytes. -/
def midiSysexCodec (is64 : Bool) : Codec (WMidiSysex is64) :=
  (eventHeaderCodec.prod ((Codec.u16.pad (2 + padding64 is64)).prod ((pointerCodec is64).prod
    (Codec.u32.pad (padding64 is64))))).imap
    (fun (header, port_index, buffer, size) => ⟨header, port_index, buffer, size⟩)
    (fun e => (e.header, e.port_index, e.buffer, e.size)) fun _ => rfl

def inputEventsCodec (is64 : Bool) : Codec (WInputEvents is64) :=
  ((pointerCodec is64).prod ((pointerCodec is64).prod (pointerCodec is64))).imap
    (fun (ctx, size, get) => ⟨ctx, size, get⟩) (fun e => (e.ctx, e.size, e.get)) fun _ => rfl

def outputEventsCodec (is64 : Bool) : Codec (WOutputEvents is64) :=
  ((pointerCodec is64).prod (pointerCodec is64)).imap
    (fun (ctx, try_push) => ⟨ctx, try_push⟩) (fun e => (e.ctx, e.try_push)) fun _ => rfl

def audioBufferCodec (is64 : Bool) : Codec (WAudioBuffer is64) :=
  ((pointerCodec is64).prod ((pointerCodec is64).prod (Codec.u32.prod (Codec.u32.prod
    Codec.u64)))).imap
    (fun (data32, data64, channel_count, latency, constant_mask) =>
      ⟨data32, data64, channel_count, latency, constant_mask⟩)
    (fun b => (b.data32, b.data64, b.channel_count, b.latency, b.constant_mask)) fun _ => rfl

def processCodec (is64 : Bool) : Codec (WProcess is64) :=
  (Codec.i64.prod ((Codec.u32.pad (padding64 is64)).prod ((pointerCodec is64).prod
    ((pointerCodec is64).prod ((pointerCodec is64).prod (Codec.u32.prod (Codec.u32.prod
      ((pointerCodec is64).prod (pointerCodec is64))))))))).imap
    (fun (steady_time, frames_count, transport, audio_inputs, audio_outputs, audio_inputs_count,
        audio_outputs_count, in_events, out_events) =>
      ⟨steady_time, frames_count, transport, audio_inputs, audio_outputs, audio_inputs_count,
        audio_outputs_count, in_events, out_events⟩)
    (fun p => (p.steady_time, p.frames_count, p.transport, p.audio_inputs, p.audio_outputs,
      p.audio_inputs_count, p.audio_outputs_count, p.in_events, p.out_events)) fun _ => rfl

/-- `sizeof` of the native event structs on a 64-bit host. -/
def nativeSizeof : EventStruct → UInt32
  | .plain .note => 40
  | .plain .noteExpression => 40
  | .plain .paramGesture => 20
  | .plain .transport => 104
  | .plain .midi => 24
  | .plain .midi2 => 36
  | .paramValue => 56
  | .midiSysex => 40

/-- The layout of the published headers. -/
def Abi.clap (is64 : Bool) : Abi is64 where
  header := eventHeaderCodec
  paramValue := paramValueCodec is64
  midiSysex := midiSysexCodec is64
  inputEvents := inputEventsCodec is64
  outputEvents := outputEventsCodec is64
  audioBuffer := audioBufferCodec is64
  process := processCodec is64
  sizeof := nativeSizeof
  inputEventsCtx := 0
  outputEventsCtx := 0
  header_le s := by cases s <;> decide
  header_le_paramValue := by cases is64 <;> decide
  header_le_midiSysex := by cases is64 <;> decide
  header_paramValue _ := rfl
  header_midiSysex _ := rfl
  inputEventsCtx_le := by cases is64 <;> decide
  outputEventsCtx_le := by cases is64 <;> decide

end WclapBridge.Native
