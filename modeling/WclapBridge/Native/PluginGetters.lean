import WclapBridge.Native.AudioPorts
import WclapBridge.Native.Resource

/-!
# Strings from the guest

The methods of `Plugin` through which a host gets names and texts. Most of them
reserve a struct in guest memory, call the guest to fill it in, and copy its fields.
Names are arrays of a fixed size; `params_value_to_text` and `webview_get_resource`
fill a buffer of the host's.

A function of the guest is a parameter: from the address of the struct or buffer it is
given, and the memory it finds, to its result and the memory it leaves. A call that
fails has the result `false`.
-/

namespace WclapBridge.Native

variable {is64 : Bool} {α : Type}

/-- `CLAP_NAME_SIZE`. -/
abbrev CLAP_NAME_SIZE : Nat := 256

/-- `CLAP_PATH_SIZE`. -/
abbrev CLAP_PATH_SIZE : Nat := 1024

/-- `CLAP_REMOTE_CONTROLS_COUNT`. -/
abbrev CLAP_REMOTE_CONTROLS_COUNT : Nat := 8

/-- An array of `CLAP_NAME_SIZE` characters. -/
abbrev ClapName := Vector UInt8 CLAP_NAME_SIZE

/-! ## Structs -/

/-- `wclap_audio_ports_config`. -/
structure WAudioPortsConfig (is64 : Bool) where
  id : UInt32
  name : ClapName
  input_port_count : UInt32
  output_port_count : UInt32
  has_main_input : Bool
  main_input_channel_count : UInt32
  main_input_port_type : Pointer is64
  has_main_output : Bool
  main_output_channel_count : UInt32
  main_output_port_type : Pointer is64

/-- `clap_audio_ports_config`. -/
structure ClapAudioPortsConfig where
  id : UInt32
  name : ClapName
  input_port_count : UInt32
  output_port_count : UInt32
  has_main_input : Bool
  main_input_channel_count : UInt32
  main_input_port_type : CString
  has_main_output : Bool
  main_output_channel_count : UInt32
  main_output_port_type : CString

/-- `wclap_audio_port_info`. -/
structure WAudioPortInfo (is64 : Bool) where
  id : UInt32
  name : ClapName
  flags : UInt32
  channel_count : UInt32
  port_type : Pointer is64
  in_place_pair : UInt32

/-- `clap_audio_port_info`. -/
structure ClapAudioPortInfo where
  id : UInt32
  name : ClapName
  flags : UInt32
  channel_count : UInt32
  port_type : CString
  in_place_pair : UInt32

/-- `clap_note_name`, and `wclap_note_name`. -/
structure NoteName where
  name : ClapName
  port : Int16
  key : Int16
  channel : Int16

/-- `clap_note_port_info`, and `wclap_note_port_info`. -/
structure NotePortInfo where
  id : UInt32
  supported_dialects : UInt32
  preferred_dialect : UInt32
  name : ClapName

/-- `wclap_param_info`. The values are bit patterns. -/
structure WParamInfo (is64 : Bool) where
  id : UInt32
  flags : UInt32
  cookie : Pointer is64
  name : ClapName
  module_ : Vector UInt8 CLAP_PATH_SIZE
  min_value : UInt64
  max_value : UInt64
  default_value : UInt64

/-- `clap_param_info`. -/
structure ClapParamInfo where
  id : UInt32
  flags : UInt32
  cookie : UInt64
  name : ClapName
  module_ : Vector UInt8 CLAP_PATH_SIZE
  min_value : UInt64
  max_value : UInt64
  default_value : UInt64

/-- `clap_remote_controls_page`, and `wclap_remote_controls_page`. -/
structure RemoteControlsPage where
  section_name : ClapName
  page_id : UInt32
  page_name : ClapName
  param_ids : Vector UInt32 CLAP_REMOTE_CONTROLS_COUNT
  is_for_preset : Bool

/-- The layout of the guest's structs. -/
structure InfoAbi (is64 : Bool) where
  audioPortsConfig : Codec (WAudioPortsConfig is64)
  audioPortInfo : Codec (WAudioPortInfo is64)
  noteName : Codec NoteName
  notePortInfo : Codec NotePortInfo
  paramInfo : Codec (WParamInfo is64)
  remoteControlsPage : Codec RemoteControlsPage

/-! ## Natural alignment -/

/-- The codec of a name. -/
def nameCodec : Codec ClapName :=
  Codec.u8.vector CLAP_NAME_SIZE

/-- 292 or 304 bytes. -/
def audioPortsConfigCodec (is64 : Bool) : Codec (WAudioPortsConfig is64) :=
  (Codec.u32.prod (nameCodec.prod (Codec.u32.prod (Codec.u32.prod ((Codec.bool.pad 3).prod
    ((Codec.u32.pad (padding64 is64)).prod ((pointerCodec is64).prod ((Codec.bool.pad 3).prod
      (Codec.u32.prod (pointerCodec is64)))))))))).imap
    (fun (id, name, inputs, outputs, hasInput, inputChannels, inputType, hasOutput,
        outputChannels, outputType) =>
      ⟨id, name, inputs, outputs, hasInput, inputChannels, inputType, hasOutput, outputChannels,
        outputType⟩)
    (fun c => (c.id, c.name, c.input_port_count, c.output_port_count, c.has_main_input,
      c.main_input_channel_count, c.main_input_port_type, c.has_main_output,
      c.main_output_channel_count, c.main_output_port_type)) fun _ => rfl

/-- 276 or 288 bytes. -/
def audioPortInfoCodec (is64 : Bool) : Codec (WAudioPortInfo is64) :=
  (Codec.u32.prod (nameCodec.prod (Codec.u32.prod ((Codec.u32.pad (padding64 is64)).prod
    ((pointerCodec is64).prod (Codec.u32.pad (padding64 is64))))))).imap
    (fun (id, name, flags, channel_count, port_type, in_place_pair) =>
      ⟨id, name, flags, channel_count, port_type, in_place_pair⟩)
    (fun i => (i.id, i.name, i.flags, i.channel_count, i.port_type, i.in_place_pair)) fun _ => rfl

/-- 262 bytes. -/
def noteNameCodec : Codec NoteName :=
  (nameCodec.prod (Codec.i16.prod (Codec.i16.prod Codec.i16))).imap
    (fun (name, port, key, channel) => ⟨name, port, key, channel⟩)
    (fun n => (n.name, n.port, n.key, n.channel)) fun _ => rfl

/-- 268 bytes. -/
def notePortInfoCodec : Codec NotePortInfo :=
  (Codec.u32.prod (Codec.u32.prod (Codec.u32.prod nameCodec))).imap
    (fun (id, supported, preferred, name) => ⟨id, supported, preferred, name⟩)
    (fun i => (i.id, i.supported_dialects, i.preferred_dialect, i.name)) fun _ => rfl

/-- 1320 bytes. -/
def paramInfoCodec (is64 : Bool) : Codec (WParamInfo is64) :=
  (Codec.u32.prod (Codec.u32.prod ((pointerCodec is64).prod (nameCodec.prod
    (((Codec.u8.vector CLAP_PATH_SIZE).pad (4 - padding64 is64)).prod (Codec.u64.prod
      (Codec.u64.prod Codec.u64))))))).imap
    (fun (id, flags, cookie, name, module_, min_value, max_value, default_value) =>
      ⟨id, flags, cookie, name, module_, min_value, max_value, default_value⟩)
    (fun i => (i.id, i.flags, i.cookie, i.name, i.module_, i.min_value, i.max_value,
      i.default_value)) fun _ => rfl

/-- 552 bytes. -/
def remoteControlsPageCodec : Codec RemoteControlsPage :=
  (nameCodec.prod (Codec.u32.prod (nameCodec.prod
    ((Codec.u32.vector CLAP_REMOTE_CONTROLS_COUNT).prod (Codec.bool.pad 3))))).imap
    (fun (section_name, page_id, page_name, param_ids, is_for_preset) =>
      ⟨section_name, page_id, page_name, param_ids, is_for_preset⟩)
    (fun p => (p.section_name, p.page_id, p.page_name, p.param_ids, p.is_for_preset)) fun _ => rfl

/-- The layout of the published headers. -/
def InfoAbi.clap (is64 : Bool) : InfoAbi is64 where
  audioPortsConfig := audioPortsConfigCodec is64
  audioPortInfo := audioPortInfoCodec is64
  noteName := noteNameCodec
  notePortInfo := notePortInfoCodec
  paramInfo := paramInfoCodec is64
  remoteControlsPage := remoteControlsPageCodec

/-! ## Copying -/

/-- `for (size_t i = 0; i < count; ++i) to[i] = from[i];`, for arrays of that size. -/
def copy {count : Nat} (to_ from_ : Vector α count) : Vector α count :=
  forLoop count (fun i to_ => if h : i < count then to_.set i from_[i] else to_) to_

/-- `Plugin::copyName`. -/
def copyName (to_ from_ : ClapName) : ClapName :=
  copy to_ from_

/-- Every element is copied. -/
theorem copy_eq {count : Nat} (to_ from_ : Vector α count) : copy to_ from_ = from_ := by
  -- after `k` iterations the first `k` elements are those of the source
  have hinv := forLoop_inv
    (fun k (t : Vector α count) => ∀ i < k, ∀ hi : i < count, t[i] = from_[i])
    (f := fun i to_ => if h : i < count then to_.set i from_[i] else to_) (s := to_) (n := count)
    (fun i hi => absurd hi (Nat.not_lt_zero i)) ?_
  · exact Vector.ext fun i hi => hinv i hi hi
  intro k t hk hprev i hi hlt
  rw [dif_pos hk]
  rcases Nat.lt_succ_iff_lt_or_eq.mp hi with hi | rfl
  · rw [Vector.getElem_set_ne _ _ (Nat.ne_of_gt hi)]
    exact hprev i hi hlt
  · rw [Vector.getElem_set_self]

theorem copyName_eq (to_ from_ : ClapName) : copyName to_ from_ = from_ :=
  copy_eq to_ from_

/-- `""`, or `{}`: an array of zeros. -/
def blankName : ClapName :=
  Vector.replicate _ 0

/-- A function of the guest that fills in what is at an address. -/
abbrev GuestFills (is64 : Bool) := Pointer is64 → LinearMemory → Bool × LinearMemory

/-- `scoped.reserveBlank<T>()`. -/
def GuestState.reserveBlank (arena : Arena is64) (g : GuestState) (c : Codec α) :
    Pointer is64 × GuestState :=
  g.reserve arena c.width c.width

/-- The call of the guest, with what is found in the struct afterwards. -/
def callToFill (c : Codec α) (guest : GuestFills is64) (reserved : Pointer is64 × GuestState) :
    Bool × α × LinearMemory :=
  let (infoPtr, g) := reserved
  let (result, mem) := guest infoPtr g.mem
  (result, mem.get c infoPtr 0, mem)

/-! ## Methods -/

section Methods

variable (abi : InfoAbi is64) (arena : Arena is64) (g : GuestState) (guest : GuestFills is64)

/-- `Plugin::audioPortsConfig_get`: the result, and `*config` where it is assigned to. -/
def audioPortsConfig_get : Bool × Option ClapAudioPortsConfig :=
  let (result, wConfig, mem) :=
    callToFill abi.audioPortsConfig guest (g.reserveBlank arena abi.audioPortsConfig)
  if !result then (false, none)
  else
    (true, some
      { id := wConfig.id
        name := copyName blankName wConfig.name
        input_port_count := wConfig.input_port_count
        output_port_count := wConfig.output_port_count
        has_main_input := wConfig.has_main_input
        main_input_channel_count := wConfig.main_input_channel_count
        main_input_port_type := translateWclapPortType mem wConfig.main_input_port_type
        has_main_output := wConfig.has_main_output
        main_output_channel_count := wConfig.main_output_channel_count
        main_output_port_type := translateWclapPortType mem wConfig.main_output_port_type })

/-- `*info`, for what the guest has filled in. -/
def hostPortInfo (mem : LinearMemory) (wclapInfo : WAudioPortInfo is64) : ClapAudioPortInfo where
  id := wclapInfo.id
  name := copyName blankName wclapInfo.name
  flags := wclapInfo.flags
  channel_count := wclapInfo.channel_count
  port_type := translateWclapPortType mem wclapInfo.port_type
  in_place_pair := wclapInfo.in_place_pair

/-- `Plugin::audioPortsConfigInfo_get`. -/
def audioPortsConfigInfo_get : Bool × Option ClapAudioPortInfo :=
  let (result, wclapInfo, mem) :=
    callToFill abi.audioPortInfo guest (g.reserveBlank arena abi.audioPortInfo)
  if !result then (false, none)
  else (true, some (hostPortInfo mem wclapInfo))

/-- `Plugin::audioPorts_get`, which does not look at the result before it copies. -/
def audioPorts_get : Bool × Option ClapAudioPortInfo :=
  let (result, wclapInfo, mem) :=
    callToFill abi.audioPortInfo guest (g.reserveBlank arena abi.audioPortInfo)
  (result, some (hostPortInfo mem wclapInfo))

/-- `Plugin::noteName_get`. -/
def noteName_get : Bool × Option NoteName :=
  let (result, wName, _) := callToFill abi.noteName guest (g.reserveBlank arena abi.noteName)
  if !result then (false, none)
  else
    (true, some
      { name := copyName blankName wName.name
        port := wName.port
        key := wName.key
        channel := wName.channel })

/-- `wclap_note_port_info{}`. -/
def blankNotePortInfo : NotePortInfo where
  id := 0
  supported_dialects := 0
  preferred_dialect := 0
  name := blankName

/-- `Plugin::notePorts_get`. -/
def notePorts_get : Bool × Option NotePortInfo :=
  let (result, wclapInfo, _) :=
    callToFill abi.notePortInfo guest (g.copyAcross arena abi.notePortInfo blankNotePortInfo)
  (result, some
    { id := wclapInfo.id
      supported_dialects := wclapInfo.supported_dialects
      preferred_dialect := wclapInfo.preferred_dialect
      name := copyName blankName wclapInfo.name })

/-- `wclap_param_info{}`. -/
def blankParamInfo : WParamInfo is64 where
  id := 0
  flags := 0
  cookie := Pointer.null
  name := blankName
  module_ := Vector.replicate _ 0
  min_value := 0
  max_value := 0
  default_value := 0

/-- `Plugin::params_get_info`. A host pointer is large enough for any cookie. -/
def params_get_info : Bool × Option ClapParamInfo :=
  let (result, wclapInfo, _) :=
    callToFill abi.paramInfo guest (g.copyAcross arena abi.paramInfo blankParamInfo)
  (result, some
    { id := wclapInfo.id
      flags := wclapInfo.flags
      cookie := wclapInfo.cookie.toUInt64
      name := copyName blankName wclapInfo.name
      module_ := copy (Vector.replicate _ 0) wclapInfo.module_
      min_value := wclapInfo.min_value
      max_value := wclapInfo.max_value
      default_value := wclapInfo.default_value })

/-- `Plugin::remoteControls_get`. -/
def remoteControls_get : Bool × Option RemoteControlsPage :=
  let (result, wPage, _) :=
    callToFill abi.remoteControlsPage guest (g.reserveBlank arena abi.remoteControlsPage)
  if !result then (false, none)
  else
    (true, some
      { section_name := copyName blankName wPage.section_name
        page_id := wPage.page_id
        page_name := copyName blankName wPage.page_name
        param_ids := copy (Vector.replicate _ 0) wPage.param_ids
        is_for_preset := wPage.is_for_preset })

end Methods

/-! ## Buffers -/

section Buffers

variable (arena : Arena is64) (g : GuestState) (guest : GuestFills is64) (capacity : UInt32)

/-- An array of the guest's that is copied to the host's buffer after the call. -/
def callToFillBuffer : Bool × List UInt8 :=
  let (ptr, g) := g.array arena 1 capacity.toNat
  let (result, mem) := guest ptr g.mem
  (result, (mem.getArray ptr 1 capacity.toUInt64).getD [])

/-- `Plugin::params_value_to_text`: the result, and `text`. -/
def params_value_to_text : Bool × List UInt8 :=
  callToFillBuffer arena g guest capacity

/-- `Plugin::webview_get_resource` when the address was not a `file:` address: the
    result, and `mime`. The stream and the path are in guest memory already. -/
def getGuestResource : Bool × List UInt8 :=
  callToFillBuffer arena g guest capacity

end Buffers

end WclapBridge.Native
