import WclapBridge.Native.PluginGetters
import WclapBridge.Native.PluginMethods

/-!
# Getters and the functions they call

The getters of `Plugin`, from the arguments of the host to what it finds in its variables
afterwards. Those that `Native.PluginGetters` has for any function of the guest are here
with the function that they call and the arguments that they pass; the others follow the
same two patterns.
-/

namespace WclapBridge.Native

variable {is64 : Bool} {α : Type}

/-! ## Structs -/

/-- `clap_voice_info`, and `wclap_voice_info`. -/
structure VoiceInfo where
  voice_count : UInt32
  voice_capacity : UInt32
  flags : UInt64
  deriving DecidableEq

/-- 16 bytes. -/
def voiceInfoCodec : Codec VoiceInfo :=
  (Codec.u32.prod (Codec.u32.prod Codec.u64)).imap
    (fun (voice_count, voice_capacity, flags) => ⟨voice_count, voice_capacity, flags⟩)
    (fun i => (i.voice_count, i.voice_capacity, i.flags)) fun _ => rfl

/-- The layout of the guest's structs, for all getters. -/
structure GetterAbi (is64 : Bool) extends InfoAbi is64 where
  ambisonicConfig : Codec AmbisonicConfig
  voiceInfo : Codec VoiceInfo

/-- The layout of the published headers. -/
def GetterAbi.clap (is64 : Bool) : GetterAbi is64 where
  toInfoAbi := InfoAbi.clap is64
  ambisonicConfig := ambisonicConfigCodec
  voiceInfo := voiceInfoCodec

/-! ## Calls -/

/-- The plugin and what its calls depend on. `stack` is what an uninitialised slot
    holds. -/
structure GetterView (is64 : Bool) where
  plugin : PluginView is64
  group : InstanceGroup
  stack : ValRaw

namespace GetterView

variable (v : GetterView is64)

/-- The slots of `mainThread->call(…, ptr, before..., infoPtr, behind...)`. -/
def args (before : List Arg) (infoPtr : Pointer is64) (behind : List Arg) : List Arg :=
  ⟨.pointer is64, v.plugin.ptr⟩ :: before ++ ⟨.pointer is64, infoPtr⟩ :: behind

/-- The call, and the memory after it. -/
def call (function : PluginFunction) (ret : ReturnType) (args : List Arg) (mem : LinearMemory) :
    CallResult ret × LinearMemory :=
  let table := v.plugin.table .mainThread
  let fnPtrPtr := v.plugin.fnPtrPtr function
  let call := InstanceImpl.callAt (table.atMemory mem) v.group mem fnPtrPtr ret args v.stack
  (call,
    memAfterCall table (mem.callAt fnPtrPtr) (callSlots ret args v.stack).1 mem call.slotCount)

/-- The function of the guest, for a getter that passes these arguments before and behind
    the address of the struct. -/
def fills (function : PluginFunction) (before behind : List Arg) : GuestFills is64 :=
  fun infoPtr mem =>
    let (call, mem) := v.call function (some .bool) (v.args before infoPtr behind) mem
    (call.result, mem)

end GetterView

/-! ## Getters -/

section Getters

variable (abi : GetterAbi is64) (arena : Arena is64) (v : GetterView is64) (g : GuestState)

/-- `Plugin::ambisonic_get_config`: the result, and `*config` where it is assigned to. -/
def ambisonic_get_config (isInput : Bool) (portIndex : UInt32) : Bool × Option AmbisonicConfig :=
  let (result, wConfig, _) := callToFill abi.ambisonicConfig
    (v.fills .ambisonic_get_config [⟨.bool, isInput⟩, ⟨.uint32, portIndex⟩] [])
    (g.reserveBlank arena abi.ambisonicConfig)
  if !result then (false, none)
  else (true, some ⟨wConfig.ordering, wConfig.normalization⟩)

/-- `Plugin::voiceInfo_get`. -/
def voiceInfo_get : Bool × Option VoiceInfo :=
  let (result, wInfo, _) := callToFill abi.voiceInfo (v.fills .voice_info_get [] [])
    (g.reserveBlank arena abi.voiceInfo)
  if !result then (false, none)
  else (true, some ⟨wInfo.voice_count, wInfo.voice_capacity, wInfo.flags⟩)

/-- `Plugin::params_get_value`. -/
def params_get_value (paramId : UInt32) : Bool × Option UInt64 :=
  let (result, value, _) := callToFill Codec.u64
    (v.fills .params_get_value [⟨.uint32, paramId⟩] []) (g.copyAcross arena Codec.u64 0)
  (result, some value)

/-- `Plugin::params_text_to_value`. -/
def params_text_to_value (paramId : UInt32) (text : CString) : Bool × Option UInt64 :=
  let (wclapText, g) := g.writeString arena text
  let (result, value, _) := callToFill Codec.u64
    (v.fills .params_text_to_value [⟨.uint32, paramId⟩, ⟨.pointer is64, wclapText⟩] [])
    (g.copyAcross arena Codec.u64 0)
  (result, some value)

/-- `Plugin::surround_get_channel_map`: the result, and `channel_map`. -/
def surround_get_channel_map (is_input : Bool) (port_index channel_map_capacity : UInt32) :
    UInt32 × List UInt8 :=
  let (channelMapPtr, g) := g.array arena 1 channel_map_capacity.toNat
  let (call, mem) := v.call .surround_get_channel_map (some .uint32)
    (v.args [⟨.bool, is_input⟩, ⟨.uint32, port_index⟩] channelMapPtr
      [⟨.uint32, channel_map_capacity⟩]) g.mem
  (call.result, (mem.getArray channelMapPtr 1 channel_map_capacity.toUInt64).getD [])

end Getters

/-- The getters of a struct, with the arguments of the host. -/
inductive InfoGetter where
  | ambisonic_get_config (isInput : Bool) (portIndex : UInt32)
  | audioPortsConfig_get (index : UInt32)
  | audioPortsConfigInfo_get (config_id index : UInt32) (isInput : Bool)
  | audioPorts_get (index : UInt32) (isInput : Bool)
  | noteName_get (index : UInt32)
  | notePorts_get (index : UInt32) (isInput : Bool)
  | params_get_info (index : UInt32)
  | params_get_value (paramId : UInt32)
  | params_text_to_value (paramId : UInt32) (text : CString)
  | remoteControls_get (page_index : UInt32)
  | voiceInfo_get

namespace InfoGetter

/-- The type of the host's variable. -/
def Info : InfoGetter → Type
  | ambisonic_get_config _ _ => AmbisonicConfig
  | audioPortsConfig_get _ => ClapAudioPortsConfig
  | audioPortsConfigInfo_get _ _ _ | audioPorts_get _ _ => ClapAudioPortInfo
  | noteName_get _ => NoteName
  | notePorts_get _ _ => NotePortInfo
  | params_get_info _ => ClapParamInfo
  | params_get_value _ | params_text_to_value _ _ => UInt64
  | remoteControls_get _ => RemoteControlsPage
  | voiceInfo_get => VoiceInfo

/-- The methods: the result, and the host's variable where it is assigned to. -/
def get (abi : GetterAbi is64) (arena : Arena is64) (v : GetterView is64) (g : GuestState) :
    (getter : InfoGetter) → Bool × Option getter.Info
  | ambisonic_get_config isInput portIndex =>
    Native.ambisonic_get_config abi arena v g isInput portIndex
  | audioPortsConfig_get index =>
    Native.audioPortsConfig_get abi.toInfoAbi arena g
      (v.fills .audio_ports_config_get [⟨.uint32, index⟩] [])
  | audioPortsConfigInfo_get config_id index isInput =>
    Native.audioPortsConfigInfo_get abi.toInfoAbi arena g (v.fills .audio_ports_config_info_get
      [⟨.uint32, config_id⟩, ⟨.uint32, index⟩, ⟨.bool, isInput⟩] [])
  | audioPorts_get index isInput =>
    Native.audioPorts_get abi.toInfoAbi arena g
      (v.fills .audio_ports_get [⟨.uint32, index⟩, ⟨.bool, isInput⟩] [])
  | noteName_get index =>
    Native.noteName_get abi.toInfoAbi arena g (v.fills .note_name_get [⟨.uint32, index⟩] [])
  | notePorts_get index isInput =>
    Native.notePorts_get abi.toInfoAbi arena g
      (v.fills .note_ports_get [⟨.uint32, index⟩, ⟨.bool, isInput⟩] [])
  | params_get_info index =>
    Native.params_get_info abi.toInfoAbi arena g (v.fills .params_get_info [⟨.uint32, index⟩] [])
  | params_get_value paramId => Native.params_get_value arena v g paramId
  | params_text_to_value paramId text => Native.params_text_to_value arena v g paramId text
  | remoteControls_get page_index =>
    Native.remoteControls_get abi.toInfoAbi arena g
      (v.fills .remote_controls_get [⟨.uint32, page_index⟩] [])
  | voiceInfo_get => Native.voiceInfo_get abi arena v g

end InfoGetter

end WclapBridge.Native
