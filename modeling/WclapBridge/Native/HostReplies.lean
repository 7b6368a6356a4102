import WclapBridge.Native.Marshalling
import WclapBridge.Native.PluginGetters
import WclapBridge.Native.PluginMethods
import WclapBridge.Native.PresetLoad

/-!
# What goes to the host, and what comes back

The static functions of `WclapModule` pass on the numbers that the guest gives them. Strings and
messages are copied out of guest memory first, and two of the functions write what the host
has filled in to where the guest has asked for it.
-/

namespace WclapBridge.Native

variable {is64 : Bool}

/-! ## Arguments -/

/-- What a static function does with an argument of the guest. -/
inductive HostParam where
  /-- It is passed on. -/
  | value (t : ArgType)
  /-- `plugin->mainThread->getString(…, wclap_bridge::maxLogStringLength)`. -/
  | string
  /-- `buffer` and `size`, for `Plugin::webviewSend`. -/
  | message

/-- What the host fills in. The guest's last argument tells where it goes. -/
inductive HostOut where
  | none
  /-- `&nativeTimerId`. -/
  | timerId
  /-- `&info`. -/
  | trackInfo

/-- The argument for what the host fills in. -/
def HostOut.types (is64 : Bool) : HostOut → List ArgType
  | none => []
  | timerId | trackInfo => [.pointer is64]

/-- The types of the guest's arguments. -/
def HostParam.types (is64 : Bool) (out : HostOut) : List HostParam → List ArgType
  | [] => out.types is64
  | value t :: params => t :: types is64 out params
  | string :: params => .pointer is64 :: types is64 out params
  | message :: params => .pointer is64 :: .uint32 :: types is64 out params

/-- An argument of the host's function. -/
inductive HostArg where
  | value (arg : Arg)
  /-- A `c_str()`. -/
  | string (string : CString)
  /-- What is copied to `webviewMessageBuffer`, or `none` where guest memory cannot be read. The
      buffer then has what was left in it by `webviewSend` before (`Native.WebviewTraffic`). -/
  | buffer (bytes : Option (List UInt8))

/-- The arguments of the host's function, without the addresses of local variables. -/
def hostArgs (mem : LinearMemory) (out : HostOut) :
    (params : List HostParam) → Args (HostParam.types is64 out params) → List HostArg
  | [], _ => []
  | .value t :: params, (v, args) => .value ⟨t, v⟩ :: hostArgs mem out params args
  | .string :: params, (ptr, args) =>
    .string (mem.getString ptr maxLogStringLength) :: hostArgs mem out params args
  | .message :: params, (buffer, size, args) =>
    .buffer (mem.getArray buffer 1 (UInt32.toUInt64 size)) :: .value ⟨.uint32, size⟩ ::
      hostArgs mem out params args

/-- The argument behind those. -/
def outArgs (out : HostOut) :
    (params : List HostParam) → Args (HostParam.types is64 out params) → Args (out.types is64)
  | [], args => args
  | .value _ :: params, (_, args) => outArgs out params args
  | .string :: params, (_, args) => outArgs out params args
  | .message :: params, (_, _, args) => outArgs out params args

/-! ## Track info -/

/-- `clap_track_info`. -/
structure TrackInfo where
  flags : UInt64
  name : ClapName
  color : ClapColor
  audio_channel_count : Int32
  audio_port_type : Option CString

/-- `wclap_track_info`. -/
structure WTrackInfo (is64 : Bool) where
  flags : UInt64
  name : ClapName
  color : ClapColor
  audio_channel_count : Int32
  audio_port_type : Pointer is64

/-- What the published headers say about track info. -/
structure TrackInfoAbi (is64 : Bool) where
  trackInfo : Codec (WTrackInfo is64)
  CLAP_TRACK_INFO_HAS_AUDIO_CHANNEL : UInt64

/-- 280 bytes. -/
def trackInfoCodec (is64 : Bool) : Codec (WTrackInfo is64) :=
  (Codec.u64.prod (nameCodec.prod (clapColorCodec.prod (Codec.i32.prod
    ((pointerCodec is64).pad (4 - padding64 is64)))))).imap
    (fun (flags, name, color, audio_channel_count, audio_port_type) =>
      ⟨flags, name, color, audio_channel_count, audio_port_type⟩)
    (fun i => (i.flags, i.name, i.color, i.audio_channel_count, i.audio_port_type)) fun _ => rfl

def TrackInfoAbi.clap (is64 : Bool) : TrackInfoAbi is64 where
  trackInfo := trackInfoCodec is64
  CLAP_TRACK_INFO_HAS_AUDIO_CHANNEL := 4

/-- `wclapInfo.audio_port_type`, or `none` where `strcmp` reads through a null pointer. -/
def trackPortType (abi : TrackInfoAbi is64) (ports : WclapPorts is64) (info : TrackInfo) :
    Option (Pointer is64) :=
  -- Only assign port-type string if it's one of the known values
  if info.flags &&& abi.CLAP_TRACK_INFO_HAS_AUDIO_CHANNEL ≠ 0 then
    ports.translatePortType info.audio_port_type
  else some ports.wclapPortOtherPtr

/-- `wclapInfo`, for what the host has filled in. -/
def wclapTrackInfo (abi : TrackInfoAbi is64) (ports : WclapPorts is64) (info : TrackInfo) :
    Option (WTrackInfo is64) := do
  let audio_port_type ← trackPortType abi ports info
  return ⟨info.flags, info.name,
    ⟨info.color.alpha, info.color.red, info.color.green, info.color.blue⟩,
    info.audio_channel_count, audio_port_type⟩

/-! ## Answers -/

/-- What comes of a call of the host: the result, what is in the local variables
    `nativeTimerId` and `info`, and in guest memory, when the host returns. -/
structure HostAnswer (ret : ReturnType) where
  result : ReturnType.Value ret
  nativeTimerId : UInt32
  info : TrackInfo
  mem : LinearMemory

/-- `if (plugin->hostX->method(…))`. -/
def HostAnswer.isTrue : {ret : ReturnType} → HostAnswer ret → Bool
  | some .bool, answer => answer.result
  | _, _ => false

/-- What the static function writes to guest memory after the call, or `none` where it reads
    through a null pointer. -/
def storeAnswer (abi : TrackInfoAbi is64) (ports : WclapPorts is64) {ret : ReturnType}
    (answer : HostAnswer ret) : (out : HostOut) → Args (out.types is64) → Option LinearMemory
  | .none, _ => some answer.mem
  | .timerId, (timer_id, _) =>
    if answer.isTrue then some (answer.mem.set Codec.u32 timer_id answer.nativeTimerId 0)
    else some answer.mem
  | .trackInfo, (infoPtr, _) =>
    if answer.isTrue then
      (wclapTrackInfo abi ports answer.info).map fun wclapInfo =>
        answer.mem.set abi.trackInfo infoPtr wclapInfo 0
    else some answer.mem

end WclapBridge.Native
