import WclapBridge.ForStd.Loop
import WclapBridge.Native.GuestStrings

/-!
# Port types and configuration requests

The type of an audio port is a string. `WclapModule` writes the known ones to guest
memory once, so that `translatePortType` can answer with a pointer; the other
direction reads the string. `configurableAudioPorts_method` copies an array of
requests to the guest, each with details whose shape depends on the type.

A `strcmp` with a null pointer ends the method.
-/

namespace WclapBridge.Native

variable {is64 : Bool}

/-! ## Port types -/

/-- `CLAP_PORT_MONO`. -/
def CLAP_PORT_MONO : CString := ⟨"mono".toList.map Char.toUInt8, by decide⟩

/-- `CLAP_PORT_STEREO`. -/
def CLAP_PORT_STEREO : CString := ⟨"stereo".toList.map Char.toUInt8, by decide⟩

/-- `CLAP_PORT_SURROUND`. -/
def CLAP_PORT_SURROUND : CString := ⟨"surround".toList.map Char.toUInt8, by decide⟩

/-- `CLAP_PORT_AMBISONIC`. -/
def CLAP_PORT_AMBISONIC : CString := ⟨"ambisonic".toList.map Char.toUInt8, by decide⟩

/-- `"(unknown host port type)"`. -/
def unknownHostPortType : CString :=
  ⟨"(unknown host port type)".toList.map Char.toUInt8, by decide⟩

/-- `"(unknown WCLAP port type)"`. -/
def unknownWclapPortType : CString :=
  ⟨"(unknown WCLAP port type)".toList.map Char.toUInt8, by decide⟩

/-- The strings of `WclapModuleBase` for port types. -/
structure WclapPorts (is64 : Bool) where
  wclapPortMonoPtr : Pointer is64
  wclapPortStereoPtr : Pointer is64
  wclapPortSurroundPtr : Pointer is64
  wclapPortAmbisonicPtr : Pointer is64
  wclapPortOtherPtr : Pointer is64

/-- The part of the constructor of `WclapModule` that writes them. -/
def writePortTypes (arena : Arena is64) (g : GuestState) : WclapPorts is64 × GuestState :=
  let (wclapPortMonoPtr, g) := g.writeString arena CLAP_PORT_MONO
  let (wclapPortStereoPtr, g) := g.writeString arena CLAP_PORT_STEREO
  let (wclapPortSurroundPtr, g) := g.writeString arena CLAP_PORT_SURROUND
  let (wclapPortAmbisonicPtr, g) := g.writeString arena CLAP_PORT_AMBISONIC
  let (wclapPortOtherPtr, g) := g.writeString arena unknownHostPortType
  (⟨wclapPortMonoPtr, wclapPortStereoPtr, wclapPortSurroundPtr, wclapPortAmbisonicPtr,
    wclapPortOtherPtr⟩, g)

/-- `strcmp(a, b) == 0`, or `none` where it reads through a null pointer. -/
def strcmpEq (a : Option CString) (b : CString) : Option Bool :=
  a.map fun a => decide (a = b)

/-- `WclapModuleBase::translatePortType`. -/
def WclapPorts.translatePortType (ports : WclapPorts is64) (portType : Option CString) :
    Option (Pointer is64) := do
  if ← strcmpEq portType CLAP_PORT_MONO then return ports.wclapPortMonoPtr
  else if ← strcmpEq portType CLAP_PORT_STEREO then return ports.wclapPortStereoPtr
  else if ← strcmpEq portType CLAP_PORT_SURROUND then return ports.wclapPortSurroundPtr
  else if ← strcmpEq portType CLAP_PORT_AMBISONIC then return ports.wclapPortAmbisonicPtr
  else return ports.wclapPortOtherPtr

/-- `Plugin::translateWclapPortType`. -/
def translateWclapPortType (mem : LinearMemory) (portType : Pointer is64) : CString :=
  let wclapPortType := mem.getString portType 16
  if wclapPortType = CLAP_PORT_MONO then CLAP_PORT_MONO
  else if wclapPortType = CLAP_PORT_STEREO then CLAP_PORT_STEREO
  else if wclapPortType = CLAP_PORT_SURROUND then CLAP_PORT_SURROUND
  else if wclapPortType = CLAP_PORT_AMBISONIC then CLAP_PORT_AMBISONIC
  else unknownWclapPortType

/-! ## Requests -/

/-- `clap_ambisonic_config`, and `wclap_ambisonic_config`. -/
structure AmbisonicConfig where
  ordering : UInt32
  normalization : UInt32
  deriving DecidableEq

/-- The layout of `clap_ambisonic_config`. -/
def ambisonicConfigCodec : Codec AmbisonicConfig :=
  (Codec.u32.prod Codec.u32).imap (fun (ordering, normalization) => ⟨ordering, normalization⟩)
    (fun c => (c.ordering, c.normalization)) fun _ => rfl

/-- `clap_audio_port_configuration_request`. `port_details` is the host memory from
    there on. -/
structure PortConfigurationRequest where
  is_input : Bool
  port_index : UInt32
  channel_count : UInt32
  port_type : Option CString
  port_details : Option (Cells UInt8)

/-- `wclap_audio_port_configuration_request`. -/
structure WPortConfigurationRequest (is64 : Bool) where
  is_input : Bool
  port_index : UInt32
  channel_count : UInt32
  port_type : Pointer is64
  port_details : Pointer is64

/-- The layout of the guest's structs. -/
structure PortAbi (is64 : Bool) where
  request : Codec (WPortConfigurationRequest is64)
  ambisonicConfig : Codec AmbisonicConfig

/-- 20 or 32 bytes. -/
def portConfigurationRequestCodec (is64 : Bool) : Codec (WPortConfigurationRequest is64) :=
  ((Codec.bool.pad 3).prod (Codec.u32.prod ((Codec.u32.pad (padding64 is64)).prod
    ((pointerCodec is64).prod (pointerCodec is64))))).imap
    (fun (is_input, port_index, channel_count, port_type, port_details) =>
      ⟨is_input, port_index, channel_count, port_type, port_details⟩)
    (fun r => (r.is_input, r.port_index, r.channel_count, r.port_type, r.port_details)) fun _ => rfl

/-- The layout of the published headers. -/
def PortAbi.clap (is64 : Bool) : PortAbi is64 where
  request := portConfigurationRequestCodec is64
  ambisonicConfig := ambisonicConfigCodec

/-- The details of a request in guest memory. -/
def copyDetails (abi : PortAbi is64) (arena : Arena is64) (request : PortConfigurationRequest)
    (g : GuestState) : Option (Pointer is64 × GuestState) := do
  match ← strcmpEq request.port_type CLAP_PORT_SURROUND, request.port_details with
  | true, some port_details =>
    let (channelMapPtr, g) := g.array arena 1 request.channel_count.toNat
    let channelMap := port_details.read 0 request.channel_count.toNat
    return (channelMapPtr,
      g.setArray channelMapPtr channelMap 1 (UInt64.ofNat request.channel_count.toNat))
  | _, _ =>
    match ← strcmpEq request.port_type CLAP_PORT_AMBISONIC, request.port_details with
    | true, some port_details =>
      let info := ambisonicConfigCodec.decode (port_details.read 0 ambisonicConfigCodec.width)
      return g.copyAcross arena abi.ambisonicConfig ⟨info.ordering, info.normalization⟩
    | _, _ => return (Pointer.null, g)

/-- A request in guest memory, as element `i` of the array. -/
def copyRequest (abi : PortAbi is64) (arena : Arena is64) (ports : WclapPorts is64)
    (requestsPtr : Pointer is64) (i : Nat) (request : PortConfigurationRequest)
    (g : GuestState) : Option GuestState := do
  let port_type ← ports.translatePortType request.port_type
  let (port_details, g) ← copyDetails abi arena request g
  return g.set abi.request requestsPtr
    ⟨request.is_input, request.port_index, request.channel_count, port_type, port_details⟩ i

/-- An iteration of the loop over the requests. -/
def copyRequestAt (abi : PortAbi is64) (arena : Arena is64) (ports : WclapPorts is64)
    (requestsPtr : Pointer is64) {n : Nat} (requests : Vector PortConfigurationRequest n)
    (i : Nat) (g : GuestState) : Option GuestState := do
  copyRequest abi arena ports requestsPtr i (← requests[i]?) g

/-- The loop over the requests. -/
def copyRequests (abi : PortAbi is64) (arena : Arena is64) (ports : WclapPorts is64)
    (requestsPtr : Pointer is64) {n : Nat} (requests : Vector PortConfigurationRequest n)
    (g : GuestState) : Option GuestState :=
  forLoop n (fun i g => g.bind (copyRequestAt abi arena ports requestsPtr requests i)) (some g)

/-- The two functions of `wclap_plugin_configurable_audio_ports`. -/
inductive ConfigurationFunction where
  | can_apply_configuration
  | apply_configuration
  deriving DecidableEq

/-- The call of the guest, which decides the result. -/
structure ConfigurationCall (is64 : Bool) where
  function : ConfigurationFunction
  requestsPtr : Pointer is64
  request_count : UInt32
  guest : GuestState

/-- `Plugin::configurableAudioPorts_method`, up to its call of the guest. -/
def configurableAudioPorts_method (applyChanges : Bool) (abi : PortAbi is64)
    (arena : Arena is64) (ports : WclapPorts is64) (g : GuestState) {request_count : UInt32}
    (requests : Vector PortConfigurationRequest request_count.toNat) :
    Option (ConfigurationCall is64) := do
  let (requestsPtr, g) := g.array arena abi.request.width request_count.toNat
  let g ← copyRequests abi arena ports requestsPtr requests g
  if applyChanges then return ⟨.apply_configuration, requestsPtr, request_count, g⟩
  else return ⟨.can_apply_configuration, requestsPtr, request_count, g⟩

/-- `Plugin::configurableAudioPorts_can_apply_configuration`. -/
def configurableAudioPorts_can_apply_configuration (abi : PortAbi is64) (arena : Arena is64)
    (ports : WclapPorts is64) (g : GuestState) {request_count : UInt32}
    (requests : Vector PortConfigurationRequest request_count.toNat) :
    Option (ConfigurationCall is64) :=
  configurableAudioPorts_method false abi arena ports g requests

/-- `Plugin::configurableAudioPorts_apply_configuration`. -/
def configurableAudioPorts_apply_configuration (abi : PortAbi is64) (arena : Arena is64)
    (ports : WclapPorts is64) (g : GuestState) {request_count : UInt32}
    (requests : Vector PortConfigurationRequest request_count.toNat) :
    Option (ConfigurationCall is64) :=
  configurableAudioPorts_method true abi arena ports g requests

end WclapBridge.Native
