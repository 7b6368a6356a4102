import WclapBridge.Native.AudioPorts
import WclapBridge.Native.Extensions
import WclapBridge.Native.GuestBytes
import WclapBridge.Native.GuestCall
import WclapBridge.Native.PresetLoad

/-!
# Methods of a plugin

The methods of `Plugin` which are one call of the guest: they place their data in an
arena scope, and call a function whose pointer is in the guest's `wclap_plugin` or in
one of its extension structs. The answer is that of the guest.

Methods that hand out a stream or event lists, the methods of the GUI, and those that
place a struct with pointers in it are in files of their own, as are those that read
what the guest has written. `pluginGetExtension` has its call here, and what it makes of
the guest's answer in `Native.Extensions`.
-/

namespace WclapBridge.Native

variable {is64 : Bool}

/-! ## Functions of the guest -/

/-- Functions which the methods call, by the extension and the field. -/
inductive PluginFunction where
  | activate
  | deactivate
  | start_processing
  | stop_processing
  | reset
  | get_extension
  | on_main_thread
  | ambisonic_is_config_supported
  | ambisonic_get_config
  | audio_ports_activation_can_activate_while_processing
  | audio_ports_activation_set_active
  | audio_ports_config_count
  | audio_ports_config_get
  | audio_ports_config_select
  | audio_ports_config_info_current_config
  | audio_ports_config_info_get
  | audio_ports_count
  | audio_ports_get
  | gui_create
  | gui_destroy
  | gui_get_size
  | gui_can_resize
  | gui_get_resize_hints
  | gui_adjust_size
  | gui_set_size
  | gui_suggest_title
  | gui_show
  | gui_hide
  | latency_get
  | note_name_count
  | note_name_get
  | note_ports_count
  | note_ports_get
  | param_indication_set_mapping
  | param_indication_set_automation
  | params_count
  | params_get_info
  | params_get_value
  | params_value_to_text
  | params_text_to_value
  | preset_load_from_location
  | remote_controls_count
  | remote_controls_get
  | render_has_hard_realtime_requirement
  | render_set
  | surround_is_channel_mask_supported
  | surround_get_channel_map
  | tail_get
  | thread_pool_exec
  | timer_support_on_timer
  | track_info_changed
  | voice_info_get
  | webview_get_uri
  | webview_receive
  deriving DecidableEq

/-- The field of `Plugin` with the struct of a function, unless it is `ptr`. -/
def PluginFunction.ext : PluginFunction → Option PluginExtension
  | activate | deactivate | start_processing | stop_processing | reset | get_extension
  | on_main_thread => none
  | ambisonic_is_config_supported | ambisonic_get_config => some .ambisonic
  | audio_ports_activation_can_activate_while_processing
  | audio_ports_activation_set_active => some .audioPortsActivation
  | audio_ports_config_count | audio_ports_config_get | audio_ports_config_select =>
    some .audioPortsConfig
  | audio_ports_config_info_current_config | audio_ports_config_info_get =>
    some .audioPortsConfigInfo
  | audio_ports_count | audio_ports_get => some .audioPorts
  | gui_create | gui_destroy | gui_get_size | gui_can_resize | gui_get_resize_hints
  | gui_adjust_size | gui_set_size | gui_suggest_title | gui_show | gui_hide => some .gui
  | latency_get => some .latency
  | note_name_count | note_name_get => some .noteName
  | note_ports_count | note_ports_get => some .notePorts
  | param_indication_set_mapping | param_indication_set_automation => some .paramIndication
  | params_count | params_get_info | params_get_value | params_value_to_text
  | params_text_to_value => some .params
  | preset_load_from_location => some .presetLoad
  | remote_controls_count | remote_controls_get => some .remoteControls
  | render_has_hard_realtime_requirement | render_set => some .render
  | surround_is_channel_mask_supported | surround_get_channel_map => some .surround
  | tail_get => some .tail
  | thread_pool_exec => some .threadPool
  | timer_support_on_timer => some .timerSupport
  | track_info_changed => some .trackInfo
  | voice_info_get => some .voiceInfo
  | webview_get_uri | webview_receive => some .webview

/-- What a function of the guest does with the slots and the memory it finds. -/
abbrev GuestRun := List ValRaw → LinearMemory → CallOutcome × LinearMemory

/-- An entry of the function table of an instance, with what it does to memory. -/
inductive GuestItem where
  /-- It is not of the kind `WASMTIME_FUNCREF`. -/
  | other
  | funcref (run : GuestRun)

/-- The function table of an instance. -/
abbrev GuestTable := UInt64 → Option GuestItem

namespace GuestItem

/-- What a call of the entry comes to in this memory. -/
def atMemory (mem : LinearMemory) : GuestItem → TableItem
  | other => .other
  | funcref run => .funcref fun slots => (run slots mem).1

/-- What a call of the entry leaves in memory. -/
def memAfter (slots : List ValRaw) (mem : LinearMemory) : GuestItem → LinearMemory
  | other => mem
  | funcref run => (run slots mem).2

end GuestItem

/-- The table for calls in this memory. -/
def GuestTable.atMemory (table : GuestTable) (mem : LinearMemory) : FunctionTable :=
  fun fnP => (table fnP).map (GuestItem.atMemory mem)

/-! ## Calls -/

/-- An argument behind the address of the plugin. -/
inductive MethodArg where
  | value (t : ArgType) (v : t.Value)
  | pointer (copy : GuestCopy)

/-- The instance of `Plugin` that makes the call. -/
inductive PluginThread where
  | mainThread
  | audioThread
  deriving DecidableEq

/-- `thread->call(struct[&function], ptr, args...)`, the pointers among the arguments
    having been placed in this order. -/
structure MethodCall where
  thread : PluginThread
  function : PluginFunction
  ret : ReturnType
  args : List MethodArg

/-- What the methods of a plugin work with. -/
structure PluginView (is64 : Bool) where
  ptr : Pointer is64
  exts : PluginExts is64
  /-- The offsets of the function pointers in their structs. -/
  offset : PluginFunction → Nat
  table : PluginThread → GuestTable

/-- `ptr[&wclap_plugin::function]`, or `ext[&wclap_plugin_ext::function]`. -/
def PluginView.fnPtrPtr (p : PluginView is64) (function : PluginFunction) : Pointer is64 :=
  match function.ext with
  | none => p.ptr.offset (p.offset function)
  | some e => (p.exts.ext e).offset (p.offset function)

/-- The arguments with their pointers, and the memory with what these point to. -/
def placeArgs (arena : Arena is64) : List MethodArg → GuestState → List Arg × GuestState
  | [], g => ([], g)
  | .value t v :: args, g =>
    let (args, g) := placeArgs arena args g
    (⟨t, v⟩ :: args, g)
  | .pointer copy :: args, g =>
    let (ptr, g) := copy.place arena g
    let (args, g) := placeArgs arena args g
    (⟨.pointer is64, ptr⟩ :: args, g)

theorem placeArgs_pointer (arena : Arena is64) (copy : GuestCopy) (args : List MethodArg)
    (g : GuestState) : placeArgs arena (.pointer copy :: args) g =
      (⟨.pointer is64, (copy.place arena g).1⟩ ::
        (placeArgs arena args (copy.place arena g).2).1,
        (placeArgs arena args (copy.place arena g).2).2) := rfl

/-- A pointer behind the other arguments is placed last. -/
theorem placeArgs_snoc (arena : Arena is64) (args : List MethodArg) (copy : GuestCopy)
    (g : GuestState) : placeArgs arena (args ++ [.pointer copy]) g =
      ((placeArgs arena args g).1 ++
        [⟨.pointer is64, (copy.place arena (placeArgs arena args g).2).1⟩],
        (copy.place arena (placeArgs arena args g).2).2) := by
  induction args generalizing g with
  | nil => rfl
  | cons arg args ih =>
    cases arg with
    | value t v =>
      show (⟨t, v⟩ :: (placeArgs arena (args ++ [.pointer copy]) g).1,
        (placeArgs arena (args ++ [.pointer copy]) g).2) = _
      rw [ih g]
      rfl
    | pointer first =>
      show placeArgs arena (.pointer first :: (args ++ [.pointer copy])) g = _
      rw [placeArgs_pointer, placeArgs_pointer, ih]
      rfl

/-- What comes of a method: the arguments of the call, the memory at the call, the
    result, and the memory after it. -/
structure MethodResult (ret : ReturnType) where
  args : List Arg
  placed : GuestState
  call : CallResult ret
  mem : LinearMemory

/-- The memory after a call that was made. -/
def memAfterCall (table : GuestTable) {is64 : Bool} (fnPtr : Option (Pointer is64))
    (slots : List ValRaw) (mem : LinearMemory) (slotCount : Option Nat) : LinearMemory :=
  match slotCount, fnPtr.bind fun fnPtr => table fnPtr.toUInt64 with
  | some _, some item => item.memAfter slots mem
  | _, _ => mem

theorem memAfterCall_funcref {table : GuestTable} {fnPtr : Pointer is64} {run : GuestRun}
    (h : table fnPtr.toUInt64 = some (.funcref run)) (slots : List ValRaw) (mem : LinearMemory)
    (n : Nat) : memAfterCall table (some fnPtr) slots mem (some n) = (run slots mem).2 := by
  simp only [memAfterCall, Option.bind_some, h, GuestItem.memAfter]

/-- A method up to the return of the call. `stack` is what an uninitialised slot holds. -/
def callMethod (arena : Arena is64) (p : PluginView is64) (group : InstanceGroup)
    (m : MethodCall) (g : GuestState) (stack : ValRaw) : MethodResult m.ret :=
  let (args, g) := placeArgs arena m.args g
  let args := ⟨.pointer is64, p.ptr⟩ :: args
  let table := p.table m.thread
  let fnPtrPtr := p.fnPtrPtr m.function
  let call := InstanceImpl.callAt (table.atMemory g.mem) group g.mem fnPtrPtr m.ret args stack
  ⟨args, g, call,
    memAfterCall table (g.mem.callAt fnPtrPtr) (callSlots m.ret args stack).1 g.mem call.slotCount⟩

/-! ## Structs -/

/-- `clap_color`, and `wclap_color`. -/
structure ClapColor where
  alpha : UInt8
  red : UInt8
  green : UInt8
  blue : UInt8
  deriving DecidableEq

/-- The layout of `clap_color`. -/
def clapColorCodec : Codec ClapColor :=
  (Codec.u8.prod (Codec.u8.prod (Codec.u8.prod Codec.u8))).imap
    (fun (alpha, red, green, blue) => ⟨alpha, red, green, blue⟩)
    (fun c => (c.alpha, c.red, c.green, c.blue)) fun _ => rfl

/-! ## Methods

Floating-point values are bit patterns. -/

namespace MethodCall

/-- `mainThread->call(…)`. -/
def main (function : PluginFunction) (ret : ReturnType) (args : List MethodArg) : MethodCall :=
  ⟨.mainThread, function, ret, args⟩

/-- `audioThread->call(…)`. -/
def audio (function : PluginFunction) (ret : ReturnType) (args : List MethodArg) : MethodCall :=
  ⟨.audioThread, function, ret, args⟩

end MethodCall

open MethodCall MethodArg

section Methods

def pluginActivate (sRate : UInt64) (minFrames maxFrames : UInt32) : MethodCall :=
  audio .activate (some .bool)
    [value .double sRate, value .uint32 minFrames, value .uint32 maxFrames]

def pluginDeactivate : MethodCall := audio .deactivate none []

def pluginStartProcessing : MethodCall := audio .start_processing (some .bool) []

def pluginStopProcessing : MethodCall := audio .stop_processing none []

def pluginReset : MethodCall := audio .reset none []

def pluginOnMainThread : MethodCall := main .on_main_thread none []

/-- The call of the guest in `Plugin::pluginGetExtension`. -/
def callGetExtension (is64 : Bool) (pluginExtId : CString) : MethodCall :=
  main .get_extension (some (.pointer is64)) [pointer (.string pluginExtId)]

def ambisonic_is_config_supported (config : AmbisonicConfig) : MethodCall :=
  main .ambisonic_is_config_supported (some .bool)
    [pointer (.value ambisonicConfigCodec ⟨config.ordering, config.normalization⟩)]

def audioPortsActivation_can_activate_while_processing : MethodCall :=
  main .audio_ports_activation_can_activate_while_processing (some .bool) []

def audioPortsActivation_set_active (is_input : Bool) (port_index : UInt32) (is_active : Bool)
    (sample_size : UInt32) : MethodCall :=
  main .audio_ports_activation_set_active (some .bool)
    [value .bool is_input, value .uint32 port_index, value .bool is_active,
      value .uint32 sample_size]

def audioPortsConfig_count : MethodCall := main .audio_ports_config_count (some .uint32) []

def audioPortsConfig_select (config_id : UInt32) : MethodCall :=
  main .audio_ports_config_select (some .bool) [value .uint32 config_id]

def audioPortsConfigInfo_current_config : MethodCall :=
  main .audio_ports_config_info_current_config (some .uint32) []

def audioPorts_count (isInput : Bool) : MethodCall :=
  main .audio_ports_count (some .uint32) [value .bool isInput]

def latency_get : MethodCall := main .latency_get (some .uint32) []

def noteName_count : MethodCall := main .note_name_count (some .uint32) []

def notePorts_count (isInput : Bool) : MethodCall :=
  main .note_ports_count (some .uint32) [value .bool isInput]

def copyColor (color : ClapColor) : GuestCopy :=
  .value clapColorCodec ⟨color.alpha, color.red, color.green, color.blue⟩

def paramIndication_set_mapping (param_id : UInt32) (has_mapping : Bool)
    (color : Option ClapColor) (label description : Option CString) : MethodCall :=
  main .param_indication_set_mapping none
    [value .uint32 param_id, value .bool has_mapping, pointer (.nullable copyColor color),
      pointer (.nullable .string label), pointer (.nullable .string description)]

def paramIndication_set_automation (param_id automation_state : UInt32)
    (color : Option ClapColor) : MethodCall :=
  main .param_indication_set_automation none
    [value .uint32 param_id, value .uint32 automation_state, pointer (.nullable copyColor color)]

def params_count : MethodCall := main .params_count (some .uint32) []

/-- The call of the guest in `Plugin::presetLoad_from_location`. -/
def callPresetLoad (preset : PresetLocation) : MethodCall :=
  main .preset_load_from_location (some .bool)
    [value .uint32 preset.location_kind, pointer (.nullable .string preset.location),
      pointer (.nullable .string preset.load_key)]

def remoteControls_count : MethodCall := main .remote_controls_count (some .uint32) []

def render_has_hard_realtime_requirement : MethodCall :=
  main .render_has_hard_realtime_requirement (some .bool) []

def render_set (mode : Int32) : MethodCall := main .render_set (some .bool) [value .int32 mode]

def surround_is_channel_mask_supported (channel_mask : UInt64) : MethodCall :=
  main .surround_is_channel_mask_supported (some .bool) [value .uint64 channel_mask]

def tail_get : MethodCall := main .tail_get (some .uint32) []

def threadPool_exec (task_index : UInt32) : MethodCall :=
  main .thread_pool_exec none [value .uint32 task_index]

def timerSupport_on_timer (timer_id : UInt32) : MethodCall :=
  main .timer_support_on_timer none [value .uint32 timer_id]

def trackInfo_changed : MethodCall := main .track_info_changed none []

/-- `size` is the length of the message, which is `uint32_t`. -/
def webview_receive (buffer : List UInt8) : MethodCall :=
  main .webview_receive (some .bool)
    [pointer (.buffer buffer), value .uint32 (UInt32.ofNat buffer.length)]

/-- The methods whose answer is that of the guest, with what the host gives them. -/
inductive HostCall where
  | pluginActivate (sRate : UInt64) (minFrames maxFrames : UInt32)
  | pluginDeactivate
  | pluginStartProcessing
  | pluginStopProcessing
  | pluginReset
  | pluginOnMainThread
  | ambisonic_is_config_supported (config : AmbisonicConfig)
  | audioPortsActivation_can_activate_while_processing
  | audioPortsActivation_set_active (is_input : Bool) (port_index : UInt32) (is_active : Bool)
      (sample_size : UInt32)
  | audioPortsConfig_count
  | audioPortsConfig_select (config_id : UInt32)
  | audioPortsConfigInfo_current_config
  | audioPorts_count (isInput : Bool)
  | latency_get
  | noteName_count
  | notePorts_count (isInput : Bool)
  | paramIndication_set_mapping (param_id : UInt32) (has_mapping : Bool)
      (color : Option ClapColor) (label description : Option CString)
  | paramIndication_set_automation (param_id automation_state : UInt32)
      (color : Option ClapColor)
  | params_count
  | presetLoad_from_location (preset : PresetLocation)
  | remoteControls_count
  | render_has_hard_realtime_requirement
  | render_set (mode : Int32)
  | surround_is_channel_mask_supported (channel_mask : UInt64)
  | tail_get
  | threadPool_exec (task_index : UInt32)
  | timerSupport_on_timer (timer_id : UInt32)
  | trackInfo_changed
  | webview_receive (buffer : List UInt8)

/-- The call of a method. -/
def HostCall.methodCall : HostCall → MethodCall
  | pluginActivate sRate minFrames maxFrames => Native.pluginActivate sRate minFrames maxFrames
  | pluginDeactivate => Native.pluginDeactivate
  | pluginStartProcessing => Native.pluginStartProcessing
  | pluginStopProcessing => Native.pluginStopProcessing
  | pluginReset => Native.pluginReset
  | pluginOnMainThread => Native.pluginOnMainThread
  | ambisonic_is_config_supported config => Native.ambisonic_is_config_supported config
  | audioPortsActivation_can_activate_while_processing =>
    Native.audioPortsActivation_can_activate_while_processing
  | audioPortsActivation_set_active is_input port_index is_active sample_size =>
    Native.audioPortsActivation_set_active is_input port_index is_active sample_size
  | audioPortsConfig_count => Native.audioPortsConfig_count
  | audioPortsConfig_select config_id => Native.audioPortsConfig_select config_id
  | audioPortsConfigInfo_current_config => Native.audioPortsConfigInfo_current_config
  | audioPorts_count isInput => Native.audioPorts_count isInput
  | latency_get => Native.latency_get
  | noteName_count => Native.noteName_count
  | notePorts_count isInput => Native.notePorts_count isInput
  | paramIndication_set_mapping param_id has_mapping color label description =>
    Native.paramIndication_set_mapping param_id has_mapping color label description
  | paramIndication_set_automation param_id automation_state color =>
    Native.paramIndication_set_automation param_id automation_state color
  | params_count => Native.params_count
  | presetLoad_from_location preset => callPresetLoad preset
  | remoteControls_count => Native.remoteControls_count
  | render_has_hard_realtime_requirement => Native.render_has_hard_realtime_requirement
  | render_set mode => Native.render_set mode
  | surround_is_channel_mask_supported channel_mask =>
    Native.surround_is_channel_mask_supported channel_mask
  | tail_get => Native.tail_get
  | threadPool_exec task_index => Native.threadPool_exec task_index
  | timerSupport_on_timer timer_id => Native.timerSupport_on_timer timer_id
  | trackInfo_changed => Native.trackInfo_changed
  | webview_receive buffer => Native.webview_receive buffer

end Methods

/-! ## Extension ids -/

/-- `CLAP_EXT_*` of the extensions of plugins. -/
abbrev PluginExtensionIds := PluginExtension → CString

open PluginExtension in
/-- The branches of `Plugin::pluginGetExtension`. -/
def pluginExtensionBranches : List PluginExtension :=
  [ambisonic, audioPortsActivation, audioPortsConfig, audioPortsConfigInfo, audioPorts,
    configurableAudioPorts, gui, latency, noteName, notePorts, paramIndication, params, presetLoad,
    remoteControls, render, stateContext, state, surround, tail, threadPool, timerSupport,
    trackInfo, voiceInfo, webview]

/-- The branch that is taken for a string. -/
def extensionId (ids : PluginExtensionIds) (pluginExtId : CString) : ExtensionId :=
  match pluginExtensionBranches.find? fun e => pluginExtId = ids e with
  | some e => .known e
  | none => .other pluginExtId.toText

/-- The location is placed as in `Native.PresetLoad`. -/
theorem placeArgs_callPresetLoad (arena : Arena is64) (g : GuestState) (preset : PresetLocation) :
    placeArgs arena (callPresetLoad preset).args g =
      ([⟨.uint32, preset.location_kind⟩,
        ⟨.pointer is64, (presetLoad_from_location arena g preset).1.location⟩,
        ⟨.pointer is64, (presetLoad_from_location arena g preset).1.load_key⟩],
        (presetLoad_from_location arena g preset).2) := by
  obtain ⟨location_kind, location, load_key⟩ := preset
  cases location <;> cases load_key <;> rfl

end WclapBridge.Native
