import Mathlib.Logic.Function.Basic
import WclapBridge.Native.AudioPorts
import WclapBridge.Native.HostCallbacks

/-!
# Host extensions for the guest

A module keeps one struct for each host extension in guest memory, with the table indices
of its host functions, and answers the guest's `get_extension` with its address. The
answer is null where the plugin's own host does not have the extension, but for the
webview, which the bridge provides.
-/

namespace WclapBridge.Native

variable {is64 : Bool}

/-! ## Structs -/

open HostFunction in
/-- The fields of the extension structs, in the order in which `addHostFunctions` fills
    them in. -/
def HostExtension.functions : HostExtension → List HostFunction
  | hostAmbisonic => [hostAmbisonic_changed]
  | hostAudioPortsConfig => [hostAudioPortsConfig_rescan]
  | hostAudioPorts => [hostAudioPorts_is_rescan_flag_supported, hostAudioPorts_rescan]
  | hostGui =>
    [hostGui_resize_hints_changed, hostGui_request_resize, hostGui_request_show,
      hostGui_request_hide, hostGui_closed]
  | hostLatency => [hostLatency_changed]
  | hostLog => [hostLog_log]
  | hostNoteName => [hostNoteName_changed]
  | hostNotePorts => [hostNotePorts_supported_dialects, hostNotePorts_rescan]
  | hostParams => [hostParams_rescan, hostParams_clear, hostParams_request_flush]
  | hostPresetLoad => [hostPresetLoad_on_error, hostPresetLoad_loaded]
  | hostRemoteControls => [hostRemoteControls_changed, hostRemoteControls_suggest_page]
  | hostState => [hostState_mark_dirty]
  | hostSurround => [hostSurround_changed]
  | hostTail => [hostTail_changed]
  | hostThreadCheck => [hostThreadCheck_is_main_thread, hostThreadCheck_is_audio_thread]
  | hostThreadPool => [hostThreadPool_request_exec]
  | hostTimerSupport => [hostTimerSupport_register_timer, hostTimerSupport_unregister_timer]
  | hostTrackInfo => [hostTrackInfo_get]
  | hostVoiceInfo => [hostVoiceInfo_changed]
  | hostWebview => [hostWebview_send]

/-- A struct of function pointers. -/
def hostStructCodec (is64 : Bool) (e : HostExtension) :
    Codec (Vector (Pointer is64) e.functions.length) :=
  (pointerCodec is64).vector e.functions.length

/-- The struct of an extension, when its functions have these indices. -/
def hostStruct (is64 : Bool) (hostIndex : HostFunction → UInt64) (e : HostExtension) :
    Vector (Pointer is64) e.functions.length :=
  Vector.ofFn fun i => .ofNat (hostIndex (e.functions.get i)).toNat

/-- What `bindGlobalArena` keeps the addresses of. -/
structure GlobalArena (is64 : Bool) where
  /-- `hostAmbisonicPtr`, …, `hostWebviewPtr`. -/
  extPtr : HostExtension → Pointer is64
  ports : WclapPorts is64

/-- `hostXPtr = scoped.copyAcross(hostX);` for some extensions. -/
def copyHostStructs (arena : Arena is64) (hostIndex : HostFunction → UInt64) :
    List HostExtension → (HostExtension → Pointer is64) → GuestState →
      (HostExtension → Pointer is64) × GuestState
  | [], extPtr, g => (extPtr, g)
  | e :: es, extPtr, g =>
    let (ptr, g) := g.copyAcross arena (hostStructCodec is64 e) (hostStruct is64 hostIndex e)
    copyHostStructs arena hostIndex es (Function.update extPtr e ptr) g

open HostExtension in
/-- The structs in front of the strings. -/
def structsBeforePorts : List HostExtension :=
  [hostAmbisonic, hostAudioPortsConfig, hostAudioPorts, hostGui, hostLatency, hostLog,
    hostNoteName, hostNotePorts, hostParams, hostPresetLoad, hostRemoteControls, hostState,
    hostSurround, hostTail, hostThreadCheck, hostThreadPool, hostTimerSupport]

open HostExtension in
/-- The structs behind them. -/
def structsBehindPorts : List HostExtension :=
  [hostTrackInfo, hostVoiceInfo, hostWebview]

/-- `WclapModule::bindGlobalArena`. -/
def bindGlobalArena (arena : Arena is64) (hostIndex : HostFunction → UInt64) (g : GuestState) :
    GlobalArena is64 × GuestState :=
  let (extPtr, g) := copyHostStructs arena hostIndex structsBeforePorts (fun _ => .null) g
  let (ports, g) := writePortTypes arena g
  let (extPtr, g) := copyHostStructs arena hostIndex structsBehindPorts extPtr g
  (⟨extPtr, ports⟩, g)

/-! ## Answers -/

/-- `CLAP_EXT_*`. -/
abbrev ExtensionIds := HostExtension → CString

/-- A `clap_host` by the strings it is asked for, and what the GUI helper provides for
    the webview. -/
structure NativeHost where
  get_extension : CString → Nat
  extHostWebview : Nat

/-- The same host, by the extensions that the bridge asks for. -/
def NativeHost.toClapHost (host : NativeHost) (ids : ExtensionIds) : ClapHost where
  get_extension
    | .hostWebview => host.extHostWebview
    | e => host.get_extension (ids e)

/-- The `Plugin` after `pluginInit` has queried its host. -/
def NativeHost.initialised (host : NativeHost) (ids : ExtensionIds) : PluginHost :=
  pluginInitFields.foldl PluginHost.getHostExt (PluginHost.new (host.toClapHost ids))

open HostExtension in
/-- The branches of `hostTemplate_get_extension` behind the one for the webview. -/
def extensionBranches : List HostExtension :=
  [hostAmbisonic, hostAudioPortsConfig, hostAudioPorts, hostGui, hostLatency, hostLog,
    hostNoteName, hostNotePorts, hostParams, hostPresetLoad, hostRemoteControls, hostState,
    hostSurround, hostTail, hostThreadCheck, hostThreadPool, hostTimerSupport, hostTrackInfo,
    hostVoiceInfo]

/-- `WclapModule::hostTemplate_get_extension`. `host` is the host of the plugin, if there
    is one. -/
def hostTemplate_get_extension (ids : ExtensionIds) (bound : GlobalArena is64)
    (mem : LinearMemory) (host : Option NativeHost) (extId : Pointer is64) : Pointer is64 :=
  let hostExtStr := mem.getString extId 1024
  match host with
  | none => .null
  | some host =>
    if hostExtStr = ids .hostWebview then
      -- Special-cased because we provide it to the plugin even if the host doesn't
      bound.extPtr .hostWebview
    else if host.get_extension hostExtStr = 0 then .null
    else
      match extensionBranches.find? fun e => hostExtStr = ids e with
      | some e => bound.extPtr e
      | none => .null

/-! ## Lists of extensions -/

/-- Every struct is bound. -/
theorem mem_structs (e : HostExtension) : e ∈ structsBeforePorts ∨ e ∈ structsBehindPorts := by
  cases e <;> decide

/-- Every extension but the webview has a branch. -/
theorem mem_extensionBranches {e : HostExtension} (h : e ≠ .hostWebview) :
    e ∈ extensionBranches := by
  cases e <;> first | exact absurd rfl h | decide

/-- The bridge asks the host for every extension. -/
theorem initialised_hostExt (host : NativeHost) (ids : ExtensionIds) (e : HostExtension) :
    (host.initialised ids).hostExt e = (host.toClapHost ids).get_extension e := by
  cases e <;> rfl

end WclapBridge.Native
