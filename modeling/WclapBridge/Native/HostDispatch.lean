import WclapBridge.Native.Contexts
import WclapBridge.Native.HostExtensions
import WclapBridge.Native.HostReplies

/-!
# Callbacks through the function table

Most of the static functions of `WclapModule` look up the plugin by the context field of its
`wclap_host`, and pass their arguments on to a function of the plugin's own host. Guest code
calls them through its function table, with the arguments in slots.

Where guest memory is looked at is part of the order: the arguments are read before the host is
called, and what it has filled in is written when it has returned.
-/

namespace WclapBridge.Native

variable {is64 : Bool}

/-- A static function that passes its arguments on. -/
structure HostCallback where
  /-- The struct with the host's function, unless it is the `clap_host` itself. -/
  field : Option HostExtension
  /-- The arguments behind the `wclap_host`. -/
  params : List HostParam
  out : HostOut
  ret : ReturnType
  /-- What is returned when there is no plugin. -/
  noPlugin : ReturnType.Value ret

namespace HostCallback

/-- `if (plugin) return plugin->hostX->notify(plugin->host, ...);` -/
def notify (field : Option HostExtension) (params : List HostParam) : HostCallback :=
  ⟨field, params, .none, none, ()⟩

/-- `if (plugin) return plugin->hostX->ask(plugin->host, ...); return noPlugin;` -/
def ask (field : HostExtension) (params : List HostParam) (noPlugin : Bool) : HostCallback :=
  ⟨some field, params, .none, some .bool, noPlugin⟩

/-- The types of the arguments behind the `wclap_host`. -/
abbrev types (is64 : Bool) (cb : HostCallback) : List ArgType :=
  HostParam.types is64 cb.out cb.params

end HostCallback

/-! ## The functions, by name -/

section Functions

open HostCallback HostParam

def hostTemplate_request_restart : HostCallback := notify none []

def hostTemplate_request_process : HostCallback := notify none []

def hostTemplate_request_callback : HostCallback := notify none []

def hostAmbisonic_changed : HostCallback := notify (some .hostAmbisonic) []

def hostAudioPortsConfig_rescan : HostCallback := notify (some .hostAudioPortsConfig) []

def hostAudioPorts_is_rescan_flag_supported : HostCallback :=
  ask .hostAudioPorts [value .uint32] false

def hostAudioPorts_rescan : HostCallback := notify (some .hostAudioPorts) [value .uint32]

def hostGui_resize_hints_changed : HostCallback := notify (some .hostGui) []

def hostGui_request_resize : HostCallback := ask .hostGui [value .uint32, value .uint32] false

def hostGui_request_show : HostCallback := ask .hostGui [] false

def hostGui_request_hide : HostCallback := ask .hostGui [] false

def hostGui_closed : HostCallback := notify (some .hostGui) [value .bool]

def hostLatency_changed : HostCallback := notify (some .hostLatency) []

def hostNoteName_changed : HostCallback := notify (some .hostNoteName) []

/-- `return false;` where there is no plugin. -/
def hostNotePorts_supported_dialects : HostCallback :=
  ⟨some .hostNotePorts, [], .none, some .uint32, (0 : UInt32)⟩

def hostNotePorts_rescan : HostCallback := notify (some .hostNotePorts) [value .uint32]

def hostParams_rescan : HostCallback := notify (some .hostParams) [value .uint32]

def hostParams_clear : HostCallback := notify (some .hostParams) [value .uint32, value .uint32]

def hostParams_request_flush : HostCallback := notify (some .hostParams) []

def hostRemoteControls_changed : HostCallback := notify (some .hostRemoteControls) []

def hostRemoteControls_suggest_page : HostCallback :=
  notify (some .hostRemoteControls) [value .uint32]

def hostState_mark_dirty : HostCallback := notify (some .hostState) []

def hostSurround_changed : HostCallback := notify (some .hostSurround) []

def hostTail_changed : HostCallback := notify (some .hostTail) []

def hostThreadCheck_is_main_thread : HostCallback := ask .hostThreadCheck [] true

def hostThreadCheck_is_audio_thread : HostCallback := ask .hostThreadCheck [] true

def hostThreadPool_request_exec : HostCallback := ask .hostThreadPool [value .uint32] false

def hostTimerSupport_unregister_timer : HostCallback := ask .hostTimerSupport [value .uint32] false

def hostVoiceInfo_changed : HostCallback := notify (some .hostVoiceInfo) []

namespace HostCallback

def hostLog_log : HostCallback := notify (some .hostLog) [value .int32, string]

/-- `location_kind`, `location`, `load_key`, `os_error` and `msg`. -/
def hostPresetLoad_on_error : HostCallback :=
  notify (some .hostPresetLoad) [value .uint32, string, string, value .int32, string]

/-- `location_kind`, `location` and `load_key`. -/
def hostPresetLoad_loaded : HostCallback :=
  notify (some .hostPresetLoad) [value .uint32, string, string]

def hostTimerSupport_register_timer : HostCallback :=
  { ask .hostTimerSupport [value .uint32] false with out := .timerId }

def hostTrackInfo_get : HostCallback := { ask .hostTrackInfo [] false with out := .trackInfo }

/-- `size` is `uint64_t` in `Plugin::webviewSend`, and `uint32_t` before and after it. -/
def hostWebview_send : HostCallback := ask .hostWebview [message] false

end HostCallback

end Functions

/-- The functions that call the plugin's host and do no more than pass on what they are given.
    The others answer for the plugin, or for its extensions. -/
def HostFunction.callback : HostFunction → Option HostCallback
  | hostTemplate_request_restart => some Native.hostTemplate_request_restart
  | hostTemplate_request_process => some Native.hostTemplate_request_process
  | hostTemplate_request_callback => some Native.hostTemplate_request_callback
  | hostAmbisonic_changed => some Native.hostAmbisonic_changed
  | hostAudioPortsConfig_rescan => some Native.hostAudioPortsConfig_rescan
  | hostAudioPorts_is_rescan_flag_supported =>
    some Native.hostAudioPorts_is_rescan_flag_supported
  | hostAudioPorts_rescan => some Native.hostAudioPorts_rescan
  | hostGui_resize_hints_changed => some Native.hostGui_resize_hints_changed
  | hostGui_request_resize => some Native.hostGui_request_resize
  | hostGui_request_show => some Native.hostGui_request_show
  | hostGui_request_hide => some Native.hostGui_request_hide
  | hostGui_closed => some Native.hostGui_closed
  | hostLatency_changed => some Native.hostLatency_changed
  | hostNoteName_changed => some Native.hostNoteName_changed
  | hostNotePorts_supported_dialects => some Native.hostNotePorts_supported_dialects
  | hostNotePorts_rescan => some Native.hostNotePorts_rescan
  | hostParams_rescan => some Native.hostParams_rescan
  | hostParams_clear => some Native.hostParams_clear
  | hostParams_request_flush => some Native.hostParams_request_flush
  | hostRemoteControls_changed => some Native.hostRemoteControls_changed
  | hostRemoteControls_suggest_page => some Native.hostRemoteControls_suggest_page
  | hostState_mark_dirty => some Native.hostState_mark_dirty
  | hostSurround_changed => some Native.hostSurround_changed
  | hostTail_changed => some Native.hostTail_changed
  | hostThreadCheck_is_main_thread => some Native.hostThreadCheck_is_main_thread
  | hostThreadCheck_is_audio_thread => some Native.hostThreadCheck_is_audio_thread
  | hostThreadPool_request_exec => some Native.hostThreadPool_request_exec
  | hostTimerSupport_unregister_timer => some Native.hostTimerSupport_unregister_timer
  | hostVoiceInfo_changed => some Native.hostVoiceInfo_changed
  | hostLog_log => some HostCallback.hostLog_log
  | hostPresetLoad_on_error => some HostCallback.hostPresetLoad_on_error
  | hostPresetLoad_loaded => some HostCallback.hostPresetLoad_loaded
  | hostTimerSupport_register_timer => some HostCallback.hostTimerSupport_register_timer
  | hostTrackInfo_get => some HostCallback.hostTrackInfo_get
  | hostWebview_send => some HostCallback.hostWebview_send
  | hostTemplate_get_extension => none
  | inputEventsTemplate_size | inputEventsTemplate_get | outputEventsTemplate_try_push => none
  | istreamTemplate_read | ostreamTemplate_write => none

/-! ## Calls -/

/-- A call of a function of a plugin's host. -/
structure HostCalled where
  plugin : Nat
  function : HostFunction
  args : List HostArg

/-- What the hosts were called with so far, whether a call went through a null pointer, and
    the module with its guest's memory. -/
structure HostWorld (is64 : Bool) where
  calls : List HostCalled
  nullDereference : Bool
  contexts : ModuleContexts is64

/-- What the static functions find in their module. `answers` is what the host makes of a call
    after those before it, and with this guest memory: it can call the guest in the meantime.
    So it can when it is asked for an extension, with `memAfterQuery` as the result. -/
structure DispatchContext (is64 : Bool) where
  templates : ContextTemplates is64
  ids : ExtensionIds
  bound : GlobalArena is64
  abi : TrackInfoAbi is64
  natives : Nat → NativeHost
  hosts : Nat → PluginHost
  memAfterQuery : List HostCalled → HostCalled → LinearMemory → LinearMemory
  answers : List HostCalled → HostCalled → LinearMemory → (ret : ReturnType) → HostAnswer ret

namespace HostWorld

/-- The memory of the guest. -/
def mem (world : HostWorld is64) : LinearMemory := world.contexts.mem

/-- `getPlugin` for a `wclap_host`. -/
def getPlugin (world : HostWorld is64) (context : DispatchContext is64) (wHost : Pointer is64) :
    Option Nat :=
  world.contexts.getPlugin context.templates .host wHost

/-- A host was called, and there is this in guest memory now. -/
def called (world : HostWorld is64) (call : HostCalled) (mem : LinearMemory) : HostWorld is64 :=
  { world with
    calls := world.calls ++ [call]
    contexts := { world.contexts with mem } }

end HostWorld

namespace HostCallback

/-- The address of the struct with the host's function: the `clap_host` is not null. -/
def hostAddress (cb : HostCallback) (plugin : PluginHost) : Nat :=
  match cb.field with
  | none => 1
  | some field => plugin.hostExt field

/-- The call of the host. -/
def call (cb : HostCallback) (fn : HostFunction) (plugin : Nat) (mem : LinearMemory)
    (args : Args (cb.types is64)) : HostCalled :=
  ⟨plugin, fn, hostArgs mem cb.out cb.params args⟩

/-- The static function. -/
def nativeFn (cb : HostCallback) (fn : HostFunction) (context : DispatchContext is64)
    (args : Args (.pointer is64 :: cb.types is64)) (world : HostWorld is64) :
    ReturnType.Value cb.ret × HostWorld is64 :=
  let (wHost, args) := args
  match world.getPlugin context wHost with
  | none => (cb.noPlugin, world)
  | some plugin =>
    match callHost (cb.hostAddress (context.hosts plugin)) with
    | .nullDereference => (cb.ret.zero, { world with nullDereference := true })
    | _ =>
      let call := cb.call fn plugin world.mem args
      let answer := context.answers world.calls call world.mem cb.ret
      match storeAnswer context.abi context.bound.ports answer cb.out
          (outArgs cb.out cb.params args) with
      | some mem => (answer.result, world.called call mem)
      | none => (cb.ret.zero, { world.called call answer.mem with nullDereference := true })

/-- What `registerHostGeneric` puts in the function table. -/
def wrapped (cb : HostCallback) (fn : HostFunction) (context : DispatchContext is64) :
    WrappedFn (DispatchContext is64) (HostWorld is64) cb.ret (.pointer is64 :: cb.types is64) :=
  ⟨context, cb.nativeFn fn⟩

end HostCallback

/-- `WclapModule::hostTemplate_get_extension`, with the plugin that it finds and its query of
    the host. -/
def getExtensionFn (context : DispatchContext is64) (args : Args [.pointer is64, .pointer is64])
    (world : HostWorld is64) : ReturnType.Value (some (.pointer is64)) × HostWorld is64 :=
  let (wHost, extId, _) := args
  let plugin := world.getPlugin context wHost
  let answer := hostTemplate_get_extension context.ids context.bound world.mem
    (plugin.map context.natives) extId
  let hostExtStr := world.mem.getString extId 1024
  match plugin with
  | none => (answer, world)
  | some plugin =>
    if hostExtStr = context.ids .hostWebview then (answer, world)
    else
      let call : HostCalled := ⟨plugin, .hostTemplate_get_extension, [.string hostExtStr]⟩
      (answer, world.called call (context.memAfterQuery world.calls call world.mem))

/-- Guest code calls an entry of its function table, if it is one for a `wclap_host`. -/
def callTable (context : DispatchContext is64) (instance_ : InstanceImpl) (index : Nat)
    (argsResults : List WasmVal) (world : HostWorld is64) :
    Option (List WasmVal × HostWorld is64) :=
  match instance_.table[index]? with
  | some (.host .hostTemplate_get_extension) =>
    WrappedFn.unchecked ⟨context, getExtensionFn⟩ argsResults world
  | some (.host fn) =>
    match fn.callback with
    | some cb => (cb.wrapped fn context).unchecked argsResults world
    | none => none
  | _ => none

/-- The callbacks are those of `Native.HostCallbacks`. -/
theorem hostFunction_callback {fn : HostFunction} {cb : HostCallback} (h : fn.callback = some cb)
    (plugin : PluginHost) : hostFunction fn (some plugin) = callHost (cb.hostAddress plugin) := by
  cases fn <;> cases h <;> rfl

/-- The strings of a location are those of `Native.PresetLoad`. -/
theorem hostArgs_hostPresetLoad_loaded (mem : LinearMemory) (preset : WPresetLocation is64) :
    hostArgs mem .none HostCallback.hostPresetLoad_loaded.params
        (preset.location_kind, preset.location, preset.load_key, ()) =
      [.value ⟨.uint32, preset.location_kind⟩,
        .string ((readPreset mem preset).location.getD .empty),
        .string ((readPreset mem preset).load_key.getD .empty)] := rfl

end WclapBridge.Native
