import WclapBridge.Native.HostFunctions

/-!
# Host callbacks

What happens when the guest calls a registered host function: the plugin is
looked up by the index in a context field, which the guest can write, and the
call is forwarded to the host through one of the `hostX` pointers of the plugin.
These are null until `pluginInit` has queried the host, and stay null where the
host does not support the extension.

What the callbacks hand to the host is not part of this file; a pointer is a host
address, 0 for null.
-/

namespace WclapBridge.Native

/-- A `clap_host`: the address of each extension struct it returns from
    `get_extension`. For the webview, which the host is not asked for, it is
    what the GUI helper provides as `extHostWebview`. -/
structure ClapHost where
  get_extension : HostExtension → Nat

/-- The fields of `Plugin` that callbacks use. -/
structure PluginHost where
  host : ClapHost
  hostExt : HostExtension → Nat
  hostIstream : Nat
  hostOstream : Nat
  hostOutputEvents : Nat

namespace PluginHost

/-- A new `Plugin`: all pointers are `nullptr`. -/
def new (host : ClapHost) : PluginHost where
  host := host
  hostExt _ := 0
  hostIstream := 0
  hostOstream := 0
  hostOutputEvents := 0

/-- `GET_HOST_EXT`, and the assignment of `hostWebview`. -/
def getHostExt (p : PluginHost) (field : HostExtension) : PluginHost :=
  { p with hostExt := fun e => if e = field then p.host.get_extension field else p.hostExt e }

end PluginHost

open HostExtension in
/-- The assignments of `pluginInit` before it calls the guest, in order. -/
def pluginInitFields : List HostExtension :=
  [hostAmbisonic, hostAudioPortsConfig, hostAudioPorts, hostGui, hostLatency, hostLog,
    hostNoteName, hostNotePorts, hostParams, hostPresetLoad, hostRemoteControls, hostState,
    hostSurround, hostTail, hostThreadCheck, hostThreadPool, hostTimerSupport, hostTrackInfo,
    hostVoiceInfo, hostWebview]

/-- What a callback does: it returns a constant (none for `void`), the `Plugin`
    answers by itself, it calls a function of a host struct and returns what that
    returns, or it reads a function pointer through null. -/
inductive Forwarded where
  | returned (value : Option Int)
  | answered
  | called
  | nullDereference
  deriving DecidableEq

/-- `plugin->ext->method(...)`. -/
def callHost (ext : Nat) : Forwarded := if ext = 0 then .nullDereference else .called

/-- The common body of the callbacks: `if (plugin) return plugin->hostX->...`,
    and the value for an unknown plugin. -/
def forward (field : HostExtension) (noPlugin : Option Int) (plugin : Option PluginHost) :
    Forwarded :=
  match plugin with
  | some plugin => callHost (plugin.hostExt field)
  | none => .returned noPlugin

/-- The callbacks that go to the host struct itself, which is never null. -/
def forwardToHost (noPlugin : Option Int) (plugin : Option PluginHost) : Forwarded :=
  match plugin with
  | some _ => .called
  | none => .returned noPlugin

/-- The callbacks that go to a method of `Plugin`. -/
def forwardToPlugin (method : PluginHost → Forwarded) (noPlugin : Option Int)
    (plugin : Option PluginHost) : Forwarded :=
  match plugin with
  | some plugin => method plugin
  | none => .returned noPlugin

/-- `Plugin::istreamRead`, which checks the pointer. -/
def istreamRead (p : PluginHost) : Forwarded :=
  if p.hostIstream = 0 then .returned (some (-1)) else callHost p.hostIstream

/-- `Plugin::ostreamWrite`, which checks the pointer. -/
def ostreamWrite (p : PluginHost) : Forwarded :=
  if p.hostOstream = 0 then .returned (some (-1)) else callHost p.hostOstream

/-- The use of `hostOutputEvents` in `Plugin::outputEventsTryPush`, which checks
    the pointer; `Native.outputEventsTryPush` is about the event. -/
def outputEventsSink (p : PluginHost) : Forwarded :=
  if p.hostOutputEvents = 0 then .returned (some 0) else callHost p.hostOutputEvents

/-- `Plugin::webviewSend`. -/
def webviewSend (p : PluginHost) : Forwarded := callHost (p.hostExt .hostWebview)

open HostFunction in
/-- The static functions of `WclapModule`, by name. -/
def hostFunction (fn : HostFunction) (plugin : Option PluginHost) : Forwarded :=
  match fn with
  -- `get_extension` answers for the webview by itself, and else asks the host
  | hostTemplate_get_extension => forwardToHost (some 0) plugin
  | hostTemplate_request_restart => forwardToHost none plugin
  | hostTemplate_request_process => forwardToHost none plugin
  | hostTemplate_request_callback => forwardToHost none plugin
  | inputEventsTemplate_size => forwardToPlugin (fun _ => .answered) (some 0) plugin
  | inputEventsTemplate_get => forwardToPlugin (fun _ => .answered) (some 0) plugin
  | outputEventsTemplate_try_push => forwardToPlugin outputEventsSink (some 0) plugin
  | istreamTemplate_read => forwardToPlugin istreamRead (some (-1)) plugin
  | ostreamTemplate_write => forwardToPlugin ostreamWrite (some (-1)) plugin
  | hostAmbisonic_changed => forward .hostAmbisonic none plugin
  | hostAudioPortsConfig_rescan => forward .hostAudioPortsConfig none plugin
  | hostAudioPorts_is_rescan_flag_supported => forward .hostAudioPorts (some 0) plugin
  | hostAudioPorts_rescan => forward .hostAudioPorts none plugin
  | hostGui_resize_hints_changed => forward .hostGui none plugin
  | hostGui_request_resize => forward .hostGui (some 0) plugin
  | hostGui_request_show => forward .hostGui (some 0) plugin
  | hostGui_request_hide => forward .hostGui (some 0) plugin
  | hostGui_closed => forward .hostGui none plugin
  | hostLatency_changed => forward .hostLatency none plugin
  | hostLog_log => forward .hostLog none plugin
  | hostNoteName_changed => forward .hostNoteName none plugin
  | hostNotePorts_supported_dialects => forward .hostNotePorts (some 0) plugin
  | hostNotePorts_rescan => forward .hostNotePorts none plugin
  | hostParams_rescan => forward .hostParams none plugin
  | hostParams_clear => forward .hostParams none plugin
  | hostParams_request_flush => forward .hostParams none plugin
  | hostPresetLoad_on_error => forward .hostPresetLoad none plugin
  | hostPresetLoad_loaded => forward .hostPresetLoad none plugin
  | hostRemoteControls_changed => forward .hostRemoteControls none plugin
  | hostRemoteControls_suggest_page => forward .hostRemoteControls none plugin
  | hostState_mark_dirty => forward .hostState none plugin
  | hostSurround_changed => forward .hostSurround none plugin
  | hostTail_changed => forward .hostTail none plugin
  -- without a plugin, every thread is the main thread and the audio thread
  | hostThreadCheck_is_main_thread => forward .hostThreadCheck (some 1) plugin
  | hostThreadCheck_is_audio_thread => forward .hostThreadCheck (some 1) plugin
  | hostThreadPool_request_exec => forward .hostThreadPool (some 0) plugin
  | hostTimerSupport_register_timer => forward .hostTimerSupport (some 0) plugin
  | hostTimerSupport_unregister_timer => forward .hostTimerSupport (some 0) plugin
  | hostTrackInfo_get => forward .hostTrackInfo (some 0) plugin
  | hostVoiceInfo_changed => forward .hostVoiceInfo none plugin
  | hostWebview_send => forwardToPlugin webviewSend (some 0) plugin

/-! ## Runs -/

/-- The plugins by index, each with the number of the next assignment of its
    `pluginInit`, which is 0 before the call. -/
structure PluginTable where
  pluginList : Nat → Option (PluginHost × Nat)

/-- What the host and the guest can do. The steps of `pluginInit` are separate,
    because the guest can be called by the host (or by another thread) between
    them; `pluginInit` can be called again. -/
inductive PluginAction where
  | create (index : Nat) (host : ClapHost)
  | getHostExt (index i : Nat)
  | setStreams (index hostIstream hostOstream hostOutputEvents : Nat)
  | destroy (index : Nat)
  | guestCall (fn : HostFunction) (index : Nat)

namespace PluginTable

def init : PluginTable := ⟨fun _ => none⟩

def set (s : PluginTable) (index : Nat) (p : Option (PluginHost × Nat)) : PluginTable :=
  ⟨fun i => if i = index then p else s.pluginList i⟩

/-- `getPlugin`: any index, or none where the table has no plugin. -/
def getPlugin (s : PluginTable) (index : Nat) : Option PluginHost :=
  (s.pluginList index).map (·.1)

/-- One step. An index is retained once until it is released; assignment `i` of
    `pluginInit` comes after those before it. -/
def step (s : PluginTable) : PluginAction → Option PluginTable
  | .create index host =>
    match s.pluginList index with
    | none => some (s.set index (some (PluginHost.new host, 0)))
    | some _ => none
  | .getHostExt index i =>
    match s.pluginList index, pluginInitFields[i]? with
    | some (p, next), some field =>
      if i ≤ next then some (s.set index (some (p.getHostExt field, max next (i + 1)))) else none
    | _, _ => none
  | .setStreams index hostIstream hostOstream hostOutputEvents =>
    match s.pluginList index with
    | some (p, next) =>
      some (s.set index (some ({ p with hostIstream, hostOstream, hostOutputEvents }, next)))
    | none => none
  | .destroy index => some (s.set index none)
  | .guestCall _ _ => some s

/-- What a step does with the host. -/
def forwarded (s : PluginTable) : PluginAction → Forwarded
  | .guestCall fn index => hostFunction fn (s.getPlugin index)
  | _ => .returned none

end PluginTable

end WclapBridge.Native
