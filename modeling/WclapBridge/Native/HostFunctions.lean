/-!
# Host functions

The functions which `WclapModule` registers in the guest's function table, and
the host extensions they forward to. `addHostFunctions` registers them in the
order of `hostFunctions`.
-/

namespace WclapBridge.Native

/-- The `hostX` pointers of `Plugin`, each a `clap_host_*` struct of the host. -/
inductive HostExtension where
  | hostAmbisonic
  | hostAudioPortsConfig
  | hostAudioPorts
  | hostGui
  | hostLatency
  | hostLog
  | hostNoteName
  | hostNotePorts
  | hostParams
  | hostPresetLoad
  | hostRemoteControls
  | hostState
  | hostSurround
  | hostTail
  | hostThreadCheck
  | hostThreadPool
  | hostTimerSupport
  | hostTrackInfo
  | hostVoiceInfo
  | hostWebview
  deriving DecidableEq

/-- The registered functions, named after the struct and the field in which
    `HOST_METHOD` puts their table index. -/
inductive HostFunction where
  | hostTemplate_get_extension
  | hostTemplate_request_restart
  | hostTemplate_request_process
  | hostTemplate_request_callback
  | inputEventsTemplate_size
  | inputEventsTemplate_get
  | outputEventsTemplate_try_push
  | istreamTemplate_read
  | ostreamTemplate_write
  | hostAmbisonic_changed
  | hostAudioPortsConfig_rescan
  | hostAudioPorts_is_rescan_flag_supported
  | hostAudioPorts_rescan
  | hostGui_resize_hints_changed
  | hostGui_request_resize
  | hostGui_request_show
  | hostGui_request_hide
  | hostGui_closed
  | hostLatency_changed
  | hostLog_log
  | hostNoteName_changed
  | hostNotePorts_supported_dialects
  | hostNotePorts_rescan
  | hostParams_rescan
  | hostParams_clear
  | hostParams_request_flush
  | hostPresetLoad_on_error
  | hostPresetLoad_loaded
  | hostRemoteControls_changed
  | hostRemoteControls_suggest_page
  | hostState_mark_dirty
  | hostSurround_changed
  | hostTail_changed
  | hostThreadCheck_is_main_thread
  | hostThreadCheck_is_audio_thread
  | hostThreadPool_request_exec
  | hostTimerSupport_register_timer
  | hostTimerSupport_unregister_timer
  | hostTrackInfo_get
  | hostVoiceInfo_changed
  | hostWebview_send
  deriving DecidableEq

open HostFunction in
/-- The registrations of `addHostFunctions`, in order. -/
def hostFunctions : List HostFunction :=
  [hostTemplate_get_extension, hostTemplate_request_restart, hostTemplate_request_process,
    hostTemplate_request_callback,
    inputEventsTemplate_size, inputEventsTemplate_get, outputEventsTemplate_try_push,
    istreamTemplate_read, ostreamTemplate_write,
    hostAmbisonic_changed,
    hostAudioPortsConfig_rescan,
    hostAudioPorts_is_rescan_flag_supported, hostAudioPorts_rescan,
    hostGui_resize_hints_changed, hostGui_request_resize, hostGui_request_show,
    hostGui_request_hide, hostGui_closed,
    hostLatency_changed,
    hostLog_log,
    hostNoteName_changed,
    hostNotePorts_supported_dialects, hostNotePorts_rescan,
    hostParams_rescan, hostParams_clear, hostParams_request_flush,
    hostPresetLoad_on_error, hostPresetLoad_loaded,
    hostRemoteControls_changed, hostRemoteControls_suggest_page,
    hostState_mark_dirty,
    hostSurround_changed,
    hostTail_changed,
    hostThreadCheck_is_main_thread, hostThreadCheck_is_audio_thread,
    hostThreadPool_request_exec,
    hostTimerSupport_register_timer, hostTimerSupport_unregister_timer,
    hostTrackInfo_get,
    hostVoiceInfo_changed,
    hostWebview_send]

/-- Every host function is registered once. -/
theorem hostFunctions_nodup : hostFunctions.Nodup := by
  decide

theorem mem_hostFunctions (fn : HostFunction) : fn ∈ hostFunctions := by
  cases fn <;> decide

end WclapBridge.Native
