import WclapBridge.Native.Memory

/-!
# Plugin extensions

`Plugin::pluginGetExtension` asks the guest for an extension, keeps the address
it answers with, and returns a static struct whose methods read their function
pointers from that address.
-/

namespace WclapBridge.Native

variable {is64 : Bool}

/-- The extensions with a field in `Plugin`, in the order of the branches. -/
inductive PluginExtension where
  | ambisonic
  | audioPortsActivation
  | audioPortsConfig
  | audioPortsConfigInfo
  | audioPorts
  | configurableAudioPorts
  | gui
  | latency
  | noteName
  | notePorts
  | paramIndication
  | params
  | presetLoad
  | remoteControls
  | render
  | stateContext
  | state
  | surround
  | tail
  | threadPool
  | timerSupport
  | trackInfo
  | voiceInfo
  | webview
  deriving DecidableEq

/-- An extension id: `CLAP_EXT_*` of an extension above, or any other string. -/
inductive ExtensionId where
  | known (extension : PluginExtension)
  | other (id : String)
  deriving DecidableEq

/-- The fields `ambisonicExt`, …, `webviewExt` of `Plugin`. -/
structure PluginExts (is64 : Bool) where
  ext : PluginExtension → Pointer is64

namespace PluginExts

/-- A new `Plugin`. -/
def new : PluginExts is64 := ⟨fun _ => Pointer.null⟩

/-- Assign to a field. -/
def set (p : PluginExts is64) (extension : PluginExtension) (ptr : Pointer is64) :
    PluginExts is64 :=
  ⟨fun e => if e = extension then ptr else p.ext e⟩

end PluginExts

/-- The branches that keep the address and return the static struct. -/
def keepExtension (extension : PluginExtension) (wclapExt : Pointer is64)
    (p : PluginExts is64) : Option PluginExtension × PluginExts is64 :=
  (some extension, p.set extension wclapExt)

/-- The branch for `CLAP_EXT_GUI`. -/
def keepGui (wclapExt : Pointer is64) (p : PluginExts is64) :
    Option PluginExtension × PluginExts is64 :=
  let p := p.set .gui wclapExt
  let p := if p.ext .webview = Pointer.null then p.set .webview wclapExt else p
  -- the comment here speaks of the webview extension, the code tests the GUI one
  (if p.ext .gui ≠ Pointer.null then some .gui else none, p)

/-- `Plugin::pluginGetExtension`, after the guest's `get_extension` has returned
    `wclapExt`: the static struct, or `none` for `nullptr`, and the fields. -/
def pluginGetExtension (pluginExtId : ExtensionId) (wclapExt : Pointer is64)
    (p : PluginExts is64) : Option PluginExtension × PluginExts is64 :=
  if wclapExt = Pointer.null then (none, p)
  else
    match pluginExtId with
    | .known .gui => keepGui wclapExt p
    | .known extension => keepExtension extension wclapExt p
    | .other _ => (none, p)

/-! ## The branches -/

theorem pluginGetExtension_null (id : ExtensionId) (p : PluginExts is64) :
    pluginGetExtension id Pointer.null p = (none, p) := if_pos rfl

theorem pluginGetExtension_gui {wclapExt : Pointer is64} (h : wclapExt ≠ Pointer.null)
    (p : PluginExts is64) : pluginGetExtension (.known .gui) wclapExt p = keepGui wclapExt p :=
  if_neg h

theorem pluginGetExtension_known {wclapExt : Pointer is64} (h : wclapExt ≠ Pointer.null)
    {extension : PluginExtension} (he : extension ≠ .gui) (p : PluginExts is64) :
    pluginGetExtension (.known extension) wclapExt p = keepExtension extension wclapExt p := by
  cases extension <;> first | exact if_neg h | exact absurd rfl he

theorem pluginGetExtension_other (wclapExt : Pointer is64) (id : String) (p : PluginExts is64) :
    pluginGetExtension (.other id) wclapExt p = (none, p) := by
  by_cases h : wclapExt = Pointer.null
  · exact if_pos h
  · exact if_neg h

/-- The GUI branch keeps its address, also as that of the webview if there is
    none yet. -/
theorem keepGui_eq {wclapExt : Pointer is64} (h : wclapExt ≠ Pointer.null)
    (p : PluginExts is64) :
    keepGui wclapExt p = (some .gui, if p.ext .webview = Pointer.null
      then (p.set .gui wclapExt).set .webview wclapExt else p.set .gui wclapExt) := by
  have hgui : (if p.ext .webview = Pointer.null then (p.set .gui wclapExt).set .webview wclapExt
      else p.set .gui wclapExt).ext .gui = wclapExt := by
    split <;> rfl
  show (if (if p.ext .webview = Pointer.null then (p.set .gui wclapExt).set .webview wclapExt
      else p.set .gui wclapExt).ext .gui ≠ Pointer.null then some PluginExtension.gui else none,
    _) = _
  rw [hgui, if_pos h]
  rfl

end WclapBridge.Native
