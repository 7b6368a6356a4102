import WclapBridge.Native.GuestStrings

/-!
# Preset locations

The host tells the guest where a preset is, and the guest tells the host which preset
it has loaded, or failed to. A location is a kind and two strings, of which the host
may leave out either.
-/

namespace WclapBridge.Native

variable {is64 : Bool}

/-- `maxLogStringLength`. -/
def maxLogStringLength : Nat := 8192

/-- A preset location on the side of the host. -/
structure PresetLocation where
  location_kind : UInt32
  location : Option CString
  load_key : Option CString
  deriving DecidableEq

/-- The location as the guest gets it, or passes it back. -/
structure WPresetLocation (is64 : Bool) where
  location_kind : UInt32
  location : Pointer is64
  load_key : Pointer is64

/-- `if (string) ptr = scoped.writeString(string);` -/
def writeNullable (arena : Arena is64) (g : GuestState) (string : Option CString) :
    Pointer is64 × GuestState :=
  match string with
  | none => (Pointer.null, g)
  | some string => g.writeString arena string

/-- `Plugin::presetLoad_from_location`, up to its call of the guest, which decides the
    result. -/
def presetLoad_from_location (arena : Arena is64) (g : GuestState) (preset : PresetLocation) :
    WPresetLocation is64 × GuestState :=
  let (locationPtr, g) := writeNullable arena g preset.location
  let (loadKeyPtr, g) := writeNullable arena g preset.load_key
  (⟨preset.location_kind, locationPtr, loadKeyPtr⟩, g)

/-- `clap_host_preset_load.on_error`, as the host is called. -/
structure PresetError where
  preset : PresetLocation
  os_error : Int32
  msg : Option CString

/-- The two strings of a location. What the host is given is a `c_str()`. -/
def readPreset (mem : LinearMemory) (preset : WPresetLocation is64) : PresetLocation where
  location_kind := preset.location_kind
  location := some (mem.getString preset.location maxLogStringLength)
  load_key := some (mem.getString preset.load_key maxLogStringLength)

/-- `WclapModule::hostPresetLoad_on_error`: what the host is called with, if
    `getPlugin` finds the plugin. -/
def hostPresetLoad_on_error (mem : LinearMemory) (foundPlugin : Bool)
    (preset : WPresetLocation is64) (os_error : Int32) (msg : Pointer is64) :
    Option PresetError :=
  if foundPlugin then
    some ⟨readPreset mem preset, os_error, some (mem.getString msg maxLogStringLength)⟩
  else none

/-- `WclapModule::hostPresetLoad_loaded`. -/
def hostPresetLoad_loaded (mem : LinearMemory) (foundPlugin : Bool)
    (preset : WPresetLocation is64) : Option PresetLocation :=
  if foundPlugin then some (readPreset mem preset) else none

end WclapBridge.Native
