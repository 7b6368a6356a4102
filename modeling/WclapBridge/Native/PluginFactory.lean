import WclapBridge.ForStd.CString
import Mathlib.Data.List.Range

/-!
# The plugin factory

`PluginFactory` reads all descriptors of the guest's factory when it is made, and
the host finds copies of them, with the strings of `wclap_set_strings` around their
ids and names. `createPlugin` goes back from the id of a copy to the guest's.

The guest is given by what its factory answers, with the strings that its
pointers lead to.
-/

namespace WclapBridge.Native

/-- `clap_version`. -/
structure ClapVersion where
  major : UInt32
  minor : UInt32
  revision : UInt32
  deriving DecidableEq

/-- `wclap_plugin_descriptor`, with what its pointers lead to. -/
structure WclapPluginDescriptor where
  clap_version : ClapVersion
  id : Option CString
  name : Option CString
  vendor : Option CString
  url : Option CString
  manual_url : Option CString
  support_url : Option CString
  version : Option CString
  description : Option CString
  /-- The array, which is supposed to end with a null pointer. -/
  features : Nat → Option CString

/-- `wclap_plugin_factory`: its address, and what its functions return. -/
structure WclapPluginFactory where
  ptr : UInt64
  get_plugin_count : UInt32
  get_plugin_descriptor : UInt32 → Option WclapPluginDescriptor

/-- `clap_plugin_descriptor`. -/
structure ClapPluginDescriptor where
  clap_version : ClapVersion
  id : Option CString
  name : Option CString
  vendor : Option CString
  url : Option CString
  manual_url : Option CString
  support_url : Option CString
  version : Option CString
  description : Option CString
  /-- The array with its terminating null pointer. -/
  features : List (Option CString)
  deriving DecidableEq

/-- The strings of `config.h`. -/
structure BridgeStrings where
  pluginIdPrefix : CString
  pluginNamePrefix : CString
  pluginNameSuffix : CString

/-- `wclap_set_strings`. -/
def wclap_set_strings (idPrefix namePrefix nameSuffix : Option CString) : BridgeStrings where
  pluginIdPrefix := idPrefix.getD .empty
  pluginNamePrefix := namePrefix.getD .empty
  pluginNameSuffix := nameSuffix.getD .empty

/-- `"unknown-clap-id"`. -/
def unknownClapId : CString := ⟨"unknown-clap-id".toList.map Char.toUInt8, by decide⟩

/-- `"Unknown CLAP plugin"`. -/
def unknownClapPlugin : CString := ⟨"Unknown CLAP plugin".toList.map Char.toUInt8, by decide⟩

/-- `CLAP_PLUGIN_FACTORY_ID`. -/
def CLAP_PLUGIN_FACTORY_ID : CString := ⟨"clap.plugin-factory".toList.map Char.toUInt8, by decide⟩

/-- `PluginFactory`, without the containers which own the strings and arrays of its
    descriptors. -/
structure PluginFactory where
  ptr : UInt64
  descriptors : List ClapPluginDescriptor

/-- A plugin that was created: its address, and the index of its `desc`. -/
structure CreatedPlugin where
  ptr : UInt64
  desc : Nat
  deriving DecidableEq

/-- What `createPlugin` does: the ids for which it calls the guest's factory, and
    what it returns. -/
structure CreateResult where
  calls : List CString
  plugin : Option CreatedPlugin
  deriving DecidableEq

namespace PluginFactory

/-- `PluginFactory::readString`. `getString` returns 2048 characters at most. -/
def readString (ptr nullValue : Option CString) (before after : CString) : Option CString :=
  match ptr with
  | none => nullValue
  | some string => some (before ++ string.take 2048 ++ after)

/-- The loop over the features, from `featureIndex` on with `n` iterations to go. -/
def readFeatures (features : Nat → Option CString) : Nat → Nat → List (Option CString)
  | 0, _ => []
  | n + 1, featureIndex =>
    match features featureIndex with
    | none => []
    | some featureStr =>
      readString (some featureStr) none .empty .empty :: readFeatures features n (featureIndex + 1)

/-- The descriptor which the constructor makes of one of the guest. -/
def readDescriptor (strings : BridgeStrings) (wclapDesc : WclapPluginDescriptor) :
    ClapPluginDescriptor where
  clap_version := wclapDesc.clap_version
  id := readString wclapDesc.id unknownClapId strings.pluginIdPrefix .empty
  name :=
    readString wclapDesc.name unknownClapPlugin strings.pluginNamePrefix strings.pluginNameSuffix
  vendor := readString wclapDesc.vendor none .empty .empty
  url := readString wclapDesc.url none .empty .empty
  manual_url := readString wclapDesc.manual_url none .empty .empty
  support_url := readString wclapDesc.support_url none .empty .empty
  version := readString wclapDesc.version none .empty .empty
  description := readString wclapDesc.description none .empty .empty
  features := readFeatures wclapDesc.features 1000 0 ++ [none]

/-- The constructor. -/
def construct (strings : BridgeStrings) (factory : WclapPluginFactory) : PluginFactory where
  ptr := factory.ptr
  descriptors :=
    (List.range factory.get_plugin_count.toNat).filterMap fun i =>
      (factory.get_plugin_descriptor (UInt32.ofNat i)).map (readDescriptor strings)

/-- `PluginFactory::createPlugin`, or `none` where it reads outside of `pluginId`.
    `guestCreate` is the answer of the guest's `create_plugin`, null if the call fails. -/
def createPlugin (self : PluginFactory) (strings : BridgeStrings)
    (guestCreate : CString → UInt64) (pluginId : CString) : Option CreateResult :=
  match self.descriptors.findIdx? fun d => d.id = some pluginId with
  | none => some ⟨[], none⟩
  | some desc =>
    match pluginId.skip strings.pluginIdPrefix.size with
    | none => none
    | some strPtr =>
      let pluginPtr := guestCreate strPtr
      some ⟨[strPtr], if pluginPtr = 0 then none else some ⟨pluginPtr, desc⟩⟩

end PluginFactory

/-! ## The functions of a host -/

/-- The global strings, and the `pluginFactory` of an open WCLAP. -/
structure FactoryState where
  strings : BridgeStrings
  pluginFactory : Option PluginFactory

inductive FactoryAction where
  | wclap_set_strings (idPrefix namePrefix nameSuffix : Option CString)
  | getFactory (factoryId : CString)
  | create_plugin (pluginId : CString) (guestCreate : CString → UInt64)

namespace FactoryState

/-- `WclapModule::getFactory`: whether it returns a factory. -/
def getFactory (factory : WclapPluginFactory) (factoryId : CString) (s : FactoryState) :
    Bool × FactoryState :=
  if factoryId = CLAP_PLUGIN_FACTORY_ID then
    let pluginFactory := s.pluginFactory.getD (.construct s.strings factory)
    (pluginFactory.ptr ≠ 0, { s with pluginFactory := some pluginFactory })
  else (false, s)

/-- A host calls `create_plugin` of a factory that it has got. -/
def step (factory : WclapPluginFactory) (s : FactoryState) : FactoryAction → Option FactoryState
  | .wclap_set_strings idPrefix namePrefix nameSuffix =>
    some { s with strings := Native.wclap_set_strings idPrefix namePrefix nameSuffix }
  | .getFactory factoryId => some (s.getFactory factory factoryId).2
  | .create_plugin pluginId guestCreate =>
    match s.pluginFactory with
    | none => none
    | some self =>
      if self.ptr = 0 then none
      else (self.createPlugin s.strings guestCreate pluginId).map fun _ => s

end FactoryState

end WclapBridge.Native
