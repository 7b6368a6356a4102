import WclapBridge.Native.BridgePlugin
import WclapBridge.Native.PluginFactory

/-!
# The factories of the bridge plugin

A host lists the plugins of all open WCLAPs through one factory, and creates each of them
by its id: the bridge plugin finds the WCLAP which has the plugin, and calls its factory.

The lists of the bridge plugin have ids as texts; `CString.toText` has one character for
each byte.
-/

namespace WclapBridge.Native

theorem zero_not_mem_wclapIdPrefix : 0 ∉ "wclap:".toList.map Char.toUInt8 := by decide

/-- `"wclap:"`. -/
def wclapIdPrefix : CString := ⟨"wclap:".toList.map Char.toUInt8, zero_not_mem_wclapIdPrefix⟩

/-- `"[WCLAP] "`. -/
def wclapNamePrefix : CString := ⟨"[WCLAP] ".toList.map Char.toUInt8, by decide⟩

/-- The call of `wclap_set_strings` in `clap_init`. -/
def bridgeStrings : BridgeStrings :=
  wclap_set_strings (some wclapIdPrefix) (some wclapNamePrefix) (some .empty)

/-- What the list of the bridge plugin has of a descriptor. -/
def listedDescriptor (desc : ClapPluginDescriptor) : PluginDescriptor where
  id := (desc.id.getD .empty).toText
  version := desc.version.map CString.toText

/-- `Wclap::pluginFactory`, the answer to `CLAP_PLUGIN_FACTORY_ID` of a WCLAP that has just
    been opened. -/
def wclapPluginFactory (guest : WclapPluginFactory) : Option DescriptorList :=
  let (found, module) := FactoryState.getFactory guest CLAP_PLUGIN_FACTORY_ID ⟨bridgeStrings, none⟩
  if found then
    module.pluginFactory.map fun self => self.descriptors.map (some ∘ listedDescriptor)
  else none

/-- `create_plugin` of this factory. -/
def wclapCreate (guest : WclapPluginFactory) (guestCreate : CString → UInt64)
    (pluginId : CString) : Option CreateResult :=
  (PluginFactory.construct bridgeStrings guest).createPlugin bridgeStrings guestCreate pluginId

/-- What comes of a `create_plugin` of the bridge plugin. -/
inductive BridgeCreated where
  | null
  /-- The factory of a WCLAP is called. -/
  | called (handle : Nat) (result : CreateResult)
  /-- An index or a pointer which C++ does not define. -/
  | fault
  deriving DecidableEq

namespace BridgePlugin

def pluginFactory_get_plugin_count (p : BridgePlugin) : UInt32 :=
  UInt32.ofNat p.pluginList.length

def pluginFactory_get_plugin_descriptor (p : BridgePlugin) (index : UInt32) :
    Option PluginDescriptor :=
  p.pluginList[index.toNat]?.map ListedPlugin.desc

/-- `create` is what the factories of the WCLAPs do, by their handles. -/
def pluginFactory_create_plugin (p : BridgePlugin)
    (create : Nat → CString → Option CreateResult) (pluginId : CString) : BridgeCreated :=
  match p.pluginList.find? fun plugin => pluginId.toText = plugin.desc.id with
  | none => .null
  | some plugin =>
    match p.wclapList[plugin.wclapIndex]? with
    | none => .fault
    | some wclap =>
      match wclap.pluginFactory, create wclap.handle pluginId with
      | some _, some result => .called wclap.handle result
      | _, _ => .fault

def pluginInvalidationFactory_count (p : BridgePlugin) : UInt32 :=
  UInt32.ofNat p.invalidations.length

def pluginInvalidationFactory_get (p : BridgePlugin) (index : UInt32) :
    Option InvalidationSource :=
  p.invalidations[index.toNat]?

end BridgePlugin

end WclapBridge.Native
