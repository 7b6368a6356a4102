import WclapBridge.ForStd.Loop
import WclapBridge.Native.PluginFactory

/-!
# The containers of the plugin factory

The descriptors which `PluginFactory` hands out are full of pointers: into the strings
that it owns, and to the buffers of its feature arrays. All three containers grow while
the descriptors of the guest are read.

A string is owned by a `std::unique_ptr` and stays where it is. A `std::vector` has its
elements in a buffer, and moves to a new one when it is full; a vector of vectors that
moves takes the buffers of its elements along.
-/

namespace WclapBridge.Native

/-- A `const char *` in a descriptor or in a feature array. -/
inductive HostString where
  | null
  | literal (string : CString)
  /-- The characters of one of the `strings`. -/
  | owned (index : Nat)

/-- A `std::vector<const char *>`, by the address of its buffer. -/
structure FeatureArray where
  data : Option Nat
  elements : List HostString
  capacity : Nat

/-- A new vector. -/
def FeatureArray.empty : FeatureArray := ⟨none, [], 0⟩

/-- A `clap_plugin_descriptor` with its pointers. -/
structure HostDescriptor where
  clap_version : ClapVersion
  id : HostString
  name : HostString
  vendor : HostString
  url : HostString
  manual_url : HostString
  support_url : HostString
  version : HostString
  description : HostString
  /-- The address of a buffer. -/
  features : Option Nat

/-- `strings`, `featureArrays` and `descriptors`, and the address that the next buffer
    will have. -/
structure DescriptorStore where
  strings : List CString
  featureArrays : List FeatureArray
  descriptors : List HostDescriptor
  nextBuffer : Nat

namespace DescriptorStore

/-- The containers of a new factory. -/
def empty : DescriptorStore := ⟨[], [], [], 0⟩

/-! ## The constructor -/

/-- `PluginFactory::readString`. -/
def readString (s : DescriptorStore) (ptr : Option CString) (nullValue : HostString)
    (before after : CString) : HostString × DescriptorStore :=
  match ptr with
  | none => (nullValue, s)
  | some string =>
    (.owned s.strings.length,
      { s with strings := s.strings ++ [before ++ string.take 2048 ++ after] })

/-- The descriptor as it is pushed, with its strings. Its `features` are assigned later. -/
def readStrings (strings : BridgeStrings) (wclapDesc : WclapPluginDescriptor)
    (s : DescriptorStore) : HostDescriptor × DescriptorStore :=
  let (id, s) :=
    s.readString wclapDesc.id (.literal unknownClapId) strings.pluginIdPrefix .empty
  let (name, s) :=
    s.readString wclapDesc.name (.literal unknownClapPlugin) strings.pluginNamePrefix
      strings.pluginNameSuffix
  let (vendor, s) := s.readString wclapDesc.vendor .null .empty .empty
  let (url, s) := s.readString wclapDesc.url .null .empty .empty
  let (manual_url, s) := s.readString wclapDesc.manual_url .null .empty .empty
  let (support_url, s) := s.readString wclapDesc.support_url .null .empty .empty
  let (version, s) := s.readString wclapDesc.version .null .empty .empty
  let (description, s) := s.readString wclapDesc.description .null .empty .empty
  (⟨wclapDesc.clap_version, id, name, vendor, url, manual_url, support_url, version, description,
    none⟩, s)

/-- `featureArray.push_back(value)` for the vector at an index. `grow` is the capacity
    that a full vector asks for. -/
def pushFeature (grow : Nat → Nat) (s : DescriptorStore) (featureArray : Nat)
    (value : HostString) : DescriptorStore :=
  match s.featureArrays[featureArray]? with
  | none => s
  | some array =>
    if array.elements.length < array.capacity then
      { s with
        featureArrays :=
          s.featureArrays.set featureArray { array with elements := array.elements ++ [value] } }
    else
      { s with
        featureArrays := s.featureArrays.set featureArray
          { data := some s.nextBuffer
            elements := array.elements ++ [value]
            capacity := max (grow array.capacity) (array.elements.length + 1) }
        nextBuffer := s.nextBuffer + 1 }

/-- The loop over the features, from `featureIndex` on with `n` iterations to go. -/
def readFeatures (grow : Nat → Nat) (features : Nat → Option CString) (featureArray : Nat) :
    Nat → Nat → DescriptorStore → DescriptorStore
  | 0, _, s => s
  | n + 1, featureIndex, s =>
    match features featureIndex with
    | none => s
    | some featureStr =>
      let (string, s) := s.readString (some featureStr) .null .empty .empty
      readFeatures grow features featureArray n (featureIndex + 1)
        (s.pushFeature grow featureArray string)

/-- `desc.features = featureArray.data()`. -/
def assignFeatures (s : DescriptorStore) (desc featureArray : Nat) : DescriptorStore :=
  { s with
    descriptors := s.descriptors.modify desc fun d =>
      { d with features := s.featureArrays[featureArray]?.bind FeatureArray.data } }

/-- An iteration of the loop over the descriptors, for one that is not null. -/
def addDescriptor (grow : Nat → Nat) (strings : BridgeStrings)
    (wclapDesc : WclapPluginDescriptor) (s : DescriptorStore) : DescriptorStore :=
  let (desc, s) := s.readStrings strings wclapDesc
  let s := { s with descriptors := s.descriptors ++ [desc] }
  let desc := s.descriptors.length - 1
  let s := { s with featureArrays := s.featureArrays ++ [FeatureArray.empty] }
  let featureArray := s.featureArrays.length - 1
  let s := s.readFeatures grow wclapDesc.features featureArray 1000 0
  -- feature array is itself null-terminated
  let s := s.pushFeature grow featureArray .null
  s.assignFeatures desc featureArray

/-- An iteration of the loop over the descriptors. -/
def readDescriptor (grow : Nat → Nat) (strings : BridgeStrings) (factory : WclapPluginFactory)
    (i : Nat) (s : DescriptorStore) : DescriptorStore :=
  match factory.get_plugin_descriptor (UInt32.ofNat i) with
  | none => s
  | some wclapDesc => s.addDescriptor grow strings wclapDesc

/-- The containers after a number of iterations. -/
def readUpTo (grow : Nat → Nat) (strings : BridgeStrings) (factory : WclapPluginFactory)
    (n : Nat) : DescriptorStore :=
  forLoop n (readDescriptor grow strings factory) empty

/-- The constructor. -/
def construct (grow : Nat → Nat) (strings : BridgeStrings) (factory : WclapPluginFactory) :
    DescriptorStore :=
  readUpTo grow strings factory factory.get_plugin_count.toNat

/-! ## The functions of the host's factory -/

/-- `PluginFactory::get_plugin_count`. -/
def get_plugin_count (s : DescriptorStore) : UInt32 :=
  UInt32.ofNat s.descriptors.length

/-- `PluginFactory::get_plugin_descriptor`. -/
def get_plugin_descriptor (s : DescriptorStore) (index : UInt32) : Option HostDescriptor :=
  if index.toNat ≥ s.descriptors.length then none else s.descriptors[index.toNat]?

/-! ## What the pointers lead to -/

end DescriptorStore

/-- The string at a pointer, or `none` if there is nothing. -/
def HostString.read (strings : List CString) : HostString → Option (Option CString)
  | null => some none
  | literal string => some (some string)
  | owned index => strings[index]?.map some

namespace DescriptorStore

/-- The strings of an array, by the address of its buffer. -/
def readArray (s : DescriptorStore) (features : Option Nat) : Option (List (Option CString)) := do
  let data ← features
  let array ← s.featureArrays.find? fun array => array.data = some data
  array.elements.mapM (HostString.read s.strings)

/-- What the host finds in a descriptor, or `none` if a pointer dangles. -/
def read (s : DescriptorStore) (desc : HostDescriptor) : Option ClapPluginDescriptor := do
  return {
    clap_version := desc.clap_version
    id := ← desc.id.read s.strings
    name := ← desc.name.read s.strings
    vendor := ← desc.vendor.read s.strings
    url := ← desc.url.read s.strings
    manual_url := ← desc.manual_url.read s.strings
    support_url := ← desc.support_url.read s.strings
    version := ← desc.version.read s.strings
    description := ← desc.description.read s.strings
    features := ← s.readArray desc.features }

end DescriptorStore

end WclapBridge.Native
