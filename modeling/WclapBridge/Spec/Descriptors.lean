import Mathlib.Data.List.Forall2
import WclapBridge.ForStd.List
import WclapBridge.Native.DescriptorStore
import WclapBridge.Spec.PluginIds

/-!
# The descriptors which a host finds

The factory copies the descriptors of the guest into containers which refer to one
another. What the host reads through the pointers are the guest's descriptors, without
those that are null; and what it could read at any point while the factory was made, it
still reads in the end.

## Key results

- `addDescriptor_spec`: what one more descriptor adds
- `construct_read`: the pointers lead to what `PluginFactory.construct` says
- `descriptors_enumerated`: the functions of the host's factory
-/

namespace WclapBridge.Spec

open WclapBridge.Native

variable {s t : DescriptorStore} {grow : Nat → Nat} {strings : BridgeStrings}
  {factory : WclapPluginFactory}

/-- A descriptor of the guest in the host's words. -/
structure DescriptorCopy (strings : BridgeStrings) (wclapDesc : WclapPluginDescriptor)
    (desc : ClapPluginDescriptor) : Prop where
  clap_version : desc.clap_version = wclapDesc.clap_version
  id_null : wclapDesc.id = none → desc.id = some unknownClapId
  id : ∀ id, wclapDesc.id = some id →
    desc.id = some (strings.pluginIdPrefix ++ id.take 2048)
  name_null : wclapDesc.name = none → desc.name = some unknownClapPlugin
  name : ∀ name, wclapDesc.name = some name →
    desc.name = some (strings.pluginNamePrefix ++ name.take 2048 ++ strings.pluginNameSuffix)
  vendor : desc.vendor = wclapDesc.vendor.map fun string => string.take 2048
  url : desc.url = wclapDesc.url.map fun string => string.take 2048
  manual_url : desc.manual_url = wclapDesc.manual_url.map fun string => string.take 2048
  support_url : desc.support_url = wclapDesc.support_url.map fun string => string.take 2048
  version : desc.version = wclapDesc.version.map fun string => string.take 2048
  description : desc.description = wclapDesc.description.map fun string => string.take 2048
  /-- The features up to the first null pointer, or the first 1000, and a null pointer. -/
  features : ∃ n ≤ 1000, (∀ i < n, wclapDesc.features i ≠ none) ∧
    (n < 1000 → wclapDesc.features n = none) ∧
    desc.features =
      (List.range n).map (fun i => (wclapDesc.features i).map fun string => string.take 2048) ++
        [none]

/-- What a host is to find in the factory. -/
structure DescriptorsEnumerated (grow : Nat → Nat) (strings : BridgeStrings)
    (factory : WclapPluginFactory) : Prop where
  count : (DescriptorStore.construct grow strings factory).get_plugin_count.toNat =
    (guestDescriptors factory).length
  behind : ∀ index : UInt32, (guestDescriptors factory).length ≤ index.toNat →
    (DescriptorStore.construct grow strings factory).get_plugin_descriptor index = none
  copies : ∀ (index : UInt32) (wclapDesc : WclapPluginDescriptor),
    (guestDescriptors factory)[index.toNat]? = some wclapDesc →
    ∃ desc host,
      (DescriptorStore.construct grow strings factory).get_plugin_descriptor index = some desc ∧
      (DescriptorStore.construct grow strings factory).read desc = some host ∧
      DescriptorCopy strings wclapDesc host
  /-- What could be read after some iterations can be read after more. -/
  kept : ∀ (i j k : Nat) (desc : HostDescriptor) (host : ClapPluginDescriptor), i ≤ j →
    (DescriptorStore.readUpTo grow strings factory i).descriptors[k]? = some desc →
    (DescriptorStore.readUpTo grow strings factory i).read desc = some host →
    (DescriptorStore.readUpTo grow strings factory j).descriptors[k]? = some desc ∧
      (DescriptorStore.readUpTo grow strings factory j).read desc = some host

/-! ## Pointers that stay valid -/

/-- The containers have grown. -/
structure StoreExtends (s t : DescriptorStore) : Prop where
  strings : s.strings <+: t.strings
  featureArrays : s.featureArrays <+: t.featureArrays
  descriptors : s.descriptors <+: t.descriptors
  nextBuffer : s.nextBuffer ≤ t.nextBuffer

namespace StoreExtends

theorem refl (s : DescriptorStore) : StoreExtends s s :=
  ⟨List.prefix_rfl, List.prefix_rfl, List.prefix_rfl, Nat.le_refl _⟩

theorem trans {u : DescriptorStore} (h : StoreExtends s t) (h' : StoreExtends t u) :
    StoreExtends s u :=
  ⟨h.strings.trans h'.strings, h.featureArrays.trans h'.featureArrays,
    h.descriptors.trans h'.descriptors, Nat.le_trans h.nextBuffer h'.nextBuffer⟩

end StoreExtends

theorem hostString_extends {owned owned' : List CString} (h : owned <+: owned') {x : HostString}
    {string : Option CString} (hx : x.read owned = some string) : x.read owned' = some string := by
  cases x with
  | null => exact hx
  | literal string => exact hx
  | owned index =>
    -- the string has its place in the first part of the list
    obtain ⟨string, hstring, rfl⟩ := Option.map_eq_some_iff.mp hx
    obtain ⟨rest, rfl⟩ := h
    obtain ⟨hindex, -⟩ := List.getElem?_eq_some_iff.mp hstring
    rw [HostString.read, List.getElem?_append_left hindex, hstring]
    rfl

theorem readArray_extends (h : StoreExtends s t) {features : Option Nat}
    {texts : List (Option CString)} (hx : s.readArray features = some texts) :
    t.readArray features = some texts := by
  simp only [DescriptorStore.readArray, Option.bind_eq_bind, Option.bind_eq_some_iff] at hx ⊢
  obtain ⟨data, hdata, array, harray, htexts⟩ := hx
  -- the search for the buffer ends before the arrays that were added
  obtain ⟨rest, hrest⟩ := h.featureArrays
  refine ⟨data, hdata, array, ?_, List.mapM_mono (fun _ _ => hostString_extends h.strings) htexts⟩
  rw [← hrest, List.find?_append, harray]
  rfl

/-- The fields of a descriptor that is read. -/
structure DescriptorReads (s : DescriptorStore) (desc : HostDescriptor)
    (host : ClapPluginDescriptor) : Prop where
  clap_version : desc.clap_version = host.clap_version
  id : desc.id.read s.strings = some host.id
  name : desc.name.read s.strings = some host.name
  vendor : desc.vendor.read s.strings = some host.vendor
  url : desc.url.read s.strings = some host.url
  manual_url : desc.manual_url.read s.strings = some host.manual_url
  support_url : desc.support_url.read s.strings = some host.support_url
  version : desc.version.read s.strings = some host.version
  description : desc.description.read s.strings = some host.description
  features : s.readArray desc.features = some host.features

theorem read_eq_some_iff {desc : HostDescriptor} {host : ClapPluginDescriptor} :
    s.read desc = some host ↔ DescriptorReads s desc host := by
  simp only [DescriptorStore.read, Option.bind_eq_bind, Option.bind_eq_some_iff]
  constructor
  · rintro ⟨id, hid, name, hname, vendor, hvendor, url, hurl, manual_url, hmanual, support_url,
      hsupport, version, hversion, description, hdescription, features, hfeatures, heq⟩
    cases heq
    exact ⟨rfl, hid, hname, hvendor, hurl, hmanual, hsupport, hversion, hdescription, hfeatures⟩
  · rintro ⟨hclap, hid, hname, hvendor, hurl, hmanual, hsupport, hversion, hdescription,
      hfeatures⟩
    refine ⟨_, hid, _, hname, _, hvendor, _, hurl, _, hmanual, _, hsupport, _, hversion, _,
      hdescription, _, hfeatures, ?_⟩
    rw [hclap]
    rfl

/-- A descriptor is not affected by later ones. -/
theorem read_extends (h : StoreExtends s t) {desc : HostDescriptor} {host : ClapPluginDescriptor}
    (hread : s.read desc = some host) : t.read desc = some host := by
  rw [read_eq_some_iff] at hread ⊢
  exact ⟨hread.clap_version, hostString_extends h.strings hread.id,
    hostString_extends h.strings hread.name, hostString_extends h.strings hread.vendor,
    hostString_extends h.strings hread.url, hostString_extends h.strings hread.manual_url,
    hostString_extends h.strings hread.support_url, hostString_extends h.strings hread.version,
    hostString_extends h.strings hread.description, readArray_extends h hread.features⟩

/-! ## The strings of a descriptor -/

/-- Only strings have been added. -/
structure StringsAdded (s t : DescriptorStore) : Prop where
  strings : s.strings <+: t.strings
  featureArrays : t.featureArrays = s.featureArrays
  descriptors : t.descriptors = s.descriptors
  nextBuffer : t.nextBuffer = s.nextBuffer

theorem StringsAdded.trans {u : DescriptorStore} (h : StringsAdded s t) (h' : StringsAdded t u) :
    StringsAdded s u :=
  ⟨h.strings.trans h'.strings, h'.featureArrays.trans h.featureArrays,
    h'.descriptors.trans h.descriptors, h'.nextBuffer.trans h.nextBuffer⟩

/-- A pointer that is read is a string of its own. -/
theorem storeString_spec (s : DescriptorStore) (ptr : Option CString) {nullValue : HostString}
    {nullText : Option CString} (hnull : ∀ owned, nullValue.read owned = some nullText)
    (before after : CString) :
    StringsAdded s (s.readString ptr nullValue before after).2 ∧
      (s.readString ptr nullValue before after).1.read
          (s.readString ptr nullValue before after).2.strings =
        some (PluginFactory.readString ptr nullText before after) := by
  cases ptr with
  | none => exact ⟨⟨List.prefix_rfl, rfl, rfl, rfl⟩, hnull _⟩
  | some string =>
    refine ⟨⟨List.prefix_append _ _, rfl, rfl, rfl⟩, ?_⟩
    simp only [DescriptorStore.readString, HostString.read, List.getElem?_concat_length]
    rfl

/-- The pointers of a descriptor that is pushed lead to its strings. -/
structure StringsRead (strings : BridgeStrings) (wclapDesc : WclapPluginDescriptor)
    (desc : HostDescriptor) (owned : List CString) : Prop where
  clap_version : desc.clap_version = wclapDesc.clap_version
  id : desc.id.read owned = some (PluginFactory.readDescriptor strings wclapDesc).id
  name : desc.name.read owned = some (PluginFactory.readDescriptor strings wclapDesc).name
  vendor : desc.vendor.read owned = some (PluginFactory.readDescriptor strings wclapDesc).vendor
  url : desc.url.read owned = some (PluginFactory.readDescriptor strings wclapDesc).url
  manual_url :
    desc.manual_url.read owned = some (PluginFactory.readDescriptor strings wclapDesc).manual_url
  support_url :
    desc.support_url.read owned = some (PluginFactory.readDescriptor strings wclapDesc).support_url
  version : desc.version.read owned = some (PluginFactory.readDescriptor strings wclapDesc).version
  description :
    desc.description.read owned = some (PluginFactory.readDescriptor strings wclapDesc).description

theorem StringsRead.extends {wclapDesc : WclapPluginDescriptor} {desc : HostDescriptor}
    {owned owned' : List CString} (h : StringsRead strings wclapDesc desc owned)
    (hext : owned <+: owned') : StringsRead strings wclapDesc desc owned' :=
  ⟨h.clap_version, hostString_extends hext h.id, hostString_extends hext h.name,
    hostString_extends hext h.vendor, hostString_extends hext h.url,
    hostString_extends hext h.manual_url, hostString_extends hext h.support_url,
    hostString_extends hext h.version, hostString_extends hext h.description⟩

theorem readStrings_spec (s : DescriptorStore) (strings : BridgeStrings)
    (wclapDesc : WclapPluginDescriptor) :
    StringsAdded s (s.readStrings strings wclapDesc).2 ∧
      StringsRead strings wclapDesc (s.readStrings strings wclapDesc).1
        (s.readStrings strings wclapDesc).2.strings := by
  have hnull : ∀ owned, HostString.null.read owned = some none := fun _ => rfl
  have hnoId : ∀ owned, (HostString.literal unknownClapId).read owned =
      some (some unknownClapId) := fun _ => rfl
  have hnoName : ∀ owned, (HostString.literal unknownClapPlugin).read owned =
      some (some unknownClapPlugin) := fun _ => rfl
  -- the states after each of the strings
  let s₁ := (s.readString wclapDesc.id (.literal unknownClapId) strings.pluginIdPrefix .empty).2
  let s₂ := (s₁.readString wclapDesc.name (.literal unknownClapPlugin) strings.pluginNamePrefix
    strings.pluginNameSuffix).2
  let s₃ := (s₂.readString wclapDesc.vendor .null .empty .empty).2
  let s₄ := (s₃.readString wclapDesc.url .null .empty .empty).2
  let s₅ := (s₄.readString wclapDesc.manual_url .null .empty .empty).2
  let s₆ := (s₅.readString wclapDesc.support_url .null .empty .empty).2
  let s₇ := (s₆.readString wclapDesc.version .null .empty .empty).2
  let s₈ := (s₇.readString wclapDesc.description .null .empty .empty).2
  obtain ⟨h₁, hid⟩ := storeString_spec s wclapDesc.id hnoId strings.pluginIdPrefix .empty
  obtain ⟨h₂, hname⟩ := storeString_spec s₁ wclapDesc.name hnoName strings.pluginNamePrefix
    strings.pluginNameSuffix
  obtain ⟨h₃, hvendor⟩ := storeString_spec s₂ wclapDesc.vendor hnull .empty .empty
  obtain ⟨h₄, hurl⟩ := storeString_spec s₃ wclapDesc.url hnull .empty .empty
  obtain ⟨h₅, hmanual⟩ := storeString_spec s₄ wclapDesc.manual_url hnull .empty .empty
  obtain ⟨h₆, hsupport⟩ := storeString_spec s₅ wclapDesc.support_url hnull .empty .empty
  obtain ⟨h₇, hversion⟩ := storeString_spec s₆ wclapDesc.version hnull .empty .empty
  obtain ⟨h₈, hdescription⟩ := storeString_spec s₇ wclapDesc.description hnull .empty .empty
  -- a string stays where it is while the later ones are read
  have k₇ : StringsAdded s₇ s₈ := h₈
  have k₆ : StringsAdded s₆ s₈ := h₇.trans k₇
  have k₅ : StringsAdded s₅ s₈ := h₆.trans k₆
  have k₄ : StringsAdded s₄ s₈ := h₅.trans k₅
  have k₃ : StringsAdded s₃ s₈ := h₄.trans k₄
  have k₂ : StringsAdded s₂ s₈ := h₃.trans k₃
  have k₁ : StringsAdded s₁ s₈ := h₂.trans k₂
  exact ⟨h₁.trans k₁, rfl, hostString_extends k₁.strings hid, hostString_extends k₂.strings hname,
    hostString_extends k₃.strings hvendor, hostString_extends k₄.strings hurl,
    hostString_extends k₅.strings hmanual, hostString_extends k₆.strings hsupport,
    hostString_extends k₇.strings hversion, hdescription⟩

/-! ## The feature array of a descriptor -/

/-- The last feature array is `array`, and its buffer is not one of those before
    `firstBuffer`. -/
structure Filling (old : List FeatureArray) (firstBuffer : Nat) (s : DescriptorStore)
    (array : FeatureArray) : Prop where
  featureArrays : s.featureArrays = old ++ [array]
  data : ∀ data, array.data = some data → firstBuffer ≤ data ∧ data < s.nextBuffer
  /-- There is room only in a buffer. -/
  capacity : 0 < array.capacity → array.data.isSome
  nextBuffer : firstBuffer ≤ s.nextBuffer

variable {old : List FeatureArray} {firstBuffer : Nat} {array : FeatureArray}

theorem Filling.of_added (h : Filling old firstBuffer s array) (hadd : StringsAdded s t) :
    Filling old firstBuffer t array := by
  refine ⟨hadd.featureArrays.trans h.featureArrays, fun data hdata => ?_, h.capacity, ?_⟩
  · rw [hadd.nextBuffer]
    exact h.data data hdata
  · rw [hadd.nextBuffer]
    exact h.nextBuffer

/-- A value is pushed to the array, which has a buffer then. -/
theorem pushFeature_spec (h : Filling old firstBuffer s array) (grow : Nat → Nat)
    (value : HostString) : ∃ array',
      Filling old firstBuffer (s.pushFeature grow old.length value) array' ∧
      array'.elements = array.elements ++ [value] ∧ array'.data.isSome ∧
      (s.pushFeature grow old.length value).strings = s.strings ∧
      (s.pushFeature grow old.length value).descriptors = s.descriptors := by
  have hlast : s.featureArrays[old.length]? = some array := by
    rw [h.featureArrays, List.getElem?_concat_length]
  have hset (array' : FeatureArray) :
      s.featureArrays.set old.length array' = old ++ [array'] := by
    rw [h.featureArrays, List.set_append_right _ _ (Nat.le_refl _), Nat.sub_self]
    rfl
  unfold DescriptorStore.pushFeature
  rw [hlast]
  dsimp only
  split
  next hlt =>
    -- there is room, so there is a buffer
    exact ⟨_, ⟨hset _, h.data, h.capacity, h.nextBuffer⟩, rfl,
      h.capacity (Nat.zero_lt_of_lt hlt), rfl, rfl⟩
  next =>
    -- the vector moves to a new buffer
    refine ⟨_, ⟨hset _, fun data hdata => ?_, fun _ => rfl, Nat.le_succ_of_le h.nextBuffer⟩, rfl,
      rfl, rfl, rfl⟩
    cases hdata
    exact ⟨h.nextBuffer, Nat.lt_succ_self _⟩

/-- The loop over the features pushes their strings. -/
theorem readFeatures_spec (h : Filling old firstBuffer s array) (grow : Nat → Nat)
    (features : Nat → Option CString) (n featureIndex : Nat) : ∃ array' added,
      Filling old firstBuffer (s.readFeatures grow features old.length n featureIndex) array' ∧
      array'.elements = array.elements ++ added ∧
      added.mapM (HostString.read
          (s.readFeatures grow features old.length n featureIndex).strings) =
        some (PluginFactory.readFeatures features n featureIndex) ∧
      s.strings <+: (s.readFeatures grow features old.length n featureIndex).strings ∧
      (s.readFeatures grow features old.length n featureIndex).descriptors = s.descriptors := by
  induction n generalizing s array featureIndex with
  | zero => exact ⟨array, [], h, (List.append_nil _).symm, rfl, List.prefix_rfl, rfl⟩
  | succ n ih =>
    rw [DescriptorStore.readFeatures, PluginFactory.readFeatures]
    cases features featureIndex with
    | none => exact ⟨array, [], h, (List.append_nil _).symm, rfl, List.prefix_rfl, rfl⟩
    | some featureStr =>
      dsimp only
      have hnull : ∀ owned, HostString.null.read owned = some none := fun _ => rfl
      -- the string is read, and pushed, and the loop goes on
      let r := s.readString (some featureStr) .null .empty .empty
      obtain ⟨hadd, hstring⟩ := storeString_spec s (some featureStr) hnull .empty .empty
      obtain ⟨array₁, hfill, helements, -, hstrings, hdescriptors⟩ :=
        pushFeature_spec (h.of_added hadd) grow r.1
      obtain ⟨array', added, hfill', helements', hread, hgrown, hkept⟩ :=
        ih hfill (featureIndex + 1)
      rw [hstrings] at hgrown
      refine ⟨array', r.1 :: added, hfill', ?_, ?_, hadd.strings.trans hgrown,
        hkept.trans (hdescriptors.trans hadd.descriptors)⟩
      · rw [helements', helements, List.append_assoc, List.singleton_append]
      · -- the string of this feature is still there after the later ones
        rw [List.mapM_cons, hostString_extends hgrown hstring, hread]
        rfl

/-! ## One more descriptor -/

/-- The buffers of the feature arrays have been allocated. -/
def BuffersBelow (s : DescriptorStore) : Prop :=
  ∀ array ∈ s.featureArrays, ∀ data, array.data = some data → data < s.nextBuffer

/-- The last of the feature arrays is found by its buffer. -/
theorem readArray_of_filling (h : Filling old firstBuffer s array)
    (hold : ∀ array ∈ old, ∀ data, array.data = some data → data < firstBuffer) {data : Nat}
    (hdata : array.data = some data) :
    s.readArray array.data = array.elements.mapM (HostString.read s.strings) := by
  -- the buffers of the other arrays were allocated earlier
  have hnone : old.find? (fun array => decide (array.data = some data)) = none := by
    rw [List.find?_eq_none]
    intro array' hmem heq
    exact Nat.lt_irrefl _
      (Nat.lt_of_lt_of_le (hold array' hmem data (of_decide_eq_true heq)) (h.data data hdata).1)
  simp only [DescriptorStore.readArray, hdata, h.featureArrays, List.find?_append, hnone,
    Option.none_or, List.find?_singleton, decide_true, if_true, Option.bind_eq_bind,
    Option.bind_some]

/-- A descriptor is added, and the host reads what the guest has in it. -/
theorem addDescriptor_spec (hs : BuffersBelow s) (grow : Nat → Nat) (strings : BridgeStrings)
    (wclapDesc : WclapPluginDescriptor) :
    BuffersBelow (s.addDescriptor grow strings wclapDesc) ∧
      StoreExtends s (s.addDescriptor grow strings wclapDesc) ∧
      ∃ desc, (s.addDescriptor grow strings wclapDesc).descriptors = s.descriptors ++ [desc] ∧
        (s.addDescriptor grow strings wclapDesc).read desc =
          some (PluginFactory.readDescriptor strings wclapDesc) := by
  -- the state with the new descriptor and an empty array, after the loop over the
  -- features, and after the null pointer
  obtain ⟨hadd, hstrings⟩ := readStrings_spec s strings wclapDesc
  let r := s.readStrings strings wclapDesc
  let s₁ : DescriptorStore := { r.2 with
    descriptors := s.descriptors ++ [r.1]
    featureArrays := s.featureArrays ++ [FeatureArray.empty] }
  have hfill₁ : Filling s.featureArrays s.nextBuffer s₁ FeatureArray.empty :=
    ⟨rfl, (fun data hdata => nomatch hdata), fun h => absurd h (Nat.lt_irrefl 0),
      Nat.le_of_eq hadd.nextBuffer.symm⟩
  obtain ⟨array₂, added, hfill₂, helements₂, hread₂, hgrown₂, hkept₂⟩ :=
    readFeatures_spec hfill₁ grow wclapDesc.features 1000 0
  let s₂ := s₁.readFeatures grow wclapDesc.features s.featureArrays.length 1000 0
  obtain ⟨array₃, hfill₃, helements₃, hdata₃, hstrings₃, hkept₃⟩ :=
    pushFeature_spec hfill₂ grow .null
  let s₃ := s₂.pushFeature grow s.featureArrays.length .null
  let desc : HostDescriptor := { r.1 with features := array₃.data }
  have hdescriptors : s₃.descriptors = s.descriptors ++ [r.1] := hkept₃.trans hkept₂
  have hassigned : s.addDescriptor grow strings wclapDesc =
      { s₃ with descriptors := s.descriptors ++ [desc] } := by
    have hlength (l : List HostDescriptor) : (l ++ [r.1]).length - 1 = l.length := by simp
    have hlength' (l : List FeatureArray) : (l ++ [FeatureArray.empty]).length - 1 = l.length := by
      simp
    have harray : s₃.featureArrays[s.featureArrays.length]? = some array₃ := by
      rw [hfill₃.featureArrays, List.getElem?_concat_length]
    have hassign : s₃.assignFeatures s.descriptors.length s.featureArrays.length =
        { s₃ with descriptors := s.descriptors ++ [desc] } := by
      simp only [DescriptorStore.assignFeatures, hdescriptors, harray, List.modify_concat]
      rfl
    rw [← hassign]
    unfold DescriptorStore.addDescriptor
    simp only [hadd.descriptors, hadd.featureArrays]
    rw [hlength, hlength']
  rw [hassigned]
  have hgrown : r.2.strings <+: s₃.strings := hstrings₃ ▸ hgrown₂
  obtain ⟨data, hdata⟩ := Option.isSome_iff_exists.mp hdata₃
  refine ⟨fun array hmem data' hdata' => ?_, ⟨hadd.strings.trans hgrown, ?_, List.prefix_append _ _,
    hfill₃.nextBuffer⟩, desc, rfl, ?_⟩
  · have hmem : array ∈ s₃.featureArrays := hmem
    rw [hfill₃.featureArrays, List.mem_append, List.mem_singleton] at hmem
    rcases hmem with hmem | rfl
    · exact Nat.lt_of_lt_of_le (hs array hmem data' hdata') hfill₃.nextBuffer
    · exact (hfill₃.data data' hdata').2
  · show s.featureArrays <+: s₃.featureArrays
    rw [hfill₃.featureArrays]
    exact List.prefix_append _ _
  · have hread := hstrings.extends hgrown
    have hfeatures : s₃.readArray array₃.data =
        some (PluginFactory.readDescriptor strings wclapDesc).features := by
      rw [readArray_of_filling hfill₃ hs hdata, helements₃, helements₂, hstrings₃,
        FeatureArray.empty, List.nil_append, List.mapM_append, hread₂]
      rfl
    exact read_eq_some_iff.mpr ⟨hread.clap_version, hread.id, hread.name, hread.vendor, hread.url,
      hread.manual_url, hread.support_url, hread.version, hread.description, hfeatures⟩

/-! ## The loop over the descriptors -/

/-- The first `n` answers of the guest, without null pointers. -/
def descriptorsUpTo (factory : WclapPluginFactory) (n : Nat) : List WclapPluginDescriptor :=
  (List.range n).filterMap fun i => factory.get_plugin_descriptor (UInt32.ofNat i)

theorem readDescriptor_extends (hs : BuffersBelow s) (grow : Nat → Nat) (strings : BridgeStrings)
    (factory : WclapPluginFactory) (i : Nat) :
    BuffersBelow (s.readDescriptor grow strings factory i) ∧
      StoreExtends s (s.readDescriptor grow strings factory i) := by
  unfold DescriptorStore.readDescriptor
  cases factory.get_plugin_descriptor (UInt32.ofNat i) with
  | none => exact ⟨hs, .refl s⟩
  | some wclapDesc =>
    obtain ⟨hbelow, hext, -⟩ := addDescriptor_spec hs grow strings wclapDesc
    exact ⟨hbelow, hext⟩

theorem buffersBelow_readUpTo (grow : Nat → Nat) (strings : BridgeStrings)
    (factory : WclapPluginFactory) (n : Nat) :
    BuffersBelow (DescriptorStore.readUpTo grow strings factory n) :=
  forLoop_inv (fun _ t => BuffersBelow t) (fun _ hmem => absurd hmem List.not_mem_nil)
    fun i _ _ ht => (readDescriptor_extends ht grow strings factory i).1

/-- What has been read stays while more is read. -/
theorem readUpTo_extends (grow : Nat → Nat) (strings : BridgeStrings)
    (factory : WclapPluginFactory) {i j : Nat} (h : i ≤ j) :
    StoreExtends (DescriptorStore.readUpTo grow strings factory i)
      (DescriptorStore.readUpTo grow strings factory j) := by
  induction h with
  | refl => exact .refl _
  | step h ih =>
    exact ih.trans (readDescriptor_extends (buffersBelow_readUpTo grow strings factory _) grow
      strings factory _).2

/-- The pointers of each descriptor lead to what the guest's descriptor says. -/
theorem readUpTo_read (grow : Nat → Nat) (strings : BridgeStrings)
    (factory : WclapPluginFactory) (n : Nat) :
    List.Forall₂ (fun desc wclapDesc =>
        (DescriptorStore.readUpTo grow strings factory n).read desc =
          some (PluginFactory.readDescriptor strings wclapDesc))
      (DescriptorStore.readUpTo grow strings factory n).descriptors
      (descriptorsUpTo factory n) := by
  induction n with
  | zero => exact .nil
  | succ n ih =>
    have hbelow := buffersBelow_readUpTo grow strings factory n
    have hrange : descriptorsUpTo factory (n + 1) = descriptorsUpTo factory n ++
        (factory.get_plugin_descriptor (UInt32.ofNat n)).toList := by
      rw [descriptorsUpTo, List.range_succ, List.filterMap_append]
      cases hdesc : factory.get_plugin_descriptor (UInt32.ofNat n) <;>
        simp [descriptorsUpTo, hdesc]
    rw [hrange, DescriptorStore.readUpTo, forLoop_succ, ← DescriptorStore.readUpTo,
      DescriptorStore.readDescriptor]
    cases factory.get_plugin_descriptor (UInt32.ofNat n) with
    | none =>
      -- skipped here and there
      rw [Option.toList_none, List.append_nil]
      exact ih
    | some wclapDesc =>
      obtain ⟨-, hext, desc, hdescriptors, hread⟩ :=
        addDescriptor_spec hbelow grow strings wclapDesc
      dsimp only
      rw [hdescriptors, Option.toList_some]
      exact List.rel_append (ih.imp fun _ _ => read_extends hext) (.cons hread .nil)

/-- The containers hold the descriptors of `PluginFactory.construct`. -/
theorem construct_read (grow : Nat → Nat) (strings : BridgeStrings)
    (factory : WclapPluginFactory) :
    (DescriptorStore.construct grow strings factory).descriptors.map
        (DescriptorStore.construct grow strings factory).read =
      (PluginFactory.construct strings factory).descriptors.map some := by
  rw [construct_descriptors, List.map_map, ← List.forall₂_eq_eq_eq, List.forall₂_map_left_iff,
    List.forall₂_map_right_iff]
  exact readUpTo_read grow strings factory factory.get_plugin_count.toNat

/-! ## The functions of the host's factory -/

/-- A string without a fallback, a prefix or a suffix. -/
theorem readString_plain (ptr : Option CString) :
    PluginFactory.readString ptr none .empty .empty = ptr.map fun string => string.take 2048 := by
  cases ptr with
  | none => rfl
  | some string =>
    rw [PluginFactory.readString, CString.append_empty, CString.empty_append]
    rfl

/-- The features of a copy end with the first null pointer, or after 1000. -/
theorem readFeatures_eq (features : Nat → Option CString) (n featureIndex : Nat) :
    ∃ k ≤ n, (∀ i < k, features (featureIndex + i) ≠ none) ∧
      (k < n → features (featureIndex + k) = none) ∧
      PluginFactory.readFeatures features n featureIndex =
        (List.range k).map fun i =>
          (features (featureIndex + i)).map fun string => string.take 2048 := by
  -- the features read so far are those before `featureIndex`
  induction n generalizing featureIndex with
  | zero => exact ⟨0, Nat.le_refl 0, fun i hi => absurd hi (Nat.not_lt_zero i),
      fun h => absurd h (Nat.lt_irrefl 0), rfl⟩
  | succ n ih =>
    rw [PluginFactory.readFeatures]
    cases hfeature : features featureIndex with
    | none => exact ⟨0, Nat.zero_le _, fun i hi => absurd hi (Nat.not_lt_zero i),
        fun _ => hfeature, rfl⟩
    | some featureStr =>
      obtain ⟨k, hk, hsome, hnone, heq⟩ := ih (featureIndex + 1)
      have hshift : ∀ i, featureIndex + 1 + i = featureIndex + (i + 1) := fun i => by omega
      refine ⟨k + 1, Nat.succ_le_succ hk, fun i hi => ?_, fun hlt => ?_, ?_⟩
      · cases i with
        | zero => rw [Nat.add_zero, hfeature]; exact Option.some_ne_none _
        | succ i =>
          rw [← hshift]
          exact hsome i (Nat.lt_of_succ_lt_succ hi)
      · rw [← hshift]
        exact hnone (Nat.lt_of_succ_lt_succ hlt)
      · have hhead : (features (featureIndex + 0)).map (fun string => string.take 2048) =
            PluginFactory.readString (some featureStr) none .empty .empty := by
          rw [Nat.add_zero, hfeature, readString_plain]
        have htail : (fun i => (features (featureIndex + i)).map fun string => string.take 2048) ∘
            Nat.succ =
            fun i => (features (featureIndex + 1 + i)).map fun string => string.take 2048 :=
          funext fun i => by rw [hshift]; rfl
        rw [List.range_succ_eq_map, List.map_cons, List.map_map, htail, ← heq, hhead]

/-- What `PluginFactory.construct` makes of a descriptor is a copy of it. -/
theorem readDescriptor_copy (strings : BridgeStrings) (wclapDesc : WclapPluginDescriptor) :
    DescriptorCopy strings wclapDesc (PluginFactory.readDescriptor strings wclapDesc) := by
  obtain ⟨n, hn, hsome, hnone, hfeatures⟩ := readFeatures_eq wclapDesc.features 1000 0
  simp only [Nat.zero_add] at hsome hnone hfeatures
  exact {
    clap_version := rfl
    id_null := fun h => by simp only [PluginFactory.readDescriptor, h, PluginFactory.readString]
    id := fun id h => by
      simp only [PluginFactory.readDescriptor, h, PluginFactory.readString, CString.append_empty]
    name_null := fun h => by simp only [PluginFactory.readDescriptor, h, PluginFactory.readString]
    name := fun name h => by simp only [PluginFactory.readDescriptor, h, PluginFactory.readString]
    vendor := readString_plain _
    url := readString_plain _
    manual_url := readString_plain _
    support_url := readString_plain _
    version := readString_plain _
    description := readString_plain _
    features := ⟨n, hn, hsome, hnone, congrArg (· ++ [none]) hfeatures⟩ }

/-- A host finds the descriptors of the guest which are not null, in their order and once
    each, and nothing behind them. None is affected by those that are read after it. -/
theorem descriptors_enumerated (grow : Nat → Nat) (strings : BridgeStrings)
    (factory : WclapPluginFactory) : DescriptorsEnumerated grow strings factory := by
  have hread := readUpTo_read grow strings factory factory.get_plugin_count.toNat
  have hlength : (DescriptorStore.construct grow strings factory).descriptors.length =
      (guestDescriptors factory).length := hread.length_eq
  -- the count is that of a loop over a `uint32_t`
  have hle : (guestDescriptors factory).length < 2 ^ 32 := by
    refine Nat.lt_of_le_of_lt (List.length_filterMap_le _ _) ?_
    rw [List.length_range]
    exact factory.get_plugin_count.toNat_lt
  refine ⟨?_, fun index hindex => if_pos (hlength ▸ hindex), fun index wclapDesc hindex => ?_,
    fun i j k desc host hij hdesc hhost => ?_⟩
  · rw [DescriptorStore.get_plugin_count, hlength, UInt32.toNat_ofNat_of_lt' hle]
  · obtain ⟨hlt, rfl⟩ := List.getElem?_eq_some_iff.mp hindex
    have hlt' : index.toNat <
        (DescriptorStore.construct grow strings factory).descriptors.length := hlength ▸ hlt
    refine ⟨_, _, ?_, hread.get hlt' hlt, readDescriptor_copy strings _⟩
    rw [DescriptorStore.get_plugin_descriptor, if_neg (Nat.not_le.mpr hlt')]
    exact List.getElem?_eq_getElem hlt'
  · have hext := readUpTo_extends grow strings factory hij
    obtain ⟨rest, hrest⟩ := hext.descriptors
    refine ⟨?_, read_extends hext hhost⟩
    rw [← hrest, List.getElem?_append_left (List.getElem?_eq_some_iff.mp hdesc).1, hdesc]

end WclapBridge.Spec
