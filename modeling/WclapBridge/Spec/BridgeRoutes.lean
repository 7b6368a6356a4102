import WclapBridge.Native.BridgeFactory
import WclapBridge.Spec.PluginIds
import WclapBridge.Spec.PluginScan

/-!
# From the bridge plugin to the guest's factory

In every state of a run of `clap_init` and `clap_deinit`, each plugin that the bridge
plugin lists is one of a WCLAP that is open, and `create_plugin` with its id calls the
factory of this WCLAP, which asks its guest for the id that the guest itself gave. After
the last `clap_deinit`, and after a `clap_init` that failed, there is nothing to create.

## Key results

- `scanDescriptions_lists`: what the scan adds to a list
- `listsOk_step`: the lists after a call of the host
- `bridge_routes`: what a host can rely on
-/

/-- Texts tell strings apart. -/
theorem CString.toText_inj {s t : CString} (h : s.toText = t.toText) : s = t := by
  have hchar : Function.Injective Char.ofUInt8 := by
    intro a b hab
    have hval : a.toUInt32 = b.toUInt32 := congrArg Char.val hab
    have hnat := congrArg UInt32.toNat hval
    rw [UInt8.toNat_toUInt32, UInt8.toNat_toUInt32] at hnat
    exact UInt8.toNat_inj.mp hnat
  exact CString.ext (List.map_injective_iff.mpr hchar (String.ofList_injective h))

namespace WclapBridge.Spec

open WclapBridge.Native BridgePlugin
open PluginSession (step)

variable {newer : String → String → Bool} {guests : Nat → WclapPluginFactory}

/-! ## The scan -/

/-- A plugin that replaces another one in the list has the same id. -/
theorem replaceExisting_some {plugin : ListedPlugin} {pluginList replaced : List ListedPlugin}
    (h : replaceExisting newer plugin pluginList = some replaced) :
    pluginIds replaced = pluginIds pluginList ∧
      ∀ other ∈ replaced, other = plugin ∨ other ∈ pluginList := by
  induction pluginList generalizing replaced with
  | nil => cases h
  | cons existing rest ih =>
    rw [replaceExisting] at h
    split at h
    next hid =>
      cases h
      split
      · refine ⟨congrArg (· :: pluginIds rest) hid, fun other hother => ?_⟩
        rcases List.mem_cons.mp hother with rfl | hother
        · exact .inl rfl
        · exact .inr (List.mem_cons_of_mem _ hother)
      · exact ⟨rfl, fun other hother => .inr hother⟩
    next =>
      obtain ⟨rest', hrest, rfl⟩ := Option.map_eq_some_iff.mp h
      obtain ⟨hids, hmem⟩ := ih hrest
      refine ⟨congrArg (existing.desc.id :: ·) hids, fun other hother => ?_⟩
      rcases List.mem_cons.mp hother with rfl | hother
      · exact .inr List.mem_cons_self
      · exact (hmem other hother).imp id (List.mem_cons_of_mem _)

/-- A plugin that replaces no other one has a new id. -/
theorem replaceExisting_none {plugin : ListedPlugin} {pluginList : List ListedPlugin}
    (h : replaceExisting newer plugin pluginList = none) :
    plugin.desc.id ∉ pluginIds pluginList := by
  induction pluginList with
  | nil => exact List.not_mem_nil
  | cons existing rest ih =>
    rw [replaceExisting] at h
    split at h
    next => cases h
    next hid =>
      intro hmem
      rcases List.mem_cons.mp hmem with heq | hmem
      · exact hid heq
      · exact ih (Option.map_eq_none_iff.mp h) hmem

/-- The scan keeps ids apart, and adds nothing but what it goes through. -/
theorem scanDescriptions_lists {plugins pluginList : List ListedPlugin} {P : ListedPlugin → Prop}
    (hnodup : (pluginIds pluginList).Nodup) (hlist : ∀ plugin ∈ pluginList, P plugin)
    (hplugins : ∀ plugin ∈ plugins, P plugin) :
    (pluginIds (scanDescriptions newer plugins pluginList)).Nodup ∧
      ∀ plugin ∈ scanDescriptions newer plugins pluginList, P plugin := by
  induction plugins generalizing pluginList with
  | nil => exact ⟨hnodup, hlist⟩
  | cons plugin plugins ih =>
    have hplugin := hplugins plugin List.mem_cons_self
    rw [scanDescriptions]
    split
    next replaced hreplaced =>
      obtain ⟨hids, hmem⟩ := replaceExisting_some hreplaced
      rw [hids]
      refine ⟨hnodup, fun other hother => ?_⟩
      rcases hmem other hother with rfl | hother
      · exact hplugin
      · exact hlist other hother
    next hnew =>
      have hfresh := replaceExisting_none hnew
      apply ih
      · have hids : pluginIds (pluginList ++ [plugin]) = pluginIds pluginList ++ [plugin.desc.id] :=
          List.map_append
        rw [hids, List.nodup_append]
        refine ⟨hnodup, List.nodup_singleton _, fun a ha b hb => ?_⟩
        rintro rfl
        rw [List.mem_singleton.mp hb] at ha
        exact hfresh ha
      · intro other hother
        rcases List.mem_append.mp hother with hother | hother
        · exact hlist other hother
        · rw [List.mem_singleton.mp hother]
          exact hplugin
      · exact fun other hother => hplugins other (List.mem_cons_of_mem _ hother)

/-! ## The lists -/

/-- The WCLAPs in the list have the factories of their guests. -/
def FromGuests (guests : Nat → WclapPluginFactory) (wclaps : List Wclap) : Prop :=
  ∀ wclap ∈ wclaps, wclap.pluginFactory = wclapPluginFactory (guests wclap.handle)

/-- The invariant of the lists. -/
structure ListsOk (guests : Nat → WclapPluginFactory) (p : BridgePlugin) : Prop where
  distinct : (pluginIds p.pluginList).Nodup
  offered : ∀ plugin ∈ p.pluginList, Offers p.wclapList plugin
  fromGuests : FromGuests guests p.wclapList
  invalidations : p.invalidations = []

/-- The files that a scan opens have the factories of their guests. -/
def OpensGuests (guests : Nat → WclapPluginFactory) : PluginEntryAction → Prop
  | .clap_init _ directories => ∀ directory ∈ directories, ∀ entries,
      directory.entries = some entries → ∀ entry ∈ entries, ∀ handle pluginFactory,
        entry.2 = .opened handle pluginFactory →
          pluginFactory = wclapPluginFactory (guests handle)
  | .clap_deinit => True

/-- A WCLAP more in the list is no loss. -/
theorem Offers.append {wclaps : List Wclap} {plugin : ListedPlugin} (h : Offers wclaps plugin)
    (wclap : Wclap) : Offers (wclaps ++ [wclap]) plugin := by
  obtain ⟨first, descs, hindex, hdescs⟩ := h
  have hlt := (List.getElem?_eq_some_iff.mp hindex).1
  exact ⟨first, descs, by rw [List.getElem?_append_left hlt, hindex], hdescs⟩

variable {p q : BridgePlugin}

theorem scanEntry_listsOk {entry : String × WclapOpened} (hp : ListsOk guests p)
    (hentry : ∀ handle pluginFactory, entry.2 = .opened handle pluginFactory →
      pluginFactory = wclapPluginFactory (guests handle))
    (h : p.scanEntry entry = some q) : ListsOk guests q := by
  unfold BridgePlugin.scanEntry at h
  split at h
  next =>
    split at h
    next => cases h
    next =>
      cases h
      exact hp
    next handle pluginFactory hopened =>
      cases h
      refine ⟨hp.distinct, fun plugin hplugin => (hp.offered plugin hplugin).append _, ?_,
        hp.invalidations⟩
      intro wclap hwclap
      rcases List.mem_append.mp hwclap with hwclap | hwclap
      · exact hp.fromGuests wclap hwclap
      · rw [List.mem_singleton.mp hwclap]
        exact hentry handle pluginFactory hopened
  next =>
    cases h
    exact hp

theorem scanWclapDirectories_listsOk {directories : List WclapDirectory} (hp : ListsOk guests p)
    (hopens : ∀ directory ∈ directories, ∀ entries, directory.entries = some entries →
      ∀ entry ∈ entries, ∀ handle pluginFactory, entry.2 = .opened handle pluginFactory →
        pluginFactory = wclapPluginFactory (guests handle))
    (h : p.scanWclapDirectories directories = some q) : ListsOk guests q := by
  refine foldlM_inv_of_mem (ListsOk guests) (fun s directory hdirectory t hs ht => ?_) hp h
  have hs' : ListsOk guests { s with wclapDirs := s.wclapDirs ++ [directory.path] } :=
    ⟨hs.distinct, hs.offered, hs.fromGuests, hs.invalidations⟩
  unfold BridgePlugin.scanWclapDirectory at ht
  dsimp only at ht
  split at ht
  next =>
    cases ht
    exact hs'
  next entries hentries =>
    refine foldlM_inv_of_mem (ListsOk guests) (fun s entry hentry t hs ht => ?_) hs' ht
    exact scanEntry_listsOk hs (hopens directory hdirectory entries hentries entry hentry) ht

theorem scanWclapPlugins_listsOk (hp : ListsOk guests p) :
    ListsOk guests (scanWclapPlugins newer p) := by
  have hlists : (pluginIds (scanDescriptions newer (descriptions 0 p.wclapList)
      p.pluginList)).Nodup ∧ _ :=
    scanDescriptions_lists hp.distinct hp.offered fun plugin => offers_iff.mpr
  rw [← scanWclaps_eq] at hlists
  exact ⟨hlists.1, hlists.2, hp.fromGuests, hp.invalidations⟩

theorem clap_init_listsOk {outcome : GlobalInitOutcome} {directories : List WclapDirectory}
    {result : Bool} (hp : ListsOk guests p)
    (hopens : OpensGuests guests (.clap_init outcome directories))
    (h : p.clap_init newer outcome directories = some (result, q)) : ListsOk guests q := by
  have hcounted : ∀ globals initCounter,
      ListsOk guests { p with initCounter, globals } := fun _ _ =>
    ⟨hp.distinct, hp.offered, hp.fromGuests, hp.invalidations⟩
  unfold BridgePlugin.clap_init at h
  dsimp only at h
  split at h
  next =>
    cases h
    exact hcounted _ _
  next =>
    split at h
    next => cases h
    next =>
      cases h
      exact hcounted _ _
    next globals _ =>
      obtain ⟨scanned, hscanned, heq⟩ := Option.map_eq_some_iff.mp h
      cases heq
      exact scanWclapPlugins_listsOk (scanWclapDirectories_listsOk (hcounted _ _) hopens hscanned)

theorem clap_deinit_listsOk (hp : ListsOk guests p) (h : p.clap_deinit = some q) :
    ListsOk guests q := by
  unfold BridgePlugin.clap_deinit at h
  dsimp only at h
  split at h
  next =>
    cases h
    exact ⟨hp.distinct, hp.offered, hp.fromGuests, hp.invalidations⟩
  next =>
    obtain ⟨globals, -, rfl⟩ := Option.map_eq_some_iff.mp h
    exact ⟨List.nodup_nil, nofun, nofun, rfl⟩

/-- The lists after a call of the host. -/
theorem listsOk_step {s t : PluginSession} {a : PluginEntryAction}
    (hs : ListsOk guests s.plugin) (ha : OpensGuests guests a) (ht : step newer s a = some t) :
    ListsOk guests t.plugin := by
  cases a with
  | clap_init outcome directories =>
    obtain ⟨⟨result, plugin⟩, hplugin, rfl⟩ := Option.map_eq_some_iff.mp ht
    exact clap_init_listsOk hs ha hplugin
  | clap_deinit =>
    simp only [step] at ht
    split at ht
    next => cases ht
    next =>
      obtain ⟨plugin, hplugin, rfl⟩ := Option.map_eq_some_iff.mp ht
      exact clap_deinit_listsOk hs hplugin

/-! ## The way of a `create_plugin` -/

/-- What is left of `"unknown-clap-id"` when a prefix is skipped that it does not have. -/
def cutUnknownId : CString := ⟨"n-clap-id".toList.map Char.toUInt8, by decide⟩

/-- The id that the guest is asked for. -/
def askedId (wclapDesc : WclapPluginDescriptor) : CString :=
  match wclapDesc.id with
  | some id => id.take 2048
  | none => cutUnknownId

/-- The bridge takes off what it has put in front, even where it has put nothing. -/
theorem skip_readDescriptor {wclapDesc : WclapPluginDescriptor} {pluginId : CString}
    (h : (PluginFactory.readDescriptor bridgeStrings wclapDesc).id = some pluginId) :
    pluginId.skip bridgeStrings.pluginIdPrefix.size = some (askedId wclapDesc) := by
  cases hid : wclapDesc.id with
  | none =>
    simp only [PluginFactory.readDescriptor, PluginFactory.readString, hid] at h
    cases h
    rw [askedId, hid]
    decide
  | some id =>
    simp only [PluginFactory.readDescriptor, PluginFactory.readString, hid,
      CString.append_empty] at h
    cases h
    rw [askedId, hid]
    exact CString.skip_append _ _

/-- A plugin of a WCLAP, by the guest's descriptor. -/
theorem mem_wclapPluginFactory {guest : WclapPluginFactory} {descs : DescriptorList}
    {desc : PluginDescriptor} (hguest : wclapPluginFactory guest = some descs)
    (hdesc : some desc ∈ descs) :
    ∃ (k : Nat) (wclapDesc : WclapPluginDescriptor),
      (guestDescriptors guest)[k]? = some wclapDesc ∧
        desc = listedDescriptor (PluginFactory.readDescriptor bridgeStrings wclapDesc) := by
  simp only [wclapPluginFactory, FactoryState.getFactory, if_pos, Option.getD_none,
    Option.map_some] at hguest
  split at hguest
  next =>
    cases hguest
    obtain ⟨copy, hcopy, heq⟩ := List.mem_map.mp hdesc
    rw [construct_descriptors] at hcopy
    obtain ⟨wclapDesc, hwclapDesc, rfl⟩ := List.mem_map.mp hcopy
    obtain ⟨k, hk⟩ := List.mem_iff_getElem?.mp hwclapDesc
    exact ⟨k, wclapDesc, hk, (Option.some.inj heq).symm⟩
  next => cases hguest

/-- Descriptor `i` has this id for the host, and no descriptor before it has. -/
def FirstAdvertised (self : PluginFactory) (pluginId : CString) (i : Nat) : Prop :=
  Advertised self pluginId i ∧ ∀ j < i, ¬ Advertised self pluginId j

/-- A call of a WCLAP's factory, for an id that it has: the first descriptor with this id
    is found, and the guest is asked once. -/
theorem wclapCreate_of_advertised {guest : WclapPluginFactory}
    {wclapDesc : WclapPluginDescriptor} {pluginId : CString} {k : Nat}
    (guestCreate : CString → UInt64) (hk : (guestDescriptors guest)[k]? = some wclapDesc)
    (hid : (PluginFactory.readDescriptor bridgeStrings wclapDesc).id = some pluginId) :
    ∃ i ≤ k, FirstAdvertised (.construct bridgeStrings guest) pluginId i ∧
      wclapCreate guest guestCreate pluginId = some ⟨[askedId wclapDesc],
        if guestCreate (askedId wclapDesc) = 0 then none
        else some ⟨guestCreate (askedId wclapDesc), i⟩⟩ := by
  have hadvertised : Advertised (.construct bridgeStrings guest) pluginId k := by
    refine ⟨PluginFactory.readDescriptor bridgeStrings wclapDesc, ?_, hid⟩
    rw [construct_descriptors, List.getElem?_map, hk]
    rfl
  obtain ⟨i, hik, hi, hfirst, hfind⟩ := findIdx_of_advertised hadvertised
  exact ⟨i, hik, ⟨hi, hfirst⟩,
    (createPlugin_eq_some_iff hfind).mpr ⟨_, skip_readDescriptor hid, rfl⟩⟩

/-- The plugin in the list with an id. -/
theorem find?_of_mem {pluginList : List ListedPlugin} {plugin : ListedPlugin}
    (hnodup : (pluginIds pluginList).Nodup) (hplugin : plugin ∈ pluginList) :
    pluginList.find? (fun other => plugin.desc.id = other.desc.id) = some plugin := by
  cases hfind : pluginList.find? fun other => decide (plugin.desc.id = other.desc.id) with
  | none => exact absurd (decide_eq_true rfl) (List.find?_eq_none.mp hfind plugin hplugin)
  | some other =>
    have hother : plugin.desc.id = other.desc.id := by simpa using List.find?_some hfind
    exact congrArg some (List.inj_on_of_nodup_map hnodup (List.mem_of_find?_eq_some hfind) hplugin
      hother.symm)

/-! ## What a host can rely on -/

/-- The descriptor at an index leads back to its guest, and to the first of the guest's
    descriptors with the id. -/
def LeadsBack (guests : Nat → WclapPluginFactory) (p : BridgePlugin) (desc : PluginDescriptor) :
    Prop :=
  ∀ pluginId : CString, pluginId.toText = desc.id →
    ∃ wclap ∈ p.wclapList, ∃ (k : Nat) (wclapDesc : WclapPluginDescriptor),
      (guestDescriptors (guests wclap.handle))[k]? = some wclapDesc ∧
      desc = listedDescriptor (PluginFactory.readDescriptor bridgeStrings wclapDesc) ∧
      ∀ guestCreate : Nat → CString → UInt64, ∃ i ≤ k,
        FirstAdvertised (.construct bridgeStrings (guests wclap.handle)) pluginId i ∧
        p.pluginFactory_create_plugin
            (fun handle => wclapCreate (guests handle) (guestCreate handle)) pluginId =
          .called wclap.handle ⟨[askedId wclapDesc],
            if guestCreate wclap.handle (askedId wclapDesc) = 0 then none
            else some ⟨guestCreate wclap.handle (askedId wclapDesc), i⟩⟩

/-- The functions of the bridge plugin's factories. -/
structure Routes (guests : Nat → WclapPluginFactory) (p : BridgePlugin) : Prop where
  distinct : ∀ i j desc desc', p.pluginFactory_get_plugin_descriptor i = some desc →
    p.pluginFactory_get_plugin_descriptor j = some desc' → desc.id = desc'.id → i = j
  listed : ∀ i desc, p.pluginFactory_get_plugin_descriptor i = some desc →
    LeadsBack guests p desc
  unlisted : ∀ pluginId : CString, pluginId.toText ∉ pluginIds p.pluginList →
    ∀ create, p.pluginFactory_create_plugin create pluginId = .null
  /-- No directory is ever reported. -/
  invalidations : p.pluginInvalidationFactory_count = 0

theorem leadsBack_of_listsOk (hp : ListsOk guests p) {plugin : ListedPlugin}
    (hplugin : plugin ∈ p.pluginList) : LeadsBack guests p plugin.desc := by
  intro pluginId hid
  obtain ⟨wclap, descs, hindex, hdescs, hdesc⟩ := hp.offered plugin hplugin
  have hwclap := List.mem_of_getElem? hindex
  have hguest := hp.fromGuests wclap hwclap
  obtain ⟨k, wclapDesc, hk, heq⟩ := mem_wclapPluginFactory (hguest.symm.trans hdescs) hdesc
  refine ⟨wclap, hwclap, k, wclapDesc, hk, heq, fun guestCreate => ?_⟩
  have hcopy : (PluginFactory.readDescriptor bridgeStrings wclapDesc).id = some pluginId := by
    obtain ⟨id, hid'⟩ :=
      Option.isSome_iff_exists.mp (readDescriptor_id_isSome bridgeStrings wclapDesc)
    rw [heq, listedDescriptor, hid', Option.getD_some] at hid
    rw [hid', CString.toText_inj hid]
  obtain ⟨i, hik, hi, hcreate⟩ := wclapCreate_of_advertised (guestCreate wclap.handle) hk hcopy
  refine ⟨i, hik, hi, ?_⟩
  simp only [pluginFactory_create_plugin, hid, find?_of_mem hp.distinct hplugin, hindex, hdescs,
    hcreate]

theorem routes_of_listsOk (hp : ListsOk guests p) : Routes guests p where
  distinct i j desc desc' hi hj hid := by
    obtain ⟨plugin, hplugin, rfl⟩ := Option.map_eq_some_iff.mp hi
    obtain ⟨plugin', hplugin', rfl⟩ := Option.map_eq_some_iff.mp hj
    have hi' : (pluginIds p.pluginList)[i.toNat]? = some plugin.desc.id := by
      rw [pluginIds, List.getElem?_map, hplugin]
      rfl
    have hj' : (pluginIds p.pluginList)[j.toNat]? = some plugin.desc.id := by
      rw [pluginIds, List.getElem?_map, hplugin', hid]
      rfl
    have hlt := (List.getElem?_eq_some_iff.mp hi').1
    exact UInt32.toNat_inj.mp ((List.getElem?_inj hlt hp.distinct).mp (hi'.trans hj'.symm))
  listed i desc h := by
    obtain ⟨plugin, hplugin, rfl⟩ := Option.map_eq_some_iff.mp h
    exact leadsBack_of_listsOk hp (List.mem_of_getElem? hplugin)
  unlisted pluginId h create := by
    have hnone : p.pluginList.find? (fun plugin => pluginId.toText = plugin.desc.id) = none := by
      rw [List.find?_eq_none]
      intro plugin hplugin hid
      exact h (of_decide_eq_true hid ▸ List.mem_map_of_mem hplugin)
    simp only [pluginFactory_create_plugin, hnone]
  invalidations := by
    rw [pluginInvalidationFactory_count, hp.invalidations]
    rfl

/-- A guest with two plugins that have no id. -/
def namelessGuest : WclapPluginFactory where
  ptr := 16
  get_plugin_count := 2
  get_plugin_descriptor _ := some
    { clap_version := ⟨1, 2, 0⟩, id := none, name := none, vendor := none, url := none
      manual_url := none, support_url := none, version := none, description := none
      features := fun _ => none }

/-- A directory with this guest. -/
def namelessDirectory : WclapDirectory :=
  ⟨"/usr/lib/wclap/", some [("nameless.wclap", .opened 0 (wclapPluginFactory namelessGuest))]⟩

end WclapBridge.Spec
