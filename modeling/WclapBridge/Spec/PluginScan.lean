import Mathlib.Data.List.Nodup
import Mathlib.Order.WithBot
import WclapBridge.Native.BridgePlugin

/-!
# The plugin list of the bridge plugin

`scanWclapPlugins` collects the descriptors of all open WCLAPs, and keeps the
newest of those that share an id. When it has handled the first descriptor with
an id that is already in the list, it returns. We show what the list then is,
and that it is complete exactly when the rest has nothing to add.

## Key results

- `replaceExisting_eq`: a duplicate replaces the older descriptor in place
- `scanWclaps_eq`: the three loops are one loop over all descriptors
- `scanDescriptions_of_repeated`: the scan ends with the first repeated id
- `scanComplete_iff`: exactly when the plugin list is complete
-/

namespace WclapBridge.Spec

open WclapBridge.Native BridgePlugin

variable {V : Type} [LinearOrder V] (parse : String → V)

/-- `ver > existingVer`, for the versions that two strings are parsed to. -/
def newerBy (version existingVersion : String) : Bool :=
  decide (parse existingVersion < parse version)

/-- The version of a descriptor; null is below every version. -/
def versionOf (desc : PluginDescriptor) : WithBot V :=
  match desc.version with
  | none => ⊥
  | some version => parse version

/-- Some open WCLAP has this descriptor, at its place in the list of WCLAPs. -/
def Offers (wclaps : List Wclap) (plugin : ListedPlugin) : Prop :=
  ∃ wclap descs, wclaps[plugin.wclapIndex]? = some wclap ∧ wclap.pluginFactory = some descs ∧
    some plugin.desc ∈ descs

/-- The ids in a list of plugins. -/
def pluginIds (plugins : List ListedPlugin) : List String := plugins.map (·.desc.id)

/-- The list has every id once, with the newest descriptor of this id. -/
structure ScanComplete (wclaps : List Wclap) (pluginList : List ListedPlugin) : Prop where
  nodup : (pluginIds pluginList).Nodup
  ids : ∀ id, id ∈ pluginIds pluginList ↔ ∃ plugin, Offers wclaps plugin ∧ plugin.desc.id = id
  offered : ∀ plugin ∈ pluginList, Offers wclaps plugin
  newest : ∀ plugin ∈ pluginList, ∀ other, Offers wclaps other →
    other.desc.id = plugin.desc.id → versionOf parse other.desc ≤ versionOf parse plugin.desc

/-! ## All descriptors -/

/-- The descriptors of the WCLAPs from `wclapIndex` on, in the order of the scan. -/
def descriptions : Nat → List Wclap → List ListedPlugin
  | _, [] => []
  | wclapIndex, wclap :: wclaps =>
    (wclap.pluginFactory.getD []).filterMap (·.map fun desc => ⟨desc, wclapIndex⟩) ++
      descriptions (wclapIndex + 1) wclaps

/-- The scan of one list of descriptors. -/
def scanDescriptions (newer : String → String → Bool) :
    List ListedPlugin → List ListedPlugin → List ListedPlugin
  | [], pluginList => pluginList
  | plugin :: plugins, pluginList =>
    match replaceExisting newer plugin pluginList with
    | some pluginList => pluginList
    | none => scanDescriptions newer plugins (pluginList ++ [plugin])

theorem mem_descriptions {wclapIndex : Nat} {wclaps : List Wclap} {plugin : ListedPlugin} :
    plugin ∈ descriptions wclapIndex wclaps ↔
      ∃ n wclap descs, plugin.wclapIndex = wclapIndex + n ∧ wclaps[n]? = some wclap ∧
        wclap.pluginFactory = some descs ∧ some plugin.desc ∈ descs := by
  induction wclaps generalizing wclapIndex with
  | nil => simp [descriptions]
  | cons first wclaps ih =>
    rw [descriptions, List.mem_append, ih]
    constructor
    · rintro (hfirst | ⟨n, wclap, descs, hindex, hwclap, hdescs⟩)
      · obtain ⟨desc, hdesc, hplugin⟩ := List.mem_filterMap.mp hfirst
        obtain ⟨desc, rfl, rfl⟩ := Option.map_eq_some_iff.mp hplugin
        cases hfactory : first.pluginFactory with
        | none =>
          rw [hfactory] at hdesc
          cases hdesc
        | some descs =>
          rw [hfactory] at hdesc
          exact ⟨0, first, descs, rfl, rfl, hfactory, hdesc⟩
      · exact ⟨n + 1, wclap, descs, by omega, hwclap, hdescs⟩
    · rintro ⟨n, wclap, descs, hindex, hwclap, hfactory, hmem⟩
      cases n with
      | zero =>
        cases hwclap
        rw [hfactory]
        rw [Nat.add_zero] at hindex
        refine .inl (List.mem_filterMap.mpr ⟨_, hmem, ?_⟩)
        rw [Option.map_some, ← hindex]
      | succ n => exact .inr ⟨n, wclap, descs, by omega, hwclap, hfactory, hmem⟩

theorem offers_iff {wclaps : List Wclap} {plugin : ListedPlugin} :
    Offers wclaps plugin ↔ plugin ∈ descriptions 0 wclaps := by
  rw [mem_descriptions]
  constructor
  · rintro ⟨wclap, descs, hoffers⟩
    exact ⟨_, wclap, descs, (Nat.zero_add _).symm, hoffers⟩
  · rintro ⟨n, wclap, descs, hindex, hoffers⟩
    rw [Nat.zero_add] at hindex
    exact ⟨wclap, descs, hindex ▸ hoffers⟩

theorem scanDescriptors_eq (newer : String → String → Bool) (wclapIndex : Nat)
    (descs : DescriptorList) (rest pluginList : List ListedPlugin) :
    scanDescriptions newer
        (descs.filterMap (·.map fun desc => ⟨desc, wclapIndex⟩) ++ rest) pluginList =
      match scanDescriptors newer wclapIndex descs pluginList with
      | (true, pluginList) => pluginList
      | (false, pluginList) => scanDescriptions newer rest pluginList := by
  induction descs generalizing pluginList with
  | nil => rfl
  | cons desc descs ih =>
    cases desc with
    | none => exact ih pluginList
    | some desc =>
      simp only [List.filterMap_cons, Option.map_some, List.cons_append, scanDescriptions,
        scanDescriptors]
      cases replaceExisting newer ⟨desc, wclapIndex⟩ pluginList with
      | none => exact ih _
      | some replaced => rfl

/-- The three loops are one loop over all descriptors. -/
theorem scanWclaps_eq (newer : String → String → Bool) (wclapIndex : Nat) (wclaps : List Wclap)
    (pluginList : List ListedPlugin) :
    scanWclaps newer wclapIndex wclaps pluginList =
      scanDescriptions newer (descriptions wclapIndex wclaps) pluginList := by
  induction wclaps generalizing wclapIndex pluginList with
  | nil => rfl
  | cons wclap wclaps ih =>
    rw [scanWclaps, descriptions]
    cases wclap.pluginFactory with
    | none => exact ih _ _
    | some descs =>
      simp only [Option.getD_some, scanDescriptors_eq]
      obtain ⟨done, scanned⟩ := scanDescriptors newer wclapIndex descs pluginList
      cases done with
      | true => rfl
      | false => exact ih _ _

/-! ## One repeated id -/

/-- The descriptor of an id that is kept when another one comes. -/
def newest (plugin existing : ListedPlugin) : ListedPlugin :=
  if plugin.desc.id = existing.desc.id ∧ isNewer (newerBy parse) plugin.desc existing.desc then
    plugin
  else existing

theorem isNewer_iff (desc existing : PluginDescriptor) :
    isNewer (newerBy parse) desc existing = true ↔
      existing.version = none ∨ versionOf parse existing < versionOf parse desc := by
  unfold isNewer versionOf
  cases existing.version with
  | none => simp
  | some existingVersion =>
    cases desc.version with
    | none => simp
    | some version => simp [newerBy]

/-- Both descriptors are at most as new as the one that is kept. -/
theorem versionOf_le_newest {plugin existing : ListedPlugin}
    (h : plugin.desc.id = existing.desc.id) :
    versionOf parse plugin.desc ≤ versionOf parse (newest parse plugin existing).desc ∧
      versionOf parse existing.desc ≤ versionOf parse (newest parse plugin existing).desc := by
  unfold newest
  split
  next hnewer =>
    refine ⟨le_refl _, ?_⟩
    rcases (isNewer_iff parse _ _).mp hnewer.2 with hnone | hlt
    · rw [versionOf, hnone]
      exact bot_le
    · exact hlt.le
  next hnot =>
    have holder : ¬ isNewer (newerBy parse) plugin.desc existing.desc = true :=
      fun hnewer => hnot ⟨h, hnewer⟩
    rw [isNewer_iff, not_or] at holder
    exact ⟨not_lt.mp holder.2, le_refl _⟩

theorem newest_id (plugin existing : ListedPlugin) :
    (newest parse plugin existing).desc.id = existing.desc.id := by
  unfold newest
  split
  next h => exact h.1
  next => rfl

theorem newest_of_ne {plugin existing : ListedPlugin} (h : plugin.desc.id ≠ existing.desc.id) :
    newest parse plugin existing = existing :=
  if_neg fun heq => h heq.1

theorem replaceExisting_of_not_mem (newer : String → String → Bool) {plugin : ListedPlugin}
    {pluginList : List ListedPlugin} (h : plugin.desc.id ∉ pluginIds pluginList) :
    replaceExisting newer plugin pluginList = none := by
  induction pluginList with
  | nil => rfl
  | cons existing rest ih =>
    obtain ⟨hne, hrest⟩ := not_or.mp (List.mem_cons.not.mp h)
    rw [replaceExisting, if_neg hne, ih hrest]
    rfl

/-- A repeated id replaces the older descriptor, in place. -/
theorem replaceExisting_eq {plugin : ListedPlugin} {pluginList : List ListedPlugin}
    (hnodup : (pluginIds pluginList).Nodup) (h : plugin.desc.id ∈ pluginIds pluginList) :
    replaceExisting (newerBy parse) plugin pluginList =
      some (pluginList.map (newest parse plugin)) := by
  induction pluginList with
  | nil => cases h
  | cons existing rest ih =>
    obtain ⟨hfresh, hrest⟩ := List.nodup_cons.mp hnodup
    by_cases hid : plugin.desc.id = existing.desc.id
    · have hsame : rest.map (newest parse plugin) = rest := by
        refine (List.map_congr_left fun other hother => ?_).trans (List.map_id rest)
        have hother : other.desc.id ∈ pluginIds rest := List.mem_map_of_mem hother
        have hne : plugin.desc.id ≠ other.desc.id := by
          intro heq
          rw [← heq, hid] at hother
          exact hfresh hother
        exact newest_of_ne parse hne
      rw [replaceExisting, if_pos hid, List.map_cons, hsame, newest]
      simp only [hid, true_and]
    · rw [replaceExisting, if_neg hid, ih hrest ((List.mem_cons.mp h).resolve_left hid),
        List.map_cons, newest_of_ne parse hid]
      rfl

/-! ## The scan -/

private theorem fresh_of_nodup {pluginList plugins : List ListedPlugin} {plugin : ListedPlugin}
    (h : (pluginIds (pluginList ++ plugin :: plugins)).Nodup) :
    plugin.desc.id ∉ pluginIds pluginList := by
  rw [pluginIds, List.map_append, List.nodup_append] at h
  intro hmem
  exact h.2.2 _ hmem _ List.mem_cons_self rfl

/-- Without repeated ids, the list has all descriptors. -/
theorem scanDescriptions_of_nodup (newer : String → String → Bool)
    {plugins pluginList : List ListedPlugin} (h : (pluginIds (pluginList ++ plugins)).Nodup) :
    scanDescriptions newer plugins pluginList = pluginList ++ plugins := by
  induction plugins generalizing pluginList with
  | nil => exact (List.append_nil pluginList).symm
  | cons plugin plugins ih =>
    rw [scanDescriptions, replaceExisting_of_not_mem newer (fresh_of_nodup h),
      List.append_cons pluginList plugin plugins]
    rw [List.append_cons pluginList plugin plugins] at h
    exact ih h

/-- The first repeated id ends the scan. -/
theorem scanDescriptions_of_repeated {before after pluginList : List ListedPlugin}
    {repeated : ListedPlugin} (hnodup : (pluginIds (pluginList ++ before)).Nodup)
    (h : repeated.desc.id ∈ pluginIds (pluginList ++ before)) :
    scanDescriptions (newerBy parse) (before ++ repeated :: after) pluginList =
      (pluginList ++ before).map (newest parse repeated) := by
  induction before generalizing pluginList with
  | nil =>
    rw [List.append_nil] at hnodup h ⊢
    rw [List.nil_append, scanDescriptions, replaceExisting_eq parse hnodup h]
  | cons plugin before ih =>
    rw [List.cons_append, scanDescriptions, replaceExisting_of_not_mem _ (fresh_of_nodup hnodup),
      List.append_cons pluginList plugin before]
    rw [List.append_cons pluginList plugin before] at hnodup h
    exact ih hnodup h

theorem scanDescriptions_of_first {before after : List ListedPlugin} {repeated : ListedPlugin}
    (hnodup : (pluginIds before).Nodup) (h : repeated.desc.id ∈ pluginIds before) :
    scanDescriptions (newerBy parse) (before ++ repeated :: after) [] =
      before.map (newest parse repeated) :=
  @scanDescriptions_of_repeated V _ parse before after [] repeated hnodup h

/-- Either no id is repeated, or some id is the first to be. -/
theorem nodup_or_repeated (plugins : List ListedPlugin) :
    (pluginIds plugins).Nodup ∨ ∃ before repeated after,
      plugins = before ++ repeated :: after ∧ (pluginIds before).Nodup ∧
        repeated.desc.id ∈ pluginIds before := by
  suffices ∀ before, (pluginIds before).Nodup →
      (pluginIds (before ++ plugins)).Nodup ∨ ∃ seen repeated after,
        before ++ plugins = seen ++ repeated :: after ∧ (pluginIds seen).Nodup ∧
          repeated.desc.id ∈ pluginIds seen from
    this [] List.nodup_nil
  induction plugins with
  | nil =>
    intro before hnodup
    rw [List.append_nil]
    exact .inl hnodup
  | cons plugin plugins ih =>
    intro before hnodup
    by_cases hmem : plugin.desc.id ∈ pluginIds before
    · exact .inr ⟨before, plugin, plugins, rfl, hnodup, hmem⟩
    · rw [List.append_cons before plugin plugins]
      refine ih _ ?_
      rw [pluginIds, List.map_append]
      exact List.Nodup.append hnodup (List.nodup_singleton _)
        (List.disjoint_singleton.mpr hmem)

/-- Nothing after the first repeated id has a new id, or a newer version of an id. -/
def NothingLost (plugins : List ListedPlugin) : Prop :=
  ∀ before repeated after, plugins = before ++ repeated :: after →
    (pluginIds before).Nodup → repeated.desc.id ∈ pluginIds before →
    ∀ lost ∈ after, ∃ kept ∈ before ++ [repeated],
      kept.desc.id = lost.desc.id ∧ versionOf parse lost.desc ≤ versionOf parse kept.desc

/-! ## Completeness -/

theorem pluginIds_newest (plugin : ListedPlugin) (plugins : List ListedPlugin) :
    pluginIds (plugins.map (newest parse plugin)) = pluginIds plugins := by
  rw [pluginIds, List.map_map]
  exact List.map_congr_left fun existing _ => newest_id parse plugin existing

theorem mem_pluginIds {id : String} {plugins : List ListedPlugin} :
    id ∈ pluginIds plugins ↔ ∃ plugin ∈ plugins, plugin.desc.id = id :=
  List.mem_map

/-- A list with all descriptors is complete if no id is repeated. -/
private theorem scanComplete_of_nodup {wclaps : List Wclap}
    (h : (pluginIds (descriptions 0 wclaps)).Nodup) :
    ScanComplete parse wclaps (descriptions 0 wclaps) where
  nodup := h
  ids id := by simp only [offers_iff, mem_pluginIds]
  offered plugin hplugin := offers_iff.mpr hplugin
  newest plugin hplugin other hother hid := by
    have hsame := List.inj_on_of_nodup_map h (offers_iff.mp hother) hplugin hid
    rw [hsame]

/-- Descriptors after a repeated id do no harm if they add nothing. -/
private theorem scanComplete_of_repeated {wclaps : List Wclap} {before after : List ListedPlugin}
    {repeated : ListedPlugin} (hsplit : descriptions 0 wclaps = before ++ repeated :: after)
    (hnodup : (pluginIds before).Nodup) (hmem : repeated.desc.id ∈ pluginIds before)
    (h : ∀ lost ∈ after, ∃ kept ∈ before ++ [repeated],
      kept.desc.id = lost.desc.id ∧ versionOf parse lost.desc ≤ versionOf parse kept.desc) :
    ScanComplete parse wclaps (before.map (newest parse repeated)) := by
  have hoffers : ∀ plugin, Offers wclaps plugin ↔ plugin ∈ before ++ repeated :: after :=
    fun plugin => by rw [offers_iff, hsplit]
  -- what is kept of the first descriptors is as new as all of them
  have hnewest : ∀ existing ∈ before, ∀ kept ∈ before ++ [repeated],
      kept.desc.id = existing.desc.id →
      versionOf parse kept.desc ≤ versionOf parse (newest parse repeated existing).desc := by
    intro existing hexisting kept hkept hid
    rcases List.mem_append.mp hkept with hkept | hkept
    · have hsame := List.inj_on_of_nodup_map hnodup hkept hexisting hid
      subst hsame
      by_cases hrepeated : repeated.desc.id = kept.desc.id
      · exact (versionOf_le_newest parse hrepeated).2
      · rw [newest_of_ne parse hrepeated]
    · cases List.mem_singleton.mp hkept
      exact (versionOf_le_newest parse hid).1
  constructor
  · rw [pluginIds_newest]
    exact hnodup
  · intro id
    rw [pluginIds_newest]
    constructor
    · intro hid
      obtain ⟨plugin, hplugin, hid⟩ := mem_pluginIds.mp hid
      exact ⟨plugin, (hoffers plugin).mpr (List.mem_append_left _ hplugin), hid⟩
    · rintro ⟨plugin, hplugin, rfl⟩
      have hkept : ∀ kept ∈ before ++ [repeated], kept.desc.id ∈ pluginIds before := by
        intro kept hkept
        rcases List.mem_append.mp hkept with hkept | hkept
        · exact List.mem_map_of_mem hkept
        · exact List.mem_singleton.mp hkept ▸ hmem
      rw [hoffers, List.append_cons, List.mem_append] at hplugin
      rcases hplugin with hplugin | hplugin
      · exact hkept plugin hplugin
      · obtain ⟨kept, hmemKept, hid, -⟩ := h plugin hplugin
        exact hid ▸ hkept kept hmemKept
  · intro plugin hplugin
    obtain ⟨existing, hexisting, rfl⟩ := List.mem_map.mp hplugin
    rw [hoffers, newest]
    split
    next => exact List.mem_append_right _ List.mem_cons_self
    next => exact List.mem_append_left _ hexisting
  · intro plugin hplugin other hother hid
    obtain ⟨existing, hexisting, rfl⟩ := List.mem_map.mp hplugin
    rw [newest_id] at hid
    rw [hoffers, List.append_cons, List.mem_append] at hother
    rcases hother with hother | hother
    · exact hnewest existing hexisting other hother hid
    · obtain ⟨kept, hkept, hsame, hle⟩ := h other hother
      exact hle.trans (hnewest existing hexisting kept hkept (hsame.trans hid))

/-- A complete list has the id of every descriptor, in a version as new. -/
private theorem kept_of_scanComplete {wclaps : List Wclap} {before : List ListedPlugin}
    {repeated lost : ListedPlugin} (hlost : Offers wclaps lost)
    (h : ScanComplete parse wclaps (before.map (newest parse repeated))) :
    ∃ kept ∈ before ++ [repeated],
      kept.desc.id = lost.desc.id ∧ versionOf parse lost.desc ≤ versionOf parse kept.desc := by
  obtain ⟨plugin, hplugin, hid⟩ := mem_pluginIds.mp ((h.ids _).mpr ⟨lost, hlost, rfl⟩)
  refine ⟨plugin, ?_, hid, h.newest plugin hplugin lost hlost hid.symm⟩
  obtain ⟨existing, hexisting, rfl⟩ := List.mem_map.mp hplugin
  rw [newest]
  split
  next => exact List.mem_append_right _ (List.mem_singleton_self repeated)
  next => exact List.mem_append_left _ hexisting

/-- The plugin list is complete if and only if nothing after the first repeated id
    should have been in it. -/
theorem scanComplete_iff {p : BridgePlugin} (h : p.pluginList = []) :
    ScanComplete parse p.wclapList (scanWclapPlugins (newerBy parse) p).pluginList ↔
      NothingLost parse (descriptions 0 p.wclapList) := by
  have hlist : (scanWclapPlugins (newerBy parse) p).pluginList =
      scanDescriptions (newerBy parse) (descriptions 0 p.wclapList) [] := by
    rw [scanWclapPlugins, scanWclaps_eq, h]
  rw [hlist]
  constructor
  · intro hcomplete before repeated after hsplit hnodup hmem lost hlost
    have hoffered : Offers p.wclapList lost :=
      offers_iff.mpr (hsplit ▸ List.mem_append_right _ (List.mem_cons_of_mem _ hlost))
    rw [hsplit, scanDescriptions_of_first parse hnodup hmem] at hcomplete
    exact kept_of_scanComplete parse hoffered hcomplete
  · intro hlost
    rcases nodup_or_repeated (descriptions 0 p.wclapList) with
      hnodup | ⟨before, repeated, after, hsplit, hnodup, hmem⟩
    · rw [scanDescriptions_of_nodup _ hnodup, List.nil_append]
      exact scanComplete_of_nodup parse hnodup
    · rw [hsplit, scanDescriptions_of_first parse hnodup hmem]
      exact scanComplete_of_repeated parse hsplit hnodup hmem
        (hlost before repeated after hsplit hnodup hmem)

/-- A bridge plugin with these WCLAPs open, before the scan. -/
def withWclaps (factories : List DescriptorList) : BridgePlugin :=
  { BridgePlugin.new with wclapList := factories.map fun descs => ⟨1, some descs⟩ }

/-- The second WCLAP has a newer version of a plugin, and behind it an older version of the
    other. -/
def updatedWclaps : List DescriptorList :=
  [[some ⟨"synth", some "1"⟩, none, some ⟨"delay", some "2.0"⟩],
    [some ⟨"synth", some "1.1"⟩, some ⟨"delay", some "2"⟩]]

theorem updated_plugins_listed :
    ScanComplete String.length (withWclaps updatedWclaps).wclapList
      (scanWclapPlugins (newerBy String.length) (withWclaps updatedWclaps)).pluginList := by
  refine (scanComplete_iff String.length rfl).mpr ?_
  intro before repeated after hsplit hnodup hmem lost hlost
  have hdescriptions : descriptions 0 (withWclaps updatedWclaps).wclapList =
      [⟨⟨"synth", some "1"⟩, 0⟩, ⟨⟨"delay", some "2.0"⟩, 0⟩, ⟨⟨"synth", some "1.1"⟩, 1⟩,
        ⟨⟨"delay", some "2"⟩, 1⟩] := rfl
  rw [hdescriptions] at hsplit
  -- the new version of the first plugin is what is repeated
  rcases before with _ | ⟨first, _ | ⟨second, _ | ⟨third, before⟩⟩⟩
  · cases hmem
  · cases hsplit
    exact absurd hmem (by decide)
  · cases hsplit
    rw [List.mem_singleton.mp hlost]
    exact ⟨⟨⟨"delay", some "2.0"⟩, 0⟩, by simp, rfl, by decide⟩
  · simp only [List.cons_append, List.cons.injEq] at hsplit
    obtain ⟨rfl, rfl, rfl, -⟩ := hsplit
    exact absurd hnodup (by simp [pluginIds])

/-- The second WCLAP repeats an id, and its other plugin is lost. -/
theorem plugin_after_duplicate_lost :
    let p := withWclaps [[some ⟨"synth", none⟩], [some ⟨"synth", none⟩, some ⟨"delay", none⟩]]
    ¬ ScanComplete String.length p.wclapList
      (scanWclapPlugins (newerBy String.length) p).pluginList := by
  intro p hcomplete
  have hoffers : Offers p.wclapList ⟨⟨"delay", none⟩, 1⟩ :=
    ⟨_, _, rfl, rfl, List.mem_cons_of_mem _ List.mem_cons_self⟩
  have hid := (hcomplete.ids "delay").mpr ⟨_, hoffers, rfl⟩
  exact absurd hid (by decide)

end WclapBridge.Spec
