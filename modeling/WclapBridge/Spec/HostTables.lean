import WclapBridge.ForStd.Transition
import WclapBridge.Native.Operations

/-!
# Host functions in the function tables

The instances of a module share the indices of the host functions, but each has
a function table of its own. The main thread and the threads which the guest
spawns have the host functions registered at these indices. The audio thread of
a plugin has not: the constructor of `Plugin` starts an instance and does not
call `addHostFunctions` for it.

## Key results

- `registerHosts_spec`: a registration without an error puts the functions at the
  end of the table, and their indices into the structs
- `hostTables_agree`: the tables agree with the indices in every state without an
  error, as long as no plugin has an instance of its own
- `audioThread_unregistered`: the first plugin that has
-/

namespace WclapBridge.Spec

open WclapBridge.Native
open OpenWclap (step)

/-- The function table has each host function at its index. -/
def Agrees (m : WclapModule) (instance_ : InstanceImpl) : Prop :=
  ∀ fn, instance_.table[(m.hostIndex fn).toNat]? = some (.host fn)

/-! ## Registration -/

/-- The functions have consecutive indices from `start` on. -/
def IndexedFrom (start : Nat) (fns : List HostFunction) (hostIndex : HostFunction → UInt64) :
    Prop :=
  ∀ k fn, fns[k]? = some fn → (hostIndex fn).toNat = start + k

theorem truncated_index {n : Nat} (h : n + 1 < 2 ^ 32) :
    (UInt64.ofNat n).toUInt32.toUInt64 = UInt64.ofNat n := by
  apply UInt64.toNat_inj.mp
  rw [UInt32.toNat_toUInt64, UInt64.toNat_toUInt32,
    UInt64.toNat_ofNat_of_lt' (Nat.lt_trans (Nat.lt_of_succ_lt h) (by decide))]
  exact Nat.mod_eq_of_lt (Nat.lt_of_succ_lt h)

theorem index_ne_minusOne (m : WclapModule) {n : Nat} (h : n + 1 < 2 ^ 32) :
    UInt64.ofNat n ≠ m.minusOne := by
  intro heq
  have hn : (UInt64.ofNat n).toNat = n :=
    UInt64.toNat_ofNat_of_lt' (Nat.lt_trans (Nat.lt_of_succ_lt h) (by decide))
  unfold WclapModule.minusOne at heq
  split at heq
  next =>
    have : n = 0xFFFFFFFFFFFFFFFF := hn.symm.trans (congrArg UInt64.toNat heq)
    omega
  next =>
    have : n = 0xFFFFFFFF := hn.symm.trans (congrArg UInt64.toNat heq)
    omega

/-- A registration without an error puts the function at the end of the table. It
    does not fail if the function has no index yet, or had the same one. -/
theorem registerHost_spec {m m' : WclapModule} {instance_ instance' : InstanceImpl}
    {fn : HostFunction} {outcome : GrowOutcome} {ok : Bool}
    (h : m.registerHost instance_ fn outcome = (ok, m', instance'))
    (hprev : m.hostIndex fn = 0 ∨ (m.hostIndex fn).toNat = instance_.table.length)
    (hgroup : m'.instanceGroup.hasError = false) :
    ok = true ∧ (m'.hostIndex fn).toNat = instance_.table.length ∧
      instance' = { instance_ with table := instance_.table ++ [.host fn] } ∧
      m' = { m with hostIndex := fun f => if f = fn then m'.hostIndex fn else m.hostIndex f } := by
  have hgeneric : (registerHostGeneric instance_ fn outcome m.instanceGroup).2.2.1.hasError =
      false := by
    rw [← m.registerHost_group, h]
    exact hgroup
  obtain ⟨hlt, hgrown⟩ := registerHostGeneric_grown hgeneric
  have hindex : (UInt64.ofNat instance_.table.length).toNat = instance_.table.length :=
    UInt64.toNat_ofNat_of_lt' (Nat.lt_trans (Nat.lt_of_succ_lt hlt) (by decide))
  have hmatch : ¬ (m.hostIndex fn ≠ 0 ∧
      UInt64.ofNat instance_.table.length ≠ m.hostIndex fn) := by
    rintro ⟨hne, hdiffers⟩
    exact hdiffers (UInt64.toNat_inj.mp (hindex.trans (hprev.resolve_left hne).symm))
  simp only [WclapModule.registerHost, hgrown, truncated_index hlt] at h
  rw [if_neg (index_ne_minusOne _ hlt), if_neg hmatch] at h
  cases h
  simp [hindex]

/-- A registration of several functions without an error puts them at the end of
    the table, and their indices into the structs. -/
theorem registerHosts_spec {m m' : WclapModule} {instance_ instance' : InstanceImpl}
    {outcome : HostFunction → GrowOutcome} {fns : List HostFunction} {ok : Bool}
    (h : m.registerHosts instance_ outcome fns = (ok, m', instance')) (hnodup : fns.Nodup)
    (hprev : ∀ k fn, fns[k]? = some fn →
      m.hostIndex fn = 0 ∨ (m.hostIndex fn).toNat = instance_.table.length + k)
    (hgroup : m'.instanceGroup.hasError = false) :
    ok = true ∧ instance' = { instance_ with table := instance_.table ++ fns.map .host } ∧
      m' = { m with hostIndex := m'.hostIndex } ∧
      IndexedFrom instance_.table.length fns m'.hostIndex ∧
      ∀ fn, fn ∉ fns → m'.hostIndex fn = m.hostIndex fn := by
  induction fns generalizing m instance_ with
  | nil =>
    cases h
    simp [IndexedFrom]
  | cons fn fns ih =>
    obtain ⟨hfn, hnodup⟩ := List.nodup_cons.mp hnodup
    unfold WclapModule.registerHosts at h
    split at h
    next m₁ instance₁ heq =>
      -- a registration does not fail without an error
      cases h
      have hspec := registerHost_spec heq (hprev 0 fn rfl) hgroup
      exact Bool.noConfusion hspec.1
    next m₁ instance₁ heq =>
      have hfollows := m₁.registerHosts_follows instance₁ outcome fns
      rw [h] at hfollows
      have hgroup₁ : m₁.instanceGroup.hasError = false :=
        Bool.eq_false_iff.mpr fun herror =>
          Bool.eq_false_iff.mp hgroup (hfollows.instanceGroup.hasError herror)
      obtain ⟨-, hindex, rfl, hm₁⟩ := registerHost_spec heq (hprev 0 fn rfl) hgroup₁
      have hother : ∀ f, f ∈ fns → m₁.hostIndex f = m.hostIndex f := by
        intro f hf
        rw [hm₁]
        exact if_neg fun hff : f = fn => hfn (hff ▸ hf)
      -- the table is one longer for the functions that are left
      obtain ⟨hok, htable, hm', hindexed, hrest⟩ := ih h hnodup (by
        intro k f hf
        have hk := hprev (k + 1) f hf
        rw [hother f (List.mem_of_getElem? hf), List.length_append, List.length_singleton]
        rwa [Nat.add_assoc, Nat.add_comm 1 k])
      refine ⟨hok, ?_, ?_, ?_, ?_⟩
      · rw [htable]
        simp
      · rw [hm', hm₁]
      · rintro (_ | k) f hf
        · -- the first index is not touched by the rest: no function is there twice
          cases hf
          rw [hrest fn hfn]
          exact hindex
        · have hk := hindexed k f hf
          rw [List.length_append, List.length_singleton] at hk
          omega
      · intro f hf
        obtain ⟨hne, hf⟩ := not_or.mp (List.mem_cons.not.mp hf)
        rw [hrest f hf, hm₁]
        exact if_neg hne

/-! ## The invariant -/

/-- The host functions are in the function table from `start` on. -/
def RegisteredFrom (start : Nat) (instance_ : InstanceImpl) : Prop :=
  ∀ k fn, hostFunctions[k]? = some fn → instance_.table[start + k]? = some (.host fn)

/-- All instances have the host functions at the indices in the structs. -/
structure Hosted (start : Nat) (m : WclapModule) : Prop where
  indices : IndexedFrom start hostFunctions m.hostIndex
  tables : ∀ instance_ ∈ m.instances, RegisteredFrom start instance_

/-- The invariant of a run: an error of the group stays, and without one there is
    nothing wrong with the tables. -/
def HostedOrFailed (start : Nat) (m : WclapModule) : Prop :=
  m.instanceGroup.hasError = false → Hosted start m

theorem Hosted.agrees {start : Nat} {m : WclapModule} (h : Hosted start m)
    {instance_ : InstanceImpl} (hi : instance_ ∈ m.instances) : Agrees m instance_ := by
  intro fn
  obtain ⟨k, hk⟩ := List.mem_iff_getElem?.mp (mem_hostFunctions fn)
  rw [h.indices k fn hk]
  exact h.tables instance_ hi k fn hk

/-- `addHostFunctions` for an instance with a fresh table, the first time or with
    the indices from before. -/
theorem addHostFunctions_spec {m m' : WclapModule} {instance_ instance' : InstanceImpl}
    {grow : HostFunction → GrowOutcome} {ok : Bool} {start : Nat}
    (h : m.addHostFunctions instance_ grow = (ok, m', instance'))
    (hstart : instance_.table.length = start)
    (hprev : (∀ fn, m.hostIndex fn = 0) ∨ IndexedFrom start hostFunctions m.hostIndex)
    (hgroup : m'.instanceGroup.hasError = false) :
    ok = true ∧ m' = { m with hostIndex := m'.hostIndex } ∧
      IndexedFrom start hostFunctions m'.hostIndex ∧ RegisteredFrom start instance' := by
  subst hstart
  obtain ⟨hok, rfl, hm', hindexed, -⟩ := registerHosts_spec h hostFunctions_nodup
    (fun k fn hfn => hprev.imp (fun hzero => hzero fn) fun hindexed => hindexed k fn hfn) hgroup
  refine ⟨hok, hm', hindexed, fun k fn hfn => ?_⟩
  rw [List.getElem?_append_right (Nat.le_add_right _ _), Nat.add_sub_cancel_left,
    List.getElem?_map, hfn]
  rfl

/-! ## What keeps the invariant -/

/-- Fresh instances of the module have the same function table. -/
def FreshTable (fresh : List TableEntry) (outcome : SetupOutcome) : Prop :=
  ∀ table, outcome = .ready table → table = fresh

/-- A fresh instance that gets the host functions, for a module which has none
    registered or keeps the invariant. -/
private theorem fresh_hosted {m m' : WclapModule} {group : InstanceGroup}
    {instance_ instance' : InstanceImpl} {setup : SetupOutcome}
    {grow : HostFunction → GrowOutcome} {fresh : List TableEntry} {effects : List Effect}
    {ok : Bool} (hfresh : FreshTable fresh setup)
    (hstart : startInstance group setup = (some instance_, m.instanceGroup, effects))
    (hadd : m.addHostFunctions instance_ grow = (ok, m', instance'))
    (hprev : (∀ fn, m.hostIndex fn = 0) ∨ IndexedFrom fresh.length hostFunctions m.hostIndex)
    (hgroup : m'.instanceGroup.hasError = false) :
    ok = true ∧ m'.instances = m.instances ∧
      IndexedFrom fresh.length hostFunctions m'.hostIndex ∧
      RegisteredFrom fresh.length instance' := by
  have hfollows := m.registerHosts_follows instance_ grow hostFunctions
  rw [← WclapModule.addHostFunctions, hadd] at hfollows
  have htable := startInstance_table hstart (hfollows.instanceGroup.hasError_eq_false hgroup)
  obtain ⟨hok, hm', hindexed, hregistered⟩ := addHostFunctions_spec hadd
    (congrArg List.length (hfresh _ htable)) hprev hgroup
  exact ⟨hok, by rw [hm'], hindexed, hregistered⟩

/-- The main thread gets the host functions before guest code can reach the
    module. -/
theorem construct_hosted {is64 shared : Bool} {setup : SetupOutcome}
    {grow : HostFunction → GrowOutcome} {fresh : List TableEntry}
    (hfresh : FreshTable fresh setup) :
    HostedOrFailed fresh.length (WclapModule.construct is64 shared setup grow).2 := by
  obtain ⟨mainThread, effects, hstart, hinstances, hindex⟩ :=
    WclapModule.base_spec is64 shared setup
  intro hgroup
  obtain ⟨ok, m, instance', hadd, heq⟩ := WclapModule.construct_of_ok hinstances hgroup
  rw [heq] at hgroup ⊢
  obtain ⟨-, -, hindexed, hregistered⟩ :=
    fresh_hosted hfresh hstart hadd (.inl fun fn => congrFun hindex fn) hgroup
  exact ⟨hindexed, fun i hi => List.mem_singleton.mp hi ▸ hregistered⟩

/-- The guest's threads get the host functions at the indices of the main
    thread. -/
theorem spawnThread_hosted {m : WclapModule} {setup : SetupOutcome}
    {grow : HostFunction → GrowOutcome} {fresh : List TableEntry}
    (hm : HostedOrFailed fresh.length m) (hfresh : FreshTable fresh setup) :
    HostedOrFailed fresh.length (m.spawnThread setup grow).2.1 := by
  intro hgroup
  have hold : Hosted fresh.length m :=
    hm ((m.spawnThread_follows setup grow).instanceGroup.hasError_eq_false hgroup)
  unfold WclapModule.spawnThread at hgroup ⊢
  split
  next => exact hold
  next hset =>
    rw [if_neg hset] at hgroup
    split
    next => exact hold
    next herror =>
      rw [if_neg herror] at hgroup
      split
      next => exact ⟨hold.indices, hold.tables⟩
      next instance_ group effects hstart =>
        rw [hstart] at hgroup
        dsimp only at hgroup
        split
        next m' _ hadd =>
          -- without an error of the group, the indices are those of the main thread
          rw [hadd] at hgroup
          exact Bool.noConfusion (fresh_hosted hfresh hstart hadd (.inr hold.indices) hgroup).1
        next m' instance' hadd =>
          rw [hadd] at hgroup
          obtain ⟨-, hinstances, hindexed, hregistered⟩ :=
            fresh_hosted hfresh hstart hadd (.inr hold.indices) hgroup
          refine ⟨hindexed, fun i hi => ?_⟩
          rw [List.mem_append, hinstances, List.mem_singleton] at hi
          exact hi.elim (hold.tables i) fun heq => heq ▸ hregistered

theorem newPlugin_hosted {m : WclapModule} {start : Nat} {setup : SetupOutcome}
    (hm : HostedOrFailed start m)
    (hsetup : m.instanceGroup.hasError = true ∨ ∃ f, setup = .failed f) :
    HostedOrFailed start (m.newPlugin setup).1 := by
  intro hgroup
  have hold := (m.newPlugin_follows setup).instanceGroup.hasError_eq_false hgroup
  obtain ⟨f, rfl⟩ := hsetup.resolve_left (Bool.eq_false_iff.mp hold)
  unfold WclapModule.newPlugin at hgroup ⊢
  split at hgroup
  next => exact ⟨(hm hold).indices, (hm hold).tables⟩
  next heq => cases startInstance_table heq hgroup

/-- A request which creates no plugin, or one that gets no instance. -/
theorem perform_hosted {m : WclapModule} {start : Nat} {env : Environment} {r : Request}
    (hm : HostedOrFailed start m)
    (hr : r = .newPlugin → m.instanceGroup.hasError = true ∨ ∃ f, env.setup = .failed f) :
    HostedOrFailed start (m.perform env r).2.1 := by
  intro hgroup
  have hold := (m.perform_group_follows env r).hasError_eq_false hgroup
  by_cases hplugin : r = .newPlugin
  · subst hplugin
    exact newPlugin_hosted hm (hr rfl) hgroup
  · obtain ⟨hinstances, hindex⟩ := m.perform_instances env hplugin
    exact ⟨hindex ▸ (hm hold).indices, hinstances ▸ (hm hold).tables⟩

/-- The guest changes a table of its own. -/
theorem modifyTable_hosted {m : WclapModule} {start : Nat} (i : Nat)
    {f : InstanceImpl → InstanceImpl} (hm : HostedOrFailed start m)
    (hf : Hosted start m → ∀ instance_, RegisteredFrom start instance_ →
      RegisteredFrom start (f instance_)) :
    HostedOrFailed start { m with instances := m.instances.modify i f } := by
  intro hgroup
  refine ⟨(hm hgroup).indices, fun instance_ hi => ?_⟩
  obtain ⟨k, hk⟩ := List.mem_iff_getElem?.mp hi
  rw [List.getElem?_modify, Option.map_eq_map, Option.map_eq_some_iff] at hk
  obtain ⟨old, hold, rfl⟩ := hk
  have hregistered := (hm hgroup).tables old (List.mem_of_getElem? hold)
  split
  next => exact hf (hm hgroup) old hregistered
  next => exact hregistered

/-! ## Runs -/

/-- Instances start with equal tables. -/
def StartsFresh (fresh : List TableEntry) : Action → Prop
  | .answer _ env | .spawnThread env => FreshTable fresh env.setup
  | _ => True

/-- No plugin gets an instance of its own: none is created, unless the group has
    an error before or after. -/
def NoAudioThread (s : OpenWclap) (a : Action) : Prop :=
  ∀ i env late needsGuest next, a = .answer i env →
    s.tasks[i]? = some ⟨late, needsGuest, .request .newPlugin next⟩ →
    s.wclap.instanceGroup.hasError = true ∨ ∃ f, env.setup = .failed f

/-- Guest code leaves the entries of host functions alone. -/
def KeepsHostEntries (s : OpenWclap) : Action → Prop
  | .setEntry _ index entry =>
    ∀ fn, (s.wclap.hostIndex fn).toNat = index → entry = .host fn
  | _ => True

/-- A step keeps the invariant. -/
theorem step_hosted {s t : OpenWclap} {a : Action} {fresh : List TableEntry}
    (hs : HostedOrFailed fresh.length s.wclap) (hfresh : StartsFresh fresh a)
    (hplugin : NoAudioThread s a) (hkeeps : KeepsHostEntries s a) (ht : step s a = some t) :
    HostedOrFailed fresh.length t.wclap := by
  cases OpenWclap.step_cases ht with
  | getError =>
    intro hgroup
    have hold := hs (s.wclap.getError_follows.instanceGroup.hasError_eq_false hgroup)
    unfold WclapModule.getError
    split
    next => exact hold
    next => split <;> exact ⟨hold.indices, hold.tables⟩
  | start op => cases op <;> exact fun hgroup => ⟨(hs hgroup).indices, (hs hgroup).tables⟩
  | answer env htask =>
    exact perform_hosted hs fun hr => hplugin _ env _ _ _ rfl (hr ▸ htask)
  | spawnThread env => exact spawnThread_hosted hs hfresh
  | growTable i entries =>
    -- new entries come after those of the host functions
    refine modifyTable_hosted i hs fun _ instance_ hi k fn hfn => ?_
    have hentry := hi k fn hfn
    rw [List.getElem?_append_left (List.getElem?_eq_some_iff.mp hentry).1]
    exact hentry
  | setEntry i index entry =>
    refine modifyTable_hosted i hs fun hhosted instance_ hi k fn hfn => ?_
    have hentry := hi k fn hfn
    rw [List.getElem?_set]
    split
    next heq =>
      -- the entry of a host function is assigned its own value
      rw [hkeeps fn ((hhosted.indices k fn hfn).trans heq.symm), if_pos]
      exact heq ▸ (List.getElem?_eq_some_iff.mp hentry).1
    next => exact hentry

/-- In every state without an error of a WCLAP with shared memory, the table of
    each instance has the host functions at their indices, as long as no plugin
    has an instance of its own and guest code leaves their entries alone. -/
theorem hostTables_agree (is64 : Bool) (fresh : List TableEntry) (setup : SetupOutcome)
    (grow : HostFunction → GrowOutcome) (as : List Action) (hsetup : FreshTable fresh setup)
    (hrun : Steps step
      (fun s a => StartsFresh fresh a ∧ NoAudioThread s a ∧ KeepsHostEntries s a)
      (OpenWclap.begin is64 true setup grow) as) :
    States step
      (fun s => ¬ s.wclap.Recorded → ∀ instance_ ∈ s.wclap.instances, Agrees s.wclap instance_)
      (OpenWclap.begin is64 true setup grow) as := by
  have hstates := States.of_steps (fun s => HostedOrFailed fresh.length s.wclap)
    (fun s a t hs hG ht => step_hosted hs hG.1 hG.2.1 hG.2.2 ht) (construct_hosted hsetup) hrun
  refine hstates.mono fun s hs hrecorded instance_ hi => ?_
  have hgroup := Bool.eq_false_iff.mpr fun hgroup => hrecorded (.inr hgroup)
  exact (hs hgroup).agrees hi

/-- A thread that is spawned while `_initialize()` runs has them. -/
theorem hostTables_agree_spawned :
    States step
      (fun s => ¬ s.wclap.Recorded → ∀ instance_ ∈ s.wclap.instances, Agrees s.wclap instance_)
      (OpenWclap.begin false true (.ready [.null]) fun _ => .grown) [.spawnThread .calm] :=
  hostTables_agree false [.null] _ _ _ (fun _ h => (SetupOutcome.ready.inj h).symm)
    ⟨⟨fun _ h => (SetupOutcome.ready.inj h).symm, (fun _ _ _ _ _ h => nomatch h), trivial⟩,
      fun _ _ => trivial⟩

/-! ## A plugin with an instance of its own -/

/-- `wclap_open`, `wclap_get_factory` for a factory with one plugin, and
    `create_plugin` for that plugin, all of which go well. -/
private def createPlugin : List Action :=
  List.replicate 57 (.answer 0 .calm) ++ [.start (.getFactory true)] ++
    List.replicate 18 (.answer 1 .calm) ++ [.start (.createPlugin true)] ++
    List.replicate 8 (.answer 2 .calm)

/-- The plugin's own instance has the table it started with, which ends where the
    host functions should be. -/
theorem audioThread_unregistered :
    ¬ States step
      (fun s => ¬ s.wclap.Recorded → ∀ instance_ ∈ s.wclap.instances, Agrees s.wclap instance_)
      (OpenWclap.begin false true (.ready [.null]) fun _ => .grown) createPlugin := by
  intro hstates
  have hcreated : ∃ t, createPlugin.foldlM step
      (OpenWclap.begin false true (.ready [.null]) fun _ => .grown) = some t ∧
      ¬ t.wclap.Recorded ∧ t.wclap.plugins = [1] ∧
      t.wclap.instances[1]?.map (·.table) = some [.null] ∧
      t.wclap.hostIndex .hostTemplate_get_extension = 1 :=
    ⟨_, rfl, by decide, rfl, rfl, rfl⟩
  obtain ⟨t, ht, hrecorded, -, htable, hindex⟩ := hcreated
  obtain ⟨instance_, hi, htable⟩ := Option.map_eq_some_iff.mp htable
  have hagrees := hstates.at_end ht hrecorded instance_ (List.mem_of_getElem? hi)
    .hostTemplate_get_extension
  rw [htable, hindex] at hagrees
  exact nomatch hagrees

end WclapBridge.Spec
