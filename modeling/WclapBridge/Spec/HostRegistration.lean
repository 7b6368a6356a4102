import WclapBridge.Spec.HostTables

/-!
# When a host function cannot be registered

`registerHost` writes the new index into its template before it looks at it. A
function that has no place in the table leaves the value `-1` there, cut to 32
bits; on a 64-bit WCLAP the comparison with `-1` does not recognise it. A
function with another index than before leaves this index. Either way the
templates are not what they were.

## Key results

- `registerHost_of_noIndex`, `registerHost_of_index`: what one registration does
- `registerHosts_ok_of_complete`: without a failure all functions are registered
- `hostIndex_changed_of_false`: what a failure leaves on a 64-bit WCLAP
- `registerHosts_failure_iff`: what it leaves on a 32-bit WCLAP
- `registrationLaw_iff`: exactly when a failure leaves the templates alone
-/

namespace WclapBridge.Spec

open WclapBridge.Native

/-- Wasmtime has no index for a function registered `k` places behind the table's end:
    the group has an error, there is no type for it, or the table cannot grow. -/
def NoIndex (m : WclapModule) (instance_ : InstanceImpl) (outcome : HostFunction → GrowOutcome)
    (k : Nat) (fn : HostFunction) : Prop :=
  m.instanceGroup.hasError = true ∨ outcome fn ≠ .grown ∨
    2 ^ 32 ≤ instance_.table.length + k + 1

/-- An earlier instance got another index. -/
def OtherIndex (m : WclapModule) (instance_ : InstanceImpl) (k : Nat) (fn : HostFunction) : Prop :=
  m.hostIndex fn ≠ 0 ∧ (m.hostIndex fn).toNat ≠ instance_.table.length + k

/-- One of the registrations fails. -/
def SomeFails (m : WclapModule) (instance_ : InstanceImpl) (outcome : HostFunction → GrowOutcome)
    (fns : List HostFunction) : Prop :=
  ∃ k fn, fns[k]? = some fn ∧ (NoIndex m instance_ outcome k fn ∨ OtherIndex m instance_ k fn)

/-- The templates have the indices from an earlier instance. -/
def RegisteredBefore (m : WclapModule) : Prop :=
  ∃ m₀ m₁ instance₀ instance₁ outcome,
    WclapModule.addHostFunctions m₀ instance₀ outcome = (true, m₁, instance₁) ∧
      m.hostIndex = m₁.hostIndex

/-- A failure is reported, and leaves the templates alone; and so does success for a
    later instance. -/
structure RegistrationLaw (m : WclapModule) (instance_ : InstanceImpl)
    (outcome : HostFunction → GrowOutcome) : Prop where
  failure : SomeFails m instance_ outcome hostFunctions →
    (m.addHostFunctions instance_ outcome).1 = false ∧
      (m.addHostFunctions instance_ outcome).2.1.hasError = true ∧
      (m.addHostFunctions instance_ outcome).2.1.hostIndex = m.hostIndex
  later : RegisteredBefore m → (m.addHostFunctions instance_ outcome).1 = true →
    (m.addHostFunctions instance_ outcome).2.1.hostIndex = m.hostIndex

/-- The function that fails first has failed before, and the ones before it are where
    they were. -/
def FailsAgain (m : WclapModule) (instance_ : InstanceImpl) (outcome : HostFunction → GrowOutcome)
    (fns : List HostFunction) : Prop :=
  ∃ k fn, fns[k]? = some fn ∧ NoIndex m instance_ outcome k fn ∧ m.hostIndex fn = 0xFFFFFFFF ∧
    ∀ j < k, ∀ f, fns[j]? = some f → ¬ NoIndex m instance_ outcome j f ∧
      (m.hostIndex f).toNat = instance_.table.length + j

/-! ## One registration -/

/-- The templates after a registration. -/
def withIndex (m : WclapModule) (fn : HostFunction) (index : UInt64) : HostFunction → UInt64 :=
  fun f => if f = fn then index else m.hostIndex f

@[simp] theorem withIndex_self (m : WclapModule) (fn : HostFunction) (index : UInt64) :
    withIndex m fn index fn = index := if_pos rfl

theorem withIndex_of_ne (m : WclapModule) {fn f : HostFunction} (h : f ≠ fn) (index : UInt64) :
    withIndex m fn index f = m.hostIndex f := if_neg h

theorem withIndex_eq_iff (m : WclapModule) (fn : HostFunction) (index : UInt64) :
    withIndex m fn index = m.hostIndex ↔ m.hostIndex fn = index := by
  constructor
  · intro h
    rw [← h, withIndex_self]
  · intro h
    funext f
    by_cases hf : f = fn
    · rw [hf, withIndex_self, h]
    · exact withIndex_of_ne m hf index

variable {m : WclapModule} {instance_ : InstanceImpl} {outcome : HostFunction → GrowOutcome}
  {fn : HostFunction}

/-- Without an index, the group has an error afterwards. -/
theorem registerHostGeneric_of_noIndex (h : NoIndex m instance_ outcome 0 fn) :
    ∃ group effects, registerHostGeneric instance_ fn (outcome fn) m.instanceGroup =
      (0xFFFFFFFFFFFFFFFF, instance_, group, effects) ∧ group.hasError = true := by
  by_cases hgroup : m.instanceGroup.hasError = true
  · exact ⟨_, _, registerHostGeneric_of_hasError hgroup _ _ _, hgroup⟩
  · unfold registerHostGeneric
    rw [if_neg hgroup]
    cases houtcome : outcome fn with
    | noType => exact ⟨_, _, rfl, InstanceGroup.hasError_setError _ _⟩
    | error e => exact ⟨_, _, rfl, InstanceGroup.hasError_setError _ _⟩
    | grown =>
      have hlarge : instance_.table.length + 1 ≥ 2 ^ 32 :=
        (h.resolve_left hgroup).resolve_left (not_not.mpr houtcome)
      dsimp only
      rw [if_pos hlarge]
      exact ⟨_, _, rfl, InstanceGroup.hasError_setError _ _⟩

theorem registerHostGeneric_of_index (h : ¬ NoIndex m instance_ outcome 0 fn) :
    instance_.table.length + 1 < 2 ^ 32 ∧
    registerHostGeneric instance_ fn (outcome fn) m.instanceGroup =
      (UInt64.ofNat instance_.table.length,
        { instance_ with table := instance_.table ++ [.host fn] }, m.instanceGroup,
        instance_.uses [.wtContext, .wtFunctionTable]) := by
  obtain ⟨hgroup, hrest⟩ := not_or.mp h
  obtain ⟨houtcome, hlarge⟩ := not_or.mp hrest
  refine ⟨Nat.not_le.mp hlarge, ?_⟩
  rw [registerHostGeneric, if_neg hgroup, not_not.mp houtcome]
  dsimp only
  rw [if_neg hlarge]

/-- A registration without an index leaves `-1`, cut to 32 bits. A 32-bit WCLAP
    recognises it; a 64-bit one finds it to be another index, or goes on. -/
theorem registerHost_of_noIndex (h : NoIndex m instance_ outcome 0 fn) :
    ∃ ok m', m.registerHost instance_ fn (outcome fn) = (ok, m', instance_) ∧
      m'.hostIndex = withIndex m fn 0xFFFFFFFF ∧ m'.is64 = m.is64 ∧
      m'.instanceGroup.hasError = true ∧ (ok = false → m'.hasError = true) ∧
      (ok = true ↔ m.is64 = true ∧ (m.hostIndex fn = 0 ∨ m.hostIndex fn = 0xFFFFFFFF)) := by
  obtain ⟨group, effects, hgeneric, hgroup⟩ := registerHostGeneric_of_noIndex h
  have htruncated : (0xFFFFFFFFFFFFFFFF : UInt64).toUInt32.toUInt64 = 0xFFFFFFFF := rfl
  simp only [WclapModule.registerHost, hgeneric, htruncated, WclapModule.minusOne]
  cases his : m.is64 with
  | false =>
    simp only [Bool.false_eq_true, if_false, if_true]
    exact ⟨_, _, rfl, rfl, rfl, hgroup, fun _ => rfl, by simp⟩
  | true =>
    have hne : ¬ (0xFFFFFFFF : UInt64) = 0xFFFFFFFFFFFFFFFF := by decide
    simp only [if_true, if_neg hne]
    by_cases hother : m.hostIndex fn ≠ 0 ∧ 0xFFFFFFFF ≠ m.hostIndex fn
    · rw [if_pos hother]
      refine ⟨_, _, rfl, rfl, rfl, hgroup, fun _ => rfl, iff_of_false Bool.false_ne_true ?_⟩
      rintro ⟨-, hzero | hsame⟩
      · exact hother.1 hzero
      · exact hother.2 hsame.symm
    · rw [if_neg hother]
      refine ⟨_, _, rfl, rfl, rfl, hgroup, fun h => absurd h.symm Bool.false_ne_true,
        iff_of_true rfl ⟨trivial, ?_⟩⟩
      by_cases hzero : m.hostIndex fn = 0
      · exact .inl hzero
      · exact .inr (not_not.mp fun hne => hother ⟨hzero, Ne.symm hne⟩)

/-- A registration with an index puts the function at the end of the table. It fails
    if the function had another one. -/
theorem registerHost_of_index (h : ¬ NoIndex m instance_ outcome 0 fn) :
    ∃ ok m', m.registerHost instance_ fn (outcome fn) =
        (ok, m', { instance_ with table := instance_.table ++ [.host fn] }) ∧
      m'.hostIndex = withIndex m fn (UInt64.ofNat instance_.table.length) ∧ m'.is64 = m.is64 ∧
      m'.instanceGroup = m.instanceGroup ∧ (ok = false → m'.hasError = true) ∧
      (ok = true ↔ ¬ OtherIndex m instance_ 0 fn) ∧
      (UInt64.ofNat instance_.table.length).toNat = instance_.table.length := by
  obtain ⟨hlt, hgeneric⟩ := registerHostGeneric_of_index h
  have htoNat : (UInt64.ofNat instance_.table.length).toNat = instance_.table.length :=
    UInt64.toNat_ofNat_of_lt' (Nat.lt_trans (Nat.lt_of_succ_lt hlt) (by decide))
  have hother : (m.hostIndex fn ≠ 0 ∧ UInt64.ofNat instance_.table.length ≠ m.hostIndex fn) ↔
      OtherIndex m instance_ 0 fn := by
    refine and_congr_right fun _ => ?_
    rw [Nat.add_zero, ne_comm, ne_eq, ← UInt64.toNat_inj, htoNat]
  simp only [WclapModule.registerHost, hgeneric, truncated_index hlt]
  rw [if_neg (index_ne_minusOne _ hlt)]
  by_cases hother' : m.hostIndex fn ≠ 0 ∧ UInt64.ofNat instance_.table.length ≠ m.hostIndex fn
  · rw [if_pos hother']
    exact ⟨_, _, rfl, rfl, rfl, rfl, fun _ => rfl,
      iff_of_false Bool.false_ne_true (not_not.mpr (hother.mp hother')), htoNat⟩
  · rw [if_neg hother']
    exact ⟨_, _, rfl, rfl, rfl, rfl, fun h => absurd h.symm Bool.false_ne_true,
      iff_of_true rfl fun h => hother' (hother.mpr h), htoNat⟩

/-! ## All registrations -/

section

variable {m₁ : WclapModule} {instance₁ : InstanceImpl} {fns : List HostFunction}

theorem registerHosts_cons_false
    (h : m.registerHost instance_ fn (outcome fn) = (false, m₁, instance₁)) :
    m.registerHosts instance_ outcome (fn :: fns) = (false, m₁, instance₁) := by
  rw [WclapModule.registerHosts, h]

theorem registerHosts_cons_true
    (h : m.registerHost instance_ fn (outcome fn) = (true, m₁, instance₁)) :
    m.registerHosts instance_ outcome (fn :: fns) = m₁.registerHosts instance₁ outcome fns := by
  rw [WclapModule.registerHosts, h]

/-- The index of another function is not touched. -/
theorem registerHosts_frame {f : HostFunction} (hf : f ∉ fns) :
    (m.registerHosts instance_ outcome fns).2.1.hostIndex f = m.hostIndex f := by
  induction fns generalizing m instance_ with
  | nil => rfl
  | cons fn fns ih =>
    obtain ⟨hne, hrest⟩ := not_or.mp (List.mem_cons.not.mp hf)
    have hone : ∃ ok m₁ instance₁ index,
        m.registerHost instance_ fn (outcome fn) = (ok, m₁, instance₁) ∧
          m₁.hostIndex = withIndex m fn index := by
      by_cases hindex : NoIndex m instance_ outcome 0 fn
      · obtain ⟨ok, m₁, heq, hm₁, -⟩ := registerHost_of_noIndex hindex
        exact ⟨ok, m₁, _, _, heq, hm₁⟩
      · obtain ⟨ok, m₁, heq, hm₁, -⟩ := registerHost_of_index hindex
        exact ⟨ok, m₁, _, _, heq, hm₁⟩
    obtain ⟨ok, m₁, instance₁, index, heq, hm₁⟩ := hone
    cases ok with
    | false =>
      rw [registerHosts_cons_false heq, hm₁]
      exact withIndex_of_ne m hne index
    | true =>
      rw [registerHosts_cons_true heq, ih hrest, hm₁]
      exact withIndex_of_ne m hne index

/-- On a 64-bit WCLAP, a failure that is reported has left another index. -/
theorem hostIndex_changed_of_false (his : m.is64 = true) (hnodup : fns.Nodup)
    (h : (m.registerHosts instance_ outcome fns).1 = false) :
    ∃ f ∈ fns, (m.registerHosts instance_ outcome fns).2.1.hostIndex f ≠ m.hostIndex f := by
  induction fns generalizing m instance_ with
  | nil => cases h
  | cons fn fns ih =>
    obtain ⟨hfn, hnodup⟩ := List.nodup_cons.mp hnodup
    -- if the first registration succeeds, a later one has failed
    have hlater : ∀ {m₁ instance₁ index}, m.registerHost instance_ fn (outcome fn) =
        (true, m₁, instance₁) → m₁.hostIndex = withIndex m fn index → m₁.is64 = m.is64 →
        ∃ f ∈ fn :: fns,
          (m.registerHosts instance_ outcome (fn :: fns)).2.1.hostIndex f ≠ m.hostIndex f := by
      intro m₁ instance₁ index heq hm₁ his₁
      rw [registerHosts_cons_true heq] at h ⊢
      obtain ⟨f, hf, hchanged⟩ := ih (his₁.trans his) hnodup h
      have hne : f ≠ fn := fun heq => hfn (heq ▸ hf)
      rw [hm₁, withIndex_of_ne m hne] at hchanged
      exact ⟨f, List.mem_cons_of_mem _ hf, hchanged⟩
    -- if it fails, its own index is another one
    have hnow : ∀ {m₁ instance₁ index}, m.registerHost instance_ fn (outcome fn) =
        (false, m₁, instance₁) → m₁.hostIndex = withIndex m fn index → index ≠ m.hostIndex fn →
        ∃ f ∈ fn :: fns,
          (m.registerHosts instance_ outcome (fn :: fns)).2.1.hostIndex f ≠ m.hostIndex f := by
      intro m₁ instance₁ index heq hm₁ hne
      refine ⟨fn, List.mem_cons_self, ?_⟩
      rw [registerHosts_cons_false heq, hm₁, withIndex_self]
      exact hne
    by_cases hindex : NoIndex m instance_ outcome 0 fn
    · obtain ⟨ok, m₁, heq, hm₁, his₁, -, -, hok⟩ := registerHost_of_noIndex hindex
      cases ok with
      | true => exact hlater heq hm₁ his₁
      | false =>
        apply hnow heq hm₁
        intro hsame
        exact Bool.false_ne_true (hok.mpr ⟨his, .inr hsame.symm⟩)
    · obtain ⟨ok, m₁, heq, hm₁, his₁, -, -, hok, htoNat⟩ := registerHost_of_index hindex
      cases ok with
      | true => exact hlater heq hm₁ his₁
      | false =>
        apply hnow heq hm₁
        intro hsame
        apply Bool.false_ne_true
        apply hok.mpr
        intro hother
        apply hother.2
        rw [← hsame, htoNat]
        rfl

/-- After a registration with an index, the functions behind it are one place closer. -/
private theorem noIndex_succ {k : Nat} {f : HostFunction}
    (hgroup : m₁.instanceGroup = m.instanceGroup) :
    NoIndex m₁ { instance_ with table := instance_.table ++ [.host fn] } outcome k f ↔
      NoIndex m instance_ outcome (k + 1) f := by
  simp only [NoIndex, hgroup, List.length_append, List.length_singleton]
  rw [Nat.add_right_comm _ 1 k, Nat.add_assoc _ k 1]

private theorem otherIndex_succ {k : Nat} {f : HostFunction} {index : UInt64}
    (hm₁ : m₁.hostIndex = withIndex m fn index) (hf : f ≠ fn) :
    OtherIndex m₁ { instance_ with table := instance_.table ++ [.host fn] } k f ↔
      OtherIndex m instance_ (k + 1) f := by
  simp only [OtherIndex, hm₁, withIndex_of_ne m hf, List.length_append, List.length_singleton]
  rw [Nat.add_right_comm _ 1 k, Nat.add_assoc _ k 1]

private theorem ne_of_getElem? {k : Nat} {f : HostFunction} (hfn : fn ∉ fns)
    (hf : fns[k]? = some f) : f ≠ fn := by
  intro heq
  rw [← heq] at hfn
  exact hfn (List.mem_of_getElem? hf)

/-- One of the functions behind the first fails, after the first was registered. -/
private theorem someFails_succ {index : UInt64} (hfn : fn ∉ fns)
    (hm₁ : m₁.hostIndex = withIndex m fn index) (hgroup : m₁.instanceGroup = m.instanceGroup) :
    SomeFails m₁ { instance_ with table := instance_.table ++ [.host fn] } outcome fns ↔
      ∃ k f, fns[k]? = some f ∧
        (NoIndex m instance_ outcome (k + 1) f ∨ OtherIndex m instance_ (k + 1) f) := by
  refine exists_congr fun k => exists_congr fun f => and_congr_right fun hf => ?_
  rw [noIndex_succ hgroup, otherIndex_succ hm₁ (ne_of_getElem? hfn hf)]

private theorem failsAgain_succ {index : UInt64} (hindex : ¬ NoIndex m instance_ outcome 0 fn)
    (hfn : fn ∉ fns) (hm₁ : m₁.hostIndex = withIndex m fn index)
    (hgroup : m₁.instanceGroup = m.instanceGroup) :
    FailsAgain m instance_ outcome (fn :: fns) ↔
      (m.hostIndex fn).toNat = instance_.table.length ∧
        FailsAgain m₁ { instance_ with table := instance_.table ++ [.host fn] } outcome fns := by
  -- the functions behind the first are as they were, and one place closer
  have hother : ∀ {j f}, fns[j]? = some f → m₁.hostIndex f = m.hostIndex f := fun hf => by
    rw [hm₁, withIndex_of_ne m (ne_of_getElem? hfn hf)]
  have hlength : ∀ j, (instance_.table ++ [TableEntry.host fn]).length + j =
      instance_.table.length + (j + 1) := fun j => by
    rw [List.length_append, List.length_singleton, Nat.add_assoc, Nat.add_comm 1 j]
  constructor
  · rintro ⟨k, f, hf, hnoIndex, hmark, hbefore⟩
    cases k with
    | zero =>
      cases hf
      exact absurd hnoIndex hindex
    | succ k =>
      refine ⟨(hbefore 0 (Nat.succ_pos k) fn rfl).2, k, f, hf, (noIndex_succ hgroup).mpr hnoIndex,
        (hother hf).trans hmark, fun j hj g hg => ?_⟩
      obtain ⟨hsome, htoNat⟩ := hbefore (j + 1) (Nat.succ_lt_succ hj) g hg
      refine ⟨(noIndex_succ hgroup).not.mpr hsome, ?_⟩
      rw [hother hg, htoNat]
      exact (hlength j).symm
  · rintro ⟨hfirst, k, f, hf, hnoIndex, hmark, hbefore⟩
    refine ⟨k + 1, f, hf, (noIndex_succ hgroup).mp hnoIndex, (hother hf).symm.trans hmark,
      fun j hj g hg => ?_⟩
    cases j with
    | zero =>
      cases hg
      exact ⟨hindex, hfirst⟩
    | succ j =>
      obtain ⟨hsome, htoNat⟩ := hbefore j (Nat.lt_of_succ_lt_succ hj) g hg
      refine ⟨(noIndex_succ hgroup).not.mp hsome, ?_⟩
      rw [← hother hg, htoNat]
      exact hlength j

/-- Without a failure, all functions are registered one after the other. -/
theorem registerHosts_ok_of_complete (hnodup : fns.Nodup)
    (h : ¬ SomeFails m instance_ outcome fns) :
    (m.registerHosts instance_ outcome fns).1 = true ∧
      IndexedFrom instance_.table.length fns
        (m.registerHosts instance_ outcome fns).2.1.hostIndex := by
  induction fns generalizing m instance_ with
  | nil => exact ⟨rfl, fun k f hf => nomatch hf⟩
  | cons fn fns ih =>
    obtain ⟨hfn, hnodup⟩ := List.nodup_cons.mp hnodup
    have hfirst : ¬ (NoIndex m instance_ outcome 0 fn ∨ OtherIndex m instance_ 0 fn) :=
      fun hfails => h ⟨0, fn, rfl, hfails⟩
    obtain ⟨hindex, hother⟩ := not_or.mp hfirst
    obtain ⟨ok, m₁, heq, hm₁, -, hgroup, -, hok, htoNat⟩ := registerHost_of_index hindex
    cases hok.mpr hother
    have hrest : ¬ SomeFails m₁ { instance_ with table := instance_.table ++ [.host fn] } outcome
        fns := by
      rw [someFails_succ hfn hm₁ hgroup]
      rintro ⟨k, f, hf, hfails⟩
      exact h ⟨k + 1, f, hf, hfails⟩
    obtain ⟨htrue, hindexed⟩ := ih hnodup hrest
    rw [registerHosts_cons_true heq]
    refine ⟨htrue, fun k f hf => ?_⟩
    cases k with
    | zero =>
      cases hf
      rw [registerHosts_frame hfn, hm₁, withIndex_self, htoNat]
      rfl
    | succ k =>
      rw [hindexed k f hf, List.length_append, List.length_singleton, Nat.add_assoc,
        Nat.add_comm 1 k]

/-- On a 32-bit WCLAP a failure is reported. It leaves the templates alone if and only
    if it is one that has already left its mark. -/
theorem registerHosts_failure_iff (his : m.is64 = false) (hnodup : fns.Nodup)
    (h : SomeFails m instance_ outcome fns) :
    (m.registerHosts instance_ outcome fns).1 = false ∧
      (m.registerHosts instance_ outcome fns).2.1.hasError = true ∧
      ((m.registerHosts instance_ outcome fns).2.1.hostIndex = m.hostIndex ↔
        FailsAgain m instance_ outcome fns) := by
  induction fns generalizing m instance_ with
  | nil =>
    obtain ⟨k, f, hf, -⟩ := h
    cases hf
  | cons fn fns ih =>
    obtain ⟨hfn, hnodup⟩ := List.nodup_cons.mp hnodup
    by_cases hindex : NoIndex m instance_ outcome 0 fn
    · -- the first registration fails for want of an index
      obtain ⟨ok, m₁, heq, hm₁, -, -, herror, hok⟩ := registerHost_of_noIndex hindex
      cases ok with
      | true => exact absurd ((hok.mp rfl).1.symm.trans his) (by decide)
      | false =>
        rw [registerHosts_cons_false heq]
        refine ⟨rfl, herror rfl, ?_⟩
        rw [hm₁, withIndex_eq_iff]
        constructor
        · intro hsame
          exact ⟨0, fn, rfl, hindex, hsame, fun j hj => absurd hj (Nat.not_lt_zero j)⟩
        · rintro ⟨k, f, hf, -, hsame, hbefore⟩
          cases k with
          | zero =>
            cases hf
            exact hsame
          | succ k => exact absurd hindex (hbefore 0 (Nat.succ_pos k) fn rfl).1
    · obtain ⟨ok, m₁, heq, hm₁, his₁, hgroup, herror, hok, htoNat⟩ := registerHost_of_index hindex
      cases ok with
      | false =>
        -- it fails because it has another index
        have hother : OtherIndex m instance_ 0 fn :=
          not_not.mp fun hother => Bool.false_ne_true (hok.mpr hother)
        rw [registerHosts_cons_false heq]
        refine ⟨rfl, herror rfl, ?_⟩
        rw [hm₁, withIndex_eq_iff]
        refine iff_of_false (fun hsame => hother.2 (by rw [hsame, htoNat]; rfl)) ?_
        rintro ⟨k, f, hf, hnoIndex, -, hbefore⟩
        cases k with
        | zero =>
          cases hf
          exact hindex hnoIndex
        | succ k => exact hother.2 (hbefore 0 (Nat.succ_pos k) fn rfl).2
      | true =>
        have hrest : SomeFails m₁ { instance_ with table := instance_.table ++ [.host fn] } outcome
            fns := by
          rw [someFails_succ hfn hm₁ hgroup]
          obtain ⟨k, f, hf, hfails⟩ := h
          cases k with
          | zero =>
            cases hf
            exact absurd hfails (not_or.mpr ⟨hindex, hok.mp rfl⟩)
          | succ k => exact ⟨k, f, hf, hfails⟩
        obtain ⟨hfalse, hhasError, hunchanged⟩ := ih (his₁.trans his) hnodup hrest
        rw [registerHosts_cons_true heq]
        refine ⟨hfalse, hhasError, ?_⟩
        rw [failsAgain_succ hindex hfn hm₁ hgroup, ← hunchanged]
        have hkept := withIndex_eq_iff m fn (UInt64.ofNat instance_.table.length)
        constructor
        · intro hsame
          have hindexed : m.hostIndex fn = UInt64.ofNat instance_.table.length := by
            rw [← hsame, registerHosts_frame hfn, hm₁, withIndex_self]
          exact ⟨by rw [hindexed, htoNat], by rw [hsame, hm₁, hkept.mpr hindexed]⟩
        · rintro ⟨htoNat', hsame⟩
          have hindexed : m.hostIndex fn = UInt64.ofNat instance_.table.length :=
            UInt64.toNat_inj.mp (htoNat'.trans htoNat.symm)
          rw [hsame, hm₁, hkept.mpr hindexed]

end

/-! ## A later instance -/

/-- After an error, nothing has an index. -/
theorem registerHosts_of_hasError {fns : List HostFunction}
    (hgroup : m.instanceGroup.hasError = true) (hnodup : fns.Nodup)
    (h : (m.registerHosts instance_ outcome fns).1 = true) {f : HostFunction} (hf : f ∈ fns) :
    (m.registerHosts instance_ outcome fns).2.1.hostIndex f = 0xFFFFFFFF := by
  induction fns generalizing m instance_ with
  | nil => cases hf
  | cons fn fns ih =>
    obtain ⟨hfn, hnodup⟩ := List.nodup_cons.mp hnodup
    have hindex : NoIndex m instance_ outcome 0 fn := .inl hgroup
    obtain ⟨ok, m₁, heq, hm₁, -, hgroup₁, -⟩ := registerHost_of_noIndex hindex
    cases ok with
    | false =>
      rw [registerHosts_cons_false heq] at h
      cases h
    | true =>
      rw [registerHosts_cons_true heq] at h ⊢
      rcases List.mem_cons.mp hf with rfl | hf
      · rw [registerHosts_frame hfn, hm₁, withIndex_self]
      · exact ih hgroup₁ hnodup h hf

/-- What a registration that succeeds leaves: consecutive indices, but for those that
    a 64-bit WCLAP has not recognised as missing. -/
theorem registerHosts_true {fns : List HostFunction} (hnodup : fns.Nodup)
    (h : (m.registerHosts instance_ outcome fns).1 = true) {k : Nat} {f : HostFunction}
    (hf : fns[k]? = some f) :
    (m.registerHosts instance_ outcome fns).2.1.hostIndex f = 0xFFFFFFFF ∨
      ((m.registerHosts instance_ outcome fns).2.1.hostIndex f).toNat =
        instance_.table.length + k := by
  induction fns generalizing m instance_ k with
  | nil => cases hf
  | cons fn fns ih =>
    obtain ⟨hfn, hnodup⟩ := List.nodup_cons.mp hnodup
    by_cases hindex : NoIndex m instance_ outcome 0 fn
    · -- after a failure that went unnoticed, all the others fail as well
      obtain ⟨ok, m₁, heq, hm₁, -, hgroup, -⟩ := registerHost_of_noIndex hindex
      cases ok with
      | false =>
        rw [registerHosts_cons_false heq] at h
        cases h
      | true =>
        rw [registerHosts_cons_true heq] at h ⊢
        left
        cases k with
        | zero =>
          cases hf
          rw [registerHosts_frame hfn, hm₁, withIndex_self]
        | succ k =>
          exact registerHosts_of_hasError hgroup hnodup h (List.mem_of_getElem? hf)
    · obtain ⟨ok, m₁, heq, hm₁, -, -, -, -, htoNat⟩ := registerHost_of_index hindex
      cases ok with
      | false =>
        rw [registerHosts_cons_false heq] at h
        cases h
      | true =>
        rw [registerHosts_cons_true heq] at h ⊢
        cases k with
        | zero =>
          cases hf
          rw [registerHosts_frame hfn, hm₁, withIndex_self]
          exact .inr htoNat
        | succ k =>
          refine (ih hnodup h hf).imp_right fun hk => ?_
          rw [hk, List.length_append, List.length_singleton, Nat.add_assoc, Nat.add_comm 1 k]

/-- The indices of a module that has registered its functions before. -/
theorem RegisteredBefore.indices (h : RegisteredBefore m) : ∃ start, ∀ k f,
    hostFunctions[k]? = some f →
      m.hostIndex f = 0xFFFFFFFF ∨ (m.hostIndex f).toNat = start + k := by
  obtain ⟨m₀, m₁, instance₀, instance₁, outcome₀, hadd, hsame⟩ := h
  have htrue : (m₀.registerHosts instance₀ outcome₀ hostFunctions).1 = true :=
    congrArg Prod.fst hadd
  refine ⟨instance₀.table.length, fun k f hf => ?_⟩
  have hindex := registerHosts_true hostFunctions_nodup htrue hf
  rwa [← WclapModule.addHostFunctions, hadd, ← hsame] at hindex

/-- If nothing fails, a function that has an index gets the same. -/
theorem hostIndex_of_not_someFails {fns : List HostFunction}
    (h : ¬ SomeFails m instance_ outcome fns) {k : Nat} {f : HostFunction}
    (hf : fns[k]? = some f) : instance_.table.length + k + 1 < 2 ^ 32 ∧
      (m.hostIndex f ≠ 0 → (m.hostIndex f).toNat = instance_.table.length + k) := by
  -- a table that is too large has no index to give
  obtain ⟨hnoIndex, hother⟩ := not_or.mp fun hfails => h ⟨k, f, hf, hfails⟩
  refine ⟨Nat.not_le.mp fun hlarge => hnoIndex (.inr (.inr hlarge)), fun hne => ?_⟩
  exact not_not.mp fun hdiffers => hother ⟨hne, hdiffers⟩

/-- Only the first function of an empty table can have the index 0 from before. -/
theorem length_eq_zero_of_hostIndex (hregistered : RegisteredBefore m)
    (h : ¬ SomeFails m instance_ outcome hostFunctions) {k : Nat} {f : HostFunction}
    (hf : hostFunctions[k]? = some f) (hzero : m.hostIndex f = 0) :
    instance_.table.length + k = 0 := by
  obtain ⟨start, hearlier⟩ := hregistered.indices
  have hstart : start + k = 0 := by
    rcases hearlier k f hf with hmissing | hk
    · exact absurd (hzero.symm.trans hmissing) (by decide)
    · rw [← hk, hzero]
      rfl
  -- the second function has another index, which it gets again
  have hsecond : hostFunctions[1]? = some .hostTemplate_request_restart := rfl
  obtain ⟨hlt, hmatch⟩ := hostIndex_of_not_someFails h hsecond
  rcases hearlier 1 _ hsecond with hmissing | hk
  · have hne : m.hostIndex .hostTemplate_request_restart ≠ 0 := by
      rw [hmissing]
      decide
    have hvalue : (0xFFFFFFFF : UInt64).toNat = 4294967295 := rfl
    have hlast := hmatch hne
    rw [hmissing, hvalue] at hlast
    omega
  · have hne : m.hostIndex .hostTemplate_request_restart ≠ 0 := by
      intro hzero
      rw [hzero] at hk
      exact absurd hk (Nat.ne_of_lt (Nat.succ_pos _))
    have hlast := hmatch hne
    omega

/-- If nothing fails, a later instance gets the indices of an earlier one. -/
theorem hostIndex_unchanged_of_registered (hregistered : RegisteredBefore m)
    (h : ¬ SomeFails m instance_ outcome hostFunctions) :
    (m.addHostFunctions instance_ outcome).2.1.hostIndex = m.hostIndex := by
  obtain ⟨-, hindexed⟩ := registerHosts_ok_of_complete hostFunctions_nodup h
  funext f
  obtain ⟨k, hf⟩ := List.mem_iff_getElem?.mp (mem_hostFunctions f)
  apply UInt64.toNat_inj.mp
  rw [WclapModule.addHostFunctions, hindexed k f hf]
  by_cases hzero : m.hostIndex f = 0
  · rw [length_eq_zero_of_hostIndex hregistered h hf hzero, hzero]
    rfl
  · exact ((hostIndex_of_not_someFails h hf).2 hzero).symm

/-! ## The law -/

/-- The law holds if and only if no registration fails, or the WCLAP has 32 bits and
    the first one that fails has failed in the same way before. -/
theorem registrationLaw_iff (m : WclapModule) (instance_ : InstanceImpl)
    (outcome : HostFunction → GrowOutcome) :
    RegistrationLaw m instance_ outcome ↔
      ¬ SomeFails m instance_ outcome hostFunctions ∨
        (m.is64 = false ∧ FailsAgain m instance_ outcome hostFunctions) := by
  constructor
  · intro hlaw
    by_cases hfails : SomeFails m instance_ outcome hostFunctions
    · obtain ⟨hfalse, -, hunchanged⟩ := hlaw.failure hfails
      cases his : m.is64 with
      | true =>
        obtain ⟨f, -, hchanged⟩ := hostIndex_changed_of_false his hostFunctions_nodup hfalse
        exact absurd (congrFun hunchanged f) hchanged
      | false =>
        have hiff := (registerHosts_failure_iff his hostFunctions_nodup hfails).2.2
        exact .inr ⟨rfl, hiff.mp hunchanged⟩
    · exact .inl hfails
  · rintro (hok | ⟨his, hagain⟩)
    · exact ⟨fun hfails => absurd hfails hok,
        fun hregistered _ => hostIndex_unchanged_of_registered hregistered hok⟩
    · have hfails : SomeFails m instance_ outcome hostFunctions := by
        obtain ⟨k, fn, hfn, hnoIndex, -⟩ := hagain
        exact ⟨k, fn, hfn, .inl hnoIndex⟩
      obtain ⟨hfalse, herror, hiff⟩ := registerHosts_failure_iff his hostFunctions_nodup hfails
      refine ⟨fun _ => ⟨hfalse, herror, hiff.mpr hagain⟩, fun _ htrue => ?_⟩
      exact absurd (hfalse.symm.trans htrue) Bool.false_ne_true

/-- A 64-bit WCLAP whose function types cannot be created has no host function, and
    goes on. -/
theorem missing_functions_unnoticed :
    ¬ RegistrationLaw (WclapModule.base true false (.ready [.null])) ⟨fun _ => true, [.null]⟩
      fun _ => .noType := by
  intro hlaw
  have hfails : SomeFails (WclapModule.base true false (.ready [.null])) ⟨fun _ => true, [.null]⟩
      (fun _ => .noType) hostFunctions :=
    ⟨0, .hostTemplate_get_extension, rfl, .inl (.inr (.inl fun h => nomatch h))⟩
  exact absurd (hlaw.failure hfails).1 (by decide)

end WclapBridge.Spec
