import WclapBridge.ForStd.Transition
import WclapBridge.Native.GetFactory
import WclapBridge.Spec.CallFailure

/-!
# A guest without a plugin factory

`getFactory` returns null if the guest does. It does so after the constructor of
`PluginFactory` has used the null pointer: it reads the address of `get_plugin_count` at
the start of guest memory, and calls what it finds.

## Key results

- `newPluginFactory_calls`: the constructor calls the guest, or records an error
- `absentFactory_iff`: null is returned, but not without consequences
-/

namespace WclapBridge.Spec

open WclapBridge.Native

variable {is64 : Bool} {γ : Type} {guest : GuestMachine is64 γ} {layout : FactoryLayout}
  {entryPtr : Pointer is64} {s : FactoryCaller is64 γ}

/-- A call of `wclap_get_factory`. -/
def getFactoryStep (guest : GuestMachine is64 γ) (layout : FactoryLayout)
    (entryPtr : Pointer is64) (s : FactoryCaller is64 γ) (factoryId : CString) :
    Option (FactoryCaller is64 γ) :=
  some (s.getFactory guest layout entryPtr factoryId).2

/-- `get_factory` of the guest returns null for a string. -/
def CallReturnsNull (guest : GuestMachine is64 γ) (layout : FactoryLayout)
    (entryPtr : Pointer is64) (s : FactoryCaller is64 γ) (wclapStr : Pointer is64) : Prop :=
  ∃ fnPtr run value,
    (guest.memory s.guest).callAt (entryPtr.offset layout.get_factory) = some fnPtr ∧
      guest.table s.guest fnPtr.toUInt64 = some (.funcref run) ∧
      run [argToWasmVal (.pointer is64) wclapStr] = .returned value ∧
      wasmValToArg (.pointer is64) value = Pointer.null

/-- The guest has no plugin factory: `get_factory` returns null for the id that the bridge
    writes. -/
def ReturnsNull (guest : GuestMachine is64 γ) (layout : FactoryLayout) (entryPtr : Pointer is64)
    (s : FactoryCaller is64 γ) : Prop :=
  CallReturnsNull guest layout entryPtr (s.writeString guest CLAP_PLUGIN_FACTORY_ID).2
    (s.writeString guest CLAP_PLUGIN_FACTORY_ID).1

/-- A call of `wclap_get_factory` finds no factory, and nothing more happens. -/
structure AbsentFactory (guest : GuestMachine is64 γ) (layout : FactoryLayout)
    (entryPtr : Pointer is64) (s : FactoryCaller is64 γ) (factoryId : CString) : Prop where
  null : (s.getFactory guest layout entryPtr factoryId).1 = Pointer.null
  /-- No other function of the guest is called. -/
  called : ∃ fns, (s.getFactory guest layout entryPtr factoryId).2.called = s.called ++ fns ∧
    ∀ fn ∈ fns, fn = .malloc ∨ fn = .clap_entry .get_factory
  group : (s.getFactory guest layout entryPtr factoryId).2.group = s.group
  hasError : (s.getFactory guest layout entryPtr factoryId).2.hasError = s.hasError
  errorMessage : (s.getFactory guest layout entryPtr factoryId).2.errorMessage = s.errorMessage

/-! ## Calls -/

/-- What a call leaves of the errors and of the record of calls. -/
structure FactoryFollows (s t : FactoryCaller is64 γ) : Prop where
  hasError : s.group.hasError = true → t.group.hasError = true
  called : s.called <+: t.called

namespace FactoryFollows

variable {t u : FactoryCaller is64 γ}

theorem refl (s : FactoryCaller is64 γ) : FactoryFollows s s := ⟨id, List.prefix_rfl⟩

theorem trans (h : FactoryFollows s t) (h' : FactoryFollows t u) : FactoryFollows s u :=
  ⟨h'.hasError ∘ h.hasError, h.called.trans h'.called⟩

theorem hasError_eq_false (h : FactoryFollows s t) (ht : t.group.hasError = false) :
    s.group.hasError = false :=
  Bool.eq_false_iff.mpr fun hs => Bool.eq_false_iff.mp ht (h.hasError hs)

end FactoryFollows

/-- There is always a function pointer to be read. -/
theorem factoryCallAt (guest : GuestMachine is64 γ) (s : FactoryCaller is64 γ)
    (fnPtrPtr : Pointer is64) (ret : ReturnType) (args : List Arg) : ∃ fnPtr : Pointer is64,
      InstanceImpl.callAt (guest.table s.guest) s.group (guest.memory s.guest) fnPtrPtr ret args 0 =
        InstanceImpl.call (guest.table s.guest) s.group fnPtr ret args 0 := by
  obtain ⟨fnPtr, -, heq⟩ := callAt_eq_call (guest.memory s.guest) fnPtrPtr
  exact ⟨fnPtr, heq⟩

/-- After an error a call does nothing. -/
theorem factoryCall_of_hasError (h : s.group.hasError = true) (fn : GuestFunction)
    (fnPtrPtr : Pointer is64) (ret : ReturnType) (args : List Arg) :
    s.callAt guest fn fnPtrPtr ret args = (ret.zero, s) := by
  obtain ⟨fnPtr, heq⟩ := factoryCallAt guest s fnPtrPtr ret args
  -- the first thing that `wtCall` looks at
  have hresult : (InstanceImpl.call (guest.table s.guest) s.group fnPtr ret args 0).result =
      ret.zero := call_result_of_fails (.hasError h)
  have hraw (slots : List ValRaw) (argN : Nat) :
      wtCallRaw (guest.table s.guest) s.group fnPtr.toUInt64 slots argN =
        ⟨clearResult slots argN, s.group, none⟩ := if_pos h
  have hgroup : (InstanceImpl.call (guest.table s.guest) s.group fnPtr ret args 0).group =
      s.group := congrArg RawCall.group (hraw _ _)
  have hslots : (InstanceImpl.call (guest.table s.guest) s.group fnPtr ret args 0).slotCount =
      none := congrArg RawCall.slotCount (hraw _ _)
  simp only [FactoryCaller.callAt, heq, hresult, hgroup, hslots]
  rfl

/-- Without an error, a call either calls the guest or records an error. -/
theorem wtCallRaw_calls (table : FunctionTable) {group : InstanceGroup}
    (h : group.hasError = false) (fnP : UInt64) (slots : List ValRaw) (argN : Nat) :
    (wtCallRaw table group fnP slots argN).slotCount.isSome = true ∨
      (wtCallRaw table group fnP slots argN).group.hasError = true := by
  unfold wtCallRaw
  rw [if_neg (Bool.eq_false_iff.mp h)]
  rcases table fnP with _ | _ | run
  · exact .inr (InstanceGroup.hasError_setError _ _)
  · exact .inr (InstanceGroup.hasError_setError _ _)
  · left
    dsimp only
    split <;> rfl

theorem factoryCall_calls (h : s.group.hasError = false) (fn : GuestFunction)
    (fnPtrPtr : Pointer is64) (ret : ReturnType) (args : List Arg) :
    (s.callAt guest fn fnPtrPtr ret args).2.called = s.called ++ [fn] ∨
      (s.callAt guest fn fnPtrPtr ret args).2.group.hasError = true := by
  obtain ⟨fnPtr, heq⟩ := factoryCallAt guest s fnPtrPtr ret args
  simp only [FactoryCaller.callAt, heq]
  have hraw : (InstanceImpl.call (guest.table s.guest) s.group fnPtr ret args 0).slotCount.isSome =
        true ∨
      (InstanceImpl.call (guest.table s.guest) s.group fnPtr ret args 0).group.hasError = true :=
    wtCallRaw_calls _ h _ _ _
  rcases hraw with hcalled | herror
  · left
    rw [if_pos hcalled]
  · right
    split <;> exact herror

theorem factoryCall_follows (s : FactoryCaller is64 γ) (fn : GuestFunction)
    (fnPtrPtr : Pointer is64) (ret : ReturnType) (args : List Arg) :
    FactoryFollows s (s.callAt guest fn fnPtrPtr ret args).2 := by
  refine ⟨fun h => ?_, ?_⟩
  · rw [factoryCall_of_hasError h]
    exact h
  · simp only [FactoryCaller.callAt]
    split
    · exact List.prefix_append _ _
    · exact List.prefix_rfl

/-! ## The string, and the constructor -/

theorem wtMalloc_group_of_hasError {group : InstanceGroup} (h : group.hasError = true)
    (instance_ : InstanceImpl) (outcome : CallOutcome) :
    (wtMalloc instance_ outcome group).2.1 = group := by
  have hset (message : String) : group.setError message = group := if_pos h
  have hwt (e : String) : group.setWtError e = group := if_pos h
  cases outcome with
  | error e => simp only [wtMalloc, hwt, hset]
  | timeout => exact hset _
  | trap => exact hset _
  | returned value => rfl

/-- To write a string takes a call of `malloc()` at most. -/
theorem factoryWrite_spec (guest : GuestMachine is64 γ) (s : FactoryCaller is64 γ)
    (string : CString) :
    FactoryFollows s (s.writeString guest string).2 ∧
      (s.group.hasError = true → (s.writeString guest string).2.group = s.group) ∧
      (∃ fns, (s.writeString guest string).2.called = s.called ++ fns ∧
        ∀ fn ∈ fns, fn = .malloc) ∧
      (s.writeString guest string).2.hasError = s.hasError ∧
      (s.writeString guest string).2.errorMessage = s.errorMessage := by
  unfold FactoryCaller.writeString
  dsimp only
  split
  next =>
    exact ⟨⟨id, List.prefix_rfl⟩, fun _ => rfl,
      ⟨[], (List.append_nil _).symm, fun fn hfn => absurd hfn List.not_mem_nil⟩, rfl, rfl⟩
  next =>
    have hmalloc := wtMalloc_follows s.mainThread (guest.malloc s.guest) s.group
    exact ⟨⟨hmalloc.hasError, List.prefix_append _ _⟩,
      fun h => wtMalloc_group_of_hasError h _ _,
      ⟨[.malloc], rfl, fun fn hfn => List.mem_singleton.mp hfn⟩, rfl, rfl⟩

/-- After an error the constructor finds no descriptors. -/
theorem newPluginFactory_of_hasError (h : s.group.hasError = true) (ptr : Pointer is64) :
    s.newPluginFactory guest layout ptr = s := by
  unfold FactoryCaller.newPluginFactory
  rw [factoryCall_of_hasError h]
  rfl

/-- Without one it calls `get_plugin_count`, or records an error, whatever the pointer
    is. -/
theorem newPluginFactory_calls (h : s.group.hasError = false) (ptr : Pointer is64) :
    s.called ++ [.get_plugin_count] <+: (s.newPluginFactory guest layout ptr).called ∨
      (s.newPluginFactory guest layout ptr).group.hasError = true := by
  let r := s.callAt guest .get_plugin_count (ptr.offset layout.get_plugin_count) (some .uint32)
    [⟨.pointer is64, ptr⟩]
  -- whatever the loop does, it comes after this call
  have hloop : FactoryFollows r.2 (s.newPluginFactory guest layout ptr) :=
    forLoop_inv (fun _ t => FactoryFollows r.2 t) (.refl _)
      fun i t _ ht => ht.trans (factoryCall_follows t _ _ _ _)
  have hcalls : r.2.called = s.called ++ [.get_plugin_count] ∨ r.2.group.hasError = true :=
    factoryCall_calls h _ _ _ _
  rcases hcalls with hcalled | herror
  · exact .inl (hcalled ▸ hloop.called)
  · exact .inr (hloop.hasError herror)

/-! ## Calls of `wclap_get_factory` -/

/-- Where another id is asked for, nothing happens. -/
theorem getFactory_of_ne {factoryId : CString} (h : factoryId ≠ CLAP_PLUGIN_FACTORY_ID) :
    s.getFactory guest layout entryPtr factoryId = (Pointer.null, s) := if_neg h

theorem getFactory_of_some {ptr : Pointer is64} (h : s.pluginFactory = some ptr) :
    s.getFactory guest layout entryPtr CLAP_PLUGIN_FACTORY_ID = (ptr, s) := by
  rw [FactoryCaller.getFactory, if_pos rfl, h]

/-- The first call for the plugin factory. -/
theorem getFactory_of_none (h : s.pluginFactory = none) :
    s.getFactory guest layout entryPtr CLAP_PLUGIN_FACTORY_ID =
      let w := s.writeString guest CLAP_PLUGIN_FACTORY_ID
      let r := w.2.callGetFactory guest layout entryPtr w.1
      (r.1, { r.2.newPluginFactory guest layout r.1 with pluginFactory := some r.1 }) := by
  rw [FactoryCaller.getFactory, if_pos rfl, h]

/-- A call that changes nothing is in order. -/
theorem absentFactory_of_eq {factoryId : CString}
    (h : s.getFactory guest layout entryPtr factoryId = (Pointer.null, s)) :
    AbsentFactory guest layout entryPtr s factoryId := by
  refine ⟨congrArg Prod.fst h, ⟨[], ?_, fun fn hfn => absurd hfn List.not_mem_nil⟩, ?_, ?_, ?_⟩
  all_goals rw [h]
  exact (List.append_nil _).symm

/-- After an error, the first call writes the string and does nothing more. -/
theorem getFactory_of_hasError (hnone : s.pluginFactory = none)
    (herror : s.group.hasError = true) :
    s.getFactory guest layout entryPtr CLAP_PLUGIN_FACTORY_ID =
      (Pointer.null,
        { (s.writeString guest CLAP_PLUGIN_FACTORY_ID).2 with
          pluginFactory := some Pointer.null }) := by
  have hwritten := (factoryWrite_spec guest s CLAP_PLUGIN_FACTORY_ID).1.hasError herror
  have hcall : (s.writeString guest CLAP_PLUGIN_FACTORY_ID).2.callGetFactory guest layout entryPtr
      (s.writeString guest CLAP_PLUGIN_FACTORY_ID).1 =
        (Pointer.null, (s.writeString guest CLAP_PLUGIN_FACTORY_ID).2) :=
    factoryCall_of_hasError hwritten _ _ (some (.pointer is64)) _
  rw [getFactory_of_none hnone]
  dsimp only
  rw [hcall, newPluginFactory_of_hasError hwritten]

theorem absentFactory_of_hasError (hnone : s.pluginFactory = none)
    (herror : s.group.hasError = true) :
    AbsentFactory guest layout entryPtr s CLAP_PLUGIN_FACTORY_ID := by
  obtain ⟨-, hgroup, ⟨fns, hcalled, hfns⟩, hhasError, hmessage⟩ :=
    factoryWrite_spec guest s CLAP_PLUGIN_FACTORY_ID
  have heq : s.getFactory guest layout entryPtr CLAP_PLUGIN_FACTORY_ID =
      (Pointer.null,
        { (s.writeString guest CLAP_PLUGIN_FACTORY_ID).2 with
          pluginFactory := some Pointer.null }) := getFactory_of_hasError hnone herror
  refine ⟨congrArg Prod.fst heq, ⟨fns, ?_, fun fn hfn => .inl (hfns fn hfn)⟩, ?_, ?_, ?_⟩
  all_goals rw [heq]
  · exact hcalled
  · exact hgroup herror
  · exact hhasError
  · exact hmessage

/-- Without an error it is not: whatever `get_factory` returns is used. -/
theorem not_absentFactory (hnone : s.pluginFactory = none) (herror : s.group.hasError = false) :
    ¬ AbsentFactory guest layout entryPtr s CLAP_PLUGIN_FACTORY_ID := by
  intro h
  let w := s.writeString guest CLAP_PLUGIN_FACTORY_ID
  let r := w.2.callGetFactory guest layout entryPtr w.1
  have heq : s.getFactory guest layout entryPtr CLAP_PLUGIN_FACTORY_ID =
      (r.1, { r.2.newPluginFactory guest layout r.1 with pluginFactory := some r.1 }) :=
    getFactory_of_none hnone
  have hgroup : (r.2.newPluginFactory guest layout r.1).group = s.group := by
    rw [← h.group, heq]
  have hcall : FactoryFollows w.2 r.2 := factoryCall_follows w.2 _ _ (some (.pointer is64)) _
  have hbefore : FactoryFollows s r.2 :=
    (factoryWrite_spec guest s CLAP_PLUGIN_FACTORY_ID).1.trans hcall
  -- an error on the way would still be there
  cases hr : r.2.group.hasError with
  | true =>
    rw [newPluginFactory_of_hasError hr] at hgroup
    rw [hgroup, herror] at hr
    exact Bool.noConfusion hr
  | false =>
    have hcalls : r.2.called ++ [.get_plugin_count] <+:
          (r.2.newPluginFactory guest layout r.1).called ∨
        (r.2.newPluginFactory guest layout r.1).group.hasError = true :=
      newPluginFactory_calls hr r.1
    rcases hcalls with ⟨rest, hrest⟩ | hlast
    · -- `get_plugin_count` is among the functions that were called
      obtain ⟨fns, hfns, honly⟩ := h.called
      obtain ⟨first, hfirst⟩ := hbefore.called
      have hcalled : (r.2.newPluginFactory guest layout r.1).called = s.called ++ fns := by
        rw [← hfns, heq]
      rw [← hrest, ← hfirst, List.append_assoc, List.append_assoc,
        List.append_cancel_left_eq] at hcalled
      have hmem : GuestFunction.get_plugin_count ∈ fns := by
        rw [← hcalled]
        simp
      exact (honly _ hmem).elim (fun heq => nomatch heq) fun heq => nomatch heq
    · rw [hgroup, herror] at hlast
      exact Bool.noConfusion hlast

/-! ## Runs -/

/-- What is returned for null, whether the guest is called or not. -/
theorem callGetFactory_null {wclapStr : Pointer is64}
    (h : CallReturnsNull guest layout entryPtr s wclapStr) :
    (s.callGetFactory guest layout entryPtr wclapStr).1 = Pointer.null := by
  obtain ⟨fnPtr, run, value, hfnPtr, htable, hrun, hvalue⟩ := h
  cases hs : s.group.hasError with
  | true =>
    -- a call that fails returns null as well
    exact congrArg Prod.fst (factoryCall_of_hasError hs _ _ (some (.pointer is64)) _)
  | false =>
    have hraw := wtCallRaw_returned hs htable hrun 1
    have hresult : (InstanceImpl.callAt (guest.table s.guest) s.group (guest.memory s.guest)
        (entryPtr.offset layout.get_factory) (some (.pointer is64))
        [⟨.pointer is64, wclapStr⟩] 0).result = wasmValToArg (.pointer is64) value := by
      rw [InstanceImpl.callAt, hfnPtr]
      exact congrArg
        (fun raw : RawCall => wasmValToArg (.pointer is64) (raw.argsAndResults.headD 0)) hraw
    simp only [FactoryCaller.callGetFactory, FactoryCaller.callAt]
    split <;> exact hresult.trans hvalue

theorem getFactory_null (hnone : s.pluginFactory = none)
    (hnull : ReturnsNull guest layout entryPtr s) :
    (s.getFactory guest layout entryPtr CLAP_PLUGIN_FACTORY_ID).1 = Pointer.null := by
  rw [getFactory_of_none hnone]
  exact callGetFactory_null hnull

/-- A null factory is kept, and nothing is called for it again. -/
theorem getFactory_of_cached (h : s.pluginFactory = some Pointer.null) (factoryId : CString) :
    s.getFactory guest layout entryPtr factoryId = (Pointer.null, s) := by
  by_cases hid : factoryId = CLAP_PLUGIN_FACTORY_ID
  · subst hid
    exact getFactory_of_some h
  · exact getFactory_of_ne hid

/-- Nothing has happened yet, or the null factory is kept. -/
theorem cached_states (hnone : s.pluginFactory = none)
    (hnull : ReturnsNull guest layout entryPtr s) (factoryIds : List CString) :
    States (getFactoryStep guest layout entryPtr)
      (fun t => t = s ∨ t.pluginFactory = some Pointer.null) s factoryIds := by
  refine States.of_invariant _ (fun t factoryId u ht hu => ?_) (.inl rfl)
  cases hu
  rcases ht with rfl | hcached
  · by_cases hid : factoryId = CLAP_PLUGIN_FACTORY_ID
    · subst hid
      have hresult := getFactory_null hnone hnull
      rw [getFactory_of_none hnone] at hresult ⊢
      -- what was returned is what is kept
      exact .inr (congrArg some hresult)
    · rw [getFactory_of_ne hid]
      exact .inl rfl
  · rw [getFactory_of_cached hcached]
    exact .inr hcached

/-- No call is for the plugin factory. -/
theorem steps_of_not_mem {factoryIds : List CString}
    (h : CLAP_PLUGIN_FACTORY_ID ∉ factoryIds) :
    Steps (getFactoryStep guest layout entryPtr) (AbsentFactory guest layout entryPtr)
      s factoryIds := by
  induction factoryIds with
  | nil => exact trivial
  | cons factoryId factoryIds ih =>
    rw [List.mem_cons, not_or] at h
    have heq : s.getFactory guest layout entryPtr factoryId = (Pointer.null, s) :=
      getFactory_of_ne (Ne.symm h.1)
    exact .cons (absentFactory_of_eq heq) (congrArg (fun r => some (Prod.snd r)) heq) (ih h.2)

/-- The first call for the plugin factory goes wrong without an error. -/
theorem not_mem_of_steps (hnone : s.pluginFactory = none) (herror : s.group.hasError = false)
    {factoryIds : List CString}
    (h : Steps (getFactoryStep guest layout entryPtr) (AbsentFactory guest layout entryPtr)
      s factoryIds) : CLAP_PLUGIN_FACTORY_ID ∉ factoryIds := by
  induction factoryIds with
  | nil => exact List.not_mem_nil
  | cons factoryId factoryIds ih =>
    have hne : factoryId ≠ CLAP_PLUGIN_FACTORY_ID := by
      rintro rfl
      exact not_absentFactory hnone herror h.1
    have heq : s.getFactory guest layout entryPtr factoryId = (Pointer.null, s) :=
      getFactory_of_ne hne
    rw [List.mem_cons, not_or]
    exact ⟨hne.symm, ih (h.2 s (congrArg (fun r => some (Prod.snd r)) heq))⟩

/-- A guest without a plugin factory is found to have none by each call of
    `wclap_get_factory`. The calls have no other consequences if and only if none is for
    the plugin factory, or the group has an error already. -/
theorem absentFactory_iff (hnone : s.pluginFactory = none)
    (hnull : ReturnsNull guest layout entryPtr s) (factoryIds : List CString) :
    Steps (getFactoryStep guest layout entryPtr)
        (fun s factoryId => (s.getFactory guest layout entryPtr factoryId).1 = Pointer.null)
        s factoryIds ∧
      (Steps (getFactoryStep guest layout entryPtr) (AbsentFactory guest layout entryPtr)
          s factoryIds ↔
        CLAP_PLUGIN_FACTORY_ID ∉ factoryIds ∨ s.group.hasError = true) := by
  have hstates := cached_states hnone hnull factoryIds
  refine ⟨Steps.of_states (fun t factoryId ht => ?_) hstates, fun h => ?_, ?_⟩
  · rcases ht with rfl | hcached
    · by_cases hid : factoryId = CLAP_PLUGIN_FACTORY_ID
      · subst hid
        exact getFactory_null hnone hnull
      · rw [getFactory_of_ne hid]
    · rw [getFactory_of_cached hcached]
  · cases herror : s.group.hasError with
    | true => exact .inr rfl
    | false => exact .inl (not_mem_of_steps hnone herror h)
  · rintro (hmem | herror)
    · exact steps_of_not_mem hmem
    · -- the error is there before the first call, and none is made
      refine Steps.of_states (fun t factoryId ht => ?_) hstates
      rcases ht with rfl | hcached
      · by_cases hid : factoryId = CLAP_PLUGIN_FACTORY_ID
        · subst hid
          exact absentFactory_of_hasError hnone herror
        · exact absentFactory_of_eq (getFactory_of_ne hid)
      · exact absentFactory_of_eq (getFactory_of_cached hcached factoryId)

/-! ## A guest -/

/-- Function 5 is `get_factory`, which returns null. At the start of memory is the index
    of no function. -/
def emptyGuest : GuestMachine false Unit where
  memory _ := { LinearMemory.onePage with
    bytes := Cells.write (Cells.write (fun _ => 0) 0 [255, 255, 255, 255]) 84 [5, 0, 0, 0] }
  table _ fnP := if fnP = 5 then some (.funcref fun _ => .returned 0) else none
  called s _ _ := s
  room _ _ := true
  written s _ := (Pointer.ofNat 1024, s)
  malloc _ := .returned 1024
  mallocCalled s := s

/-- The layout for 32 bits. -/
def layout32 : FactoryLayout := ⟨20, 0, 4⟩

/-- A WCLAP that has been opened without an error. -/
def openedCaller : FactoryCaller false Unit :=
  ⟨(), ⟨fun _ => true, []⟩, InstanceGroup.opened false, false, "not initialised", none, []⟩

theorem emptyGuest_returnsNull : ReturnsNull emptyGuest layout32 (Pointer.ofNat 64) openedCaller :=
  ⟨Pointer.ofNat 5, fun _ => .returned 0, 0, by decide, rfl, rfl, wasmValToArg_zero _⟩

theorem absentFactory_emptyGuest :
    Steps (getFactoryStep emptyGuest layout32 (Pointer.ofNat 64))
        (fun s factoryId =>
          (s.getFactory emptyGuest layout32 (Pointer.ofNat 64) factoryId).1 = Pointer.null)
        openedCaller [CLAP_PLUGIN_FACTORY_ID] ∧
      (Steps (getFactoryStep emptyGuest layout32 (Pointer.ofNat 64))
          (AbsentFactory emptyGuest layout32 (Pointer.ofNat 64))
          openedCaller [CLAP_PLUGIN_FACTORY_ID] ↔
        CLAP_PLUGIN_FACTORY_ID ∉ [CLAP_PLUGIN_FACTORY_ID] ∨
          openedCaller.group.hasError = true) :=
  absentFactory_iff rfl emptyGuest_returnsNull _

/-- The group has an error afterwards, and the WCLAP is of no use any more. -/
theorem emptyGuest_fails :
    ¬ Steps (getFactoryStep emptyGuest layout32 (Pointer.ofNat 64))
      (AbsentFactory emptyGuest layout32 (Pointer.ofNat 64))
      openedCaller [CLAP_PLUGIN_FACTORY_ID] := by
  intro h
  have herror : (openedCaller.getFactory emptyGuest layout32 (Pointer.ofNat 64)
      CLAP_PLUGIN_FACTORY_ID).2.group.hasError = true := by decide
  rw [h.1.group] at herror
  exact absurd herror (by decide)

end WclapBridge.Spec
