import WclapBridge.Native.Marshalling

/-!
# Arguments and results keep their values

What one side encodes is what the other side decodes, for each type of an argument
and, by recursion on the list of types, for each signature. A slot is read from the
member that was assigned, which is the one that Wasmtime is told of.

An address of 32 bits is negative as an `int32_t` from `2 ^ 31` on, and gets another 32
sign bits where the bridge keeps it as a `uint64_t`. The cast to `uint32_t` at the end
drops these.

## Key results

- `wasmValToArg_argToWasmVal`, `isSome_wasmValToArg`: single values
- `makeWasmtimeFuncType_eq`, `argsFrom_wasmVals`, `isSome_argsFrom`: signatures
- `addressesKept`: `malloc()`, `clap_entry` and the start of a thread
- `marshalling_roundTrip`: all of this together
- `call_result_of_returned`: the same for `call`, which works on the bytes of the slots
-/

namespace WclapBridge.Spec

open WclapBridge.Native

/-! ## Single values -/

/-- A value is assigned to the member for its type. -/
theorem kind_argToWasmVal (t : ArgType) (v : t.Value) :
    (WasmVal.argToWasmVal t v).kind = wasmValTypeCode t := by
  cases t with
  | pointer is64 => cases is64 <;> rfl
  | _ => rfl

theorem isSome_i32? (v : WasmVal) : v.i32?.isSome = true ↔ v.kind = .i32 := by
  cases v <;> simp [WasmVal.i32?, WasmVal.kind]

theorem isSome_i64? (v : WasmVal) : v.i64?.isSome = true ↔ v.kind = .i64 := by
  cases v <;> simp [WasmVal.i64?, WasmVal.kind]

theorem isSome_f32? (v : WasmVal) : v.f32?.isSome = true ↔ v.kind = .f32 := by
  cases v <;> simp [WasmVal.f32?, WasmVal.kind]

theorem isSome_f64? (v : WasmVal) : v.f64?.isSome = true ↔ v.kind = .f64 := by
  cases v <;> simp [WasmVal.f64?, WasmVal.kind]

/-- A cast does not change which member is read. -/
theorem isSome_map_i32? {α : Type} (cast : Int32 → α) (v : WasmVal) :
    (v.i32?.map cast).isSome = true ↔ v.kind = .i32 := by
  rw [Option.isSome_map, isSome_i32?]

theorem isSome_map_i64? {α : Type} (cast : Int64 → α) (v : WasmVal) :
    (v.i64?.map cast).isSome = true ↔ v.kind = .i64 := by
  rw [Option.isSome_map, isSome_i64?]

/-- The member for the type is the one that is read. -/
theorem isSome_wasmValToArg (t : ArgType) (v : WasmVal) :
    (v.wasmValToArg t).isSome = true ↔ v.kind = wasmValTypeCode t := by
  cases t with
  | bool | int8 | uint8 | int16 | uint16 | uint32 => exact isSome_map_i32? _ v
  | int32 => exact isSome_i32? v
  | int64 => exact isSome_i64? v
  | uint64 => exact isSome_map_i64? _ v
  | float => exact isSome_f32? v
  | double => exact isSome_f64? v
  | pointer is64 =>
    cases is64 with
    | false => exact isSome_map_i32? _ v
    | true => exact isSome_map_i64? _ v

/-- An address is below `2 ^ 32` or `2 ^ 64`, as its width says. -/
theorem ofNat_toNat_pointer {is64 : Bool} (p : Pointer is64) : Pointer.ofNat p.toNat = p := by
  obtain ⟨a⟩ := p
  show Pointer.mk (BitVec.ofNat _ a.toNat) = Pointer.mk a
  rw [BitVec.ofNat_toNat, BitVec.setWidth_eq]

theorem ofNat_toUInt32_pointer (p : Pointer false) :
    Pointer.ofNat (UInt32.ofNat p.toNat).toNat = p := by
  have hlt : p.toNat < 2 ^ 32 := p.wasmPointer.isLt
  rw [UInt32.toNat_ofNat_of_lt' hlt, ofNat_toNat_pointer]

theorem ofNat_toUInt64_pointer {is64 : Bool} (p : Pointer is64) :
    Pointer.ofNat p.toUInt64.toNat = p := by
  rw [Pointer.toNat_toUInt64, ofNat_toNat_pointer]

/-- The casts of `wasmValToArg` undo those of `argToWasmVal`. -/
theorem wasmValToArg_argToWasmVal (t : ArgType) (v : t.Value) :
    (WasmVal.argToWasmVal t v).wasmValToArg t = some v := by
  cases t with
  | int32 | int64 | float | double => rfl
  | bool =>
    cases (show Bool from v) with
    | false => rfl
    | true => rfl
  | int8 => exact congrArg some (Int8.toInt8_toInt32 v)
  | int16 => exact congrArg some (Int16.toInt16_toInt32 v)
  | uint8 => exact congrArg some (UInt8.toUInt8_toUInt32 v)
  | uint16 => exact congrArg some (UInt16.toUInt16_toUInt32 v)
  | uint32 => exact congrArg some (UInt32.toUInt32_toInt32 v)
  | uint64 => exact congrArg some (UInt64.toUInt64_toInt64 v)
  | pointer is64 =>
    cases is64 with
    | false => exact congrArg some (ofNat_toUInt32_pointer v)
    | true => exact congrArg some (ofNat_toUInt64_pointer v)

/-! ## Signatures -/

/-- The slots of the arguments are of the declared kinds, position by position. -/
theorem map_kind_wasmVals (types : List ArgType) (args : Args types) :
    (wasmVals types args).map WasmVal.kind = types.map wasmValTypeCode := by
  induction types with
  | nil => rfl
  | cons t types ih =>
    obtain ⟨v, args⟩ := args
    simp only [wasmVals, List.map_cons, kind_argToWasmVal, ih]

/-- The elements from `done.length` on are set one after another. -/
theorem setWasmtimeValTypes_append (done : List (Option ValKind)) (types : List ArgType) :
    setWasmtimeValTypes done.length types (done ++ List.replicate types.length none) =
      done ++ (types.map wasmValTypeCode).map some := by
  induction types generalizing done with
  | nil => rfl
  | cons t types ih =>
    have hrest := ih (done ++ [some (wasmValTypeCode t)])
    rw [List.length_append, List.length_singleton, List.append_assoc, List.append_assoc] at hrest
    rw [List.length_cons, List.replicate_succ, setWasmtimeValTypes,
      List.set_append_right _ _ (Nat.le_refl _), Nat.sub_self]
    exact hrest

theorem mapM_id_map_some {α : Type} (l : List α) : (l.map some).mapM id = some l := by
  induction l with
  | nil => rfl
  | cons a l ih => simp [ih]

/-- The declared type has the kind of each argument at its position. -/
theorem makeWasmtimeFuncType_eq (ret : ReturnType) (types : List ArgType) :
    makeWasmtimeFuncType ret types =
      some ⟨types.map wasmValTypeCode, (ret.map wasmValTypeCode).toList⟩ := by
  have hparams := setWasmtimeValTypes_append [] types
  simp only [List.nil_append, List.length_nil] at hparams
  simp only [makeWasmtimeFuncType, wasmFunctypeNew, hparams, mapM_id_map_some]
  cases ret with
  | none => rfl
  | some t => rfl

/-- Each argument is found in the slot at its position. -/
theorem argsFrom_wasmVals (before : List WasmVal) (types : List ArgType) (args : Args types)
    (rest : List WasmVal) :
    argsFrom (before ++ wasmVals types args ++ rest) before.length types = some args := by
  induction types generalizing before with
  | nil => rfl
  | cons t types ih =>
    obtain ⟨v, args⟩ := args
    have hrest : argsFrom (before ++ wasmVals (t :: types) (v, args) ++ rest)
        (before.length + 1) types = some args := by
      have h := ih (before ++ [.argToWasmVal t v]) args
      rw [List.length_append, List.length_singleton, List.append_assoc before] at h
      exact h
    have hslot : (before ++ wasmVals (t :: types) (v, args) ++ rest)[before.length]? =
        some (.argToWasmVal t v) := by
      simp [wasmVals]
    rw [argsFrom, hslot, hrest]
    show ((WasmVal.argToWasmVal t v).wasmValToArg t).bind _ = _
    rw [wasmValToArg_argToWasmVal]
    rfl

theorem argsAsTuple_wasmVals {Context : Type} (context : Context) (types : List ArgType)
    (args : Args types) (rest : List WasmVal) :
    argsAsTuple context types (wasmVals types args ++ rest) = some (context, args) := by
  have hargs := argsFrom_wasmVals [] types args rest
  exact congrArg (Option.map fun args => (context, args)) hargs

/-- Slots can be decoded exactly if they are of the declared kinds. -/
theorem isSome_argsFrom (wasmArgs : List WasmVal) (index : Nat) (types : List ArgType) :
    (argsFrom wasmArgs index types).isSome = true ↔
      ((wasmArgs.drop index).take types.length).map WasmVal.kind = types.map wasmValTypeCode := by
  induction types generalizing index with
  | nil => exact iff_of_true rfl rfl
  | cons t types ih =>
    cases hslot : wasmArgs[index]? with
    | none =>
      -- there are too few of them
      rw [argsFrom, hslot, List.drop_eq_nil_of_le (List.getElem?_eq_none_iff.mp hslot)]
      exact iff_of_false Bool.false_ne_true (List.cons_ne_nil _ _).symm
    | some v =>
      have hkind := isSome_wasmValToArg t v
      obtain ⟨hlt, hv⟩ := List.getElem?_eq_some_iff.mp hslot
      rw [argsFrom, hslot, List.drop_eq_getElem_cons hlt, hv]
      simp only [List.length_cons, List.take_succ_cons, List.map_cons, List.cons.injEq,
        ← ih, ← hkind, Option.bind_eq_bind, Option.bind_some]
      cases v.wasmValToArg t with
      | none => exact iff_of_false Bool.false_ne_true fun h => Bool.false_ne_true h.1
      | some x =>
        cases argsFrom wasmArgs (index + 1) types with
        | none => exact iff_of_false Bool.false_ne_true fun h => Bool.false_ne_true h.2
        | some args => exact iff_of_true rfl ⟨rfl, rfl⟩

/-! ## Host functions -/

/-- `call` sets up the slots of the arguments, and another one if it needs it. -/
theorem callVals_cases (ret : ReturnType) (types : List ArgType) (args : Args types)
    (stack : WasmVal) :
    (∃ rest, callVals ret types args stack = wasmVals types args ++ rest) ∧
      (ret.isSome = true → callVals ret types args stack ≠ []) := by
  cases ret with
  | none => exact ⟨⟨[], (List.append_nil _).symm⟩, fun h => absurd h Bool.false_ne_true⟩
  | some t =>
    cases types with
    | nil => exact ⟨⟨[stack], rfl⟩, fun _ => List.cons_ne_nil _ _⟩
    | cons u types => exact ⟨⟨[], (List.append_nil _).symm⟩, fun _ => List.cons_ne_nil _ _⟩

/-- A host function is called with the arguments, and leaves its result in the first
    slot. -/
theorem unchecked_wasmVals {Context World : Type} {ret : ReturnType} {types : List ArgType}
    (wrapped : WrappedFn Context World ret types) (args : Args types) (rest : List WasmVal)
    (world : World) :
    wrapped.unchecked (wasmVals types args ++ rest) world =
      some (storeResult ret (wrapped.nativeFn wrapped.context args world).1
          (wasmVals types args ++ rest),
        (wrapped.nativeFn wrapped.context args world).2) := by
  rw [WrappedFn.unchecked, argsAsTuple_wasmVals]
  rfl

/-- The result is found where it was stored. -/
theorem resultFrom_storeResult {ret : ReturnType} (result : ReturnType.Value ret)
    {slots : List WasmVal} (hslots : ret.isSome = true → slots ≠ []) :
    resultFrom ret (storeResult ret result slots) = some result := by
  cases ret with
  | none => rfl
  | some t =>
    obtain ⟨slot, slots, rfl⟩ := List.exists_cons_of_ne_nil (hslots rfl)
    exact wasmValToArg_argToWasmVal t result

/-- The result is stored in the first slot only. -/
theorem drop_one_storeResult {ret : ReturnType} (result : ReturnType.Value ret)
    (slots : List WasmVal) : (storeResult ret result slots).drop 1 = slots.drop 1 := by
  cases ret with
  | none => rfl
  | some t => cases slots <;> rfl

/-- It is of the declared kind. -/
theorem kind_storeResult {ret : ReturnType} (result : ReturnType.Value ret)
    {slots : List WasmVal} (hslots : ret.isSome = true → slots ≠ []) :
    ((storeResult ret result slots).take ret.toList.length).map WasmVal.kind =
      (ret.map wasmValTypeCode).toList := by
  cases ret with
  | none => rfl
  | some t =>
    obtain ⟨slot, slots, rfl⟩ := List.exists_cons_of_ne_nil (hslots rfl)
    exact congrArg (fun kind => [kind]) (kind_argToWasmVal t result)

/-! ## Addresses -/

/-- The sign bits that an address gets in 64 bits are lost in 32 bits again. -/
theorem toUInt32_signExtend (v : Int32) : v.toInt64.toUInt64.toUInt32 = v.toUInt32 := by
  have hnarrow : v.toInt64.toUInt64.toUInt32 = v.toInt64.toInt32.toUInt32 := by
    apply UInt32.toBitVec_inj.mp
    exact (BitVec.signExtend_eq_setWidth_of_le v.toInt64.toBitVec
      (show 32 ≤ 64 by decide)).symm
  rw [hnarrow, Int32.toInt32_toInt64]

example : mallocResult false (.i32 (-2147483648)) = 0xFFFFFFFF80000000 := rfl

/-- A function of the guest from values to values of one type. -/
def guestFn (t : ArgType) (f : t.Value → t.Value) (v : WasmVal) : WasmVal :=
  match v.wasmValToArg t with
  | some x => .argToWasmVal t (f x)
  | none => v

/-- Sizes and addresses get through `malloc()`, `clap_entry` and the start of a thread as
    they are. -/
structure AddressesKept : Prop where
  malloc32 : ∀ (instance_ : InstanceImpl) (f : UInt32 → UInt32) (group : InstanceGroup)
    (size : UInt32), instance_.malloc32 (guestFn .uint32 f) group size = f size
  malloc64 : ∀ (instance_ : InstanceImpl) (f : UInt64 → UInt64) (group : InstanceGroup)
    (size : UInt64), instance_.malloc64 (guestFn .uint64 f) group size = f size
  init32 : ∀ (instance_ : InstanceImpl) (called : Bool) (clap_entry : UInt32)
    (group : InstanceGroup), instance_.init32 called (.argToWasmVal .uint32 clap_entry) group =
      if group.hasError || group.hadInit then 0 else clap_entry
  init64 : ∀ (instance_ : InstanceImpl) (called : Bool) (clap_entry : UInt64)
    (group : InstanceGroup), instance_.init64 called (.argToWasmVal .uint64 clap_entry) group =
      if group.hasError || group.hadInit then 0 else clap_entry
  thread32 : ∀ threadId threadArg : UInt32,
    (threadSpawnArg false [.argToWasmVal .uint32 threadArg]).map (threadVals false threadId) =
      some [.argToWasmVal .uint32 threadId, .argToWasmVal .uint32 threadArg]
  thread64 : ∀ (threadId : UInt32) (threadArg : UInt64),
    (threadSpawnArg true [.argToWasmVal .uint64 threadArg]).map (threadVals true threadId) =
      some [.argToWasmVal .uint32 threadId, .argToWasmVal .uint64 threadArg]

/-- The address of `clap_entry`, where there is one. -/
theorem initInner_initFound (instance_ : InstanceImpl) {is64 : Bool} (called : Bool) {v : WasmVal}
    {wclapEntryAs64 : UInt64} (h : updateClapEntry is64 v = some wclapEntryAs64)
    (group : InstanceGroup) : (initInner instance_ (initFound is64 called v) group).1 =
      if group.hasError || group.hadInit then 0 else wclapEntryAs64 := by
  rw [initFound, h, initInner]
  cases group.hasError
  · cases group.hadInit <;> rfl
  · rfl

theorem addressesKept : AddressesKept where
  malloc32 instance_ f group size := by
    have hsize : size.toUInt64.toUInt32 = size := UInt32.toUInt32_toUInt64 size
    show ((f size.toUInt64.toUInt32).toInt32.toInt64.toUInt64).toUInt32 = f size
    rw [toUInt32_signExtend, UInt32.toUInt32_toInt32, hsize]
  malloc64 instance_ f group size := rfl
  init32 instance_ called clap_entry group := by
    rw [InstanceImpl.init32, initInner_initFound instance_ called rfl]
    split
    next => rfl
    next => exact toUInt32_signExtend clap_entry.toInt32
  init64 instance_ called clap_entry group := initInner_initFound instance_ called rfl group
  thread32 threadId threadArg := by
    show some [_, WasmVal.i32 threadArg.toUInt64.toUInt32.toInt32] = _
    rw [UInt32.toUInt32_toUInt64]
    rfl
  thread64 threadId threadArg := rfl

/-! ## Calls -/

/-- What a signature needs of its slots. -/
structure RoundTrip (ret : ReturnType) (types : List ArgType) (args : Args types) : Prop where
  /-- The declared type has the kinds of the members that are assigned. -/
  declared : makeWasmtimeFuncType ret types =
    some ⟨(wasmVals types args).map WasmVal.kind, (ret.map wasmValTypeCode).toList⟩
  /-- The members that are read are those of the declared kinds. -/
  read : ∀ {Context : Type} (context : Context) (slots : List WasmVal),
    (argsAsTuple context types slots).isSome = true ↔
      (slots.take types.length).map WasmVal.kind = types.map wasmValTypeCode
  /-- The arguments are the same again, in the same order. -/
  arguments : ∀ {Context : Type} (context : Context) (rest : List WasmVal),
    argsAsTuple context types (wasmVals types args ++ rest) = some (context, args)
  /-- A host function gets these arguments, and its result comes back, in a slot of the
      declared kind. -/
  result : ∀ {Context World : Type} (wrapped : WrappedFn Context World ret types)
    (stack : WasmVal) (world : World), ∃ slots,
      wrapped.unchecked (callVals ret types args stack) world =
          some (slots, (wrapped.nativeFn wrapped.context args world).2) ∧
        (slots.take ret.toList.length).map WasmVal.kind = (ret.map wasmValTypeCode).toList ∧
        resultFrom ret slots = some (wrapped.nativeFn wrapped.context args world).1 ∧
        slots.drop 1 = (callVals ret types args stack).drop 1

/-- Arguments, results and addresses are the same on the other side, for all signatures
    and values. -/
theorem marshalling_roundTrip : (∀ (ret : ReturnType) (types : List ArgType) (args : Args types),
    RoundTrip ret types args) ∧ AddressesKept := by
  refine ⟨fun ret types args => ⟨?_, ?_, ?_, ?_⟩, addressesKept⟩
  · rw [map_kind_wasmVals]
    exact makeWasmtimeFuncType_eq ret types
  · intro Context context slots
    rw [argsAsTuple, Option.isSome_map]
    exact isSome_argsFrom slots 0 types
  · intro Context context rest
    exact argsAsTuple_wasmVals context types args rest
  · intro Context World wrapped stack world
    obtain ⟨⟨rest, hrest⟩, hne⟩ := callVals_cases ret types args stack
    exact ⟨_, hrest ▸ unchecked_wasmVals wrapped args rest world,
      kind_storeResult _ (hrest ▸ hne), resultFrom_storeResult _ (hrest ▸ hne),
      hrest ▸ drop_one_storeResult _ _⟩

/-- `call` with a guest function: it gets the bytes of the slots, and the bytes of its
    result are decoded. -/
theorem call_result_of_returned {table : FunctionTable} {group : InstanceGroup} {is64 : Bool}
    {fnPtr : Pointer is64} {t : ArgType} {types : List ArgType} {args : Args types}
    {stack result : WasmVal} {run : List ValRaw → CallOutcome} {x : t.Value}
    (hgroup : group.hasError = false) (htable : table fnPtr.toUInt64 = some (.funcref run))
    (hrun : run ((callVals (some t) types args stack).map WasmVal.raw) = .returned result.raw)
    (hresult : result.wasmValToArg t = some x) :
    (InstanceImpl.call table group fnPtr (some t) (argList types args) stack.raw).result = x := by
  have hslots := callSlots_argList (some t) types args stack
  obtain ⟨hne, -⟩ := callSlots_some t (argList types args) stack.raw
  rw [← hslots] at hrun
  have hraw := wtCallRaw_returned hgroup htable hrun
    (callSlots (some t) (argList types args) stack.raw).2
  have hcall :
      (InstanceImpl.call table group fnPtr (some t) (argList types args) stack.raw).result =
        wasmValToArg t ((wtCallRaw table group fnPtr.toUInt64
          (callSlots (some t) (argList types args) stack.raw).1
          (callSlots (some t) (argList types args) stack.raw).2).argsAndResults.headD 0) := rfl
  obtain ⟨slot, slots, hcons⟩ := List.exists_cons_of_ne_nil hne
  rw [hcall, hraw, hcons]
  exact wasmValToArg_raw hresult

end WclapBridge.Spec
