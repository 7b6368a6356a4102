import WclapBridge.Native.GetterCalls
import WclapBridge.Spec.MethodCalls

/-!
# What a getter brings back

A getter reserves a struct in guest memory, calls a function of the guest with its
address behind the other arguments, and copies the fields of what it finds there. Some
getters return before they copy when the function has returned `false`; the others copy
in any case, and when no function runs any more they copy the blank struct they placed.

## Key results

- `get_eq_run`: the getters follow one plan
- `getters_faithful`: what each of them comes to, for every function of the guest
-/

namespace WclapBridge.Spec

open WclapBridge.Native

variable {is64 : Bool} {arena : Arena is64}

/-! ## The plan of a getter -/

/-- What a getter places, calls and copies. -/
structure GetterPlan (Info : Type) where
  WInfo : Type
  codec : Codec WInfo
  /-- `copyAcross(T{})`, or else `reserveBlank<T>()`. -/
  blank : Option WInfo
  function : PluginFunction
  before : List MethodArg
  /-- Whether it returns without copying if the guest has returned `false`. -/
  checked : Bool
  translate : LinearMemory → WInfo → Info

namespace GetterPlan

variable {Info : Type} (plan : GetterPlan Info)

/-- The struct in guest memory. -/
def copy : GuestCopy :=
  match plan.blank with
  | none => .room plan.codec.width plan.codec.width
  | some w => .value plan.codec w

/-- The call of the guest. -/
def methodCall : MethodCall :=
  ⟨.mainThread, plan.function, some .bool, plan.before ++ [.pointer plan.copy]⟩

/-- The address of the struct. -/
def infoPtr (arena : Arena is64) (g : GuestState) : Pointer is64 :=
  (plan.copy.place arena (placeArgs arena plan.before g).2).1

/-- What the host gets, for the result of the guest and the struct it has left. -/
def copied (result : Bool) (mem : LinearMemory) (w : plan.WInfo) : Bool × Option Info :=
  if plan.checked && !result then (false, none) else (result, some (plan.translate mem w))

/-- The getter. -/
def run (arena : Arena is64) (v : GetterView is64) (g : GuestState) : Bool × Option Info :=
  let r := callMethod arena v.plugin v.group plan.methodCall g v.stack
  plan.copied r.call.result r.mem (r.mem.get plan.codec (plan.infoPtr arena g) 0)

end GetterPlan

/-- The plans of the getters. -/
def getterPlan (abi : GetterAbi is64) : (getter : InfoGetter) → GetterPlan getter.Info
  | .ambisonic_get_config isInput portIndex =>
    { WInfo := AmbisonicConfig, codec := abi.ambisonicConfig, blank := none
      function := .ambisonic_get_config
      before := [.value .bool isInput, .value .uint32 portIndex]
      checked := true, translate := fun _ w => w }
  | .audioPortsConfig_get index =>
    { WInfo := WAudioPortsConfig is64, codec := abi.audioPortsConfig, blank := none
      function := .audio_ports_config_get, before := [.value .uint32 index]
      checked := true
      translate := fun mem w =>
        { id := w.id
          name := w.name
          input_port_count := w.input_port_count
          output_port_count := w.output_port_count
          has_main_input := w.has_main_input
          main_input_channel_count := w.main_input_channel_count
          main_input_port_type := translateWclapPortType mem w.main_input_port_type
          has_main_output := w.has_main_output
          main_output_channel_count := w.main_output_channel_count
          main_output_port_type := translateWclapPortType mem w.main_output_port_type } }
  | .audioPortsConfigInfo_get config_id index isInput =>
    { WInfo := WAudioPortInfo is64, codec := abi.audioPortInfo, blank := none
      function := .audio_ports_config_info_get
      before := [.value .uint32 config_id, .value .uint32 index, .value .bool isInput]
      checked := true, translate := hostPortInfo }
  | .audioPorts_get index isInput =>
    { WInfo := WAudioPortInfo is64, codec := abi.audioPortInfo, blank := none
      function := .audio_ports_get, before := [.value .uint32 index, .value .bool isInput]
      checked := false, translate := hostPortInfo }
  | .noteName_get index =>
    { WInfo := NoteName, codec := abi.noteName, blank := none
      function := .note_name_get, before := [.value .uint32 index]
      checked := true, translate := fun _ w => w }
  | .notePorts_get index isInput =>
    { WInfo := NotePortInfo, codec := abi.notePortInfo, blank := some blankNotePortInfo
      function := .note_ports_get, before := [.value .uint32 index, .value .bool isInput]
      checked := false, translate := fun _ w => w }
  | .params_get_info index =>
    { WInfo := WParamInfo is64, codec := abi.paramInfo, blank := some blankParamInfo
      function := .params_get_info, before := [.value .uint32 index]
      checked := false
      translate := fun _ w =>
        { id := w.id
          flags := w.flags
          cookie := w.cookie.toUInt64
          name := w.name
          module_ := w.module_
          min_value := w.min_value
          max_value := w.max_value
          default_value := w.default_value } }
  | .params_get_value paramId =>
    { WInfo := UInt64, codec := Codec.u64, blank := some 0
      function := .params_get_value, before := [.value .uint32 paramId]
      checked := false, translate := fun _ w => w }
  | .params_text_to_value paramId text =>
    { WInfo := UInt64, codec := Codec.u64, blank := some 0
      function := .params_text_to_value
      before := [.value .uint32 paramId, .pointer (.string text)]
      checked := false, translate := fun _ w => w }
  | .remoteControls_get page_index =>
    { WInfo := RemoteControlsPage, codec := abi.remoteControlsPage, blank := none
      function := .remote_controls_get, before := [.value .uint32 page_index]
      checked := true, translate := fun _ w => w }
  | .voiceInfo_get =>
    { WInfo := VoiceInfo, codec := abi.voiceInfo, blank := none
      function := .voice_info_get, before := []
      checked := true, translate := fun _ w => w }

/-- A getter that has checked the result has found `true`. -/
theorem checked_eq {Info : Type} (result : Bool) (info : Info) :
    (if !result then (false, none) else (true, some info) : Bool × Option Info) =
      if true && !result then (false, none) else (result, some info) := by
  cases result <;> rfl

/-- The getters follow their plans. -/
theorem get_eq_run (abi : GetterAbi is64) (v : GetterView is64) (g : GuestState)
    (getter : InfoGetter) : getter.get abi arena v g = (getterPlan abi getter).run arena v g := by
  cases getter with
  | ambisonic_get_config isInput portIndex => exact checked_eq _ _
  | audioPortsConfig_get index =>
    simp only [InfoGetter.get, audioPortsConfig_get, copyName_eq]
    exact checked_eq _ _
  | audioPortsConfigInfo_get config_id index isInput => exact checked_eq _ _
  | audioPorts_get index isInput => rfl
  | noteName_get index =>
    simp only [InfoGetter.get, noteName_get, copyName_eq]
    exact checked_eq _ _
  | notePorts_get index isInput =>
    simp only [InfoGetter.get, notePorts_get, copyName_eq]
    rfl
  | params_get_info index =>
    simp only [InfoGetter.get, params_get_info, copyName_eq, copy_eq]
    rfl
  | params_get_value paramId => rfl
  | params_text_to_value paramId text => rfl
  | remoteControls_get page_index =>
    simp only [InfoGetter.get, remoteControls_get, copyName_eq, copy_eq]
    exact checked_eq _ _
  | voiceInfo_get => exact checked_eq _ _

/-! ## The call -/

/-- What a call that returns a `bool` comes to for its caller. -/
def outcomeBool : CallOutcome → Bool
  | .returned v => wasmValToArg .bool v
  | _ => false

theorem answered_bool {group : InstanceGroup} {outcome : CallOutcome}
    {call : CallResult (some .bool)} (h : Answered (some .bool) group outcome call) :
    call.result = outcomeBool outcome := by
  cases outcome with
  | returned v => exact h.1
  | error e => exact h.1
  | timeout => exact h.1
  | trap => exact h.1

section Run

variable {Info : Type} {plan : GetterPlan Info} {g : GuestState}

/-- The block of the struct. -/
theorem mem_blocks_copy (ptr : Pointer is64) :
    ⟨ptr.toNat, plan.codec.width⟩ ∈ plan.copy.blocks ptr := by
  unfold GetterPlan.copy
  split <;> exact List.mem_singleton_self _

theorem placeArgs_plan (arena : Arena is64) (g : GuestState) :
    placeArgs arena plan.methodCall.args g =
      ((placeArgs arena plan.before g).1 ++ [⟨.pointer is64, plan.infoPtr arena g⟩],
        (plan.copy.place arena (placeArgs arena plan.before g).2).2) :=
  placeArgs_snoc arena plan.before plan.copy g

/-- The struct is behind its pointer when the guest is called. -/
theorem copy_at (hok : ArenaOk is64 (placeArgs arena plan.methodCall.args g).2) :
    plan.copy.At (placeArgs arena plan.methodCall.args g).2 (plan.infoPtr arena g) := by
  rw [placeArgs_plan] at hok ⊢
  have hokCopy : ArenaOk is64 (plan.copy.place arena (placeArgs arena plan.before g).2).2 := hok
  exact (GuestCopy.place_spec hokCopy).2

/-- The host reads what is in the block of the struct, whatever bytes these are. -/
theorem get_infoPtr {mem : LinearMemory}
    (hok : ArenaOk is64 (placeArgs arena plan.methodCall.args g).2)
    (hsize : (placeArgs arena plan.methodCall.args g).2.mem.size.toNat ≤ mem.size.toNat) :
    mem.get plan.codec (plan.infoPtr arena g) 0 =
      plan.codec.decode (mem.bytes.read (plan.infoPtr arena g).toNat plan.codec.width) := by
  have hin : InRange mem (plan.infoPtr arena g) (plan.codec.width * 1) := by
    rw [Nat.mul_one]
    exact (hok.inRange ((copy_at hok).blocks _ (mem_blocks_copy _))).of_size hsize
  rw [hin.get Nat.zero_lt_one, Codec.decodeAt, Nat.mul_zero, Nat.add_zero]

/-- A blank struct is there until the guest writes to it. -/
theorem get_blank {w : plan.WInfo} (hw : plan.blank = some w)
    (hok : ArenaOk is64 (placeArgs arena plan.methodCall.args g).2) :
    (placeArgs arena plan.methodCall.args g).2.mem.get plan.codec (plan.infoPtr arena g) 0 = w := by
  have hcopy : plan.copy = .value plan.codec w := by
    rw [GetterPlan.copy, hw]
  have hat := copy_at hok
  rw [hcopy] at hat
  exact (hat.hasBytes _ rfl).get

end Run

/-! ## The getters -/

/-- What a getter comes to, for what the function table has at its function pointer: the
    guest gets the address of the struct behind the other arguments, and what it returns
    and leaves in the struct is what the host gets. -/
structure BringsBack (p : PluginView is64) (group : InstanceGroup) {Info : Type}
    (plan : GetterPlan Info) (g g' : GuestState) (item : Option GuestItem) (plugin : ValRaw)
    (slots : List ValRaw) (slot : ValRaw) (out : Bool × Option Info) : Prop where
  leads : slotPointer is64 plugin = p.ptr
  args : ArgsPlaced is64 g g' plan.methodCall.args (slots ++ [slot])
  answered : ∀ run, item = some (.funcref run) → group.hasError = false →
    out = plan.copied (outcomeBool (run (plugin :: (slots ++ [slot])) g'.mem).1)
      (run (plugin :: (slots ++ [slot])) g'.mem).2
      ((run (plugin :: (slots ++ [slot])) g'.mem).2.get plan.codec (slotPointer is64 slot) 0)
  /-- After an error, and without a function, the host gets what was placed. -/
  failed : Unresolved item ∨ group.hasError = true →
    out = plan.copied false g'.mem (g'.mem.get plan.codec (slotPointer is64 slot) 0)
  blank : ∀ w ∈ plan.blank, g'.mem.get plan.codec (slotPointer is64 slot) 0 = w
  /-- The struct is read from its block, in any memory of the guest from then on. -/
  inBlock : ∀ mem : LinearMemory, g'.mem.size.toNat ≤ mem.size.toNat →
    mem.get plan.codec (slotPointer is64 slot) 0 =
      plan.codec.decode (mem.bytes.read (slotPointer is64 slot).toNat plan.codec.width)

/-- Every getter brings back what the guest has left, for every function of the guest. -/
theorem getters_faithful (abi : GetterAbi is64) (arena : Arena is64) (v : GetterView is64)
    (getter : InfoGetter) {g : GuestState} {fnPtr : Pointer is64}
    (hfn : HasBytes g (v.plugin.fnPtrPtr (getterPlan abi getter).function)
      ((pointerCodec is64).encode fnPtr))
    (hok : ArenaOk is64 (placeArgs arena (getterPlan abi getter).methodCall.args g).2) :
    ∃ plugin slots slot, BringsBack v.plugin v.group (getterPlan abi getter) g
      (placeArgs arena (getterPlan abi getter).methodCall.args g).2
      (v.plugin.table .mainThread fnPtr.toUInt64) plugin slots slot
      (getter.get abi arena v g) := by
  rw [get_eq_run]
  generalize getterPlan abi getter = plan at hfn hok ⊢
  have hdelivered : Delivered v.plugin v.group plan.methodCall g
      (v.plugin.table .mainThread fnPtr.toUInt64)
      (callMethod arena v.plugin v.group plan.methodCall g v.stack) _ _ :=
    callMethod_delivered hfn hok
  -- the address of the struct is the last argument
  have hslots : argSlots (placeArgs arena plan.methodCall.args g).1 =
      argSlots (placeArgs arena plan.before g).1 ++
        [argToWasmVal (.pointer is64) (plan.infoPtr arena g)] := by
    rw [placeArgs_plan, argSlots, List.map_append]
    rfl
  have hslot : slotPointer is64 (argToWasmVal (.pointer is64) (plan.infoPtr arena g)) =
      plan.infoPtr arena g := wasmValToArg_slot (.pointer is64) _
  rw [hslots] at hdelivered
  have hfails : ∀ hresult : (callMethod arena v.plugin v.group plan.methodCall g
        v.stack).call.result = false,
      (callMethod arena v.plugin v.group plan.methodCall g v.stack).mem =
        (placeArgs arena plan.methodCall.args g).2.mem →
      plan.run arena v g = plan.copied false (placeArgs arena plan.methodCall.args g).2.mem
        ((placeArgs arena plan.methodCall.args g).2.mem.get plan.codec
          (plan.infoPtr arena g) 0) := by
    intro hresult hmem
    show plan.copied (callMethod arena v.plugin v.group plan.methodCall g v.stack).call.result
      (callMethod arena v.plugin v.group plan.methodCall g v.stack).mem _ = _
    rw [hmem, hresult]
  refine ⟨_, _, _, hdelivered.leads, hdelivered.args, ?_, ?_, ?_, ?_⟩
  · intro run htable hgroup
    obtain ⟨hanswer, hmem⟩ := hdelivered.answered run htable hgroup
    rw [hslot]
    show plan.copied (callMethod arena v.plugin v.group plan.methodCall g v.stack).call.result
      (callMethod arena v.plugin v.group plan.methodCall g v.stack).mem _ = _
    rw [hmem]
    exact congrArg (fun b => plan.copied b _ _) (answered_bool hanswer)
  · rw [hslot]
    rintro (hnone | hgroup)
    · obtain ⟨hresult, -, hmem⟩ := hdelivered.unresolved hnone
      exact hfails hresult hmem
    · obtain ⟨hresult, -, hmem⟩ := hdelivered.failed hgroup
      exact hfails hresult hmem
  · rw [hslot]
    exact fun w hw => get_blank hw hok
  · rw [hslot]
    exact fun mem hsize => get_infoPtr hok hsize

theorem zero_not_mem_text : (0 : UInt8) ∉ [65] := by decide

/-- A text that is converted by function 5. -/
def convertedText : InfoGetter :=
  .params_text_to_value 7 ⟨[65], zero_not_mem_text⟩

theorem getters_faithful_text : ∃ plugin slots slot, BringsBack viewOfFive
    ⟨true, true, none, none, false⟩ (getterPlan (GetterAbi.clap false) convertedText) guestWithFive
    (placeArgs (bumpArena : Arena false)
      (getterPlan (GetterAbi.clap false) convertedText).methodCall.args guestWithFive).2
    (some (.funcref returnsTrue)) plugin slots slot
    (convertedText.get (GetterAbi.clap false) (bumpArena : Arena false)
      ⟨viewOfFive, ⟨true, true, none, none, false⟩, 0⟩ guestWithFive) :=
  getters_faithful (GetterAbi.clap false) bumpArena
    ⟨viewOfFive, ⟨true, true, none, none, false⟩, 0⟩ convertedText hasBytes_guestWithFive
    (by decide)

end WclapBridge.Spec
