import WclapBridge.Native.Events
import Mathlib.Tactic.IntervalCases

/-!
# Events pushed by a hostile guest

`outputEventsTryPush` reads the header of a guest event to choose a branch, and
then reads the whole event again. Only the size of the second header is put
right, so a guest that changes the event between the two reads gets a struct to
the host whose header names another type. We show that this is the only way to
an ill-formed event.

## Key results

- `outputEventsTryPush_eq`: the branches follow the event types of CLAP
- `pushed_wellFormed_iff`: the host gets well-formed events exactly when the
  second header names the struct chosen by the first
- `pushed_ill_formed`: a MIDI event which the host takes for a sysex event
-/

namespace WclapBridge.Spec

open WclapBridge.Native

variable {is64 : Bool}

/-- The CLAP event struct of each type of the core event space. -/
def structOfType (type : UInt16) : Option EventStruct :=
  match type.toNat with
  | 0 | 1 | 2 | 3 => some (.plain .note)
  | 4 => some (.plain .noteExpression)
  | 5 | 6 => some .paramValue
  | 7 | 8 => some (.plain .paramGesture)
  | 9 => some (.plain .transport)
  | 10 => some (.plain .midi)
  | 11 => some .midiSysex
  | 12 => some (.plain .midi2)
  | _ => none

/-- An event as the host expects it: of the core event space, of the struct
    which its type names, of that struct's size, and if it is a sysex event,
    with at most 1024 bytes in a host array that has them. -/
structure WellFormedEvent (abi : Abi is64) (event : NativeEvent) : Prop where
  space_id : event.header.space_id = CLAP_CORE_EVENT_SPACE_ID
  type : structOfType event.header.type = some event.body.struct
  size : event.header.size = abi.sizeof event.body.struct
  sysex : ∀ sysex, event.body = .midiSysex sysex →
    sysex.size ≤ 1024 ∧ sysex.size.toNat ≤ sysex.buffer.length

/-- The bytes of the guest struct which the branch for `s` reads. -/
def structBytes (abi : Abi is64) (mem : LinearMemory) (event : Pointer is64) :
    EventStruct → List UInt8
  | .plain s =>
    (mem.getArray event (UInt64.ofNat 1) (UInt64.ofNat (abi.sizeof (.plain s)).toNat)).getD []
  | .paramValue =>
    (mem.getArray (event.offset (abi.paramValue.width * 0)) (UInt64.ofNat abi.paramValue.width)
      1).getD []
  | .midiSysex =>
    (mem.getArray (event.offset (abi.midiSysex.width * 0)) (UInt64.ofNat abi.midiSysex.width)
      1).getD []

/-- The header at the front of these bytes. -/
def structHeader (abi : Abi is64) (mem : LinearMemory) (event : Pointer is64)
    (s : EventStruct) : EventHeader :=
  abi.header.decode ((structBytes abi mem event s).take abi.header.width)

/-- The two headers in guest memory fit together: if the first read finds a
    core event of the struct `s` (and, for a sysex event, the second read a size
    that is not refused), the second read finds a core event of that struct. -/
def ReadsAgree (abi : Abi is64) (mems : Nat → LinearMemory) (p : PluginEvents is64)
    (event : Pointer is64) : Prop :=
  ∀ s, p.hostOutputEvents ≠ none →
    ((mems 0).get abi.header event 0).space_id = CLAP_CORE_EVENT_SPACE_ID →
    structOfType ((mems 0).get abi.header event 0).type = some s →
    (s = .midiSysex → ((mems 1).get abi.midiSysex event 0).size ≤ 1024) →
    (structHeader abi (mems 1) event s).space_id = CLAP_CORE_EVENT_SPACE_ID ∧
      structOfType (structHeader abi (mems 1) event s).type = some s

/-! ## The branches -/

/-- The event handed over by the branch for `s`. -/
def readEvent (abi : Abi is64) (mem memBuffer : LinearMemory) (event : Pointer is64) :
    EventStruct → Option NativeEvent
  | .plain s => some (readPlainEvent abi mem event s)
  | .paramValue => some (readParamValue abi mem event)
  | .midiSysex => readMidiSysex abi mem memBuffer event

/-- The branches of `outputEventsTryPush` follow the event types of CLAP. -/
theorem outputEventsTryPush_eq (abi : Abi is64) (mems : Nat → LinearMemory)
    (p : PluginEvents is64) (event : Pointer is64) (hsink : p.hostOutputEvents ≠ none)
    (hspace : ((mems 0).get abi.header event 0).space_id = CLAP_CORE_EVENT_SPACE_ID) :
    outputEventsTryPush abi mems p event =
      (structOfType ((mems 0).get abi.header event 0).type).bind
        (readEvent abi (mems 1) (mems 2) event) := by
  rw [outputEventsTryPush, if_neg hsink]
  simp only [hspace, ne_eq, not_true_eq_false, if_false]
  generalize ((mems 0).get abi.header event 0).type = type
  unfold structOfType
  simp only [UInt16.lt_iff_toNat_lt, ← UInt16.toNat_inj, UInt16.reduceToNat]
  generalize type.toNat = n
  by_cases hn : n ≤ 12
  · interval_cases n <;> rfl
  · -- a type without a struct is refused by the last branch
    rw [if_neg (by omega), if_neg (by omega), if_neg (by omega), if_neg (by omega),
      if_neg (by omega), if_neg (by omega), if_neg (by omega), if_neg (by omega)]
    split <;> first | omega | rfl

/-- An event that is handed over comes from a branch. -/
theorem readEvent_of_push {abi : Abi is64} {mems : Nat → LinearMemory} {p : PluginEvents is64}
    {event : Pointer is64} {ev : NativeEvent}
    (h : outputEventsTryPush abi mems p event = some ev) :
    p.hostOutputEvents ≠ none ∧
      ((mems 0).get abi.header event 0).space_id = CLAP_CORE_EVENT_SPACE_ID ∧
      ∃ s, structOfType ((mems 0).get abi.header event 0).type = some s ∧
        readEvent abi (mems 1) (mems 2) event s = some ev := by
  have hsink : p.hostOutputEvents ≠ none := by
    intro hnone
    simp [outputEventsTryPush, hnone] at h
  have hspace : ((mems 0).get abi.header event 0).space_id = CLAP_CORE_EVENT_SPACE_ID := by
    by_contra hne
    simp [outputEventsTryPush, hsink, hne] at h
  rw [outputEventsTryPush_eq abi mems p event hsink hspace] at h
  exact ⟨hsink, hspace, Option.bind_eq_some_iff.mp h⟩

/-- The event of a branch has the struct of that branch, the header at the front
    of the bytes read, and the size put right. -/
theorem readEvent_spec (abi : Abi is64) (mem memBuffer : LinearMemory) (event : Pointer is64)
    {s : EventStruct} {ev : NativeEvent} (h : readEvent abi mem memBuffer event s = some ev) :
    ev.body.struct = s ∧
      ev.header = { structHeader abi mem event s with size := abi.sizeof s } ∧
      ∀ sysex, ev.body = .midiSysex sysex →
        sysex.size ≤ 1024 ∧ sysex.size.toNat ≤ sysex.buffer.length := by
  cases s with
  | plain s =>
    simp only [readEvent, readPlainEvent, Option.some.injEq] at h
    subst h
    exact ⟨rfl, rfl, fun _ h => nomatch h⟩
  | paramValue =>
    simp only [readEvent, readParamValue, Option.some.injEq] at h
    subst h
    refine ⟨rfl, ?_, fun _ h => nomatch h⟩
    simp only [structHeader, structBytes, ← abi.header_paramValue]
    rfl
  | midiSysex =>
    -- the buffer is always 1024 bytes long, and the size at most that
    simp only [readEvent, readMidiSysex] at h
    split at h
    · exact nomatch h
    next hsize =>
      simp only [Option.some.injEq] at h
      subst h
      refine ⟨rfl, ?_, fun sysex h => ?_⟩
      · simp only [structHeader, structBytes, ← abi.header_midiSysex]
        rfl
      · simp only [EventBody.midiSysex.injEq] at h
        subst h
        refine ⟨UInt32.not_lt.mp hsize, ?_⟩
        have hle : (mem.get abi.midiSysex event 0).size.toNat ≤ 1024 :=
          UInt32.le_iff_toNat_le.mp (UInt32.not_lt.mp hsize)
        simp only [List.length_append, List.length_replicate]
        omega

/-- A branch gives up only on a sysex event of more than 1024 bytes. -/
theorem readEvent_isSome (abi : Abi is64) (mem memBuffer : LinearMemory) (event : Pointer is64)
    (s : EventStruct) :
    (readEvent abi mem memBuffer event s).isSome ↔
      (s = .midiSysex → (mem.get abi.midiSysex event 0).size ≤ 1024) := by
  cases s with
  | plain s => simp [readEvent]
  | paramValue => simp [readEvent]
  | midiSysex =>
    simp only [readEvent, readMidiSysex, forall_const]
    split
    next h => simpa using h
    next h => simpa using h

/-! ## Main results -/

/-- The event of a branch is well formed exactly if the header of the second
    read names the core event space and a type of this branch. -/
theorem readEvent_wellFormed_iff (abi : Abi is64) (mem memBuffer : LinearMemory)
    (event : Pointer is64) {s : EventStruct} {ev : NativeEvent}
    (h : readEvent abi mem memBuffer event s = some ev) :
    WellFormedEvent abi ev ↔
      (structHeader abi mem event s).space_id = CLAP_CORE_EVENT_SPACE_ID ∧
        structOfType (structHeader abi mem event s).type = some s := by
  obtain ⟨hstruct, hheader, hsysex⟩ := readEvent_spec abi mem memBuffer event h
  constructor
  · intro hw
    have hspace := hw.space_id
    have htype := hw.type
    rw [hheader] at hspace htype
    rw [hstruct] at htype
    exact ⟨hspace, htype⟩
  · rintro ⟨hspace, htype⟩
    exact ⟨by rw [hheader]; exact hspace, by rw [hheader, hstruct]; exact htype,
      by rw [hheader, hstruct], hsysex⟩

/-- **Every event handed to the host is well formed if and only if the two reads
    of guest memory agree.** -/
theorem pushed_wellFormed_iff (abi : Abi is64) (mems : Nat → LinearMemory)
    (p : PluginEvents is64) (event : Pointer is64) :
    (∀ ev, outputEventsTryPush abi mems p event = some ev → WellFormedEvent abi ev) ↔
      ReadsAgree abi mems p event := by
  constructor
  · -- an event of the branch is handed over, so its header is that of the branch
    intro hall s hsink hspace htype hsize
    have hsome := (readEvent_isSome abi (mems 1) (mems 2) event s).mpr hsize
    obtain ⟨ev, hev⟩ := Option.isSome_iff_exists.mp hsome
    have hpush : outputEventsTryPush abi mems p event = some ev := by
      rw [outputEventsTryPush_eq abi mems p event hsink hspace, htype]
      exact hev
    exact (readEvent_wellFormed_iff abi _ _ event hev).mp (hall ev hpush)
  · -- what was handed over came from a branch, past all the checks before it
    intro hagree ev hpush
    obtain ⟨hsink, hspace, s, htype, hev⟩ := readEvent_of_push hpush
    have hsize := (readEvent_isSome abi (mems 1) (mems 2) event s).mp (by rw [hev]; rfl)
    exact (readEvent_wellFormed_iff abi _ _ event hev).mpr
      (hagree s hsink hspace htype hsize)

/-! ## Counterexample -/

/-- One page of guest memory with an event header of this type at address 64. -/
private def memoryWithEvent (type : UInt16) : LinearMemory :=
  { LinearMemory.onePage with
    bytes := LinearMemory.onePage.bytes.write 64
      (eventHeaderCodec.encode ⟨24, 0, CLAP_CORE_EVENT_SPACE_ID, type, 0⟩) }

/-- The guest pushes a MIDI event and turns its type to sysex after the first
    read: the host gets the 24 bytes of a MIDI struct with the header of a
    sysex event, whose buffer pointer lies behind them. -/
theorem pushed_ill_formed :
    ∃ ev, outputEventsTryPush (Abi.clap false)
        (fun i => if i = 0 then memoryWithEvent 10 else memoryWithEvent 11)
        { inputEvents := [], hostOutputEvents := some 0 } (Pointer.ofNat 64) = some ev ∧
      ev.body.struct = .plain .midi ∧ ev.header.type = 11 ∧
      ¬ WellFormedEvent (Abi.clap false) ev := by
  refine ⟨_, rfl, by decide, by decide, fun h => ?_⟩
  have htype := h.type
  revert htype
  decide

end WclapBridge.Spec
