import WclapBridge.Native.Process
import WclapBridge.Spec.EventPush
import Mathlib.Data.List.Forall2

/-!
# One event, there and back

`tryCopyInputEvent` puts a host event into guest memory and
`outputEventsTryPush` takes it out again. For each of the event structs the two
are inverse to each other, up to the bytes behind the end of a sysex message.

## Key results

- `tryCopyInputEvent_eq`: the branches follow the event types of CLAP
- `copyEvent_copiedAt`: an event copied across comes back
- `copyInputEvents_spec`: the guest has exactly the recognised events, in order
-/

namespace WclapBridge.Spec

open WclapBridge.Native

variable {is64 : Bool}

/-- The events which cross the bridge. -/
def Recognised (event : NativeEvent) : Bool :=
  event.header.space_id = CLAP_CORE_EVENT_SPACE_ID ∧ event.header.type ≤ 12

/-- The sysex events which do not come back. -/
def TooLong (event : NativeEvent) : Bool :=
  match event.body with
  | .midiSysex sysex => sysex.size > 1024
  | _ => false

/-- An event of the host: it is an object of the struct which its type names, of
    that struct's size, and a sysex event points to its bytes. The cookie has to
    fit in a guest pointer. -/
structure HostEvent (abi : Abi is64) (event : NativeEvent) : Prop where
  type : structOfType event.header.type = some event.body.struct
  size : event.header.size = abi.sizeof event.body.struct
  plain : ∀ s rest, event.body = .plain s rest →
    abi.header.width + rest.length = (abi.sizeof (.plain s)).toNat
  sysex : ∀ sysex, event.body = .midiSysex sysex → sysex.size.toNat ≤ sysex.buffer.length
  cookie : ∀ fields, event.body = .paramValue fields → fields.cookie.toNat < 2 ^ addrBits is64

/-- What the host can see of an event: of a sysex message, the bytes it has. -/
def visible (event : NativeEvent) : NativeEvent :=
  match event.body with
  | .midiSysex sysex =>
    { event with body := .midiSysex { sysex with buffer := sysex.buffer.take sysex.size.toNat } }
  | _ => event

/-- An event as it comes back: a sysex message is in a buffer of 1024 bytes. -/
def handedBack (event : NativeEvent) : NativeEvent :=
  match event.body with
  | .midiSysex sysex =>
    let bytes := sysex.buffer.take sysex.size.toNat
    { event with body := .midiSysex { sysex with
        buffer := bytes ++ List.replicate (1024 - bytes.length) 0 } }
  | _ => event

/-- The host cannot tell an event from the one that comes back. -/
theorem visible_handedBack {abi : Abi is64} {event : NativeEvent} (h : HostEvent abi event) :
    visible (handedBack event) = visible event := by
  obtain ⟨header, body⟩ := event
  cases body with
  | plain s rest => rfl
  | paramValue fields => rfl
  | midiSysex sysex =>
    have hlen := h.sysex sysex rfl
    simp only [handedBack, visible]
    rw [List.take_left' (by rw [List.length_take, Nat.min_eq_left hlen])]

/-- The types of the core event space with a struct are those up to 12. -/
theorem structOfType_isSome (type : UInt16) : (structOfType type).isSome ↔ type ≤ 12 := by
  unfold structOfType
  simp only [UInt16.le_iff_toNat_le, UInt16.reduceToNat]
  generalize type.toNat = n
  by_cases hn : n ≤ 12
  · interval_cases n <;> decide
  · refine iff_of_false ?_ hn
    split <;> first | omega | decide

/-! ## The branches -/

/-- The copy made by the branch for `s`. -/
def copyEvent (abi : Abi is64) (arena : Arena is64) (event : NativeEvent) (g : GuestState) :
    EventStruct → Option (Pointer is64 × GuestState)
  | .plain _ => some (copyPlainEvent abi arena event g)
  | .paramValue =>
    match event.body with
    | .paramValue fields => some (copyParamValue abi arena event.header fields g)
    | _ => none
  | .midiSysex =>
    match event.body with
    | .midiSysex sysex => some (copyMidiSysex abi arena event.header sysex g)
    | _ => none

/-- The list of input events after a branch. -/
def appendCopy (inputEvents : List (Pointer is64)) (g : GuestState) :
    Option (Pointer is64 × GuestState) → List (Pointer is64) × GuestState
  | none => (inputEvents, g)
  | some (ptr, g') => (inputEvents ++ [ptr], g')

/-- The branches of `tryCopyInputEvent` follow the event types of CLAP. -/
theorem tryCopyInputEvent_eq (abi : Abi is64) (arena : Arena is64) (event : NativeEvent)
    (inputEvents : List (Pointer is64)) (g : GuestState)
    (hspace : event.header.space_id = CLAP_CORE_EVENT_SPACE_ID) :
    tryCopyInputEvent abi arena event inputEvents g =
      appendCopy inputEvents g
        ((structOfType event.header.type).bind (copyEvent abi arena event g)) := by
  rw [tryCopyInputEvent, if_neg (not_not_intro hspace)]
  simp only [structOfType, UInt16.le_iff_toNat_le, ge_iff_le, ← UInt16.toNat_inj,
    UInt16.reduceToNat]
  generalize event.header.type.toNat = n
  by_cases hn : n ≤ 12
  · -- a branch copies if the event has the struct it casts to
    interval_cases n <;> first
      | rfl
      | (simp only [Option.bind_some, copyEvent]; cases event.body <;> rfl)
  · rw [if_neg (by omega), if_neg (by omega), if_neg (by omega)]
    split <;> first | omega | rfl

/-! ## Coming back -/

/-- Pushing the event at `ptr` hands this event to the host. -/
def PushesBack (abi : Abi is64) (mem : LinearMemory) (ptr : Pointer is64) (event : NativeEvent) :
    Prop :=
  ∀ p : PluginEvents is64, p.hostOutputEvents ≠ none →
    outputEventsTryPush abi (fun _ => mem) p ptr =
      if TooLong event then none else some (handedBack event)

/-- It suffices to look at the header and at the branch which it chooses. -/
theorem pushesBack_of_readEvent {abi : Abi is64} {mem : LinearMemory} {ptr : Pointer is64}
    {event : NativeEvent} (hevent : HostEvent abi event)
    (hspace : event.header.space_id = CLAP_CORE_EVENT_SPACE_ID)
    (hheader : mem.get abi.header ptr 0 = event.header)
    (hread : readEvent abi mem mem ptr event.body.struct =
      if TooLong event then none else some (handedBack event)) :
    PushesBack abi mem ptr event := by
  intro p hsink
  rw [outputEventsTryPush_eq abi _ p ptr hsink (by rw [hheader]; exact hspace), hheader,
    hevent.type, Option.bind_some]
  exact hread

@[simp] theorem length_objectBytes (abi : Abi is64) (event : NativeEvent) (size : Nat) :
    (event.objectBytes abi size).length = size := by
  simp only [NativeEvent.objectBytes, List.length_take, List.length_append,
    List.length_replicate]
  omega

/-- The bytes of a whole pointer-free event. -/
theorem objectBytes_plain {abi : Abi is64} {header : EventHeader} {s : PlainStruct}
    {rest : List UInt8} {size : Nat} (h : abi.header.width + rest.length = size) :
    NativeEvent.objectBytes abi ⟨header, .plain s rest⟩ size =
      abi.header.encode header ++ rest := by
  simp only [NativeEvent.objectBytes]
  rw [List.take_left' (by rw [List.length_append, abi.header.length_encode, h])]

/-- Pointer-free events are copied bytewise in both directions. -/
theorem copyPlainEvent_pushesBack {abi : Abi is64} {arena : Arena is64} {g : GuestState}
    {header : EventHeader} {s : PlainStruct} {rest : List UInt8}
    (hevent : HostEvent abi ⟨header, .plain s rest⟩)
    (hspace : header.space_id = CLAP_CORE_EVENT_SPACE_ID)
    (hok : ArenaOk is64 (copyPlainEvent abi arena ⟨header, .plain s rest⟩ g).2) :
    let copy := copyPlainEvent abi arena ⟨header, .plain s rest⟩ g
    Extends g copy.2 nowhere ∧ Settled copy.2.toHeap nowhere
      (OfBytes copy.2.mem.size fun mem => PushesBack abi mem copy.1 ⟨header, .plain s rest⟩) := by
  intro copy
  have hsize : header.size = abi.sizeof (.plain s) := hevent.size
  have hrest := hevent.plain s rest rfl
  have hbytes : NativeEvent.objectBytes abi ⟨header, .plain s rest⟩ header.size.toNat =
      abi.header.encode header ++ rest := objectBytes_plain (by rw [hsize, hrest])
  have hplaced : Placed is64 g copy.2 copy.1
      (NativeEvent.objectBytes abi ⟨header, .plain s rest⟩ header.size.toNat) :=
    placed_of_setArray (Nat.one_mul _).symm (by rw [length_objectBytes, Nat.one_mul]) hok
  rw [hbytes] at hplaced
  refine ⟨hplaced.grown, hplaced.unwritten.imp ?_⟩
  rintro m hm mem rfl hmem
  have hin := hplaced.inRange.of_size_eq hmem
  have hlen : (abi.header.encode header ++ rest).length = 1 * header.size.toNat := by
    rw [List.length_append, abi.header.length_encode, hrest, Nat.one_mul, hsize]
  have htake : (abi.header.encode header ++ rest).take abi.header.width =
      abi.header.encode header := List.take_left' (abi.header.length_encode header)
  apply pushesBack_of_readEvent hevent hspace
  · -- the header is at the front of the bytes, and the rest comes after it
    rw [hin.get_of_read hm (by rw [List.length_append, abi.header.length_encode]; omega), htake,
      abi.header.decode_encode]
  · rw [hlen] at hin hm
    simp only [readEvent, EventBody.struct, readPlainEvent, hin.getArray, hm, Option.getD_some,
      htake, abi.header.decode_encode, List.drop_left' (abi.header.length_encode header), ← hsize]
    rfl

/-- The cookie of a host event survives the way through a guest pointer. -/
theorem toUInt64_ofNat_toNat {cookie : UInt64} (h : cookie.toNat < 2 ^ addrBits is64) :
    (Pointer.ofNat cookie.toNat : Pointer is64).toUInt64 = cookie := by
  apply UInt64.toNat_inj.mp
  rw [Pointer.toNat_toUInt64, Pointer.toNat, Pointer.ofNat, BitVec.toNat_ofNat,
    Nat.mod_eq_of_lt h]

/-- Parameter values are copied field by field in both directions. -/
theorem copyParamValue_pushesBack {abi : Abi is64} {arena : Arena is64} {g : GuestState}
    {header : EventHeader} {fields : ParamValue}
    (hevent : HostEvent abi ⟨header, .paramValue fields⟩)
    (hspace : header.space_id = CLAP_CORE_EVENT_SPACE_ID)
    (hok : ArenaOk is64 (copyParamValue abi arena header fields g).2) :
    let copy := copyParamValue abi arena header fields g
    Extends g copy.2 nowhere ∧ Settled copy.2.toHeap nowhere
      (OfBytes copy.2.mem.size fun mem => PushesBack abi mem copy.1 ⟨header, .paramValue fields⟩)
    := by
  intro copy
  have hplaced : Placed is64 g copy.2 copy.1 (abi.paramValue.encode _) := placed_of_copyAcross hok
  refine ⟨hplaced.grown, hplaced.unwritten.imp ?_⟩
  rintro m hm mem rfl hmem
  have hin := hplaced.inRange.of_size_eq hmem
  have hget := hin.get_of_encode hm
  apply pushesBack_of_readEvent hevent hspace
  · -- the header is read again as a field of the whole struct
    rw [hin.get_of_read hm (by rw [Codec.length_encode]; exact abi.header_le_paramValue),
      ← abi.header_paramValue, Codec.decode_encode]
  · have hsize : header.size = abi.sizeof .paramValue := hevent.size
    simp only [readEvent, EventBody.struct, readParamValue]
    rw [hget]
    simp only [toUInt64_ofNat_toNat (hevent.cookie fields rfl), ← hsize]
    rfl

/-- What the branch for sysex events makes of the struct and of its bytes. -/
theorem readMidiSysex_of_get {abi : Abi is64} {mem memBuffer : LinearMemory}
    {event : Pointer is64} {wEvent : WMidiSysex is64} {bytes : List UInt8}
    (hget : mem.get abi.midiSysex event 0 = wEvent)
    (hbytes : memBuffer.getArray wEvent.buffer (UInt64.ofNat 1) (UInt64.ofNat wEvent.size.toNat) =
      some bytes) :
    readMidiSysex abi mem memBuffer event =
      if wEvent.size > 1024 then none
      else some
        { header := { wEvent.header with size := abi.sizeof .midiSysex }
          body := .midiSysex
            { port_index := wEvent.port_index
              buffer := bytes ++ List.replicate (1024 - bytes.length) 0
              size := wEvent.size } } := by
  simp only [readMidiSysex, hget, hbytes, Option.getD_some]

/-- The bytes of a sysex message come back up to the length that is refused. -/
theorem copyMidiSysex_pushesBack {abi : Abi is64} {arena : Arena is64} {g : GuestState}
    {header : EventHeader} {sysex : MidiSysex}
    (hevent : HostEvent abi ⟨header, .midiSysex sysex⟩)
    (hspace : header.space_id = CLAP_CORE_EVENT_SPACE_ID)
    (hok : ArenaOk is64 (copyMidiSysex abi arena header sysex g).2) :
    let copy := copyMidiSysex abi arena header sysex g
    Extends g copy.2 nowhere ∧ Settled copy.2.toHeap nowhere
      (OfBytes copy.2.mem.size fun mem => PushesBack abi mem copy.1 ⟨header, .midiSysex sysex⟩)
    := by
  intro copy
  have hlen := hevent.sysex sysex rfl
  have hbuffer : ArenaOk is64 ((g.array arena 1 sysex.size.toNat).2.setArray
      (g.array arena 1 sysex.size.toNat).1 (sysex.buffer.take sysex.size.toNat) (UInt64.ofNat 1)
      (UInt64.ofNat sysex.size.toNat)) := (copyAcross_later _ _).arenaOk hok
  have hbytes : (sysex.buffer.take sysex.size.toNat).length = 1 * sysex.size.toNat := by
    rw [List.length_take, Nat.min_eq_left hlen, Nat.one_mul]
  have hplaced₁ := placed_of_setArray rfl hbytes hbuffer
  have hplaced₂ : Placed is64 _ copy.2 copy.1 (abi.midiSysex.encode _) := placed_of_copyAcross hok
  refine ⟨hplaced₁.grown.more hplaced₂.grown, ?_⟩
  -- the bytes of the message stay while the struct is copied
  refine ((hplaced₁.unwritten.more hplaced₂.grown.grows).and hplaced₂.unwritten).imp ?_
  rintro m ⟨hm₁, hm₂⟩ mem rfl hmem
  have hin₂ := hplaced₂.inRange.of_size_eq hmem
  have hin₁ := hplaced₁.inRange.of_size_eq (hmem.trans hplaced₂.grown.size)
  have hget := hin₂.get_of_encode hm₂
  apply pushesBack_of_readEvent hevent hspace
  · rw [hin₂.get_of_read hm₂ (by rw [Codec.length_encode]; exact abi.header_le_midiSysex),
      ← abi.header_midiSysex, Codec.decode_encode]
  · have hsize : header.size = abi.sizeof .midiSysex := hevent.size
    rw [hbytes] at hin₁ hm₁
    have hget₁ : mem.getArray (g.array arena 1 sysex.size.toNat).1 (UInt64.ofNat 1)
        (UInt64.ofNat sysex.size.toNat) = some (sysex.buffer.take sysex.size.toNat) := by
      rw [← hm₁]
      exact hin₁.getArray
    have hread := readMidiSysex_of_get hget hget₁
    rw [← hsize] at hread
    simp only [readEvent, EventBody.struct, TooLong, handedBack, decide_eq_true_eq]
    exact hread

/-- An event is in guest memory, and stays there, so that pushing it hands it
    back. -/
def CopiedAt (abi : Abi is64) (g : GuestState) (ptr : Pointer is64) (event : NativeEvent) : Prop :=
  Settled g.toHeap nowhere (OfBytes g.mem.size fun mem => PushesBack abi mem ptr event)

/-- Copying more does not disturb an event. -/
theorem CopiedAt.extends {abi : Abi is64} {g g' : GuestState} {ptr : Pointer is64}
    {event : NativeEvent} (h : CopiedAt abi g ptr event) (hext : Extends g g' nowhere) :
    CopiedAt abi g' ptr event := by
  rw [CopiedAt, hext.size]
  exact h.more hext.grows

/-- An event copied across comes back. -/
theorem copyEvent_copiedAt {abi : Abi is64} (arena : Arena is64) {event : NativeEvent}
    (g : GuestState) (hevent : HostEvent abi event)
    (hspace : event.header.space_id = CLAP_CORE_EVENT_SPACE_ID) :
    ∃ ptr g', copyEvent abi arena event g event.body.struct = some (ptr, g') ∧
      Later g g' ∧ (ArenaOk is64 g' → Extends g g' nowhere ∧ CopiedAt abi g' ptr event) := by
  obtain ⟨header, body⟩ := event
  cases body with
  | plain s rest =>
    exact ⟨_, _, rfl, (reserve_later _ _).trans (setArray_later _ _ _ _),
      fun hok => copyPlainEvent_pushesBack hevent hspace hok⟩
  | paramValue fields =>
    exact ⟨_, _, rfl, copyAcross_later _ _,
      fun hok => copyParamValue_pushesBack hevent hspace hok⟩
  | midiSysex sysex =>
    exact ⟨_, _, rfl,
      ((reserve_later _ _).trans (setArray_later _ _ _ _)).trans (copyAcross_later _ _),
      fun hok => copyMidiSysex_pushesBack hevent hspace hok⟩

/-- An event that is not recognised is left out. -/
theorem tryCopyInputEvent_unrecognised (abi : Abi is64) (arena : Arena is64) {event : NativeEvent}
    (h : ¬ Recognised event = true) (inputEvents : List (Pointer is64)) (g : GuestState) :
    tryCopyInputEvent abi arena event inputEvents g = (inputEvents, g) := by
  by_cases hspace : event.header.space_id = CLAP_CORE_EVENT_SPACE_ID
  · -- a core event that is not recognised has a type above 12
    have htype : structOfType event.header.type = none := by
      rw [← Option.not_isSome_iff_eq_none, structOfType_isSome]
      intro hle
      exact h (by simp only [Recognised, decide_eq_true_eq]; exact ⟨hspace, hle⟩)
    rw [tryCopyInputEvent_eq abi arena event inputEvents g hspace, htype, Option.bind_none,
      appendCopy]
  · rw [tryCopyInputEvent, if_pos hspace]

/-- The first events of a host list. -/
def firstEvents (eventsIn : ClapInputEvents) (n : Nat) : List NativeEvent :=
  (List.range n).map eventsIn.get

theorem recognised_space {event : NativeEvent} (h : Recognised event = true) :
    event.header.space_id = CLAP_CORE_EVENT_SPACE_ID := by
  simp only [Recognised, decide_eq_true_eq] at h
  exact h.1

/-! ## What holds of every copy -/

section

variable {abi : Abi is64} {arena : Arena is64}
  {R : GuestState → Pointer is64 → NativeEvent → Prop}

/-- The event has the struct which its type names, and `R` holds of its copy. -/
structure CopiesTo (abi : Abi is64) (arena : Arena is64)
    (R : GuestState → Pointer is64 → NativeEvent → Prop) (event : NativeEvent) : Prop where
  type : structOfType event.header.type = some event.body.struct
  copy : ∀ g, ∃ ptr g', copyEvent abi arena event g event.body.struct = some (ptr, g') ∧
    Later g g' ∧ (ArenaOk is64 g' → Extends g g' nowhere ∧ R g' ptr event)

/-- A recognised event gets one pointer. -/
theorem tryCopyInputEvent_copies {event : NativeEvent} (h : Recognised event = true)
    (hcopies : CopiesTo abi arena R event) (inputEvents : List (Pointer is64)) (g : GuestState) :
    ∃ ptr g', tryCopyInputEvent abi arena event inputEvents g = (inputEvents ++ [ptr], g') ∧
      Later g g' ∧ (ArenaOk is64 g' → Extends g g' nowhere ∧ R g' ptr event) := by
  obtain ⟨ptr, g', hcopy, hlater, hspec⟩ := hcopies.copy g
  refine ⟨ptr, g', ?_, hlater, hspec⟩
  rw [tryCopyInputEvent_eq abi arena event inputEvents g (recognised_space h), hcopies.type,
    Option.bind_some, hcopy, appendCopy]

/-- `tryCopyInputEvent` copies exactly the recognised events. -/
theorem tryCopyInputEvent_filter {event : NativeEvent}
    (hcopies : Recognised event = true → CopiesTo abi arena R event)
    (inputEvents : List (Pointer is64)) (g : GuestState) :
    ∃ ptrs g', tryCopyInputEvent abi arena event inputEvents g = (inputEvents ++ ptrs, g') ∧
      Later g g' ∧ (ArenaOk is64 g' → Extends g g' nowhere ∧
        List.Forall₂ (R g') ptrs ([event].filter Recognised)) := by
  by_cases hrec : Recognised event = true
  · obtain ⟨ptr, g', hcopy, hlater, hspec⟩ :=
      tryCopyInputEvent_copies hrec (hcopies hrec) inputEvents g
    refine ⟨[ptr], g', hcopy, hlater, fun hok => ?_⟩
    rw [List.filter_cons_of_pos hrec, List.filter_nil]
    exact ⟨(hspec hok).1, .cons (hspec hok).2 .nil⟩
  · refine ⟨[], g, ?_, Later.refl g, fun _ => ⟨Extends.refl g _, ?_⟩⟩
    · rw [List.append_nil, tryCopyInputEvent_unrecognised abi arena hrec]
    · rw [List.filter_cons_of_neg hrec]
      exact .nil

/-- The loop copies exactly the recognised events, in their order, and what holds of a
    copy holds of it in the end, if later copies do not disturb it. -/
theorem copyInputEvents_forall₂ {eventsIn : ClapInputEvents}
    (hcopies : ∀ i < eventsIn.size.toNat, Recognised (eventsIn.get i) = true →
      CopiesTo abi arena R (eventsIn.get i))
    (hlasting : ∀ {g g' ptr event}, R g ptr event → Extends g g' nowhere → R g' ptr event)
    (g : GuestState) :
    Later g (copyInputEvents abi arena eventsIn g).2 ∧
      (ArenaOk is64 (copyInputEvents abi arena eventsIn g).2 →
        Extends g (copyInputEvents abi arena eventsIn g).2 nowhere ∧
        List.Forall₂ (R (copyInputEvents abi arena eventsIn g).2)
          (copyInputEvents abi arena eventsIn g).1
          ((firstEvents eventsIn eventsIn.size.toNat).filter Recognised)) := by
  -- the invariant: the list so far points to copies of the first events, in order
  refine forLoop_inv (fun i (t : List (Pointer is64) × GuestState) =>
    Later g t.2 ∧ (ArenaOk is64 t.2 → Extends g t.2 nowhere ∧
      List.Forall₂ (R t.2) t.1 ((firstEvents eventsIn i).filter Recognised)))
    ⟨Later.refl g, fun _ => ⟨Extends.refl g _, .nil⟩⟩ ?_
  rintro i ⟨inputEvents, t⟩ hi ⟨hlater, hinv⟩
  obtain ⟨ptrs, t', hcopy, hstep, hspec⟩ :=
    tryCopyInputEvent_filter (hcopies i hi) inputEvents t
  simp only [hcopy]
  refine ⟨hlater.trans hstep, fun hok => ?_⟩
  obtain ⟨hext, hold⟩ := hinv (hstep.arenaOk hok)
  obtain ⟨hext', hnew⟩ := hspec hok
  refine ⟨hext.more hext', ?_⟩
  rw [firstEvents, List.range_succ, List.map_append, List.filter_append]
  exact List.rel_append (hold.imp fun _ _ h => hlasting h hext') hnew

end

/-! ## Copies of host events -/

/-- The copy of a host event comes back. -/
theorem HostEvent.copiesTo {abi : Abi is64} (arena : Arena is64) {event : NativeEvent}
    (h : Recognised event = true) (hevent : HostEvent abi event) :
    CopiesTo abi arena (CopiedAt abi) event :=
  ⟨hevent.type, fun g => copyEvent_copiedAt arena g hevent (recognised_space h)⟩

theorem tryCopyInputEvent_recognised {abi : Abi is64} (arena : Arena is64) {event : NativeEvent}
    (h : Recognised event = true) (hevent : HostEvent abi event)
    (inputEvents : List (Pointer is64)) (g : GuestState) :
    ∃ ptr g', tryCopyInputEvent abi arena event inputEvents g = (inputEvents ++ [ptr], g') ∧
      Later g g' ∧ (ArenaOk is64 g' → Extends g g' nowhere ∧ CopiedAt abi g' ptr event) :=
  tryCopyInputEvent_copies h (hevent.copiesTo arena h) inputEvents g

/-- The guest gets exactly the recognised events, in their order. -/
theorem copyInputEvents_spec {abi : Abi is64} (arena : Arena is64) {eventsIn : ClapInputEvents}
    (hevents : ∀ i < eventsIn.size.toNat, Recognised (eventsIn.get i) = true →
      HostEvent abi (eventsIn.get i)) (g : GuestState) :
    Later g (copyInputEvents abi arena eventsIn g).2 ∧
      (ArenaOk is64 (copyInputEvents abi arena eventsIn g).2 →
        Extends g (copyInputEvents abi arena eventsIn g).2 nowhere ∧
        List.Forall₂ (CopiedAt abi (copyInputEvents abi arena eventsIn g).2)
          (copyInputEvents abi arena eventsIn g).1
          ((firstEvents eventsIn eventsIn.size.toNat).filter Recognised)) :=
  copyInputEvents_forall₂ (fun i hi hrec => (hevents i hi hrec).copiesTo arena hrec)
    CopiedAt.extends g

end WclapBridge.Spec
