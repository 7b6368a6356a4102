import WclapBridge.Spec.EventCopy

/-!
# The size of a copied event

`tryCopyInputEvent` copies the header of a host event as it is, with the size of
the native struct in it. For the events that have a struct of their own in the
guest this is the size of another struct. `outputEventsTryPush` puts the size
right in every branch.

## Key results

- `headerCopied`: the copy of an event has the event's header
- `inputEvents_sized_iff`: exactly when the guest finds the sizes of its structs
- `outputEventsTryPush_size`: the host always finds the sizes of its structs
-/

namespace WclapBridge.Spec

open WclapBridge.Native

variable {is64 : Bool}

/-- The bytes that the guest's struct for an event has. -/
def guestSize (abi : Abi is64) : EventStruct → Nat
  | .plain s => (abi.sizeof (.plain s)).toNat
  | .paramValue => abi.paramValue.width
  | .midiSysex => abi.midiSysex.width

/-- On a host with 64-bit pointers, 64-bit guests have structs of the same sizes, and
    the structs with pointers are smaller for 32-bit guests. -/
structure GuestLayout (abi : Abi is64) : Prop where
  wide : is64 = true → ∀ s, guestSize abi s = (abi.sizeof s).toNat
  narrow : is64 = false → guestSize abi .paramValue < (abi.sizeof .paramValue).toNat ∧
    guestSize abi .midiSysex < (abi.sizeof .midiSysex).toNat

/-- An event as a host makes it: an object of the struct which its type names, of that
    struct's size. A sysex event points to its bytes. -/
structure HostObject (abi : Abi is64) (event : NativeEvent) : Prop where
  type : structOfType event.header.type = some event.body.struct
  size : event.header.size = abi.sizeof event.body.struct
  plain : ∀ s rest, event.body = .plain s rest →
    abi.header.width + rest.length = (abi.sizeof (.plain s)).toNat
  sysex : ∀ sysex, event.body = .midiSysex sysex → sysex.size.toNat ≤ sysex.buffer.length

/-- The guest's struct is allocated at `ptr`, and its header has its size. -/
structure EventSized (abi : Abi is64) (g : GuestState) (ptr : Pointer is64) (event : NativeEvent) :
    Prop where
  allocated : ⟨ptr.toNat, guestSize abi event.body.struct⟩ ∈ g.blocks
  size : (g.mem.get abi.header ptr 0).size.toNat = guestSize abi event.body.struct

/-- An event that crosses the bridge as bytes. -/
def IsPlain (event : NativeEvent) : Prop := ∃ s rest, event.body = .plain s rest

/-! ## The header of a copy -/

/-- The guest's struct is allocated at `ptr`, and has the header of the event. -/
structure HeaderCopied (abi : Abi is64) (g : GuestState) (ptr : Pointer is64)
    (event : NativeEvent) : Prop where
  allocated : ⟨ptr.toNat, guestSize abi event.body.struct⟩ ∈ g.blocks
  header : Settled g.toHeap nowhere
    (OfBytes g.mem.size fun mem => mem.get abi.header ptr 0 = event.header)

theorem HeaderCopied.extends {abi : Abi is64} {g g' : GuestState} {ptr : Pointer is64}
    {event : NativeEvent} (h : HeaderCopied abi g ptr event) (hext : Extends g g' nowhere) :
    HeaderCopied abi g' ptr event where
  allocated := hext.grows.blocks.subset h.allocated
  header := by
    rw [hext.size]
    exact h.header.more hext.grows

/-- What is at the front of the bytes in a new block. -/
theorem front_of_placed {abi : Abi is64} {g g' : GuestState} {ptr : Pointer is64}
    {bytes : List UInt8} {header : EventHeader} (h : Placed is64 g g' ptr bytes)
    (hle : abi.header.width ≤ bytes.length)
    (hheader : abi.header.decode (bytes.take abi.header.width) = header) :
    Settled g'.toHeap nowhere
      (OfBytes g'.mem.size fun mem => mem.get abi.header ptr 0 = header) := by
  refine h.unwritten.imp ?_
  rintro m hm mem rfl hmem
  rw [(h.inRange.of_size_eq hmem).get_of_read hm hle, hheader]

/-- A block which the copy was made into is one of the blocks. -/
private theorem reserved_mem {arena : Arena is64} {g g' : GuestState} {size align : Nat}
    (h : Later (g.reserve arena size align).2 g') :
    ⟨(g.reserve arena size align).1.toNat, size⟩ ∈ g'.blocks :=
  h.blocks.subset (reserve_mem_blocks size align)

/-- Each branch copies the header. -/
theorem headerCopied {abi : Abi is64} (arena : Arena is64) {event : NativeEvent}
    (hevent : HostObject abi event) : CopiesTo abi arena (HeaderCopied abi) event := by
  refine ⟨hevent.type, fun g => ?_⟩
  obtain ⟨header, body⟩ := event
  cases body with
  | plain s rest =>
    refine ⟨_, _, rfl, (reserve_later _ _).trans (setArray_later _ _ _ _), fun hok => ?_⟩
    have hsize : header.size = abi.sizeof (.plain s) := hevent.size
    have hrest := hevent.plain s rest rfl
    have hplaced := placed_of_setArray (Nat.one_mul _).symm
      (by rw [length_objectBytes, Nat.one_mul]) hok
    have hbytes : NativeEvent.objectBytes abi ⟨header, .plain s rest⟩ header.size.toNat =
        abi.header.encode header ++ rest := objectBytes_plain (by rw [hsize, hrest])
    refine ⟨hplaced.grown, ?_, front_of_placed hplaced ?_ ?_⟩
    · -- the size in the header is that of the struct, which is the guest's too
      have hguest : guestSize abi (.plain s) = header.size.toNat := congrArg UInt32.toNat hsize.symm
      rw [EventBody.struct, hguest]
      exact reserved_mem (setArray_later _ _ _ _)
    · rw [length_objectBytes, hsize]
      exact abi.header_le s
    · rw [hbytes, List.take_left' (abi.header.length_encode header), abi.header.decode_encode]
  | paramValue fields =>
    refine ⟨_, _, rfl, copyAcross_later _ _, fun hok => ?_⟩
    have hplaced := placed_of_copyAcross hok
    refine ⟨hplaced.grown, reserved_mem (set_later _ _ _ _), front_of_placed hplaced ?_ ?_⟩
    · rw [Codec.length_encode]
      exact abi.header_le_paramValue
    · rw [← abi.header_paramValue, Codec.decode_encode]
  | midiSysex sysex =>
    refine ⟨_, _, rfl,
      ((reserve_later _ _).trans (setArray_later _ _ _ _)).trans (copyAcross_later _ _),
      fun hok => ?_⟩
    have hbytes : (sysex.buffer.take sysex.size.toNat).length = 1 * sysex.size.toNat := by
      rw [List.length_take, Nat.min_eq_left (hevent.sysex sysex rfl), Nat.one_mul]
    have hbuffer := placed_of_setArray rfl hbytes ((copyAcross_later _ _).arenaOk hok)
    have hplaced := placed_of_copyAcross hok
    refine ⟨hbuffer.grown.more hplaced.grown, reserved_mem (set_later _ _ _ _),
      front_of_placed hplaced ?_ ?_⟩
    · rw [Codec.length_encode]
      exact abi.header_le_midiSysex
    · rw [← abi.header_midiSysex, Codec.decode_encode]

/-! ## Sizes -/

/-- With the header of the event, the copy has the right size if the guest's struct has
    the size of the native one. -/
theorem HeaderCopied.sized_iff {abi : Abi is64} {g : GuestState} {ptr : Pointer is64}
    {event : NativeEvent} (h : HeaderCopied abi g ptr event)
    (hsize : event.header.size = abi.sizeof event.body.struct) :
    EventSized abi g ptr event ↔
      guestSize abi event.body.struct = (abi.sizeof event.body.struct).toNat := by
  have hheader := ofBytes_holds h.header
  constructor
  · intro hsized
    rw [← hsized.size, hheader, hsize]
  · intro heq
    refine ⟨h.allocated, ?_⟩
    rw [hheader, hsize, heq]

/-- The structs have the same size for 64-bit guests, and if they have no pointers. -/
theorem GuestLayout.size_iff {abi : Abi is64} (h : GuestLayout abi) (event : NativeEvent) :
    guestSize abi event.body.struct = (abi.sizeof event.body.struct).toNat ↔
      is64 = true ∨ IsPlain event := by
  cases is64 with
  | true => exact iff_of_true (h.wide rfl _) (.inl rfl)
  | false =>
    obtain ⟨header, body⟩ := event
    obtain ⟨hparam, hsysex⟩ := h.narrow rfl
    cases body with
    | plain s rest => exact iff_of_true rfl (.inr ⟨s, rest, rfl⟩)
    | paramValue fields =>
      refine iff_of_false (Nat.ne_of_lt hparam) ?_
      rintro (hwide | ⟨s, rest, hplain⟩)
      · cases hwide
      · cases hplain
    | midiSysex sysex =>
      refine iff_of_false (Nat.ne_of_lt hsysex) ?_
      rintro (hwide | ⟨s, rest, hplain⟩)
      · cases hwide
      · cases hplain

private theorem forall₂_iff {α β : Type} {R S : α → β → Prop} {P : β → Prop} {as : List α}
    {bs : List β} (h : List.Forall₂ R as bs) (hiff : ∀ a b, b ∈ bs → R a b → (S a b ↔ P b)) :
    List.Forall₂ S as bs ↔ ∀ b ∈ bs, P b := by
  induction h with
  | nil => exact iff_of_true .nil fun b hb => nomatch hb
  | @cons a b as bs hR _ ih =>
    rw [List.forall₂_cons, List.forall_mem_cons, hiff a b List.mem_cons_self hR,
      ih fun a b hb => hiff a b (List.mem_cons_of_mem _ hb)]

/-- The recognised events of a host list. -/
def recognisedEvents (eventsIn : ClapInputEvents) : List NativeEvent :=
  (firstEvents eventsIn eventsIn.size.toNat).filter Recognised

/-- The guest finds the sizes of its structs if and only if its pointers have 64 bits, or
    all recognised events cross the bridge as bytes. -/
theorem inputEvents_sized_iff {abi : Abi is64} (hlayout : GuestLayout abi) {arena : Arena is64}
    {eventsIn : ClapInputEvents} {g : GuestState}
    (hevents : ∀ event ∈ recognisedEvents eventsIn, HostObject abi event)
    (hok : ArenaOk is64 (copyInputEvents abi arena eventsIn g).2) :
    List.Forall₂ (EventSized abi (copyInputEvents abi arena eventsIn g).2)
        (copyInputEvents abi arena eventsIn g).1 (recognisedEvents eventsIn) ↔
      is64 = true ∨ ∀ event ∈ recognisedEvents eventsIn, IsPlain event := by
  have hobject : ∀ i < eventsIn.size.toNat, Recognised (eventsIn.get i) = true →
      HostObject abi (eventsIn.get i) := by
    intro i hi hrec
    exact hevents _ (List.mem_filter.mpr ⟨List.mem_map_of_mem (List.mem_range.mpr hi), hrec⟩)
  obtain ⟨-, hspec⟩ := copyInputEvents_forall₂
    (fun i hi hrec => headerCopied arena (hobject i hi hrec)) HeaderCopied.extends g
  have hsized := forall₂_iff (hspec hok).2 fun ptr event hmem hcopied =>
    hcopied.sized_iff (hevents event hmem).size
  refine hsized.trans ?_
  simp only [hlayout.size_iff]
  cases is64 with
  | true => simp
  | false => simp [recognisedEvents]

/-- On the way out, each event has the size of its struct. -/
theorem outputEventsTryPush_size {abi : Abi is64} {mems : Nat → LinearMemory}
    {p : PluginEvents is64} {ptr : Pointer is64} {event : NativeEvent}
    (h : outputEventsTryPush abi mems p ptr = some event) :
    event.header.size = abi.sizeof event.body.struct := by
  obtain ⟨-, -, s, -, hread⟩ := readEvent_of_push h
  obtain ⟨hstruct, hheader, -⟩ := readEvent_spec abi _ _ ptr hread
  rw [hheader, hstruct]

/-! ## The published layout -/

theorem guestLayout_clap (is64 : Bool) : GuestLayout (Abi.clap is64) := by
  cases is64 with
  | true =>
    refine ⟨fun _ s => ?_, fun h => nomatch h⟩
    cases s with
    | plain s => rfl
    | paramValue => decide
    | midiSysex => decide
  | false => exact ⟨fun h => (nomatch h), fun _ => by decide⟩

/-- One parameter value. -/
private def oneParamValue : ClapInputEvents where
  size := 1
  get _ := ⟨⟨56, 0, CLAP_CORE_EVENT_SPACE_ID, 5, 0⟩, .paramValue ⟨3, 17, -1, -1, -1, -1, 9⟩⟩

private def emptyPage : GuestState := ⟨LinearMemory.onePage, []⟩

private def paramCopies (is64 : Bool) : List (Pointer is64) × GuestState :=
  copyInputEvents (Abi.clap is64) bumpArena oneParamValue emptyPage

/-- A 64-bit guest finds the size of its struct. -/
theorem param_value_sized :
    List.Forall₂ (EventSized (Abi.clap true) (paramCopies true).2) (paramCopies true).1
      (recognisedEvents oneParamValue) := by
  have hobject : ∀ event ∈ recognisedEvents oneParamValue, HostObject (Abi.clap true) event := by
    intro event hmem
    obtain ⟨i, -, rfl⟩ := List.mem_map.mp (List.mem_filter.mp hmem).1
    exact ⟨rfl, rfl, fun _ _ h => (nomatch h), fun _ h => (nomatch h)⟩
  exact (inputEvents_sized_iff (guestLayout_clap true) hobject (by decide +kernel)).mpr (.inl rfl)

/-- A 32-bit guest finds the size of the native struct, 8 bytes more. -/
theorem param_value_oversized :
    ¬ List.Forall₂ (EventSized (Abi.clap false) (paramCopies false).2) (paramCopies false).1
      (recognisedEvents oneParamValue) := by
  have hevents : recognisedEvents oneParamValue = [oneParamValue.get 0] := rfl
  intro h
  rw [hevents] at h
  obtain ⟨ptr, rest, hsized, -, hcopies⟩ := List.forall₂_cons_right_iff.mp h
  have hptr : (paramCopies false).1 = [Pointer.ofNat 64] := rfl
  cases hptr.symm.trans hcopies
  exact absurd hsized.size (by decide +kernel)

end WclapBridge.Spec
