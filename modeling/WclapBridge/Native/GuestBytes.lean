import WclapBridge.Native.GuestStrings

/-!
# Data for a call of the guest

Most methods of `Plugin` place their data in guest memory before they call the guest:
a string, a struct, an array, or room for what the guest will write. Where the host
gives a null pointer, the guest gets one.

## Key results

- `HasBytes.extends`: what is in an allocated block stays there while the bridge writes
  to other blocks
- `GuestCopy.place_spec`: what is placed is where the pointer says, in a new block
-/

namespace WclapBridge.Native

variable {is64 : Bool} {α : Type}

/-- The guest finds the bytes at the pointer, in allocated blocks. -/
structure HasBytes (g : GuestState) (ptr : Pointer is64) (bytes : List UInt8) : Prop where
  holds : Holds g.toHeap ptr.toNat bytes
  inRange : InRange g.mem ptr bytes.length
  pos : 0 < ptr.toNat

/-- The bytes of a new block are there. -/
theorem Placed.hasBytes {g g' : GuestState} {ptr : Pointer is64} {bytes : List UInt8}
    (h : Placed is64 g g' ptr bytes) : HasBytes g' ptr bytes where
  holds := ⟨fun x hx => (h.fresh x hx).1, h.unwritten.holds⟩
  inRange := h.inRange
  pos := h.pos

/-- The bytes stay while the bridge writes to other blocks. -/
theorem HasBytes.extends {g g' : GuestState} {ptr : Pointer is64} {bytes : List UInt8}
    (h : HasBytes g ptr bytes) (hext : Extends g g' nowhere) : HasBytes g' ptr bytes :=
  ⟨h.holds.more hext.grows, h.inRange.of_size_eq hext.size, h.pos⟩

namespace HasBytes

variable {g : GuestState} {ptr : Pointer is64}

/-- The value that the bytes represent. -/
theorem get {c : Codec α} {value : α} (h : HasBytes g ptr (c.encode value)) :
    g.mem.get c ptr 0 = value :=
  h.inRange.get_of_encode h.holds.read

/-- The string that the bytes are. -/
theorem getString {string : CString} (h : HasBytes g ptr string.bytes) {n : Nat}
    (hn : string.size ≤ n) : g.mem.getString ptr n = string :=
  getString_of_read h.holds.read hn

/-- The function that is called through a field with this function pointer. -/
theorem callAt {fnPtr : Pointer is64} (h : HasBytes g ptr ((pointerCodec is64).encode fnPtr)) :
    g.mem.callAt ptr = some fnPtr := by
  have hin : InRange g.mem ptr ((pointerCodec is64).width * 1) := by
    rw [Nat.mul_one, ← (pointerCodec is64).length_encode fnPtr]
    exact h.inRange
  have hread := h.holds.read
  rw [(pointerCodec is64).length_encode] at hread
  show (g.mem.getArray ptr (UInt64.ofNat (pointerCodec is64).width) (UInt64.ofNat 1)).map
    (pointerCodec is64).decode = _
  rw [hin.getArray, Nat.mul_one, Option.map_some]
  exact congrArg some ((congrArg _ hread).trans ((pointerCodec is64).decode_encode fnPtr))

end HasBytes

/-- An element of an array that is there. -/
theorem HasBytes.getElem {g : GuestState} {ptr : Pointer is64} {c : Codec α} {xs : List α}
    (h : HasBytes g ptr (c.encodeList xs)) {i : Nat} (hi : i < xs.length) :
    g.mem.get c ptr i = xs[i] := by
  have hlen := c.length_encodeList xs
  have hread := h.holds.read
  have hin := h.inRange
  rw [hlen] at hread hin
  have harray := c.decodeArray_of_read g.mem.bytes ptr.toNat xs hread
  rw [hin.get hi]
  -- element `i` of the decoded array
  have helem : (c.decodeArray g.mem.bytes ptr.toNat xs.length)[i]? = xs[i]? := by rw [harray]
  rw [List.getElem?_eq_getElem hi, Codec.decodeArray, List.getElem?_map,
    List.getElem?_range hi] at helem
  exact Option.some.inj helem

/-- The guest, whose memory does not shrink, leaves the blocks of the bridge alone. -/
structure LeavesArena (g : GuestState) (mem : LinearMemory) : Prop where
  size : g.mem.size.toNat ≤ mem.size.toNat
  bytes : ∀ x, Allocated g.blocks x → mem.bytes x = g.mem.bytes x

theorem LeavesArena.refl (g : GuestState) : LeavesArena g g.mem := ⟨Nat.le_refl _, fun _ _ => rfl⟩

theorem HasBytes.leaves {g : GuestState} {mem : LinearMemory} {ptr : Pointer is64}
    {bytes : List UInt8} (h : HasBytes g ptr bytes) (hmem : LeavesArena g mem) :
    HasBytes ⟨mem, g.blocks⟩ ptr bytes where
  holds :=
    { allocated := h.holds.allocated
      read := (Cells.read_congr fun x hx => hmem.bytes x (h.holds.allocated x hx)).trans
        h.holds.read }
  inRange := h.inRange.of_size hmem.size
  pos := h.pos

/-! ## Answers -/

/-- A value written where the guest has asked for it reads back. -/
theorem InRange.get_set {mem : LinearMemory} {ptr : Pointer is64} {c : Codec α}
    (h : InRange mem ptr c.width) (value : α) : (mem.set c ptr value 0).get c ptr 0 = value := by
  have hset := InRange.set (n := 1) (by rwa [Nat.mul_one]) Nat.zero_lt_one value
  rw [Nat.mul_zero, Nat.add_zero] at hset
  rw [hset]
  apply InRange.get_of_encode
  · rw [c.length_encode]
    exact h.of_size_eq rfl
  · exact Cells.read_write_self _ _ _

/-- A value is in guest memory, and nothing else has changed. -/
structure Written (c : Codec α) (ptr : Pointer is64) (value : α) (mem mem' : LinearMemory) :
    Prop where
  get : mem'.get c ptr 0 = value
  size : mem'.size = mem.size
  frame : ∀ x, ¬ span ptr.toNat c.width x → mem'.bytes x = mem.bytes x

theorem InRange.written {mem : LinearMemory} {ptr : Pointer is64} {c : Codec α}
    (h : InRange mem ptr c.width) (value : α) :
    Written c ptr value mem (mem.set c ptr value 0) := by
  have hset := InRange.set (n := 1) (by rwa [Nat.mul_one]) Nat.zero_lt_one value
  rw [Nat.mul_zero, Nat.add_zero] at hset
  refine ⟨h.get_set value, by rw [hset], fun x hx => ?_⟩
  rw [hset]
  exact Cells.write_of_outside _ _ _ (by rwa [c.length_encode])

/-- The blocks of the bridge are where they were. -/
theorem extends_set {g : GuestState} {ptr : Pointer is64} {c : Codec α}
    (h : InRange g.mem ptr c.width) (value : α) :
    Extends g ⟨g.mem.set c ptr value 0, g.blocks⟩ (span ptr.toNat c.width) := by
  have hext := (set_extends (n := 1) (by rwa [Nat.mul_one]) Nat.zero_lt_one value).1
  rw [Nat.mul_zero, Nat.add_zero] at hext
  exact hext

/-- A string of the bridge stays when the guest's own memory is written. -/
theorem HasString.of_apart {g g' : GuestState} {ptr : Pointer is64} {string : CString}
    {W : Nat → Prop} (h : HasString g ptr string) (hext : Extends g g' W)
    (hW : ∀ x, W x → ¬ Allocated g.blocks x) : HasString g' ptr string := by
  have hholds : Holds g.toHeap ptr.toNat string.bytes := ⟨h.1, h.2⟩
  have hholds' := hholds.grows hext.grows fun x hx hw => hW x hw (h.1 x hx)
  exact ⟨hholds'.allocated, hholds'.read⟩

/-! ## Copies -/

/-- What a method places in guest memory for one argument. -/
inductive GuestCopy where
  /-- `Pointer<…> ptr{0};`, where the host has none. -/
  | null
  /-- `scoped.writeString(string)`. -/
  | string (string : CString)
  /-- `scoped.copyAcross(value)`. -/
  | value {α : Type} (c : Codec α) (value : α)
  /-- `scoped.array<unsigned char>(size)` and `setArray(ptr, buffer, size)`. -/
  | buffer (bytes : List UInt8)
  /-- `scoped.reserveBlank<T>()`, or an array of characters for the guest to fill. -/
  | room (size align : Nat)

namespace GuestCopy

/-- The pointer for the guest, and the memory. -/
def place (arena : Arena is64) (g : GuestState) : GuestCopy → Pointer is64 × GuestState
  | null => (Pointer.null, g)
  | string s => g.writeString arena s
  | value c v => g.copyAcross arena c v
  | buffer bytes =>
    let (ptr, g) := g.array arena 1 bytes.length
    (ptr, g.setArray ptr bytes 1 (UInt64.ofNat bytes.length))
  | room size align => g.reserve arena size align

/-- `if (p) ptr = scoped.…`. -/
def nullable {β : Type} (copy : β → GuestCopy) : Option β → GuestCopy
  | none => null
  | some b => copy b

/-- The bytes that the guest is to find, if it gets a pointer and the bytes matter. -/
def bytes : GuestCopy → Option (List UInt8)
  | null => none
  | string s => some s.bytes
  | value c v => some (c.encode v)
  | buffer bytes => some bytes
  | room _ _ => none

/-- The blocks that are reserved, when the pointer is this one. -/
def blocks (ptr : Pointer is64) : GuestCopy → List Block
  | null => []
  | string s => [⟨ptr.toNat, s.size + 1⟩]
  | value c _ => [⟨ptr.toNat, c.width⟩]
  | buffer bytes => [⟨ptr.toNat, bytes.length⟩]
  | room size _ => [⟨ptr.toNat, size⟩]

/-- The guest has what it needs behind the pointer: nothing behind a null pointer, and
    else the bytes, in a block of this copy. -/
structure At (g : GuestState) (copy : GuestCopy) (ptr : Pointer is64) : Prop where
  null_iff : ptr = Pointer.null ↔ copy = null
  hasBytes : ∀ bytes ∈ copy.bytes, HasBytes g ptr bytes
  blocks : ∀ b ∈ copy.blocks ptr, b ∈ g.blocks

theorem At.extends {g g' : GuestState} {copy : GuestCopy} {ptr : Pointer is64}
    (h : copy.At g ptr) (hext : Extends g g' nowhere) : copy.At g' ptr where
  null_iff := h.null_iff
  hasBytes bytes hbytes := (h.hasBytes bytes hbytes).extends hext
  blocks b hb := hext.grows.blocks.subset (h.blocks b hb)

theorem place_later (arena : Arena is64) (g : GuestState) (copy : GuestCopy) :
    Later g (copy.place arena g).2 := by
  cases copy with
  | null => exact Later.refl g
  | string s => exact writeString_later s
  | value c v => exact (reserve_later _ _).trans (set_later _ _ _ _)
  | buffer bytes => exact (reserve_later _ _).trans (setArray_later _ _ _ _)
  | room size align => exact reserve_later _ _

/-- The blocks of a copy are added at the end. -/
theorem place_blocks (arena : Arena is64) (g : GuestState) (copy : GuestCopy) :
    (copy.place arena g).2.blocks = g.blocks ++ copy.blocks (copy.place arena g).1 := by
  cases copy with
  | null => exact (List.append_nil _).symm
  | string s => rfl
  | value c v => rfl
  | buffer bytes => exact congrArg (fun n => g.blocks ++ [Block.mk _ n]) (Nat.one_mul _)
  | room size align => rfl

end GuestCopy

theorem ne_null_of_pos {ptr : Pointer is64} (h : 0 < ptr.toNat) : ptr ≠ Pointer.null := by
  rintro rfl
  rw [Pointer.toNat_null] at h
  exact absurd h (Nat.lt_irrefl 0)

namespace GuestCopy

/-- A copy whose bytes are in a new block. -/
theorem at_of_placed {arena : Arena is64} {g : GuestState} {copy : GuestCopy} {bytes : List UInt8}
    (hbytes : copy.bytes = some bytes) (hnull : copy ≠ null)
    (h : Placed is64 g (copy.place arena g).2 (copy.place arena g).1 bytes) :
    Extends g (copy.place arena g).2 nowhere ∧
      copy.At (copy.place arena g).2 (copy.place arena g).1 where
  left := h.grown
  right :=
    { null_iff := iff_of_false (ne_null_of_pos h.pos) hnull
      hasBytes := fun bytes' hbytes' => by
        rw [hbytes, Option.mem_some_iff] at hbytes'
        rw [← hbytes']
        exact h.hasBytes
      blocks := fun b hb => by
        rw [place_blocks]
        exact List.mem_append_right _ hb }

/-- What is placed is where the pointer says. -/
theorem place_spec {arena : Arena is64} {g : GuestState} {copy : GuestCopy}
    (hok : ArenaOk is64 (copy.place arena g).2) :
    Extends g (copy.place arena g).2 nowhere ∧
      copy.At (copy.place arena g).2 (copy.place arena g).1 := by
  cases copy with
  | null =>
    refine ⟨Extends.refl g _, iff_of_true rfl rfl, ?_, fun b hb => absurd hb List.not_mem_nil⟩
    intro bytes hbytes
    cases hbytes
  | string s => exact at_of_placed rfl nofun (placed_of_writeString hok)
  | value c v => exact at_of_placed rfl nofun (placed_of_copyAcross hok)
  | buffer bytes =>
    exact at_of_placed rfl nofun (placed_of_setArray rfl (Nat.one_mul _).symm hok)
  | room size align =>
    have hmem : ⟨(g.reserve arena size align).1.toNat, size⟩ ∈
        (g.reserve arena size align).2.blocks :=
      reserve_mem_blocks size align
    refine ⟨reserve_extends _ _ _, ?_, ?_, ?_⟩
    · exact iff_of_false (ne_null_of_pos (hok.pos _ hmem)) nofun
    · intro bytes hbytes
      cases hbytes
    · intro b hb
      rw [place_blocks]
      exact List.mem_append_right _ hb

end GuestCopy

end WclapBridge.Native
