import WclapBridge.ForStd.Heap
import WclapBridge.ForStd.Loop
import WclapBridge.Native.Abi

/-!
# Typed access to guest memory and arena scopes

`Instance::get` and `Instance::set` of the `wclap-cpp` library are `getArray`
and `setArray` for one element. Its `MemoryArenaScope` hands out guest memory;
where the library places an allocation is not the bridge's business, so an
`Arena` is a parameter: any function from the blocks handed out so far and a
request to an address. `ArenaOk` is what the bridge relies on.

## Key results

- `InRange.get`, `InRange.set`, `InRange.getArray`, `InRange.setArray`: in range,
  the clamp of `wasmMemory` plays no role
- `placed_of_setArray`, `placed_of_copyAcross`: what is copied into a new block
  is in guest memory and stays there
- `fillArray`: the rule for a loop which fills an array while it allocates more
-/

namespace WclapBridge.Native

variable {is64 : Bool} {α : Type}

namespace LinearMemory

/-- `Instance::get(ptr, index)`. -/
def get (c : Codec α) (mem : LinearMemory) (ptr : Pointer is64) (index : Nat) : α :=
  c.decode ((mem.getArray (ptr.offset (c.width * index)) (UInt64.ofNat c.width) 1).getD [])

/-- `Instance::set(ptr, value, index)`. -/
def set (c : Codec α) (mem : LinearMemory) (ptr : Pointer is64) (value : α) (index : Nat) :
    LinearMemory :=
  (mem.setArray (ptr.offset (c.width * index)) (c.encode value) (UInt64.ofNat c.width) 1).getD mem

/-- `InstanceImpl::callAt`: the function that is called, or `none` where none is. -/
def callAt (mem : LinearMemory) (fnPtrPtr : Pointer is64) : Option (Pointer is64) :=
  (mem.getArray fnPtrPtr (UInt64.ofNat (pointerCodec is64).width) 1).map (pointerCodec is64).decode

end LinearMemory

/-- The guest memory and the blocks which the open arena scopes handed out. -/
structure GuestState where
  mem : LinearMemory
  blocks : List Block

/-- Where the arenas of `wclap-cpp` place the next allocation. -/
abbrev Arena (is64 : Bool) := List Block → (size align : Nat) → Pointer is64

namespace GuestState

/-- `MemoryArenaScope::reserve(size, align)`. -/
def reserve (arena : Arena is64) (g : GuestState) (size align : Nat) :
    Pointer is64 × GuestState :=
  let ptr := arena g.blocks size align
  (ptr, { g with blocks := g.blocks ++ [⟨ptr.toNat, size⟩] })

/-- `setArray` on an `Instance`; the bridge ignores its result. -/
def setArray (g : GuestState) (ptr : Pointer is64) (value : List UInt8)
    (sizeofV count : UInt64) : GuestState :=
  { g with mem := (g.mem.setArray ptr value sizeofV count).getD g.mem }

/-- `set` on an `Instance`. -/
def set (c : Codec α) (g : GuestState) (ptr : Pointer is64) (value : α) (index : Nat) :
    GuestState :=
  { g with mem := g.mem.set c ptr value index }

/-- `MemoryArenaScope::array<T>(n)`. The alignment of `T` is not used by the
    bridge; its size serves as an upper bound. -/
def array (arena : Arena is64) (g : GuestState) (width n : Nat) : Pointer is64 × GuestState :=
  g.reserve arena (width * n) width

/-- `MemoryArenaScope::copyAcross(value)`. -/
def copyAcross (arena : Arena is64) (g : GuestState) (c : Codec α) (value : α) :
    Pointer is64 × GuestState :=
  let (ptr, g) := g.reserve arena c.width c.width
  (ptr, g.set c ptr value 0)

/-- The byte heap that the guest sees. -/
def toHeap (g : GuestState) : Heap UInt8 := ⟨g.mem.bytes, g.blocks⟩

end GuestState

/-- What the bridge relies on: the blocks handed out are pairwise disjoint, not
    null, and in range of the memory and of the guest's address space. -/
structure ArenaOk (is64 : Bool) (g : GuestState) : Prop where
  apart : Apart g.blocks
  pos : ∀ b ∈ g.blocks, 0 < b.start
  inMemory : ∀ b ∈ g.blocks, b.start + b.size ≤ g.mem.size.toNat
  addressable : ∀ b ∈ g.blocks, b.start + b.size ≤ 2 ^ addrBits is64

theorem arenaOk_iff {g : GuestState} : ArenaOk is64 g ↔ Apart g.blocks ∧
    ∀ b ∈ g.blocks, 0 < b.start ∧ b.start + b.size ≤ g.mem.size.toNat ∧
      b.start + b.size ≤ 2 ^ addrBits is64 :=
  ⟨fun h => ⟨h.apart, fun b hb => ⟨h.pos b hb, h.inMemory b hb, h.addressable b hb⟩⟩,
    fun ⟨hapart, h⟩ => ⟨hapart, fun b hb => (h b hb).1, fun b hb => (h b hb).2.1,
      fun b hb => (h b hb).2.2⟩⟩

instance (g : GuestState) : Decidable (ArenaOk is64 g) := decidable_of_iff _ arenaOk_iff.symm

/-- Blocks that are in order were in order before the last ones were added. -/
theorem ArenaOk.of_prefix {g g' : GuestState} (h : ArenaOk is64 g') (hpre : g.blocks <+: g'.blocks)
    (hsize : g'.mem.size = g.mem.size) : ArenaOk is64 g where
  apart := h.apart.of_prefix hpre
  pos b hb := h.pos b (hpre.subset hb)
  inMemory b hb := hsize ▸ h.inMemory b (hpre.subset hb)
  addressable b hb := h.addressable b (hpre.subset hb)

/-- The arena operations between two states: blocks are only added, and the size
    of the memory is kept. This holds even where the arena misbehaves. -/
structure Later (g g' : GuestState) : Prop where
  blocks : g.blocks <+: g'.blocks
  size : g'.mem.size = g.mem.size

namespace Later

theorem refl (g : GuestState) : Later g g := ⟨List.prefix_rfl, rfl⟩

theorem trans {g g' g'' : GuestState} (h : Later g g') (h' : Later g' g'') : Later g g'' :=
  ⟨h.blocks.trans h'.blocks, h'.size.trans h.size⟩

theorem arenaOk {g g' : GuestState} (h : Later g g') (hok : ArenaOk is64 g') : ArenaOk is64 g :=
  hok.of_prefix h.blocks h.size

theorem forLoop {n : Nat} {f : Nat → GuestState → GuestState} (g : GuestState)
    (hf : ∀ i g, Later g (f i g)) : Later g (forLoop n f g) :=
  forLoop_inv (fun _ t => Later g t) (refl g) fun i t _ h => h.trans (hf i t)

end Later

/-- The bridge has written to guest memory: its size is kept and its heap has
    grown, changing old blocks in `W` only. -/
structure Extends (g g' : GuestState) (W : Nat → Prop) : Prop where
  grows : Grows g.toHeap g'.toHeap W
  size : g'.mem.size = g.mem.size

namespace Extends

theorem refl (g : GuestState) (W : Nat → Prop) : Extends g g W := ⟨Grows.refl _ _, rfl⟩

theorem mono {g g' : GuestState} {W W' : Nat → Prop} (h : Extends g g' W)
    (hW : ∀ x, W x → W' x) : Extends g g' W' := ⟨h.grows.mono hW, h.size⟩

theorem trans {g g' g'' : GuestState} {W W' : Nat → Prop} (h : Extends g g' W)
    (h' : Extends g' g'' W') (hW : ∀ x, Allocated g.blocks x → W' x → W x) : Extends g g'' W :=
  ⟨h.grows.trans h'.grows hW, h'.size.trans h.size⟩

/-- Growing more, without a write to the blocks that were there. -/
theorem more {g g' g'' : GuestState} {W : Nat → Prop} (h : Extends g g' W)
    (h' : Extends g' g'' nowhere) : Extends g g'' W :=
  h.trans h' fun x _ hx => of_nowhere x hx

theorem later {g g' : GuestState} {W : Nat → Prop} (h : Extends g g' W) : Later g g' :=
  ⟨h.grows.blocks, h.size⟩

end Extends

/-- A property of the guest memory, as one of its bytes: all memories of this
    size with these bytes have it. -/
def OfBytes (size : UInt64) (Q : LinearMemory → Prop) (m : Cells UInt8) : Prop :=
  ∀ mem : LinearMemory, mem.bytes = m → mem.size = size → Q mem

/-- A settled property of the guest memory holds. -/
theorem ofBytes_holds {g : GuestState} {X : Nat → Prop} {Q : LinearMemory → Prop}
    (h : Settled g.toHeap X (OfBytes g.mem.size Q)) : Q g.mem := h.holds g.mem rfl rfl

/-! ## Access in range -/

/-- `n` bytes at `ptr` are inside the memory, and their addresses do not overflow. -/
structure InRange (mem : LinearMemory) (ptr : Pointer is64) (n : Nat) : Prop where
  inMemory : ptr.toNat + n ≤ mem.size.toNat
  addressable : ptr.toNat + n ≤ 2 ^ addrBits is64

theorem toNat_mul_ofNat {w n : Nat} (h : w * n < 2 ^ 64) :
    (UInt64.ofNat w * UInt64.ofNat n).toNat = w * n := by
  rw [← UInt64.ofNat_mul, UInt64.toNat_ofNat_of_lt' h]

namespace InRange

variable {mem : LinearMemory} {ptr : Pointer is64} {n : Nat}

theorem lt_two_pow (h : InRange mem ptr n) : n < 2 ^ 64 := by
  have h₁ := h.inMemory
  have h₂ := mem.size.toNat_lt
  omega

theorem mono {k : Nat} (h : InRange mem ptr n) (hk : k ≤ n) : InRange mem ptr k := by
  have h₁ := h.inMemory
  have h₂ := h.addressable
  exact ⟨by omega, by omega⟩

theorem of_size {mem' : LinearMemory} (h : InRange mem ptr n)
    (hsize : mem.size.toNat ≤ mem'.size.toNat) : InRange mem' ptr n :=
  ⟨Nat.le_trans h.inMemory hsize, h.addressable⟩

theorem of_size_eq {mem' : LinearMemory} (h : InRange mem ptr n) (hsize : mem'.size = mem.size) :
    InRange mem' ptr n :=
  h.of_size (Nat.le_of_eq (congrArg UInt64.toNat hsize.symm))

/-- An element of an array in range. -/
theorem element {w i : Nat} (h : InRange mem ptr (w * n)) (hi : i < n) :
    (ptr.offset (w * i)).toNat = ptr.toNat + w * i ∧ InRange mem (ptr.offset (w * i)) w := by
  have h₁ := h.inMemory
  have h₂ := h.addressable
  have hfit : w * i + w ≤ w * n := element_le hi
  have hoff : (ptr.offset (w * i)).toNat = ptr.toNat + w * i := by
    rcases Nat.eq_zero_or_pos w with rfl | hw
    · -- an array of empty elements may be at the very end of the address space
      rw [Nat.zero_mul, Pointer.toNat_offset _ _ (by rw [Nat.add_zero]; exact ptr.wasmPointer.isLt)]
    · exact Pointer.toNat_offset _ _ (by omega)
  exact ⟨hoff, by rw [hoff]; omega, by rw [hoff]; omega⟩

/-- A field of a struct in range. -/
theorem field {k w : Nat} (h : InRange mem ptr n) (hk : k + w ≤ n) (hw : 0 < w) :
    (ptr.offset k).toNat = ptr.toNat + k ∧ InRange mem (ptr.offset k) w := by
  have h₁ := h.inMemory
  have h₂ := h.addressable
  have hoff : (ptr.offset k).toNat = ptr.toNat + k := Pointer.toNat_offset _ _ (by omega)
  exact ⟨hoff, by rw [hoff]; omega, by rw [hoff]; omega⟩

/-- Reading `n` elements of `w` bytes in range. -/
theorem getArray {w : Nat} (h : InRange mem ptr (w * n)) :
    mem.getArray ptr (UInt64.ofNat w) (UInt64.ofNat n) =
      some (mem.bytes.read ptr.toNat (w * n)) := by
  have hmul := toNat_mul_ofNat h.lt_two_pow
  rw [LinearMemory.getArray_eq, LinearMemory.clamp_of_inRange, hmul, Pointer.toNat_toUInt64]
  rw [hmul, Pointer.toNat_toUInt64]
  exact h.inMemory

/-- Writing `n` elements of `w` bytes in range. -/
theorem setArray {w : Nat} (h : InRange mem ptr (w * n)) {value : List UInt8}
    (hv : value.length = w * n) :
    mem.setArray ptr value (UInt64.ofNat w) (UInt64.ofNat n) =
      some { mem with bytes := mem.bytes.write ptr.toNat value } := by
  have hmul := toNat_mul_ofNat h.lt_two_pow
  rw [LinearMemory.setArray_eq, LinearMemory.clamp_of_inRange, hmul, Pointer.toNat_toUInt64,
    List.take_of_length_le (by omega)]
  rw [hmul, Pointer.toNat_toUInt64]
  exact h.inMemory

/-- `get` in range reads the element of the array that is there. -/
theorem get {c : Codec α} {i : Nat} (h : InRange mem ptr (c.width * n)) (hi : i < n) :
    mem.get c ptr i = c.decodeAt mem.bytes ptr.toNat i := by
  obtain ⟨hoff, hin⟩ := h.element hi
  have hread := InRange.getArray (n := 1) (w := c.width) (by rwa [Nat.mul_one])
  rw [LinearMemory.get, show (1 : UInt64) = UInt64.ofNat 1 from rfl, hread, Option.getD_some,
    Nat.mul_one, hoff, Codec.decodeAt]

/-- `set` in range writes the element of the array. -/
theorem set {c : Codec α} {i : Nat} (h : InRange mem ptr (c.width * n)) (hi : i < n) (value : α) :
    mem.set c ptr value i =
      { mem with bytes := mem.bytes.write (ptr.toNat + c.width * i) (c.encode value) } := by
  obtain ⟨hoff, hin⟩ := h.element hi
  have hlen : (c.encode value).length = c.width * 1 := by rw [c.length_encode, Nat.mul_one]
  have hwrite := InRange.setArray (n := 1) (w := c.width) (by rwa [Nat.mul_one]) hlen
  rw [LinearMemory.set, show (1 : UInt64) = UInt64.ofNat 1 from rfl, hwrite, Option.getD_some,
    hoff]

/-- A value at the front of bytes that are known. -/
theorem get_of_read {c : Codec α} {bytes : List UInt8} (h : InRange mem ptr bytes.length)
    (hread : mem.bytes.read ptr.toNat bytes.length = bytes) (hc : c.width ≤ bytes.length) :
    mem.get c ptr 0 = c.decode (bytes.take c.width) := by
  have hin : InRange mem ptr (c.width * 1) := by
    rw [Nat.mul_one]
    exact h.mono hc
  rw [hin.get Nat.zero_lt_one, Codec.decodeAt, Nat.mul_zero, Nat.add_zero,
    ← Cells.take_read _ _ _ _ hc, hread]

/-- A value whose object representation is known to be in memory. -/
theorem get_of_encode {c : Codec α} {value : α} (h : InRange mem ptr (c.encode value).length)
    (hread : mem.bytes.read ptr.toNat (c.encode value).length = c.encode value) :
    mem.get c ptr 0 = value := by
  rw [h.get_of_read hread (Nat.le_of_eq (c.length_encode value).symm),
    List.take_of_length_le (Nat.le_of_eq (c.length_encode value)), c.decode_encode]

end InRange

/-- A block which an arena handed out is in range. -/
theorem ArenaOk.inRange {g : GuestState} (h : ArenaOk is64 g) {ptr : Pointer is64} {n : Nat}
    (hb : ⟨ptr.toNat, n⟩ ∈ g.blocks) : InRange g.mem ptr n :=
  ⟨h.inMemory _ hb, h.addressable _ hb⟩

/-! ## Arena operations -/

section Operations

variable {arena : Arena is64} {g : GuestState}

@[simp] theorem reserve_blocks (size align : Nat) :
    (g.reserve arena size align).2.blocks =
      g.blocks ++ [⟨(g.reserve arena size align).1.toNat, size⟩] := rfl

/-- Reserving a block changes nothing in memory. -/
theorem reserve_extends (size align : Nat) (W : Nat → Prop) :
    Extends g (g.reserve arena size align).2 W :=
  ⟨Grows.alloc g.toHeap _ W, rfl⟩

/-- The reserved block is one of the blocks. -/
theorem reserve_mem_blocks (size align : Nat) :
    ⟨(g.reserve arena size align).1.toNat, size⟩ ∈ (g.reserve arena size align).2.blocks := by
  rw [reserve_blocks]
  exact List.mem_append_right _ (List.mem_singleton_self _)

/-- The addresses of the reserved block were not allocated before. -/
theorem reserve_fresh {g' : GuestState} {size align : Nat}
    (hpre : (g.reserve arena size align).2.blocks <+: g'.blocks) (hok : ArenaOk is64 g') {x : Nat}
    (hx : span (g.reserve arena size align).1.toNat size x) : ¬ Allocated g.blocks x := by
  have hapart := hok.apart.of_prefix hpre
  rw [reserve_blocks] at hapart
  exact hapart.not_allocated hx

/-- Writing the elements of an array into the block reserved for them. -/
theorem setArray_extends {ptr : Pointer is64} {w n : Nat} {value : List UInt8}
    (hin : InRange g.mem ptr (w * n)) (hv : value.length = w * n) :
    Extends g (g.setArray ptr value (UInt64.ofNat w) (UInt64.ofNat n)) (span ptr.toNat (w * n)) ∧
      (g.setArray ptr value (UInt64.ofNat w) (UInt64.ofNat n)).toHeap =
        g.toHeap.write ptr.toNat value := by
  have heq : (g.setArray ptr value (UInt64.ofNat w) (UInt64.ofNat n)).toHeap =
      g.toHeap.write ptr.toNat value := by
    simp only [GuestState.setArray, hin.setArray hv, Option.getD_some]
    rfl
  refine ⟨⟨?_, ?_⟩, heq⟩
  · rw [heq, ← hv]
    exact Grows.write g.toHeap ptr.toNat value
  · simp only [GuestState.setArray, hin.setArray hv, Option.getD_some]

/-- Writing one element of an array. -/
theorem set_extends {ptr : Pointer is64} {c : Codec α} {n i : Nat}
    (hin : InRange g.mem ptr (c.width * n)) (hi : i < n) (value : α) :
    Extends g (g.set c ptr value i) (span (ptr.toNat + c.width * i) c.width) ∧
      (g.set c ptr value i).toHeap =
        g.toHeap.write (ptr.toNat + c.width * i) (c.encode value) := by
  have heq : (g.set c ptr value i).toHeap =
      g.toHeap.write (ptr.toNat + c.width * i) (c.encode value) := by
    simp only [GuestState.set, hin.set hi value]
    rfl
  refine ⟨⟨?_, ?_⟩, heq⟩
  · rw [heq, ← c.length_encode value]
    exact Grows.write g.toHeap _ _
  · simp only [GuestState.set, hin.set hi value]

/-- The element that was set stays, if nothing else is written to it. -/
theorem set_settled {ptr : Pointer is64} {c : Codec α} {n i : Nat}
    (hin : InRange g.mem ptr (c.width * n)) (hi : i < n) (value : α) {X : Nat → Prop}
    (hX : ∀ x, span (ptr.toNat + c.width * i) c.width x → Allocated g.blocks x ∧ ¬ X x) :
    Settled (g.set c ptr value i).toHeap X
      (OfBytes g.mem.size fun mem => mem.get c ptr i = value) := by
  rw [(set_extends hin hi value).2]
  have hlen := c.length_encode value
  refine (Settled.write ?_ ?_).imp ?_
  · exact fun x hx => (hX x (hlen ▸ hx)).1
  · exact fun x hx => (hX x (hlen ▸ hx)).2
  -- what is read in range are the bytes that were written
  rintro m hm mem rfl hmem
  rw [hlen] at hm
  rw [(hin.of_size_eq hmem).get hi, Codec.decodeAt, hm, c.decode_encode]

theorem reserve_later (size align : Nat) : Later g (g.reserve arena size align).2 :=
  ⟨List.prefix_append _ _, rfl⟩

theorem array_later (width n : Nat) : Later g (g.array arena width n).2 := reserve_later _ _

theorem setArray_later (ptr : Pointer is64) (value : List UInt8) (sizeofV count : UInt64) :
    Later g (g.setArray ptr value sizeofV count) := by
  refine ⟨List.prefix_rfl, ?_⟩
  simp only [GuestState.setArray, LinearMemory.setArray_eq, Option.getD_some]

theorem set_later (c : Codec α) (ptr : Pointer is64) (value : α) (i : Nat) :
    Later g (g.set c ptr value i) := by
  refine ⟨List.prefix_rfl, ?_⟩
  simp only [GuestState.set, LinearMemory.set, LinearMemory.setArray_eq, Option.getD_some]

theorem copyAcross_later (c : Codec α) (value : α) : Later g (g.copyAcross arena c value).2 :=
  (reserve_later _ _).trans (set_later _ _ _ _)

end Operations

/-! ## New blocks -/

/-- From `g` to `g'` a new block at `ptr` was filled with `bytes`. -/
structure Placed (is64 : Bool) (g g' : GuestState) (ptr : Pointer is64) (bytes : List UInt8) :
    Prop where
  grown : Extends g g' nowhere
  inRange : InRange g'.mem ptr bytes.length
  pos : 0 < ptr.toNat
  /-- The block is not one of the old ones. -/
  fresh : ∀ x, span ptr.toNat bytes.length x →
    Allocated g'.blocks x ∧ ¬ Allocated g.blocks x
  /-- The bytes are there, whatever is written to the old blocks. -/
  settled : ∀ X, (∀ x, X x → Allocated g.blocks x) →
    Settled g'.toHeap X fun m => m.read ptr.toNat bytes.length = bytes

/-- A value placed in a new block reads back. -/
theorem Placed.get {g g' : GuestState} {ptr : Pointer is64} {c : Codec α} {value : α}
    (h : Placed is64 g g' ptr (c.encode value)) {X : Nat → Prop}
    (hX : ∀ x, X x → Allocated g.blocks x) :
    Settled g'.toHeap X (OfBytes g'.mem.size fun mem => mem.get c ptr 0 = value) := by
  refine (h.settled X hX).imp ?_
  rintro m hm mem rfl hmem
  exact (h.inRange.of_size_eq hmem).get_of_encode hm

/-- The bytes are there, if nothing is written at all. -/
theorem Placed.unwritten {g g' : GuestState} {ptr : Pointer is64} {bytes : List UInt8}
    (h : Placed is64 g g' ptr bytes) :
    Settled g'.toHeap nowhere fun m => m.read ptr.toNat bytes.length = bytes :=
  h.settled nowhere of_nowhere

section NewBlocks

variable {arena : Arena is64} {g : GuestState}

private theorem placed_of_write {size align : Nat} {g' : GuestState} {bytes : List UInt8}
    (hlen : bytes.length = size)
    (hext : Extends (g.reserve arena size align).2 g'
      (span (g.reserve arena size align).1.toNat size))
    (hheap : g'.toHeap =
      (g.reserve arena size align).2.toHeap.write (g.reserve arena size align).1.toNat bytes)
    (hok : ArenaOk is64 g') : Placed is64 g g' (g.reserve arena size align).1 bytes := by
  subst hlen
  have hnew : ∀ x, span (g.reserve arena bytes.length align).1.toNat bytes.length x →
      ¬ Allocated g.blocks x :=
    fun x hx => reserve_fresh hext.grows.blocks hok hx
  have hmem : ⟨(g.reserve arena bytes.length align).1.toNat, bytes.length⟩ ∈ g'.blocks :=
    hext.grows.blocks.subset (reserve_mem_blocks _ _)
  have halloc : ∀ x, span (g.reserve arena bytes.length align).1.toNat bytes.length x →
      Allocated (g.reserve arena bytes.length align).2.blocks x :=
    fun x hx => ⟨_, reserve_mem_blocks _ _, hx⟩
  refine ⟨?_, hok.inRange hmem, hok.pos _ hmem, fun x hx => ⟨⟨_, hmem, hx⟩, hnew x hx⟩, ?_⟩
  · -- the write is to the new block, so to nothing that was allocated before
    exact (reserve_extends _ _ nowhere).trans hext fun x hx hw => absurd hx (hnew x hw)
  · intro X hX
    rw [hheap]
    exact Settled.write halloc fun x hx hxX => hnew x hx (hX x hxX)

/-- An array copied into the block reserved for it. -/
theorem placed_of_setArray {size align w n : Nat} {bytes : List UInt8} (hsize : size = w * n)
    (hlen : bytes.length = w * n)
    (hok : ArenaOk is64 ((g.reserve arena size align).2.setArray
      (g.reserve arena size align).1 bytes (UInt64.ofNat w) (UInt64.ofNat n))) :
    Placed is64 g ((g.reserve arena size align).2.setArray
      (g.reserve arena size align).1 bytes (UInt64.ofNat w) (UInt64.ofNat n))
      (g.reserve arena size align).1 bytes := by
  subst hsize
  have hin : InRange g.mem (g.reserve arena (w * n) align).1 (w * n) :=
    ((setArray_later _ _ _ _).arenaOk hok).inRange (reserve_mem_blocks _ _)
  obtain ⟨hext, hheap⟩ := setArray_extends (g := (g.reserve arena (w * n) align).2) hin hlen
  exact placed_of_write hlen hext hheap hok

/-- A value copied across. -/
theorem placed_of_copyAcross {c : Codec α} {value : α}
    (hok : ArenaOk is64 (g.copyAcross arena c value).2) :
    Placed is64 g (g.copyAcross arena c value).2 (g.copyAcross arena c value).1
      (c.encode value) := by
  have hin : InRange g.mem (g.reserve arena c.width c.width).1 (c.width * 1) := by
    rw [Nat.mul_one]
    exact ((set_later c _ value 0).arenaOk hok).inRange (reserve_mem_blocks _ _)
  obtain ⟨hext, hheap⟩ :=
    set_extends (g := (g.reserve arena c.width c.width).2) hin Nat.zero_lt_one value
  exact placed_of_write (c.length_encode value) hext hheap hok

end NewBlocks

/-! ## Filling an array -/

/-- A property settled apart from element `i` of the array at `a`: it does not
    look at the other old blocks, nor at the other elements. -/
def SettledElement (g g' : GuestState) (a : Nat) (Q : Cells UInt8 → Prop) (w i : Nat) : Prop :=
  ∀ X, (∀ x, X x → Allocated g.blocks x) → (∀ x, X x → ¬ span (a + w * i) w x) →
    Settled g'.toHeap X Q

/-- The rule for a loop which fills an array while it allocates more: if each
    iteration writes to its own element only and settles `Q i`, then the loop
    writes to the array only and settles every `Q i`. -/
theorem fillArray {f : Nat → GuestState → GuestState} {g : GuestState} {a w n : Nat}
    {Q : Nat → Cells UInt8 → Prop} (hlater : ∀ i t, Later t (f i t))
    (hok : ArenaOk is64 (forLoop n f g))
    (harray : ∀ x, span a (w * n) x → Allocated g.blocks x)
    (hstep : ∀ i t, i < n → Later g t → ArenaOk is64 (f i t) →
      Extends t (f i t) (span (a + w * i) w) ∧ SettledElement t (f i t) a (Q i) w i) :
    Extends g (forLoop n f g) (span a (w * n)) ∧
      ∀ i < n, ∀ X, (∀ x, X x → Allocated g.blocks x) → (∀ x, X x → ¬ span a (w * n) x) →
        Settled (forLoop n f g).toHeap X (Q i) := by
  -- the invariant: the elements so far are settled, apart from the old blocks
  -- and from the array, whose other elements are still to come
  have hinv := forLoop_inv_of_ok (ArenaOk is64)
    (fun i t => Extends g t (span a (w * n)) ∧
      ∀ k < i, ∀ X, (∀ x, X x → Allocated g.blocks x) → (∀ x, X x → ¬ span a (w * i) x) →
        Settled t.toHeap X (Q k))
    (fun i t => (hlater i t).arenaOk) hok
    ⟨Extends.refl g _, fun k hk => absurd hk (Nat.not_lt_zero k)⟩ ?_
  · exact hinv
  rintro i t hi hok ⟨hext, hold⟩
  obtain ⟨hwrite, hnew⟩ := hstep i t hi hext.later hok
  refine ⟨hext.trans hwrite fun x _ hx => span_element hi hx, fun k hk X hX hdisj => ?_⟩
  rcases Nat.lt_succ_iff_lt_or_eq.mp hk with hk | rfl
  · -- an older element: this iteration writes where `Q k` does not look
    refine (hold k hk (fun x => X x ∨ span (a + w * i) w x) ?_ ?_).grows hwrite.grows
      (fun x hx => Or.inr hx) (fun x hx => Or.inl hx)
    · rintro x (hx | hx)
      · exact hX x hx
      · exact harray x (span_element hi hx)
    · rintro x (hx | hx) hspan
      · exact hdisj x hx (by simp only [span, Nat.mul_succ] at hspan ⊢; omega)
      · simp only [span] at hx hspan
        omega
  · -- the new element, which only this iteration has written
    refine hnew X (fun x hx => (hX x hx).mono hext.grows.blocks) fun x hx hspan => ?_
    exact hdisj x hx (by simp only [span, Nat.mul_succ] at hspan ⊢; omega)

/-! ## A concrete arena -/

/-- An arena that hands out increasing addresses, without alignment. -/
def bumpArena : Arena is64 :=
  fun blocks _ _ => Pointer.ofNat (blocks.foldl (fun a b => max a (b.start + b.size)) 64)

end WclapBridge.Native
