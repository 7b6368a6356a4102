import WclapBridge.ForStd.Cells
import WclapBridge.ForStd.Codec

/-!
# Guest linear memory

The part of `InstanceImpl` through which every value crosses the bridge:
`wasmMemory` turns a guest pointer into a host pointer, and `getArray` and
`setArray` copy between the two address spaces. Sizes are `uint64_t` and wrap
around, as they do in the code.

`LinearMemory.bytes` is indexed by the distance from the base of the linear
memory. The map is total: the indices from `size` on are whatever the host has
mapped behind the sandbox.
-/

namespace WclapBridge.Native

/-- Width in bits of a guest address, for `WCLAP_BRIDGE_IS64` false and true. -/
def addrBits : Bool → Nat
  | false => 32
  | true => 64

/-- `Size`, the pointer-sized unsigned integer of the WCLAP. -/
abbrev Size (is64 : Bool) := BitVec (addrBits is64)

/-- `wclap32::Pointer` and `wclap64::Pointer`: an untyped guest address. -/
structure Pointer (is64 : Bool) where
  wasmPointer : Size is64
  deriving DecidableEq

namespace Pointer

variable {is64 : Bool}

/-- The null pointer `{0}`. -/
def null : Pointer is64 := ⟨0⟩

/-- `Size(n)`: the address `n`, truncated to the pointer width. -/
def ofNat (n : Nat) : Pointer is64 := ⟨BitVec.ofNat _ n⟩

def toNat (ptr : Pointer is64) : Nat := ptr.wasmPointer.toNat

/-- The conversion to `uint64_t` with which a pointer enters `wasmMemory`. -/
def toUInt64 (ptr : Pointer is64) : UInt64 := UInt64.ofNat ptr.toNat

/-- Pointer arithmetic, in bytes. -/
def offset (ptr : Pointer is64) (n : Nat) : Pointer is64 :=
  ⟨ptr.wasmPointer + BitVec.ofNat _ n⟩

theorem toNat_lt (ptr : Pointer is64) : ptr.toNat < 2 ^ 64 := by
  have h := ptr.wasmPointer.isLt
  refine Nat.lt_of_lt_of_le h (Nat.pow_le_pow_right (by omega) ?_)
  cases is64 <;> simp [addrBits]

@[simp] theorem toNat_toUInt64 (ptr : Pointer is64) : ptr.toUInt64.toNat = ptr.toNat :=
  Nat.mod_eq_of_lt ptr.toNat_lt

/-- Pointer arithmetic that stays below an existing address does not wrap. -/
theorem toNat_offset (ptr : Pointer is64) (n : Nat) (h : ptr.toNat + n < 2 ^ addrBits is64) :
    (ptr.offset n).toNat = ptr.toNat + n := by
  simp only [toNat, offset, BitVec.toNat_add, BitVec.toNat_ofNat, Nat.add_mod_mod] at h ⊢
  exact Nat.mod_eq_of_lt h

@[simp] theorem offset_zero (ptr : Pointer is64) : ptr.offset 0 = ptr := by
  cases ptr
  simp [offset]

@[simp] theorem toNat_null : (null : Pointer is64).toNat = 0 := by
  simp [null, toNat]

end Pointer

/-- A linear memory as Wasmtime reports it: the host address of its first byte
    (`wasmtime_memory_data`, never null), its size (`wasmtime_memory_data_size`)
    and the host bytes from there on. -/
structure LinearMemory where
  base : Nat
  base_pos : 0 < base
  size : UInt64
  bytes : Cells UInt8

/-- A range of host addresses. -/
structure HostRange where
  start : Nat
  length : Nat

/-- Every address of the range lies in the linear memory. -/
def HostRange.Inside (r : HostRange) (mem : LinearMemory) : Prop :=
  ∀ a, r.start ≤ a → a < r.start + r.length → mem.base ≤ a ∧ a < mem.base + mem.size.toNat

namespace LinearMemory

variable {is64 : Bool}

/-- One page of zeros. -/
def onePage : LinearMemory where
  base := 0x7f00
  base_pos := by decide
  size := 65536
  bytes _ := 0

/-- `InstanceImpl::wasmMemory`: the host address for a guest address. The
    subtraction is unsigned, so it wraps around when `size` exceeds the memory. -/
def wasmMemory (mem : LinearMemory) (wasmP size : UInt64) : Nat :=
  let memorySize := mem.size
  mem.base + (min wasmP (memorySize - size)).toNat

/-- The host range which `getArray` and `setArray` hand to `memcpy`. -/
def arrayRange (mem : LinearMemory) (ptr : Pointer is64) (sizeofV count : UInt64) : HostRange :=
  ⟨mem.wasmMemory ptr.toUInt64 (sizeofV * count), (sizeofV * count).toNat⟩

/-- `InstanceImpl::getArray`: the bytes of `count` elements of `sizeofV` bytes
    each, or `none` where the code returns `false`. -/
def getArray (mem : LinearMemory) (ptr : Pointer is64) (sizeofV count : UInt64) :
    Option (List UInt8) :=
  let r := mem.arrayRange ptr sizeofV count
  if r.start = 0 then none else some (mem.bytes.read (r.start - mem.base) r.length)

/-- `InstanceImpl::setArray`: store the object representation `value` of
    `count` elements, or `none` where the code returns `false`. -/
def setArray (mem : LinearMemory) (ptr : Pointer is64) (value : List UInt8)
    (sizeofV count : UInt64) : Option LinearMemory :=
  let r := mem.arrayRange ptr sizeofV count
  if r.start = 0 then none
  else some { mem with bytes := mem.bytes.write (r.start - mem.base) (value.take r.length) }

/-- The range read by `hostWebview_send`, whose 32-bit size the guest chooses:
    `Plugin::webviewSend` copies that many `unsigned char` out. -/
def webviewSendRange (mem : LinearMemory) (buffer : Pointer is64) (size : UInt32) : HostRange :=
  mem.arrayRange buffer 1 size.toUInt64

/-! ## The clamp -/

/-- The distance from the base at which an access of `size` bytes lands. -/
def clamp (mem : LinearMemory) (wasmP size : UInt64) : Nat := (min wasmP (mem.size - size)).toNat

theorem arrayRange_start (mem : LinearMemory) (ptr : Pointer is64) (sizeofV count : UInt64) :
    (mem.arrayRange ptr sizeofV count).start =
      mem.base + mem.clamp ptr.toUInt64 (sizeofV * count) := rfl

theorem arrayRange_length (mem : LinearMemory) (ptr : Pointer is64) (sizeofV count : UInt64) :
    (mem.arrayRange ptr sizeofV count).length = (sizeofV * count).toNat := rfl

theorem arrayRange_start_ne_zero (mem : LinearMemory) (ptr : Pointer is64)
    (sizeofV count : UInt64) : (mem.arrayRange ptr sizeofV count).start ≠ 0 := by
  have hbase := mem.base_pos
  rw [arrayRange_start]
  omega

/-- The host pointer is never null, so `getArray` always copies. -/
theorem getArray_eq (mem : LinearMemory) (ptr : Pointer is64) (sizeofV count : UInt64) :
    mem.getArray ptr sizeofV count = some (mem.bytes.read
      (mem.clamp ptr.toUInt64 (sizeofV * count)) (sizeofV * count).toNat) := by
  simp only [getArray]
  rw [if_neg (mem.arrayRange_start_ne_zero ptr sizeofV count), arrayRange_start,
    arrayRange_length, Nat.add_sub_cancel_left]

/-- The host pointer is never null, so `setArray` always copies. -/
theorem setArray_eq (mem : LinearMemory) (ptr : Pointer is64) (value : List UInt8)
    (sizeofV count : UInt64) :
    mem.setArray ptr value sizeofV count = some { mem with
      bytes := mem.bytes.write (mem.clamp ptr.toUInt64 (sizeofV * count))
        (value.take (sizeofV * count).toNat) } := by
  simp only [setArray]
  rw [if_neg (mem.arrayRange_start_ne_zero ptr sizeofV count), arrayRange_start,
    arrayRange_length, Nat.add_sub_cancel_left]

theorem clamp_eq_min (mem : LinearMemory) (wasmP size : UInt64) :
    mem.clamp wasmP size = min wasmP.toNat (mem.size - size).toNat := by
  unfold clamp
  show (if wasmP ≤ mem.size - size then wasmP else mem.size - size).toNat = _
  split
  next h => rw [Nat.min_eq_left (UInt64.le_iff_toNat_le.mp h)]
  next h => rw [Nat.min_eq_right (by rw [UInt64.le_iff_toNat_le] at h; omega)]

/-- As long as the access fits in the memory at all, the clamp keeps it inside. -/
theorem clamp_add_le (mem : LinearMemory) (wasmP : UInt64) {size : UInt64}
    (h : size.toNat ≤ mem.size.toNat) :
    mem.clamp wasmP size + size.toNat ≤ mem.size.toNat := by
  have hsub : (mem.size - size).toNat = mem.size.toNat - size.toNat :=
    UInt64.toNat_sub_of_le _ _ (UInt64.le_iff_toNat_le.mpr h)
  rw [clamp_eq_min, hsub]
  omega

/-- An access inside the memory is not moved by the clamp. -/
theorem clamp_of_inRange (mem : LinearMemory) {wasmP size : UInt64}
    (h : wasmP.toNat + size.toNat ≤ mem.size.toNat) : mem.clamp wasmP size = wasmP.toNat := by
  have hsub : (mem.size - size).toNat = mem.size.toNat - size.toNat :=
    UInt64.toNat_sub_of_le _ _ (UInt64.le_iff_toNat_le.mpr (by omega))
  rw [clamp_eq_min, hsub]
  omega

end LinearMemory

end WclapBridge.Native
