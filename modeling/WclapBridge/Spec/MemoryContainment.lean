import WclapBridge.Native.Memory

/-!
# Sandbox containment of memory accesses

`wasmMemory` clamps the guest pointer to `memorySize - size` so that the access
stays inside the linear memory. The subtraction is unsigned: when `size` is
larger than the memory it wraps around, and the pointer is not clamped to
anything useful. We show that this is the only way out of the sandbox.

## Key results

- `arrayRange_inside_iff`: an access stays inside exactly when its byte count
  fits in the linear memory
- `setArray_frame`: `setArray` changes no byte outside the range it accesses
- `webviewSend_escapes`: a guest-chosen size that leaves the sandbox
-/

namespace WclapBridge.Spec

open WclapBridge.Native

variable {is64 : Bool}

/-- A range longer than the linear memory does not fit in it. -/
private theorem length_le_of_inside {r : HostRange} {mem : LinearMemory}
    (hin : r.Inside mem) : r.length ≤ mem.size.toNat := by
  by_cases hzero : r.length = 0
  · omega
  · -- the first and the last address are both inside
    have hfirst := hin r.start (by omega) (by omega)
    have hlast := hin (r.start + r.length - 1) (by omega) (by omega)
    omega

/-- An access stays inside the linear memory exactly when its byte count
    (computed with 64-bit wrap-around) fits in the memory. -/
theorem arrayRange_inside_iff (mem : LinearMemory) (ptr : Pointer is64)
    (sizeofV count : UInt64) :
    (mem.arrayRange ptr sizeofV count).Inside mem ↔
      (sizeofV * count).toNat ≤ mem.size.toNat := by
  constructor
  · exact fun hin => length_le_of_inside hin
  · -- no wrap-around, so the clamp leaves room for the whole access
    intro hfits a hstart hend
    have hclamp := mem.clamp_add_le ptr.toUInt64 hfits
    simp only [LinearMemory.arrayRange_start, LinearMemory.arrayRange_length] at hstart hend
    omega

/-- The size of a webview message is the guest's, and is not checked: a message
    of `2 ^ 32 - 1` bytes at address 0 of a one-page memory is read from far
    behind the sandbox. -/
theorem webviewSend_escapes :
    ¬ (LinearMemory.onePage.webviewSendRange (Pointer.null : Pointer false) 0xFFFFFFFF).Inside
      LinearMemory.onePage := by
  intro hin
  exact absurd (length_le_of_inside hin) (by decide)

/-! ## What the accesses depend on -/

/-- `setArray` changes no byte outside the range it accesses. -/
theorem setArray_frame (mem mem' : LinearMemory) (ptr : Pointer is64) (value : List UInt8)
    (sizeofV count : UInt64) (h : mem.setArray ptr value sizeofV count = some mem') (a : Nat)
    (ha : mem.base + a < (mem.arrayRange ptr sizeofV count).start ∨
      (mem.arrayRange ptr sizeofV count).start + (mem.arrayRange ptr sizeofV count).length ≤
        mem.base + a) :
    mem'.bytes a = mem.bytes a := by
  simp only [LinearMemory.arrayRange_start, LinearMemory.arrayRange_length] at ha
  rw [LinearMemory.setArray_eq] at h
  cases h
  apply Cells.write_of_outside
  rw [span, List.length_take]
  omega

end WclapBridge.Spec
