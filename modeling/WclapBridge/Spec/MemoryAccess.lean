import Mathlib.Tactic.ByContra
import WclapBridge.Native.Arena

/-!
# The law of memory accesses

Inside the linear memory, `setArray` and `getArray` store and load bytes, and
nothing else. The code has a branch for accesses that are not inside: both
return `false` where `wasmMemory` returns null. It never does, since it moves
such an access to another place.

## Key results

- `setArray_of_inside`, `getArray_of_inside`: an access inside the memory is not
  moved
- `accessLaw_iff`: the law holds for exactly these accesses
- `callAt_ne_none`: `callAt` never refuses to call
-/

namespace WclapBridge.Spec

open WclapBridge.Native

variable {is64 : Bool}

/-- The bytes of an access, without overflow. -/
def accessLength (sizeofV count : UInt64) : Nat :=
  sizeofV.toNat * count.toNat

/-- The accessed range lies inside the linear memory. -/
def AccessInside (mem : LinearMemory) (ptr : Pointer is64) (sizeofV count : UInt64) : Prop :=
  ∀ a, span ptr.toNat (accessLength sizeofV count) a → a < mem.size.toNat

/-- The law of accesses at `ptr` to `count` elements of `sizeofV` bytes. -/
structure AccessLaw (mem : LinearMemory) (ptr : Pointer is64) (sizeofV count : UInt64) : Prop where
  /-- `setArray` stores the bytes it is given, and changes no other byte. -/
  set : AccessInside mem ptr sizeofV count → ∀ value : List UInt8,
    value.length = accessLength sizeofV count →
    ∃ mem', mem.setArray ptr value sizeofV count = some mem' ∧
      mem'.base = mem.base ∧ mem'.size = mem.size ∧
      mem'.bytes.read ptr.toNat (accessLength sizeofV count) = value ∧
      (∀ a, ¬ span ptr.toNat (accessLength sizeofV count) a → mem'.bytes a = mem.bytes a) ∧
      mem'.getArray ptr sizeofV count = some value
  /-- `getArray` loads the bytes that are there. -/
  get : AccessInside mem ptr sizeofV count →
    mem.getArray ptr sizeofV count =
      some (mem.bytes.read ptr.toNat (accessLength sizeofV count))
  /-- Stores to ranges that are apart commute. -/
  comm : AccessInside mem ptr sizeofV count → ∀ (ptr' : Pointer is64) (sizeofV' count' : UInt64),
    AccessInside mem ptr' sizeofV' count' →
    (∀ a, span ptr.toNat (accessLength sizeofV count) a →
      ¬ span ptr'.toNat (accessLength sizeofV' count') a) →
    ∀ value value' : List UInt8, value.length = accessLength sizeofV count →
      value'.length = accessLength sizeofV' count' →
      ((mem.setArray ptr value sizeofV count).bind fun mem =>
        mem.setArray ptr' value' sizeofV' count') =
      (mem.setArray ptr' value' sizeofV' count').bind fun mem =>
        mem.setArray ptr value sizeofV count
  /-- An access that is not inside is refused. -/
  refused : ¬ AccessInside mem ptr sizeofV count →
    (∀ value, mem.setArray ptr value sizeofV count = none) ∧
      mem.getArray ptr sizeofV count = none

/-! ## Accesses inside the memory -/

/-- An access inside the memory is empty, or ends in it. -/
theorem AccessInside.length {mem : LinearMemory} {ptr : Pointer is64} {sizeofV count : UInt64}
    (h : AccessInside mem ptr sizeofV count) :
    accessLength sizeofV count = 0 ∨
      ptr.toNat + accessLength sizeofV count ≤ mem.size.toNat := by
  rcases Nat.eq_zero_or_pos (accessLength sizeofV count) with hzero | hpos
  · exact .inl hzero
  · -- the last byte is inside
    have hlast := h (ptr.toNat + accessLength sizeofV count - 1) ⟨by omega, by omega⟩
    exact .inr (by omega)

/-- Its length does not overflow. -/
theorem AccessInside.toNat_mul {mem : LinearMemory} {ptr : Pointer is64} {sizeofV count : UInt64}
    (h : AccessInside mem ptr sizeofV count) :
    (sizeofV * count).toNat = accessLength sizeofV count := by
  have hsize := mem.size.toNat_lt
  have hlength := h.length
  have hlt : accessLength sizeofV count < 2 ^ 64 := by omega
  rw [UInt64.toNat_mul]
  exact Nat.mod_eq_of_lt hlt

/-- It is not moved. -/
theorem AccessInside.clamp {mem : LinearMemory} {ptr : Pointer is64} {sizeofV count : UInt64}
    (h : AccessInside mem ptr sizeofV count) (hlength : accessLength sizeofV count ≠ 0) :
    mem.clamp ptr.toUInt64 (sizeofV * count) = ptr.toNat := by
  rw [LinearMemory.clamp_of_inRange, Pointer.toNat_toUInt64]
  rw [Pointer.toNat_toUInt64, h.toNat_mul]
  exact h.length.resolve_left hlength

theorem getArray_of_inside {mem : LinearMemory} {ptr : Pointer is64} {sizeofV count : UInt64}
    (h : AccessInside mem ptr sizeofV count) :
    mem.getArray ptr sizeofV count =
      some (mem.bytes.read ptr.toNat (accessLength sizeofV count)) := by
  rw [LinearMemory.getArray_eq, h.toNat_mul]
  by_cases hzero : accessLength sizeofV count = 0
  · rw [hzero]
    rfl
  · rw [h.clamp hzero]

theorem setArray_of_inside {mem : LinearMemory} {ptr : Pointer is64} {sizeofV count : UInt64}
    {value : List UInt8} (h : AccessInside mem ptr sizeofV count)
    (hvalue : value.length = accessLength sizeofV count) :
    mem.setArray ptr value sizeofV count =
      some { mem with bytes := mem.bytes.write ptr.toNat value } := by
  rw [LinearMemory.setArray_eq, h.toNat_mul, ← hvalue, List.take_length]
  by_cases hzero : accessLength sizeofV count = 0
  · rw [List.length_eq_zero_iff.mp (hvalue.trans hzero), Cells.write_nil, Cells.write_nil]
  · rw [h.clamp hzero]

/-! ## The law -/

theorem accessLaw_of_inside {mem : LinearMemory} {ptr : Pointer is64} {sizeofV count : UInt64}
    (h : AccessInside mem ptr sizeofV count) : AccessLaw mem ptr sizeofV count where
  set _ value hvalue := by
    have hread := Cells.read_write_self mem.bytes ptr.toNat value
    rw [hvalue] at hread
    refine ⟨_, setArray_of_inside h hvalue, rfl, rfl, hread, fun a ha => ?_, ?_⟩
    · exact mem.bytes.write_of_outside _ _ (hvalue ▸ ha)
    · -- the memory has the same size as before
      have hinside : AccessInside { mem with bytes := mem.bytes.write ptr.toNat value } ptr
          sizeofV count := h
      rw [getArray_of_inside hinside, hread]
  get _ := getArray_of_inside h
  comm _ ptr' sizeofV' count' h' hapart value value' hvalue hvalue' := by
    have hinside : AccessInside { mem with bytes := mem.bytes.write ptr'.toNat value' } ptr
        sizeofV count := h
    have hinside' : AccessInside { mem with bytes := mem.bytes.write ptr.toNat value } ptr'
        sizeofV' count' := h'
    rw [setArray_of_inside h hvalue, setArray_of_inside h' hvalue', Option.bind_some,
      Option.bind_some, setArray_of_inside hinside hvalue, setArray_of_inside hinside' hvalue',
      Cells.write_comm]
    rw [hvalue, hvalue']
    exact hapart
  refused hout := absurd h hout

/-- The law holds for an access if and only if the access lies inside the linear
    memory. -/
theorem accessLaw_iff (mem : LinearMemory) (ptr : Pointer is64) (sizeofV count : UInt64) :
    AccessLaw mem ptr sizeofV count ↔ AccessInside mem ptr sizeofV count := by
  constructor
  · intro h
    by_contra hout
    have hnone := (h.refused hout).2
    rw [LinearMemory.getArray_eq] at hnone
    cases hnone
  · exact accessLaw_of_inside

/-- Four bytes at the last address of a page are taken from three bytes before. -/
theorem access_redirected :
    ¬ AccessLaw LinearMemory.onePage (⟨65535⟩ : Pointer false) 4 1 := by
  intro h
  have hout : ¬ AccessInside LinearMemory.onePage (⟨65535⟩ : Pointer false) 4 1 :=
    fun hin => absurd (hin 65536 (by decide)) (by decide)
  have hnone := (h.refused hout).2
  rw [LinearMemory.getArray_eq] at hnone
  cases hnone

/-- `callAt` calls a function, whatever the address of the function pointer. -/
theorem callAt_ne_none (mem : LinearMemory) (fnPtrPtr : Pointer is64) :
    mem.callAt fnPtrPtr ≠ none := by
  rw [LinearMemory.callAt, LinearMemory.getArray_eq]
  exact Option.some_ne_none _

end WclapBridge.Spec
