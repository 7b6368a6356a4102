import WclapBridge.ForStd.CString
import WclapBridge.Native.Arena

/-!
# Strings in guest memory

`Instance::getString` and `MemoryArenaScope::writeString` of the `wclap-cpp` library,
as the bridge relies on them: a string is written with its terminator, and read up to
the first NUL or the length that is asked for.

## Key results

- `placed_of_writeString`: what is written is in a new block
- `HasString.extends`: it stays there while the bridge writes to other blocks
- `getString_of_read`: what was written reads back, unless it is too long
- `getString_eq_take`: a longer string reads back as far as is asked for
-/

namespace WclapBridge.Native

variable {is64 : Bool}

/-- `Instance::getString(ptr, maxLength)`. -/
def LinearMemory.getString (mem : LinearMemory) (ptr : Pointer is64) (maxLength : Nat) :
    CString :=
  .scan (mem.bytes.read ptr.toNat maxLength)

/-- `MemoryArenaScope::writeString`. -/
def GuestState.writeString (arena : Arena is64) (g : GuestState) (string : CString) :
    Pointer is64 × GuestState :=
  let (ptr, g) := g.reserve arena (string.size + 1) 1
  (ptr, g.setArray ptr string.bytes 1 (UInt64.ofNat (string.size + 1)))

theorem writeString_later {arena : Arena is64} {g : GuestState} (string : CString) :
    Later g (g.writeString arena string).2 :=
  (reserve_later _ _).trans (setArray_later _ _ _ _)

/-- A string that is written is in a block of its own. -/
theorem placed_of_writeString {arena : Arena is64} {g : GuestState} {string : CString}
    (hok : ArenaOk is64 (g.writeString arena string).2) :
    Placed is64 g (g.writeString arena string).2 (g.writeString arena string).1 string.bytes :=
  placed_of_setArray (Nat.one_mul _).symm (string.length_bytes.trans (Nat.one_mul _).symm) hok

/-! ## Strings in blocks -/

/-- Guest memory has the string at the pointer. -/
def StringAt (mem : LinearMemory) (ptr : Pointer is64) (string : CString) : Prop :=
  mem.bytes.read ptr.toNat string.bytes.length = string.bytes

/-- A string is in an allocated block. -/
def HasString (g : GuestState) (ptr : Pointer is64) (string : CString) : Prop :=
  (∀ x, span ptr.toNat string.bytes.length x → Allocated g.blocks x) ∧ StringAt g.mem ptr string

/-- A string that was written is there. -/
theorem hasString_writeString {arena : Arena is64} {g : GuestState} {string : CString}
    (hok : ArenaOk is64 (g.writeString arena string).2) :
    HasString (g.writeString arena string).2 (g.writeString arena string).1 string := by
  have hplaced := placed_of_writeString hok
  exact ⟨fun x hx => (hplaced.fresh x hx).1, hplaced.unwritten.holds⟩

/-- A string is not disturbed by writes to other blocks. -/
theorem HasString.extends {g g' : GuestState} {ptr : Pointer is64} {string : CString}
    (h : HasString g ptr string) (hext : Extends g g' nowhere) : HasString g' ptr string := by
  refine ⟨fun x hx => (h.1 x hx).mono hext.grows.blocks, ?_⟩
  have hread : g'.mem.bytes.read ptr.toNat string.bytes.length =
      g.mem.bytes.read ptr.toNat string.bytes.length :=
    Cells.read_congr fun x hx => hext.grows.mem x (h.1 x hx) id
  exact hread.trans h.2

/-- A string reads back, if it is not longer than what is asked for. -/
theorem getString_of_read {mem : LinearMemory} {ptr : Pointer is64} {string : CString} {n : Nat}
    (h : StringAt mem ptr string) (hn : string.size ≤ n) : mem.getString ptr n = string := by
  rw [StringAt, string.length_bytes] at h
  rw [LinearMemory.getString]
  rcases Nat.eq_or_lt_of_le hn with rfl | hlt
  · -- only the characters are read
    rw [← Cells.take_read _ _ _ _ (Nat.le_succ _), h, CString.bytes, CString.size, List.take_left,
      CString.scan_chars]
  · obtain ⟨k, rfl⟩ := Nat.exists_eq_add_of_le hlt
    rw [Cells.read_add, h, CString.scan_bytes_append]

/-- A longer string reads back as far as is asked for. -/
theorem getString_eq_take {mem : LinearMemory} {ptr : Pointer is64} {string : CString}
    (h : StringAt mem ptr string) (n : Nat) : mem.getString ptr n = string.take n := by
  rcases Nat.lt_or_ge n string.size with hlt | hge
  · -- only characters are read
    rw [StringAt, string.length_bytes] at h
    have htake : string.bytes.take n = (string.take n).chars :=
      List.take_append_of_le_length (Nat.le_of_lt hlt)
    rw [LinearMemory.getString, ← Cells.take_read _ _ _ _ (by omega : n ≤ string.size + 1), h,
      htake, CString.scan_chars]
  · rw [getString_of_read h hge, CString.take_of_size_le hge]

end WclapBridge.Native
