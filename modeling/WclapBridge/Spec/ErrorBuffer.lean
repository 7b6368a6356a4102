import WclapBridge.Native.ErrorBuffer

/-!
# Errors in the buffer of the host

`wclap_get_error` should stay in the buffer, and leave a C string in it. The terminator
goes to the last place of the buffer, and one without any places has no last one: the
length minus one is the greatest `size_t` then. What Wasmtime tells of an error is taken
over through a `char[256]`, and what does not fit there is missing in a longer buffer.

## Key results

- `holdsMessage_of_read`: what is in a buffer that has been filled
- `handed_of_recorded`: the message that is copied, and the one that is recorded
- `errorFill_iff`: a buffer of no length, and a long Wasmtime error with a longer buffer,
  are the two cases that go wrong
-/

namespace WclapBridge.Spec

open WclapBridge.Native

variable {s : ErrorState} {capacity : UInt32} {buffer : Cells UInt8}

/-- The message that is recorded: that of the module, or else that of the group, with all
    that Wasmtime tells of an error. -/
def recordedMessage (s : ErrorState) : Option CString :=
  if s.hasError then some s.errorMessage else s.constantErrorMessage <|> s.wtError

/-- The group has a Wasmtime error with a message for which the host's buffer has room, but
    not `char errorMessage[256]`. -/
def CutShort (s : ErrorState) (capacity : UInt32) : Prop :=
  s.hasError = false ∧ s.constantErrorMessage = none ∧ ∃ message, s.wtError = some message ∧
    maxWtMessage < message.size ∧ message.size < capacity.toNat

/-- The buffer starts with a C string which begins the message, and which is all of it
    if it fits. -/
def HoldsMessage (buffer : Cells UInt8) (capacity : Nat) (message : CString) : Prop :=
  ∃ text : CString, text.chars <+: message.chars ∧ text.size < capacity ∧
    buffer.read 0 (text.size + 1) = text.bytes ∧ (message.size < capacity → text = message)

/-- `wclap_get_error` is in order. -/
structure ErrorFill (s : ErrorState) (capacity : UInt32) (buffer : Cells UInt8) : Prop where
  inBounds : ∀ w ∈ (wclap_get_error s capacity).writes,
    w.start + w.bytes.length ≤ capacity.toNat
  filled : (wclap_get_error s capacity).result = true → 0 < capacity →
    ∃ message, recordedMessage s = some message ∧
      HoldsMessage (writeAll buffer (wclap_get_error s capacity).writes) capacity.toNat message
  unchanged : (wclap_get_error s capacity).result = false →
    writeAll buffer (wclap_get_error s capacity).writes = buffer

/-! ## The refreshed error -/

/-- The message that is copied: that of the module, or else what is taken over from the
    group. -/
def handedMessage (s : ErrorState) : Option CString :=
  if s.hasError then some s.errorMessage else s.groupError

/-- The error is looked for in the group if the module has none. -/
theorem refresh_eq (s : ErrorState) : s.refresh.map (·.errorMessage) = handedMessage s := by
  unfold ErrorState.refresh handedMessage
  split
  next => rfl
  next =>
    rw [Option.map_map]
    exact Option.map_id'

theorem handedMessage_eq_none_iff : handedMessage s = none ↔ recordedMessage s = none := by
  unfold handedMessage recordedMessage ErrorState.groupError
  cases s.hasError <;> cases s.constantErrorMessage <;> simp

/-- A message is copied as it is recorded, or it is that of a Wasmtime error, and is cut. -/
theorem handed_of_recorded {message : CString} (h : recordedMessage s = some message) :
    handedMessage s = some message ∨
      handedMessage s = some (message.take maxWtMessage) ∧ s.hasError = false ∧
        s.constantErrorMessage = none ∧ s.wtError = some message ∧
        maxWtMessage < message.size := by
  unfold handedMessage recordedMessage ErrorState.groupError at *
  cases hm : s.hasError with
  | true => exact .inl (by simpa [hm] using h)
  | false =>
    cases hg : s.constantErrorMessage with
    | some constant => exact .inl (by simpa [hm, hg] using h)
    | none =>
      have hwt : s.wtError = some message := by simpa [hm, hg] using h
      rcases Nat.lt_or_ge maxWtMessage message.size with hlt | hle
      · exact .inr ⟨by simp [hwt], rfl, rfl, hwt, hlt⟩
      · exact .inl (by simp [hwt, CString.take_of_size_le hle])

theorem wclap_get_error_of_none (h : handedMessage s = none) (capacity : UInt32) :
    wclap_get_error s capacity = ⟨false, [], s⟩ := by
  rw [← refresh_eq, Option.map_eq_none_iff] at h
  rw [wclap_get_error, ErrorState.getError, h]

theorem wclap_get_error_of_some {message : CString} (h : handedMessage s = some message)
    (capacity : UInt32) : ∃ t : ErrorState, t.errorMessage = message ∧
      wclap_get_error s capacity = ⟨true, t.fillBuffer capacity.toUInt64, t⟩ := by
  rw [← refresh_eq, Option.map_eq_some_iff] at h
  obtain ⟨t, ht, hmessage⟩ := h
  exact ⟨t, hmessage, by rw [wclap_get_error, ErrorState.getError, ht]⟩

/-! ## The buffer -/

/-- The lengths do not wrap around in a buffer that has a place. -/
theorem lastIndex_of_pos (h : 0 < capacity) :
    0 < capacity.toUInt64 ∧ (capacity.toUInt64 - 1).toNat = capacity.toNat - 1 := by
  rw [UInt32.lt_iff_toNat_lt, UInt32.toNat_zero] at h
  have hpos : 0 < capacity.toUInt64 := by
    rw [UInt64.lt_iff_toNat_lt, UInt32.toNat_toUInt64]
    exact h
  refine ⟨hpos, ?_⟩
  rw [UInt64.toNat_sub_of_le _ _ (UInt64.le_iff_toNat_le.mpr ?_)]
  · simp
  · rw [UInt32.toNat_toUInt64]
    exact h

/-- What is written to a buffer that has a place. -/
theorem fillBuffer_of_pos (h : 0 < capacity) (t : ErrorState) :
    t.fillBuffer capacity.toUInt64 =
      [⟨0, strncpy t.errorMessage.chars (capacity.toNat - 1)⟩, ⟨capacity.toNat - 1, [0]⟩] := by
  obtain ⟨hpos, hlast⟩ := lastIndex_of_pos h
  simp only [ErrorState.fillBuffer, hlast]
  rw [if_pos hpos]
  rfl

/-- A buffer that has been filled to its last place. -/
theorem read_fill (buffer : Cells UInt8) (bytes : List UInt8) (last : UInt8) :
    ((buffer.write 0 bytes).write bytes.length [last]).read 0 (bytes.length + 1) =
      bytes ++ [last] := by
  rw [Cells.read_add, Nat.zero_add]
  congr 1
  · -- the last place is not one of the others
    refine Eq.trans (Cells.read_congr fun x hx => ?_) (Cells.read_write_self buffer 0 bytes)
    exact Cells.write_of_outside _ _ _ fun hspan => by
      simp only [span] at hx hspan
      omega
  · exact Cells.read_write_self _ _ [last]

/-- A message is in the buffer up to the last place. -/
theorem holdsMessage_of_read {n : Nat} {message : CString}
    (h : buffer.read 0 (n + 1) = strncpy message.chars n ++ [0]) :
    HoldsMessage buffer (n + 1) message := by
  rw [strncpy_chars] at h
  rcases Nat.lt_or_ge message.size n with hlt | hle
  · -- it fits, and zeros follow
    obtain ⟨k, rfl⟩ := Nat.exists_eq_add_of_lt hlt
    refine ⟨message, List.prefix_rfl, Nat.lt_succ_of_lt hlt, ?_, fun _ => rfl⟩
    have hzeros : (message.chars ++ List.replicate (message.size + k + 1) 0).take
        (message.size + k + 1) = message.bytes ++ List.replicate k 0 := by
      rw [Nat.add_assoc, CString.size, List.take_length_add_append, List.take_replicate,
        Nat.min_eq_left (Nat.le_add_left _ _), List.replicate_succ, CString.bytes,
        List.append_assoc, List.singleton_append]
    have hread := Cells.take_read buffer 0 _ _ (Nat.succ_le_succ (Nat.le_of_lt hlt))
    rw [h, hzeros, List.append_assoc, Nat.succ_eq_add_one, ← message.length_bytes,
      List.take_left] at hread
    rw [← message.length_bytes]
    exact hread.symm
  · -- as much of it as there is room for
    have hsize := CString.size_take_of_le hle
    refine ⟨message.take n, List.take_prefix _ _, by rw [hsize]; exact Nat.lt_succ_self n, ?_,
      fun hfits => CString.take_of_size_le (Nat.lt_succ_iff.mp hfits)⟩
    rw [hsize, h, List.take_append_of_le_length hle]
    rfl

/-- A message in a buffer begins every message that it begins. -/
theorem HoldsMessage.of_prefix {n : Nat} {part message : CString}
    (h : HoldsMessage buffer n part) (hstart : part.chars <+: message.chars)
    (hfits : message.size < n → part = message) : HoldsMessage buffer n message := by
  obtain ⟨text, htext, hsize, hread, hwhole⟩ := h
  refine ⟨text, htext.trans hstart, hsize, hread, fun hlt => ?_⟩
  cases hfits hlt
  exact hwhole hlt

/-- The C string in a buffer is found by a scan. -/
theorem HoldsMessage.scan_eq {n : Nat} {message : CString} (h : HoldsMessage buffer n message)
    (hfits : message.size < n) : CString.scan (buffer.read 0 n) = message := by
  obtain ⟨text, -, hsize, hread, hwhole⟩ := h
  cases hwhole hfits
  have htake := Cells.take_read buffer 0 n (message.size + 1) hsize
  rw [← List.take_append_drop (message.size + 1) (buffer.read 0 n), htake, hread]
  exact message.scan_bytes_append _

/-! ## The condition -/

theorem errorFill_of_none (h : handedMessage s = none) : ErrorFill s capacity buffer := by
  have heq := wclap_get_error_of_none h capacity
  refine ⟨?_, ?_, ?_⟩
  · rw [heq]
    exact fun w hw => absurd hw List.not_mem_nil
  · rw [heq]
    exact fun hresult => Bool.noConfusion hresult
  · rw [heq]
    exact fun _ => rfl

/-- What a buffer with a place holds after the call. -/
theorem holdsMessage_of_handed {message : CString} (h : handedMessage s = some message)
    (hpos : 0 < capacity) : HoldsMessage
      (writeAll buffer (wclap_get_error s capacity).writes) capacity.toNat message := by
  obtain ⟨t, rfl, heq⟩ := wclap_get_error_of_some h capacity
  rw [fillBuffer_of_pos hpos] at heq
  obtain ⟨n, hn⟩ : ∃ n, capacity.toNat = n + 1 :=
    Nat.exists_eq_add_one.mpr (UInt32.lt_iff_toNat_lt.mp hpos)
  rw [hn, Nat.add_sub_cancel] at heq
  rw [heq, hn]
  refine holdsMessage_of_read ?_
  have hread := read_fill buffer (strncpy t.errorMessage.chars n) 0
  rw [length_strncpy] at hread
  exact hread

theorem errorFill_of_pos {message handed : CString} (h : recordedMessage s = some message)
    (hhanded : handedMessage s = some handed) (hstart : handed.chars <+: message.chars)
    (hfits : message.size < capacity.toNat → handed = message) (hpos : 0 < capacity) :
    ErrorFill s capacity buffer := by
  have hholds : HoldsMessage
      (writeAll buffer (wclap_get_error s capacity).writes) capacity.toNat handed :=
    holdsMessage_of_handed hhanded hpos
  obtain ⟨t, -, heq⟩ := wclap_get_error_of_some hhanded capacity
  refine ⟨fun w hw => ?_, fun _ _ => ⟨_, h, hholds.of_prefix hstart hfits⟩, fun hresult => ?_⟩
  · -- the message, and the terminator behind it
    have hcapacity := UInt32.lt_iff_toNat_lt.mp hpos
    rw [UInt32.toNat_zero] at hcapacity
    rw [heq, fillBuffer_of_pos hpos] at hw
    rcases List.mem_pair.mp hw with rfl | rfl
    · simp only [length_strncpy]
      omega
    · simp only [List.length_singleton]
      omega
  · rw [heq] at hresult
    exact Bool.noConfusion hresult

/-- A buffer without a place gets the terminator all the same. -/
theorem pos_of_errorFill {message : CString} (h : handedMessage s = some message)
    (hfill : ErrorFill s capacity buffer) : 0 < capacity := by
  obtain ⟨t, -, heq⟩ := wclap_get_error_of_some h capacity
  have hlast : (capacity.toUInt64 - 1).toNat + 1 ≤ capacity.toNat := by
    refine hfill.inBounds ⟨(capacity.toUInt64 - 1).toNat, [0]⟩ ?_
    rw [heq]
    exact List.mem_append_right _ (List.mem_singleton_self _)
  exact UInt32.lt_iff_toNat_lt.mpr (Nat.lt_of_lt_of_le (Nat.succ_pos _) hlast)

/-- The buffer cannot hold a message and the start of it at once. -/
theorem not_errorFill_of_cut {message : CString} (h : recordedMessage s = some message)
    (hhanded : handedMessage s = some (message.take maxWtMessage))
    (hlong : maxWtMessage < message.size) (hroom : message.size < capacity.toNat) :
    ¬ ErrorFill s capacity buffer := by
  intro hfill
  have hpos := pos_of_errorFill hhanded hfill
  have hcut : HoldsMessage
      (writeAll buffer (wclap_get_error s capacity).writes) capacity.toNat
      (message.take maxWtMessage) := holdsMessage_of_handed hhanded hpos
  have hsize := CString.size_take_of_le (Nat.le_of_lt hlong)
  obtain ⟨t, -, heq⟩ := wclap_get_error_of_some hhanded capacity
  obtain ⟨recorded, hrecorded, hwhole⟩ := hfill.filled (by rw [heq]) hpos
  cases h.symm.trans hrecorded
  have hsame := (hcut.scan_eq (by omega)).symm.trans (hwhole.scan_eq hroom)
  rw [hsame] at hsize
  omega

/-- `wclap_get_error` is in order if and only if there is no error to tell of, or the buffer
    has a place and the message is not cut short on its way to it. -/
theorem errorFill_iff (s : ErrorState) (capacity : UInt32) (buffer : Cells UInt8) :
    ErrorFill s capacity buffer ↔
      (s.hasError = false ∧ s.constantErrorMessage = none ∧ s.wtError = none) ∨
        (0 < capacity ∧ ¬ CutShort s capacity) := by
  have hnone : recordedMessage s = none ↔
      s.hasError = false ∧ s.constantErrorMessage = none ∧ s.wtError = none := by
    unfold recordedMessage
    cases s.hasError <;> cases s.constantErrorMessage <;> simp
  rw [← hnone]
  cases h : recordedMessage s with
  | none => exact ⟨fun _ => .inl rfl, fun _ => errorFill_of_none (handedMessage_eq_none_iff.mpr h)⟩
  | some message =>
    rw [or_iff_right (Option.some_ne_none _)]
    rcases handed_of_recorded h with hhanded | ⟨hhanded, hm, hg, hwt, hlong⟩
    · constructor
      · refine fun hfill => ⟨pos_of_errorFill hhanded hfill, ?_⟩
        rintro ⟨hm, hg, other, hwt, hlong, -⟩
        -- the message that is handed over would be the one that is cut
        have hother : handedMessage s = some (other.take maxWtMessage) := by
          rw [handedMessage, hm, ErrorState.groupError, hg, hwt]
          rfl
        have hrecorded : recordedMessage s = some other := by
          rw [recordedMessage, hm, hg, hwt]
          rfl
        cases h.symm.trans hrecorded
        have hsize := CString.size_take_of_le (Nat.le_of_lt hlong)
        rw [← Option.some.inj (hhanded.symm.trans hother)] at hsize
        omega
      · rintro ⟨hpos, -⟩
        exact errorFill_of_pos h hhanded List.prefix_rfl (fun _ => rfl) hpos
    · constructor
      · refine fun hfill => ⟨pos_of_errorFill hhanded hfill, ?_⟩
        rintro ⟨-, -, other, hother, -, hroom⟩
        cases hwt.symm.trans hother
        exact not_errorFill_of_cut h hhanded hlong hroom hfill
      · rintro ⟨hpos, hnot⟩
        refine errorFill_of_pos h hhanded (List.take_prefix _ _) (fun hroom => ?_) hpos
        exact absurd ⟨hm, hg, message, hwt, hlong, hroom⟩ hnot

/-- A host that asks whether there is an error without a buffer for it. -/
theorem emptyBuffer_written :
    ¬ ErrorFill ⟨true, ⟨[69], by decide⟩, none, none⟩ 0 fun _ => 0 := by
  intro h
  exact absurd (h.inBounds ⟨18446744073709551615, [0]⟩ (List.mem_singleton_self _)) (by decide)

end WclapBridge.Spec
