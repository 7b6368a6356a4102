import Mathlib.Data.List.Basic
import Mathlib.Data.List.TakeWhile

/-!
# C strings

A C string is what is found at a `const char *`: the characters up to the
terminator. The pointer may be advanced as far as to the terminator.

## Key results

- `CString.skip_append`: to skip what was put in front leaves the rest
- `CString.skip_append_eq_iff`: nothing else leaves it
- `CString.take_eq_iff`: only a short string is what is left of a string that is cut
- `CString.scan_bytes_append`: a scan for the terminator finds the string
-/

/-- The characters before the terminator. -/
structure CString where
  chars : List UInt8
  noNul : 0 ∉ chars
  deriving DecidableEq

namespace CString

@[ext] theorem ext {s t : CString} (h : s.chars = t.chars) : s = t := by
  cases s
  cases t
  cases h
  rfl

/-- `""`. -/
def empty : CString := ⟨[], List.not_mem_nil⟩

/-- `strlen`. -/
def size (s : CString) : Nat := s.chars.length

/-- Concatenation of the `std::string`s. -/
def append (s t : CString) : CString :=
  ⟨s.chars ++ t.chars, fun h => (List.mem_append.mp h).elim s.noNul t.noNul⟩

instance : Append CString := ⟨append⟩

/-- The first `n` characters. -/
def take (s : CString) (n : Nat) : CString :=
  ⟨s.chars.take n, fun h => s.noNul (List.mem_of_mem_take h)⟩

/-- The string at a pointer advanced by `n`, or `none` if that is behind the
    terminator. -/
def skip (s : CString) (n : Nat) : Option CString :=
  if n ≤ s.size then some ⟨s.chars.drop n, fun h => s.noNul (List.mem_of_mem_drop h)⟩ else none

/-- The string as a text, with one character for each byte. -/
def toText (s : CString) : String :=
  String.ofList (s.chars.map Char.ofUInt8)

@[simp] theorem size_append (s t : CString) : (s ++ t).size = s.size + t.size :=
  List.length_append

@[simp] theorem append_empty (s : CString) : s ++ empty = s := ext (List.append_nil s.chars)

@[simp] theorem empty_append (s : CString) : empty ++ s = s := rfl

/-- A string that is not too long is not cut. -/
theorem take_of_size_le {s : CString} {n : Nat} (h : s.size ≤ n) : s.take n = s :=
  ext (List.take_of_length_le h)

theorem size_take_of_le {s : CString} {n : Nat} (h : n ≤ s.size) : (s.take n).size = n :=
  List.length_take_of_le h

/-- A string that is cut is not a shorter one. -/
theorem take_eq_iff {s t : CString} {n : Nat} (ht : t.size < n) : s.take n = t ↔ s = t := by
  rcases Nat.lt_or_ge s.size n with hs | hs
  · rw [take_of_size_le (Nat.le_of_lt hs)]
  · constructor
    · intro h
      have hsize := size_take_of_le hs
      rw [h] at hsize
      omega
    · rintro rfl
      exact absurd ht (Nat.not_lt.mpr hs)

theorem skip_append (s t : CString) : (s ++ t).skip s.size = some t := by
  rw [skip, if_pos (by rw [size_append]; omega)]
  exact congrArg some (ext List.drop_left)

/-- The characters that are skipped are missing afterwards. -/
theorem size_of_skip {s t : CString} {n : Nat} (h : s.skip n = some t) : n + t.size = s.size := by
  rw [skip] at h
  split at h
  next hle =>
    cases h
    simp only [size, List.length_drop]
    exact Nat.add_sub_cancel' hle
  next => exact nomatch h

/-- Only what is as long as what was put in front can be skipped to leave the rest. -/
theorem skip_append_eq_iff {s t : CString} {n : Nat} : (s ++ t).skip n = some t ↔ n = s.size := by
  constructor
  · intro h
    have hsize := size_of_skip h
    rw [size_append] at hsize
    omega
  · rintro rfl
    exact skip_append s t

/-! ## Object representation -/

/-- The characters with their terminator. -/
def bytes (s : CString) : List UInt8 :=
  s.chars ++ [0]

/-- What is found by a scan for the terminator that may run into the end. -/
def scan (bytes : List UInt8) : CString where
  chars := bytes.takeWhile (· ≠ 0)
  noNul h := by simpa using List.mem_takeWhile_imp h

@[simp] theorem length_bytes (s : CString) : s.bytes.length = s.size + 1 := by
  rw [bytes, List.length_append, List.length_singleton, size]

/-- A scan that does not reach the terminator. -/
theorem scan_chars (s : CString) : scan s.chars = s := by
  apply ext
  show s.chars.takeWhile (· ≠ 0) = s.chars
  rw [List.takeWhile_eq_self_iff]
  intro c hc
  have hne : c ≠ 0 := fun heq => s.noNul (heq ▸ hc)
  simpa using hne

/-- What is behind the terminator does not matter. -/
theorem scan_bytes_append (s : CString) (rest : List UInt8) : scan (s.bytes ++ rest) = s := by
  apply ext
  have hchars : s.chars.takeWhile (· ≠ 0) = s.chars := congrArg chars s.scan_chars
  show (s.chars ++ [0] ++ rest).takeWhile (· ≠ 0) = s.chars
  rw [List.append_assoc, List.takeWhile_append, hchars, if_pos rfl]
  simp

end CString
