import Mathlib.Algebra.Group.Nat.Defs
import WclapBridge.ForStd.Cells

/-!
# Fixed-width byte codecs

A `Codec α` stores a value of type `α` in a fixed number of bytes and reads it
back. This file gives the little-endian machine integers, the combinators that
lay out a C struct field by field (pairs, padding and a change of
representation), and arrays of encoded values in a flat memory.

## Key results

- `ofLeBytes_leBytes`: little-endian round trip, modulo the width
- `Codec.decode_encode`: every codec reads back what it wrote (a field)
- `Codec.decodeArray_of_read`: an encoded array reads back element by element
-/

/-- The low `n` bytes of a number, least significant first. -/
def leBytes : Nat → Nat → List UInt8
  | 0, _ => []
  | n + 1, v => UInt8.ofNat v :: leBytes n (v / 256)

/-- The number with the given bytes, least significant first. -/
def ofLeBytes : List UInt8 → Nat
  | [] => 0
  | b :: bs => b.toNat + 256 * ofLeBytes bs

@[simp] theorem length_leBytes (n v : Nat) : (leBytes n v).length = n := by
  induction n generalizing v with
  | zero => rfl
  | succ n ih => simp only [leBytes, List.length_cons, ih]

/-- Little-endian round trip: the bytes of `v` spell `v` modulo the width. -/
theorem ofLeBytes_leBytes (n v : Nat) : ofLeBytes (leBytes n v) = v % 256 ^ n := by
  induction n generalizing v with
  | zero => simp [leBytes, ofLeBytes, Nat.mod_one]
  | succ n ih =>
    -- the lowest byte and the rest are the two digits of `v` to the base 256
    have hb : (UInt8.ofNat v).toNat = v % 256 := UInt8.toNat_ofNat'
    rw [leBytes, ofLeBytes, ih, hb, Nat.pow_succ', Nat.mod_mul]

/-- A type whose values are stored in a fixed number of bytes. -/
structure Codec (α : Type) where
  width : Nat
  encode : α → List UInt8
  decode : List UInt8 → α
  length_encode : ∀ a, (encode a).length = width
  decode_encode : ∀ a, decode (encode a) = a

namespace Codec

attribute [simp] length_encode decode_encode

variable {α β : Type}

/-- The codec of a `k`-byte bit vector, least significant byte first. -/
def bits (k : Nat) : Codec (BitVec (8 * k)) where
  width := k
  encode v := leBytes k v.toNat
  decode bs := BitVec.ofNat _ (ofLeBytes bs)
  length_encode v := length_leBytes k v.toNat
  decode_encode v := by
    apply BitVec.eq_of_toNat_eq
    rw [BitVec.toNat_ofNat, ofLeBytes_leBytes, Nat.pow_mul]
    simp only [Nat.reducePow, Nat.mod_mod]
    exact Nat.mod_eq_of_lt (by have := v.isLt; rwa [Nat.pow_mul] at this)

/-- Store `β` through a representation in `α`. -/
def imap (c : Codec α) (f : α → β) (g : β → α) (h : ∀ b, f (g b) = b) : Codec β where
  width := c.width
  encode b := c.encode (g b)
  decode bs := f (c.decode bs)
  length_encode b := c.length_encode (g b)
  decode_encode b := by rw [c.decode_encode, h]

/-- Two fields next to each other. -/
def prod (c : Codec α) (d : Codec β) : Codec (α × β) where
  width := c.width + d.width
  encode p := c.encode p.1 ++ d.encode p.2
  decode bs := (c.decode (bs.take c.width), d.decode (bs.drop c.width))
  length_encode p := by rw [List.length_append, c.length_encode, d.length_encode]
  decode_encode p := by
    rw [List.take_left' (c.length_encode _), List.drop_left' (c.length_encode _),
      c.decode_encode, d.decode_encode]

/-- A field followed by `k` bytes of padding. -/
def pad (c : Codec α) (k : Nat) : Codec α where
  width := c.width + k
  encode a := c.encode a ++ List.replicate k 0
  decode bs := c.decode (bs.take c.width)
  length_encode a := by rw [List.length_append, c.length_encode, List.length_replicate]
  decode_encode a := by rw [List.take_left' (c.length_encode _), c.decode_encode]

def u8 : Codec UInt8 := (bits 1).imap UInt8.ofBitVec UInt8.toBitVec fun _ => rfl
def u16 : Codec UInt16 := (bits 2).imap UInt16.ofBitVec UInt16.toBitVec fun _ => rfl
def u32 : Codec UInt32 := (bits 4).imap UInt32.ofBitVec UInt32.toBitVec fun _ => rfl
def u64 : Codec UInt64 := (bits 8).imap UInt64.ofBitVec UInt64.toBitVec fun _ => rfl
def i16 : Codec Int16 := u16.imap UInt16.toInt16 Int16.toUInt16 fun _ => rfl
def i32 : Codec Int32 := u32.imap UInt32.toInt32 Int32.toUInt32 fun _ => rfl
def i64 : Codec Int64 := u64.imap UInt64.toInt64 Int64.toUInt64 fun _ => rfl

/-- A byte that is not zero stands for `true`. -/
def bool : Codec Bool :=
  u8.imap (fun b => decide (b ≠ 0)) (fun b => if b then 1 else 0) fun b => by cases b <;> rfl

/-! ## Arrays -/

/-- The object representation of an array. -/
def encodeList (c : Codec α) (xs : List α) : List UInt8 := xs.flatMap c.encode

/-- Element `i` of the array at address `a`. -/
def decodeAt (c : Codec α) (m : Cells UInt8) (a i : Nat) : α :=
  c.decode (m.read (a + c.width * i) c.width)

/-- The first `n` elements of the array at address `a`. -/
def decodeArray (c : Codec α) (m : Cells UInt8) (a n : Nat) : List α :=
  (List.range n).map fun i => c.decodeAt m a i

/-- The elements of an array given by its object representation. -/
def decodeList (c : Codec α) (n : Nat) (bs : List UInt8) : List α :=
  (List.range n).map fun i => c.decode ((bs.drop (c.width * i)).take c.width)

@[simp] theorem length_encodeList (c : Codec α) (xs : List α) :
    (c.encodeList xs).length = c.width * xs.length := by
  induction xs with
  | nil => rfl
  | cons x xs ih =>
    rw [encodeList, List.flatMap_cons, List.length_append, c.length_encode]
    rw [encodeList] at ih
    rw [ih, List.length_cons, Nat.mul_succ, Nat.add_comm]

/-- The bytes of element `i` of an encoded array. -/
theorem take_drop_encodeList (c : Codec α) (xs : List α) (i : Nat) (h : i < xs.length) :
    ((c.encodeList xs).drop (c.width * i)).take c.width = c.encode xs[i] := by
  induction xs generalizing i with
  | nil => exact nomatch h
  | cons x xs ih =>
    rw [encodeList, List.flatMap_cons]
    cases i with
    | zero => simp [List.take_left' (c.length_encode x)]
    | succ i =>
      -- skip the encoding of `x`, which is as wide as any other
      rw [Nat.mul_succ, Nat.add_comm, ← List.drop_drop, List.drop_left' (c.length_encode x)]
      exact ih i (Nat.lt_of_succ_lt_succ h)

/-- An array of `n` elements as a field. -/
def vector (c : Codec α) (n : Nat) : Codec (Vector α n) where
  width := c.width * n
  encode v := c.encodeList v.toList
  decode bs := Vector.ofFn fun i => c.decode ((bs.drop (c.width * i)).take c.width)
  length_encode v := by rw [length_encodeList, Vector.length_toList]
  decode_encode v := by
    apply Vector.ext
    intro i hi
    rw [Vector.getElem_ofFn, take_drop_encodeList c _ i (by rwa [Vector.length_toList]),
      c.decode_encode, Vector.getElem_toList]

/-- A memory that holds an encoded array reads back element by element. -/
theorem decodeArray_of_read (c : Codec α) (m : Cells UInt8) (a : Nat) (xs : List α)
    (h : m.read a (c.width * xs.length) = c.encodeList xs) :
    c.decodeArray m a xs.length = xs := by
  apply List.ext_getElem (by simp [decodeArray])
  intro i h₁ h₂
  have hfit : c.width * i + c.width ≤ c.width * xs.length := element_le h₂
  simp only [decodeArray, List.getElem_map, List.getElem_range, decodeAt]
  rw [← Cells.take_drop_read m a _ _ _ hfit, h, take_drop_encodeList c xs i h₂, c.decode_encode]

/-- Copying an array out in one piece reads the same elements. -/
theorem decodeList_read (c : Codec α) (m : Cells UInt8) (a n : Nat) :
    c.decodeList n (m.read a (c.width * n)) = c.decodeArray m a n := by
  apply List.map_congr_left
  intro i hi
  rw [List.mem_range] at hi
  have hfit : c.width * i + c.width ≤ c.width * n := element_le hi
  rw [Cells.take_drop_read m a _ _ _ hfit, decodeAt]

end Codec
