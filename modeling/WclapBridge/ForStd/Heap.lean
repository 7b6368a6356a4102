import WclapBridge.ForStd.Cells

/-!
# Heaps of allocated blocks

A heap is a flat memory with the list of blocks handed out so far. An operation
*grows* the heap when it only adds blocks, and outside a given set of addresses
leaves the allocated cells alone. A property of the memory is *settled* outside
a set of addresses when it follows from the allocated cells outside that set
alone, so it survives every operation that only writes inside the set.

## Key results

- `Settled.grows`: the frame rule
- `Settled.write`: a block just written is settled
- `Block.apart_iff`: disjointness of blocks is decidable
- `Grows.trans`: growing twice, when the second step only writes to new blocks
- `Settled.more`: the frame rule for steps that write to new blocks only
- `Holds.grows`: the frame rule for a block with known cells
-/

/-- A block of addresses. -/
structure Block where
  start : Nat
  size : Nat

/-- The addresses of a block. -/
def Block.addresses (b : Block) : Nat → Prop := span b.start b.size

/-- Two blocks have no address in common. -/
def Block.Apart (b c : Block) : Prop := ∀ x, b.addresses x → ¬ c.addresses x

/-- The blocks of a list are pairwise disjoint. -/
def Apart (blocks : List Block) : Prop := blocks.Pairwise Block.Apart

/-- `x` is an address of one of the blocks. -/
def Allocated (blocks : List Block) (x : Nat) : Prop := ∃ b ∈ blocks, b.addresses x

/-- A flat memory and the blocks handed out so far. -/
structure Heap (α : Type) where
  mem : Cells α
  blocks : List Block

/-- Blocks are apart if one ends before the other starts, or one is empty. -/
theorem Block.apart_iff (b c : Block) : Block.Apart b c ↔
    b.start + b.size ≤ c.start ∨ c.start + c.size ≤ b.start ∨ b.size = 0 ∨ c.size = 0 := by
  constructor
  · intro h
    -- if they overlap, the later one starts in both
    have hfirst := h (max b.start c.start)
    simp only [Block.addresses, span] at hfirst
    omega
  · intro h x hb hc
    simp only [Block.addresses, span] at hb hc
    omega

instance (b c : Block) : Decidable (Block.Apart b c) :=
  decidable_of_iff _ (Block.apart_iff b c).symm

instance (blocks : List Block) : Decidable (Apart blocks) :=
  inferInstanceAs (Decidable (blocks.Pairwise Block.Apart))

theorem Allocated.mono {blocks blocks' : List Block} {x : Nat} (h : Allocated blocks x)
    (hpre : blocks <+: blocks') : Allocated blocks' x := by
  obtain ⟨b, hb, hx⟩ := h
  exact ⟨b, hpre.subset hb, hx⟩

theorem Apart.of_prefix {blocks blocks' : List Block} (h : Apart blocks')
    (hpre : blocks <+: blocks') : Apart blocks := List.Pairwise.sublist hpre.sublist h

/-- The addresses of a block added at the end were not allocated before. -/
theorem Apart.not_allocated {blocks rest : List Block} {b : Block}
    (h : Apart (blocks ++ b :: rest)) {x : Nat} (hx : b.addresses x) : ¬ Allocated blocks x := by
  rintro ⟨c, hc, hcx⟩
  have hcross := (List.pairwise_append.mp h).2.2 c hc b List.mem_cons_self
  exact hcross x hcx hx

namespace Heap

variable {α : Type}

/-- Add a block. -/
def alloc (h : Heap α) (b : Block) : Heap α := { h with blocks := h.blocks ++ [b] }

/-- Write to the memory. -/
def write (h : Heap α) (a : Nat) (xs : List α) : Heap α := { h with mem := h.mem.write a xs }

end Heap

variable {α : Type}

/-- `h'` has the blocks of `h` and possibly more, and differs from `h` on the
    allocated cells of `h` only in the set `W`. -/
structure Grows (h h' : Heap α) (W : Nat → Prop) : Prop where
  blocks : h.blocks <+: h'.blocks
  mem : ∀ x, Allocated h.blocks x → ¬ W x → h'.mem x = h.mem x

/-- No address. -/
def nowhere : Nat → Prop := fun _ => False

theorem of_nowhere {X : Nat → Prop} (x : Nat) (h : nowhere x) : X x :=
  h.elim

namespace Grows

theorem refl (h : Heap α) (W : Nat → Prop) : Grows h h W :=
  ⟨List.prefix_rfl, fun _ _ _ => rfl⟩

theorem mono {h h' : Heap α} {W W' : Nat → Prop} (hg : Grows h h' W) (hW : ∀ x, W x → W' x) :
    Grows h h' W' :=
  ⟨hg.blocks, fun x hx hnot => hg.mem x hx fun hw => hnot (hW x hw)⟩

/-- Growing twice: the second step may also write to the blocks which the first
    one added. -/
theorem trans {h h' h'' : Heap α} {W W' : Nat → Prop} (hg : Grows h h' W) (hg' : Grows h' h'' W')
    (hW : ∀ x, Allocated h.blocks x → W' x → W x) : Grows h h'' W where
  blocks := hg.blocks.trans hg'.blocks
  mem x hx hnot := by
    rw [hg'.mem x (hx.mono hg.blocks) fun hw => hnot (hW x hx hw), hg.mem x hx hnot]

theorem alloc (h : Heap α) (b : Block) (W : Nat → Prop) : Grows h (h.alloc b) W :=
  ⟨List.prefix_append _ _, fun _ _ _ => rfl⟩

theorem write (h : Heap α) (a : Nat) (xs : List α) :
    Grows h (h.write a xs) (span a xs.length) :=
  ⟨List.prefix_rfl, fun _ _ hnot => Cells.write_of_outside _ _ _ hnot⟩

end Grows

/-- `Q` follows from the allocated cells of `h` outside the set `X`. -/
def Settled (h : Heap α) (X : Nat → Prop) (Q : Cells α → Prop) : Prop :=
  ∀ m : Cells α, (∀ x, Allocated h.blocks x → ¬ X x → m x = h.mem x) → Q m

namespace Settled

variable {h h' : Heap α} {X X' W : Nat → Prop} {Q R : Cells α → Prop}

/-- A settled property holds. -/
theorem holds (hs : Settled h X Q) : Q h.mem := hs h.mem fun _ _ _ => rfl

/-- The frame rule: a settled property survives every operation that writes
    only where it does not look. -/
theorem grows (hs : Settled h X Q) (hg : Grows h h' W) (hW : ∀ x, W x → X x)
    (hX : ∀ x, X' x → X x) : Settled h' X' Q := by
  intro m hm
  apply hs
  intro x hx hnot
  rw [hm x (hx.mono hg.blocks) fun hx' => hnot (hX x hx'), hg.mem x hx fun hw => hnot (hW x hw)]

/-- Steps that write to new blocks only do not disturb it. -/
theorem more (hs : Settled h X Q) (hg : Grows h h' nowhere) : Settled h' X Q :=
  hs.grows hg of_nowhere fun _ hx => hx

theorem imp (hs : Settled h X Q) (hQ : ∀ m, Q m → R m) : Settled h X R :=
  fun m hm => hQ m (hs m hm)

theorem and (hs : Settled h X Q) (ht : Settled h X R) : Settled h X fun m => Q m ∧ R m :=
  fun m hm => ⟨hs m hm, ht m hm⟩

/-- A block just written is settled, if it is allocated and outside `X`. -/
theorem write {a : Nat} {xs : List α} (halloc : ∀ x, span a xs.length x → Allocated h.blocks x)
    (hX : ∀ x, span a xs.length x → ¬ X x) :
    Settled (h.write a xs) X fun m => m.read a xs.length = xs := by
  intro m hm
  -- `m` agrees on the block with the memory after the write
  rw [← Cells.read_write_self h.mem a xs]
  conv => lhs; rw [Cells.read_write_self]
  exact Cells.read_congr fun x hx => hm x (halloc x hx) (hX x hx)

end Settled

/-- The heap has `xs` at `a`, in allocated cells. -/
structure Holds (h : Heap α) (a : Nat) (xs : List α) : Prop where
  allocated : ∀ x, span a xs.length x → Allocated h.blocks x
  read : h.mem.read a xs.length = xs

namespace Holds

variable {h h' : Heap α} {a : Nat} {xs : List α}

/-- The cells stay, whatever is written elsewhere. -/
theorem grows {W : Nat → Prop} (hx : Holds h a xs) (hg : Grows h h' W)
    (hW : ∀ x, span a xs.length x → ¬ W x) : Holds h' a xs where
  allocated x hspan := (hx.allocated x hspan).mono hg.blocks
  read := by
    rw [← hx.read, Cells.length_read]
    exact Cells.read_congr fun x hspan => hg.mem x (hx.allocated x hspan) (hW x hspan)

/-- Steps that write to new blocks only do not disturb them. -/
theorem more (hx : Holds h a xs) (hg : Grows h h' nowhere) : Holds h' a xs :=
  hx.grows hg fun _ _ => id

end Holds
