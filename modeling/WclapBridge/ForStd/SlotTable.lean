import Mathlib.Data.List.Nodup
import WclapBridge.ForStd.List

/-!
# Tables of slots

A table has its entries in slots, the first of which is never used. A new entry
goes to the first slot that is free, or else to a new one at the end. Each entry
has an owner, who knows its slot and takes it out again.

## Key results

- `Owned.put`, `Owned.release`: what keeps the slots and the owners in step
- `Owned.slot_unique`: an entry is in the slot of its owner, and in no other
- `Owned.firstFree_le`: the slot of a new entry is not greater than the number of
  the entries by then
-/

namespace SlotTable

variable {α : Type}

/-- The first free slot, or the next one. -/
def firstFree (slots : List (Option α)) : Nat :=
  1 + (slots.drop 1).findIdx Option.isNone

/-- The table with a new entry. -/
def put (slots : List (Option α)) (a : α) : List (Option α) :=
  (if firstFree slots = slots.length then slots ++ [none] else slots).set (firstFree slots) (some a)

theorem firstFree_pos (slots : List (Option α)) : 0 < firstFree slots :=
  Nat.lt_add_right _ Nat.one_pos

theorem firstFree_le_length {slots : List (Option α)} (h : slots ≠ []) :
    firstFree slots ≤ slots.length := by
  have hle : (slots.drop 1).findIdx Option.isNone ≤ (slots.drop 1).length :=
    List.findIdx_le_length
  have hpos := List.length_pos_iff.mpr h
  rw [List.length_drop] at hle
  unfold firstFree
  omega

/-- There is no entry in the slot. -/
theorem getElem?_firstFree (slots : List (Option α)) (a : α) :
    slots[firstFree slots]? ≠ some (some a) := by
  intro h
  rw [firstFree, ← List.getElem?_drop, List.getElem?_eq_some_iff] at h
  obtain ⟨hlt, ha⟩ := h
  have hnone := List.findIdx_getElem (w := hlt)
  rw [ha] at hnone
  exact Bool.noConfusion hnone

theorem getElem?_put_self {slots : List (Option α)} (h : slots ≠ []) (a : α) :
    (put slots a)[firstFree slots]? = some (some a) := by
  have hle := firstFree_le_length h
  unfold put
  split
  next heq => simp [heq]
  next hne => exact List.getElem?_set_self (Nat.lt_of_le_of_ne hle hne)

/-- The other slots keep their entries. -/
theorem getElem?_put_of_ne {slots : List (Option α)} {slot : Nat} (hne : slot ≠ firstFree slots)
    (a b : α) : (put slots a)[slot]? = some (some b) ↔ slots[slot]? = some (some b) := by
  unfold put
  rw [List.getElem?_set_ne hne.symm]
  split
  next heq =>
    rw [List.getElem?_append]
    split
    next => rfl
    next hge =>
      have hgt : slots.length < slot := by omega
      simp [List.getElem?_eq_none (Nat.le_of_lt hgt), show slot - slots.length ≠ 0 by omega]
  next => rfl

/-! ## Counting -/

/-- The number of entries. -/
def occupied (slots : List (Option α)) : Nat :=
  slots.countP Option.isSome

private theorem findIdx_le_occupied (slots : List (Option α)) :
    slots.findIdx Option.isNone ≤ occupied slots := by
  induction slots with
  | nil => exact Nat.le_refl 0
  | cons a slots ih =>
    cases a with
    | none => simp [List.findIdx_cons]
    | some a =>
      simp only [occupied, List.findIdx_cons, List.countP_cons, Option.isNone_some, cond_false,
        Option.isSome_some, if_true] at ih ⊢
      omega

/-- All slots before the first free one are in use. -/
theorem firstFree_le_occupied (slots : List (Option α)) :
    firstFree slots ≤ occupied slots + 1 := by
  have hle := findIdx_le_occupied (slots.drop 1)
  have hdrop := (List.drop_sublist 1 slots).countP_le (p := Option.isSome)
  unfold firstFree
  unfold occupied at hle ⊢
  omega

theorem occupied_put {slots : List (Option α)} (h : slots ≠ []) (a : α) :
    occupied (put slots a) = occupied slots + 1 := by
  have hle := firstFree_le_length h
  have hfree := getElem?_firstFree slots
  unfold put occupied
  split
  next heq => simp [heq]
  next hne =>
    have hlt := Nat.lt_of_le_of_ne hle hne
    have hnone : slots[firstFree slots] = none := by
      cases hs : slots[firstFree slots] with
      | none => rfl
      | some b => exact absurd (List.getElem?_eq_some_iff.mpr ⟨hlt, hs⟩) (hfree b)
    rw [List.countP_set hlt]
    simp [hnone]

theorem occupied_set_none {slots : List (Option α)} {slot : Nat} {a : α}
    (h : slots[slot]? = some (some a)) :
    occupied (slots.set slot none) + 1 = occupied slots := by
  have hset := List.countP_set_add (p := Option.isSome) h none
  simpa [occupied] using hset

/-! ## Owners -/

/-- The owner of an entry, who is live until it has been taken out. -/
structure Owner (α : Type) where
  slot : Nat
  entry : α
  live : Bool

/-- The entries are those of the live owners, in their slots. -/
structure Owned (slots : List (Option α)) (owners : List (Owner α)) : Prop where
  reserved : slots[0]? = some none
  distinct : (owners.map Owner.entry).Nodup
  entry_iff : ∀ slot a, slots[slot]? = some (some a) ↔
    ∃ (k : Nat) (owner : Owner α), owners[k]? = some owner ∧ owner.live = true ∧
      owner.slot = slot ∧ owner.entry = a
  count : occupied slots = owners.countP Owner.live

namespace Owned

variable {slots : List (Option α)} {owners : List (Owner α)}

theorem nil : Owned (α := α) [none] [] where
  reserved := rfl
  distinct := List.nodup_nil
  entry_iff slot a := by
    rcases slot with _ | slot <;> simp
  count := rfl

theorem ne_nil (h : Owned slots owners) : slots ≠ [] := by
  rintro rfl
  exact nomatch h.reserved

/-- Owners of the same entry are the same. -/
theorem owner_unique (h : Owned slots owners) {j k : Nat} {owner owner' : Owner α}
    (hj : owners[j]? = some owner) (hk : owners[k]? = some owner')
    (hentry : owner.entry = owner'.entry) : j = k := by
  obtain ⟨hjlt, rfl⟩ := List.getElem?_eq_some_iff.mp hj
  obtain ⟨hklt, rfl⟩ := List.getElem?_eq_some_iff.mp hk
  have hj : j < (owners.map Owner.entry).length := by simpa using hjlt
  have hk : k < (owners.map Owner.entry).length := by simpa using hklt
  have hsame : (owners.map Owner.entry)[j] = (owners.map Owner.entry)[k] := by
    rw [List.getElem_map, List.getElem_map]
    exact hentry
  exact h.distinct.getElem_inj_iff.mp hsame

/-- An entry is in the slot of its owner. -/
theorem entry_of_live (h : Owned slots owners) {k : Nat} {owner : Owner α}
    (hk : owners[k]? = some owner) (hlive : owner.live = true) :
    slots[owner.slot]? = some (some owner.entry) :=
  (h.entry_iff owner.slot owner.entry).mpr ⟨k, owner, hk, hlive, rfl, rfl⟩

/-- An entry is in no other slot than that of its owner. -/
theorem slot_unique (h : Owned slots owners) {k slot : Nat} {owner : Owner α}
    (hk : owners[k]? = some owner) (hslot : slots[slot]? = some (some owner.entry)) :
    owner.live = true ∧ slot = owner.slot := by
  obtain ⟨j, owner', hj, hlive, rfl, hentry⟩ := (h.entry_iff _ _).mp hslot
  cases h.owner_unique hj hk hentry
  cases hj.symm.trans hk
  exact ⟨hlive, rfl⟩

theorem slot_ne_zero (h : Owned slots owners) {k : Nat} {owner : Owner α}
    (hk : owners[k]? = some owner) (hlive : owner.live = true) : owner.slot ≠ 0 := by
  intro hzero
  have hentry := h.entry_of_live hk hlive
  rw [hzero, h.reserved] at hentry
  exact nomatch hentry

/-- Without entries, no owner is live. -/
theorem not_live (h : Owned slots owners) (hempty : slots.all Option.isNone = true) :
    ∀ owner ∈ owners, owner.live = false := by
  intro owner howner
  obtain ⟨k, hk⟩ := List.mem_iff_getElem?.mp howner
  refine Bool.eq_false_iff.mpr fun hlive => ?_
  have hmem := List.mem_of_getElem? (h.entry_of_live hk hlive)
  exact Bool.noConfusion (List.all_eq_true.mp hempty _ hmem)

/-- The slot of a new entry. -/
theorem firstFree_le (h : Owned slots owners) :
    firstFree slots ≤ owners.countP Owner.live + 1 :=
  h.count ▸ firstFree_le_occupied slots

/-- A new entry gets an owner. -/
theorem put (h : Owned slots owners) {a : α} (hfresh : a ∉ owners.map Owner.entry) :
    Owned (SlotTable.put slots a) (owners ++ [⟨firstFree slots, a, true⟩]) where
  reserved := by
    unfold SlotTable.put
    rw [List.getElem?_set_ne (Nat.ne_of_gt (firstFree_pos slots))]
    split
    next => rw [List.getElem?_append_left (List.length_pos_iff.mpr h.ne_nil), h.reserved]
    next => exact h.reserved
  distinct := by
    rw [List.map_append]
    refine List.nodup_append.mpr ⟨h.distinct, List.nodup_singleton _, fun b hb c hc => ?_⟩
    cases List.mem_singleton.mp hc
    rintro rfl
    exact hfresh hb
  entry_iff slot b := by
    by_cases hslot : slot = firstFree slots
    · subst hslot
      -- the entry there is the new one, and so is its owner
      rw [getElem?_put_self h.ne_nil]
      constructor
      · rintro ⟨⟩
        exact ⟨owners.length, _, List.getElem?_concat_length, rfl, rfl, rfl⟩
      · rintro ⟨k, owner, hk, hlive, heq, rfl⟩
        rw [List.getElem?_append] at hk
        split at hk
        next =>
          -- no owner so far has that slot
          exact absurd (heq ▸ h.entry_of_live hk hlive) (getElem?_firstFree slots owner.entry)
        next =>
          rw [List.getElem?_singleton] at hk
          split at hk
          next => cases hk; rfl
          next => cases hk
    · rw [getElem?_put_of_ne hslot, h.entry_iff]
      constructor
      · rintro ⟨k, owner, hk, hrest⟩
        exact ⟨k, owner, List.getElem?_append_left (List.getElem?_eq_some_iff.mp hk).1 ▸ hk, hrest⟩
      · rintro ⟨k, owner, hk, hlive, heq, hentry⟩
        rw [List.getElem?_append] at hk
        split at hk
        next => exact ⟨k, owner, hk, hlive, heq, hentry⟩
        next =>
          rw [List.getElem?_singleton] at hk
          split at hk
          next => cases hk; exact absurd heq.symm hslot
          next => cases hk
  count := by
    rw [occupied_put h.ne_nil, h.count, List.countP_append]
    rfl

/-- An owner takes the entry out. -/
theorem release (h : Owned slots owners) {k : Nat} {owner : Owner α}
    (hk : owners[k]? = some owner) (hlive : owner.live = true) :
    Owned (slots.set owner.slot none) (owners.set k { owner with live := false }) where
  reserved := by
    rw [List.getElem?_set_ne (h.slot_ne_zero hk hlive)]
    exact h.reserved
  distinct := by
    have hentries : (owners.set k { owner with live := false }).map Owner.entry =
        owners.map Owner.entry := List.map_set_of_eq hk rfl
    rw [hentries]
    exact h.distinct
  entry_iff slot b := by
    constructor
    · intro hslot
      rw [List.getElem?_set] at hslot
      split at hslot
      next => split at hslot <;> cases hslot
      next hne =>
        obtain ⟨j, owner', hj, hlive', rfl, rfl⟩ := (h.entry_iff _ _).mp hslot
        refine ⟨j, owner', ?_, hlive', rfl, rfl⟩
        rw [List.getElem?_set_ne]
        · exact hj
        · rintro rfl
          cases hk.symm.trans hj
          exact hne rfl
    · rintro ⟨j, owner', hj, hlive', rfl, rfl⟩
      rw [List.getElem?_set] at hj
      split at hj
      next =>
        split at hj
        next => cases hj; exact Bool.noConfusion hlive'
        next => cases hj
      next hne =>
        rw [List.getElem?_set_ne]
        · exact h.entry_of_live hj hlive'
        · -- two owners of one slot would own the same entry
          intro hslot
          have hentry := h.entry_of_live hj hlive'
          rw [← hslot, h.entry_of_live hk hlive] at hentry
          exact hne (h.owner_unique hk hj (Option.some.inj (Option.some.inj hentry)))
  count := by
    have hentry := occupied_set_none (h.entry_of_live hk hlive)
    have hset := List.countP_set_add (p := Owner.live) hk { owner with live := false }
    simp only [hlive, if_true, Bool.false_eq_true, if_false] at hset
    have hcount := h.count
    omega

end Owned

end SlotTable
