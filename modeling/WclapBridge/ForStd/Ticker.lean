import Mathlib.Algebra.Order.Monoid.Unbundled.Pow
import Mathlib.Algebra.Order.Monoid.Defs
import Mathlib.Algebra.Group.Basic

/-!
# A counter that is incremented at intervals

Successive increments are at least `period` apart. When the first one happens,
and how late the others are, is not known. Times are the elements of an ordered
commutative monoid, so that durations are times as well.

## Key results

- `Ticker.Since.elapsed`: from a moment at which the counter was `n` until it
  exceeds `n + k`, at least `k` periods pass
- `Ticker.Within.count_le`: if no increment is more than `late` after the one before it,
  the counter is `n + k` once `k` times `late` have passed
-/

/-- A clock, a counter, and when this was incremented last. -/
structure Ticker (τ : Type) where
  now : τ
  count : Nat
  last : Option τ

namespace Ticker

variable {τ : Type}

def new (now : τ) : Ticker τ := ⟨now, 0, none⟩

section Wait

variable [LinearOrder τ]

/-- Time passes. -/
def wait (c : Ticker τ) (t : τ) : Option (Ticker τ) :=
  if c.now ≤ t then some { c with now := t } else none

theorem wait_cases {c c' : Ticker τ} {t : τ} (h : c.wait t = some c') :
    c.now ≤ t ∧ c' = { c with now := t } := by
  unfold wait at h
  split at h
  next hle => exact ⟨hle, (Option.some.inj h).symm⟩
  next => cases h

end Wait

variable [AddCommMonoid τ] [LinearOrder τ]

/-- The counter is incremented, unless it is too early for that. -/
def tick (c : Ticker τ) (period : τ) : Option (Ticker τ) :=
  match c.last with
  | none => some ⟨c.now, c.count + 1, some c.now⟩
  | some last => if last + period ≤ c.now then some ⟨c.now, c.count + 1, some c.now⟩ else none

/-- The last increment, if there was one, was a period ago. -/
theorem tick_cases {c c' : Ticker τ} {period : τ} (h : c.tick period = some c') :
    (∀ last, c.last = some last → last + period ≤ c.now) ∧
      c' = ⟨c.now, c.count + 1, some c.now⟩ := by
  unfold tick at h
  split at h
  next hnone =>
    refine ⟨fun last hlast => ?_, (Option.some.inj h).symm⟩
    cases hnone.symm.trans hlast
  next last hsome =>
    split at h
    next hle =>
      refine ⟨fun last' hlast' => ?_, (Option.some.inj h).symm⟩
      cases hsome.symm.trans hlast'
      exact hle
    next => cases h

/-- What has happened since the time `start`, when the counter was `n`: with each
    increment but the first, a period has passed. -/
structure Since (period start : τ) (n : Nat) (c : Ticker τ) : Prop where
  start_le : start ≤ c.now
  last : ∀ k : Nat, n + k < c.count →
    ∃ last, c.last = some last ∧ start + k • period ≤ last ∧ last ≤ c.now

namespace Since

variable {period start : τ} {n : Nat} {c c' : Ticker τ}

theorem now_count (period : τ) (c : Ticker τ) : Since period c.now c.count c := by
  refine ⟨le_refl c.now, fun k hk => ?_⟩
  omega

theorem wait {t : τ} (hc : Since period start n c) (h : c.wait t = some c') :
    Since period start n c' := by
  obtain ⟨hle, rfl⟩ := wait_cases h
  refine ⟨hc.start_le.trans hle, fun k hk => ?_⟩
  obtain ⟨last, hlast, hstart, hnow⟩ := hc.last k hk
  exact ⟨last, hlast, hstart, hnow.trans hle⟩

theorem tick [IsOrderedAddMonoid τ] (hc : Since period start n c)
    (h : c.tick period = some c') : Since period start n c' := by
  obtain ⟨hlast, rfl⟩ := tick_cases h
  refine ⟨hc.start_le, fun k hk => ⟨c.now, rfl, ?_, le_refl c.now⟩⟩
  -- the increment before this one has been there for all periods but one
  cases k with
  | zero =>
    rw [zero_nsmul, add_zero]
    exact hc.start_le
  | succ k =>
    have hk' : n + k < c.count := by
      dsimp only at hk
      omega
    obtain ⟨last, hsome, hstart, -⟩ := hc.last k hk'
    calc start + (k + 1) • period = start + k • period + period := by
          rw [succ_nsmul, add_assoc]
      _ ≤ last + period := by
          apply add_le_add_left hstart
      _ ≤ c.now := hlast last hsome

/-- A count beyond `n + k` takes `k` periods. -/
theorem elapsed (hc : Since period start n c) {k : Nat} (hk : n + k < c.count) :
    start + k • period ≤ c.now := by
  obtain ⟨last, -, hstart, hnow⟩ := hc.last k hk
  exact hstart.trans hnow

end Since

/-! ## Increments that are not late -/

/-- The time from which the next increment is awaited, where the first one is awaited
    from `start`. -/
def awaitedFrom (c : Ticker τ) (start : τ) : τ := c.last.getD start

omit [AddCommMonoid τ] in
theorem awaitedFrom_le_wait {c c' : Ticker τ} {start t : τ} (hc : c.awaitedFrom start ≤ c.now)
    (h : c.wait t = some c') : c'.awaitedFrom start ≤ c'.now := by
  obtain ⟨hle, rfl⟩ := wait_cases h
  exact hc.trans hle

theorem awaitedFrom_le_tick {c c' : Ticker τ} {start period : τ}
    (h : c.tick period = some c') : c'.awaitedFrom start ≤ c'.now := by
  obtain ⟨-, rfl⟩ := tick_cases h
  exact le_refl c.now

/-- What can have happened since the time `t`, when the counter was `n`, if each increment
    comes at most `late` after it is awaited. -/
structure Within (late start t : τ) (n : Nat) (c : Ticker τ) : Prop where
  ticked : ∃ k : Nat, c.count = n + k ∧ c.awaitedFrom start ≤ t + k • late ∧
    c.now ≤ t + (k + 1) • late

namespace Within

variable [IsOrderedAddMonoid τ] {late start t : τ} {n : Nat} {c c' : Ticker τ}

theorem now_count (hlate : 0 ≤ late) (hc : c.awaitedFrom start ≤ c.now) :
    Within late start c.now c.count c := by
  refine ⟨0, rfl, ?_, ?_⟩
  · rwa [zero_nsmul, add_zero]
  · show c.now ≤ c.now + 1 • late
    rw [one_nsmul]
    exact le_add_of_nonneg_right hlate

theorem wait {t' : τ} (hc : Within late start t n c) (h : c.wait t' = some c')
    (hlate : t' ≤ c.awaitedFrom start + late) : Within late start t n c' := by
  obtain ⟨-, rfl⟩ := wait_cases h
  obtain ⟨k, hcount, hfrom, -⟩ := hc.ticked
  refine ⟨k, hcount, hfrom, ?_⟩
  calc t' ≤ c.awaitedFrom start + late := hlate
    _ ≤ t + k • late + late := by
        apply add_le_add_left hfrom
    _ = t + (k + 1) • late := by
        rw [succ_nsmul, add_assoc]

theorem tick {period : τ} (hlate : 0 ≤ late) (hc : Within late start t n c)
    (h : c.tick period = some c') : Within late start t n c' := by
  obtain ⟨-, rfl⟩ := tick_cases h
  obtain ⟨k, hcount, -, hnow⟩ := hc.ticked
  -- the next one is awaited from now on
  refine ⟨k + 1, by rw [hcount, Nat.add_assoc], hnow, hnow.trans ?_⟩
  rw [succ_nsmul late (k + 1), ← add_assoc]
  exact le_add_of_nonneg_right hlate

/-- After `k` times `late` there were `k` increments. -/
theorem count_le (hlate : 0 ≤ late) (hc : Within late start t n c) {k : Nat}
    (hk : t + k • late < c.now) : n + k ≤ c.count := by
  obtain ⟨j, hcount, -, hnow⟩ := hc.ticked
  have hlt : k < j + 1 := by
    by_contra hge
    have hle : (j + 1) • late ≤ k • late := nsmul_le_nsmul_left hlate (Nat.le_of_not_lt hge)
    have hbound : t + (j + 1) • late ≤ t + k • late := add_le_add_right hle t
    exact absurd (hk.trans_le hnow) (not_lt.mpr hbound)
  omega

end Within

end Ticker
