import Mathlib.Logic.Function.Basic
import Mathlib.Logic.Relation
import Mathlib.Order.Basic

/-!
# Mutexes, and locks taken in order

A recursive mutex has a holder, which may lock it again, and a count. Threads
that hold mutexes and wait for others are in a cycle if each of them waits for
one which the next thread holds. There is no cycle where every thread waits for
a mutex that ranks above all those it holds.

## Key results

- `RecursiveMutex.lock_eq_none`: a thread waits where another one holds the mutex
- `RecursiveMutex.heldBy_unique`: only one thread holds it
- `LockTable.Ordered.no_cycle`: no cycle of any number of threads
- `LockTable.NoCycle.no_pair`: in particular, no two threads wait for each other
-/

variable {Thread Lock Rank : Type}

/-- A recursive mutex: who holds it, and how often beyond the first time. -/
structure RecursiveMutex (Thread : Type) where
  state : Option (Thread × Nat)

namespace RecursiveMutex

/-- Nobody holds it. -/
def free : RecursiveMutex Thread := ⟨none⟩

def holder (mutex : RecursiveMutex Thread) : Option Thread :=
  mutex.state.map Prod.fst

/-- The mutex after its holder has unlocked it once. -/
def unlock (mutex : RecursiveMutex Thread) : RecursiveMutex Thread :=
  match mutex.state with
  | some (t, again + 1) => ⟨some (t, again)⟩
  | _ => free

theorem holder_unlock {mutex : RecursiveMutex Thread} {t : Thread}
    (h : mutex.unlock.holder = some t) : mutex.holder = some t := by
  unfold unlock at h
  split at h
  next heq =>
    rw [holder, heq]
    exact h
  next => cases h

variable [DecidableEq Thread]

/-- The mutex after a thread has locked it, or `none` where it has to wait. -/
def lock (mutex : RecursiveMutex Thread) (t : Thread) : Option (RecursiveMutex Thread) :=
  match mutex.state with
  | none => some ⟨some (t, 0)⟩
  | some (u, again) => if u = t then some ⟨some (t, again + 1)⟩ else none

/-- How often a thread holds it. -/
def heldBy (mutex : RecursiveMutex Thread) (t : Thread) : Nat :=
  match mutex.state with
  | none => 0
  | some (u, again) => if u = t then again + 1 else 0

theorem heldBy_lock {mutex mutex' : RecursiveMutex Thread} {t : Thread}
    (h : mutex.lock t = some mutex') (u : Thread) :
    mutex'.heldBy u = mutex.heldBy u + if u = t then 1 else 0 := by
  obtain ⟨_ | ⟨v, again⟩⟩ := mutex
  · cases h
    by_cases hu : t = u
    · simp [heldBy, hu]
    · simp [heldBy, hu, Ne.symm hu]
  · by_cases hv : v = t
    · simp only [lock, hv, if_true, Option.some.injEq] at h
      subst h
      by_cases hu : t = u
      · simp [heldBy, hv, hu]
      · simp [heldBy, hv, hu, Ne.symm hu]
    · simp [lock, hv] at h

theorem heldBy_unlock {mutex : RecursiveMutex Thread} {t : Thread} (h : mutex.heldBy t ≠ 0)
    (u : Thread) : mutex.heldBy u = mutex.unlock.heldBy u + if u = t then 1 else 0 := by
  obtain ⟨_ | ⟨v, again⟩⟩ := mutex
  · exact absurd rfl h
  · have hv : v = t := by
      by_contra hv
      exact h (if_neg hv)
    subst hv
    by_cases hu : v = u
    · cases again <;> simp [heldBy, unlock, free, hu]
    · cases again <;> simp [heldBy, unlock, free, hu, Ne.symm hu]

/-- Only one thread holds it. -/
theorem heldBy_unique {mutex : RecursiveMutex Thread} {t u : Thread} (ht : mutex.heldBy t ≠ 0)
    (hu : mutex.heldBy u ≠ 0) : t = u := by
  obtain ⟨_ | ⟨v, again⟩⟩ := mutex
  · exact absurd rfl ht
  · have hvt : v = t := by
      by_contra hv
      exact ht (if_neg hv)
    have hvu : v = u := by
      by_contra hv
      exact hu (if_neg hv)
    exact hvt.symm.trans hvu

theorem holder_lock {mutex mutex' : RecursiveMutex Thread} {t : Thread}
    (h : mutex.lock t = some mutex') : mutex'.holder = some t := by
  unfold lock at h
  split at h
  next =>
    cases h
    rfl
  next =>
    split at h
    next =>
      cases h
      rfl
    next => cases h

theorem lock_eq_none {mutex : RecursiveMutex Thread} {t : Thread} :
    mutex.lock t = none ↔ ∃ u, u ≠ t ∧ mutex.holder = some u := by
  unfold lock holder
  cases mutex.state with
  | none => simp
  | some held =>
    obtain ⟨u, again⟩ := held
    by_cases hu : u = t
    · simp [hu]
    · simp [hu]

end RecursiveMutex

/-- The mutexes that threads hold, and the one a thread waits for. -/
structure LockTable (Thread Lock : Type) where
  holder : Lock → Option Thread
  wants : Thread → Option Lock

namespace LockTable

variable {table : LockTable Thread Lock} {rank : Lock → Rank} {t u : Thread}

/-- The first thread waits for a mutex which the second one holds. -/
def WaitsFor (table : LockTable Thread Lock) (t u : Thread) : Prop :=
  ∃ l, table.wants t = some l ∧ table.holder l = some u

/-- Two threads wait for each other. -/
def Pair (table : LockTable Thread Lock) (t u : Thread) : Prop :=
  table.WaitsFor t u ∧ table.WaitsFor u t

/-- No thread waits, over any number of others, for itself. -/
def NoCycle (table : LockTable Thread Lock) : Prop :=
  ∀ t, ¬ Relation.TransGen table.WaitsFor t t

theorem NoCycle.no_pair (h : table.NoCycle) (t u : Thread) : ¬ table.Pair t u :=
  fun hpair => h t (.tail (.single hpair.1) hpair.2)

variable [Preorder Rank]

/-- A thread waits only for a mutex that ranks above those it holds. -/
def Ordered (table : LockTable Thread Lock) (rank : Lock → Rank) : Prop :=
  ∀ t l m, table.wants t = some l → table.holder m = some t → rank m < rank l

/-- The ranks do not fall along a chain of waiting threads. -/
theorem Ordered.holds_above (h : table.Ordered rank)
    (hchain : Relation.TransGen table.WaitsFor t u) :
    ∃ l m, table.wants t = some l ∧ table.holder m = some u ∧ rank l ≤ rank m := by
  -- the chain grows at its end, where the last thread waits for a higher mutex
  induction hchain with
  | single hwaits =>
    obtain ⟨l, hl, hu⟩ := hwaits
    exact ⟨l, l, hl, hu, le_rfl⟩
  | tail _ hwaits ih =>
    obtain ⟨l, m, hl, hm, hle⟩ := ih
    obtain ⟨n, hn, hu⟩ := hwaits
    exact ⟨l, n, hl, hu, hle.trans (h _ n m hn hm).le⟩

/-- A thread goes on, with other mutexes than before. -/
theorem Ordered.goOn {table' : LockTable Thread Lock} (h : table.Ordered rank)
    (ht : table'.wants t = none) (hwants : ∀ u, u ≠ t → table'.wants u = table.wants u)
    (hholder : ∀ u m, u ≠ t → table'.holder m = some u → table.holder m = some u) :
    table'.Ordered rank := by
  intro u l m hl hm
  have hut : u ≠ t := by
    rintro rfl
    cases ht.symm.trans hl
  exact h u l m (hwants u hut ▸ hl) (hholder u m hut hm)

/-- A thread begins to wait, for a mutex above those it holds. -/
theorem Ordered.wait {table' : LockTable Thread Lock} {l : Lock} (h : table.Ordered rank)
    (ht : table'.wants t = some l) (hl : ∀ m, table.holder m = some t → rank m < rank l)
    (hwants : ∀ u, u ≠ t → table'.wants u = table.wants u)
    (hholder : table'.holder = table.holder) : table'.Ordered rank := by
  intro u k m hk hm
  rw [hholder] at hm
  by_cases hut : u = t
  · subst hut
    cases ht.symm.trans hk
    exact hl m hm
  · exact h u k m (hwants u hut ▸ hk) hm

theorem Ordered.no_cycle (h : table.Ordered rank) : table.NoCycle := by
  intro t hcycle
  obtain ⟨l, m, hl, hm, hle⟩ := h.holds_above hcycle
  exact lt_irrefl _ (hle.trans_lt (h t l m hl hm))

end LockTable
