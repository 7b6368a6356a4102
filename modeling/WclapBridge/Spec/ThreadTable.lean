import WclapBridge.ForStd.SlotTable
import WclapBridge.ForStd.Transition
import WclapBridge.Native.Threads

/-!
# The table of threads

Each live thread of the guest has its record in one slot of `threads`, whose
index is the number by which the guest knows the thread. The destructor waits
until all slots are empty, and then no thread uses the module.

## Key results

- `step_tableInvariant`: the table and its threads stay in step
- `threadTable`: what this means for a run, whatever the order of its steps
-/

namespace WclapBridge.Spec

open WclapBridge.Native
open ThreadedWclap (step)

/-! ## The table -/

def Live (s : ThreadedWclap) (k : Nat) : Prop :=
  ∃ thread, s.spawned[k]? = some thread ∧ thread.live = true

/-- The slot has the record of the thread. -/
def Occupies (s : ThreadedWclap) (k slot : Nat) : Prop :=
  ∃ thread pointer, s.spawned[k]? = some thread ∧
    s.wclap.threads[slot]? = some (some pointer) ∧ pointer.instance_ = thread.instance_

/-- Threads, records and numbers belong together. -/
structure ThreadTable (s : ThreadedWclap) : Prop where
  slotZero : s.wclap.threads[0]? = some none
  oneSlot : ∀ k, Live s k → ∃! slot, Occupies s k slot
  /-- A slot in use belongs to a live thread, and is the one with its number. -/
  occupied : ∀ slot pointer, s.wclap.threads[slot]? = some (some pointer) →
    ∃ (k : Nat) (thread : SpawnedThread), s.spawned[k]? = some thread ∧ thread.live = true ∧
      pointer.instance_ = thread.instance_ ∧ slot = thread.slot
  /-- `wasiThreadSpawn` has returned the numbers of the threads. -/
  returned : (s.answers.map Prod.snd).filter (· ≠ -1) = s.spawned.map (·.id)
  number : ∀ thread ∈ s.spawned, 1 ≤ thread.slot ∧ thread.id.toInt = thread.slot ∧
    thread.index.toNat = thread.slot
  /-- `wasi_thread_start` is called with the number of the thread. -/
  started : ∀ start ∈ s.starts, ∃ thread ∈ s.spawned,
    start.instance_ = thread.instance_ ∧ start.id = thread.id
  ownRecord : ∀ k thread, s.phase k = some (.starting thread) → thread = some k

/-- A thread that is live after the step has kept its slot. -/
def KeepsSlots (host : ThreadHost) (s : ThreadedWclap) (a : ThreadAction) : Prop :=
  ∀ t, step host s a = some t →
    ∀ k slot, Live t k → Occupies s k slot → Occupies t k slot

/-- When the loop of the destructor ends, so have all threads. -/
def WaitsForAll (host : ThreadHost) (s : ThreadedWclap) (a : ThreadAction) : Prop :=
  ∀ t, step host s a = some t → s.destructor ≠ .closed → t.destructor = .closed →
    ∀ thread ∈ t.spawned, thread.phase = .ended

/-! ## The invariant -/

/-- The table, by the instances of the records. -/
def pointers (s : ThreadedWclap) : List (Option Nat) :=
  s.wclap.threads.map (Option.map Thread.instance_)

def owner (thread : SpawnedThread) : SlotTable.Owner Nat :=
  ⟨thread.slot, thread.instance_, thread.live⟩

def owners (s : ThreadedWclap) : List (SlotTable.Owner Nat) :=
  s.spawned.map owner

/-- A record with its numbers. -/
structure RecordOk (host : ThreadHost) (record : ThreadRecord) : Prop where
  pos : 1 ≤ record.slot
  le : record.slot ≤ host.threadLimit
  index : record.index = UInt32.ofNat record.slot
  id : record.id = Int32.ofNat record.slot

/-- The invariant of a run. -/
structure TableInvariant (host : ThreadHost) (s : ThreadedWclap) : Prop where
  owned : SlotTable.Owned (pointers s) (owners s)
  fresh : ∀ record ∈ s.records, record.instance_ < s.wclap.instances.length
  record : ∀ record ∈ s.records, RecordOk host record
  returned : (s.answers.map Prod.snd).filter (· ≠ -1) = s.records.map (·.id)
  started : ∀ start ∈ s.starts, ∃ record ∈ s.records,
    start.instance_ = record.instance_ ∧ start.id = record.index.toInt32
  ownRecord : ∀ k thread, s.phase k = some (.starting thread) → thread = some k

/-- The slot of a new thread, as the library has it. -/
theorem threadIndex_eq_firstFree (threads : List (Option Thread)) :
    WclapModule.threadIndex threads =
      SlotTable.firstFree (threads.map (Option.map Thread.instance_)) := by
  unfold WclapModule.threadIndex SlotTable.firstFree
  rw [← List.map_drop, List.findIdx_map]
  congr 2
  funext thread
  cases thread <;> rfl

theorem threadSlots_eq_put (threads : List (Option Thread)) (instance_ : Nat) :
    ((if WclapModule.threadIndex threads = threads.length then threads ++ [none] else threads).set
        (WclapModule.threadIndex threads) (some ⟨instance_, false⟩)).map
        (Option.map Thread.instance_) =
      SlotTable.put (threads.map (Option.map Thread.instance_)) instance_ := by
  unfold SlotTable.put
  rw [List.map_set, ← threadIndex_eq_firstFree, List.length_map]
  split
  next => rw [List.map_append]; rfl
  next => rfl

/-- The thread that has begun has the same record. -/
theorem pointers_started (m : WclapModule) (slot : Nat) :
    (OpenWclap.started m (.runThread slot)).threads.map (Option.map Thread.instance_) =
      m.threads.map (Option.map Thread.instance_) := by
  apply List.ext_getElem?
  intro j
  simp only [OpenWclap.started, List.getElem?_map, List.getElem?_modify]
  cases m.threads[j]? with
  | none => rfl
  | some thread =>
    cases thread with
    | none => simp
    | some thread => by_cases hj : slot = j <;> simp [hj]

theorem owners_getElem? {s : ThreadedWclap} {k : Nat} {thread : SpawnedThread}
    (hk : s.spawned[k]? = some thread) : (owners s)[k]? = some (owner thread) := by
  rw [owners, List.getElem?_map, hk]
  rfl

theorem pointers_eq_some_iff {s : ThreadedWclap} {slot instance_ : Nat} :
    (pointers s)[slot]? = some (some instance_) ↔
      ∃ pointer, s.wclap.threads[slot]? = some (some pointer) ∧
        pointer.instance_ = instance_ := by
  simp [pointers, Option.map_eq_some_iff]

/-- A thread finds its own record. -/
theorem holder_eq {s : ThreadedWclap} (hs : SlotTable.Owned (pointers s) (owners s)) {k : Nat}
    {thread : SpawnedThread} (hk : s.spawned[k]? = some thread) (hlive : thread.live = true) :
    s.holder thread.slot = some k := by
  obtain ⟨pointer, hpointer, hinstance⟩ :=
    pointers_eq_some_iff.mp (hs.entry_of_live (owners_getElem? hk) hlive)
  have hslot : s.wclap.threads[thread.slot]? = some (some pointer) := hpointer
  unfold ThreadedWclap.holder
  rw [hslot]
  -- the search ends at the first record with the instance in the slot
  obtain ⟨hlt, rfl⟩ := List.getElem?_eq_some_iff.mp hk
  refine List.findIdx?_eq_some_iff_getElem.mpr ⟨hlt, by simp [hinstance, owner], ?_⟩
  intro j hj hsame
  -- no other record has the same instance
  have hkj := hs.owner_unique (owners_getElem? hk)
    (owners_getElem? (List.getElem?_eq_getElem (Nat.lt_trans hj hlt)))
    ((of_decide_eq_true hsame).trans hinstance).symm
  omega

/-! ## Steps -/

/-- The numbers that calls of `wasi::thread-spawn` have returned. -/
def returnedIds (s : ThreadedWclap) : List Int32 :=
  (s.answers.map Prod.snd).filter (· ≠ -1)

/-- What leaves the table and its threads alone. -/
structure SameTable (s t : ThreadedWclap) : Prop where
  pointers : pointers t = pointers s
  owners : owners t = owners s
  records : t.records = s.records
  instances : s.wclap.instances.length ≤ t.wclap.instances.length
  returned : returnedIds t = returnedIds s

theorem SameTable.of_wclap {s t : ThreadedWclap} (hwclap : s.wclap.KeepsThreads t.wclap)
    (hspawned : t.spawned = s.spawned) (hreturned : returnedIds t = returnedIds s) :
    SameTable s t where
  pointers := congrArg (List.map (Option.map Thread.instance_)) hwclap.threads
  owners := congrArg (List.map owner) hspawned
  records := congrArg (List.map SpawnedThread.toThreadRecord) hspawned
  instances := hwclap.instances.length_le
  returned := hreturned

theorem returnedIds_answer_failed (s : ThreadedWclap) (c : Caller) :
    returnedIds (s.answer c (-1)) = returnedIds s := by
  simp [returnedIds, ThreadedWclap.answer, ThreadedWclap.setCall]

/-- A thread goes on, from one phase to another. -/
theorem owners_setPhase {s : ThreadedWclap} {k : Nat} {before phase : ThreadPhase}
    (hk : s.phase k = some before) (hbefore : before ≠ .ended) (hphase : phase ≠ .ended) :
    owners (s.setPhase k phase) = owners s := by
  apply List.ext_getElem?
  intro j
  simp only [owners, ThreadedWclap.setPhase, List.getElem?_map, List.getElem?_modify]
  by_cases hkj : k = j
  · subst hkj
    obtain ⟨thread, hthread, rfl⟩ := Option.map_eq_some_iff.mp hk
    simp [hthread, owner, SpawnedThread.live, hbefore, hphase]
  · simp [hkj]

theorem SameTable.setPhase {s t : ThreadedWclap} {k : Nat} {before phase : ThreadPhase}
    (hk : s.phase k = some before) (hbefore : before ≠ .ended) (hphase : phase ≠ .ended)
    (hspawned : t.spawned = (s.setPhase k phase).spawned)
    (hwclap : s.wclap.KeepsThreads t.wclap) (hreturned : t.answers = s.answers) :
    SameTable s t where
  pointers := congrArg (List.map (Option.map Thread.instance_)) hwclap.threads
  owners := by
    rw [← owners_setPhase hk hbefore hphase]
    exact congrArg (List.map owner) hspawned
  records := by
    rw [← s.records_setPhase k phase]
    exact congrArg (List.map SpawnedThread.toThreadRecord) hspawned
  instances := hwclap.instances.length_le
  returned := by rw [returnedIds, hreturned, returnedIds]

/-- What leaves the table alone keeps the invariant. -/
theorem TableInvariant.same {host : ThreadHost} {s t : ThreadedWclap} (hs : TableInvariant host s)
    (h : SameTable s t)
    (hstarts : ∀ start ∈ t.starts, start ∈ s.starts ∨ ∃ record ∈ s.records,
      start.instance_ = record.instance_ ∧ start.id = record.index.toInt32)
    (hphase : ∀ k thread, t.phase k = some (.starting thread) →
      s.phase k = some (.starting thread) ∨ thread = some k) : TableInvariant host t where
  owned := h.pointers ▸ h.owners ▸ hs.owned
  fresh record hrecord := Nat.lt_of_lt_of_le (hs.fresh record (h.records ▸ hrecord)) h.instances
  record record hrecord := hs.record record (h.records ▸ hrecord)
  returned := h.records ▸ h.returned.trans hs.returned
  started start hstart := h.records ▸ (hstarts start hstart).elim (hs.started start) id
  ownRecord k thread hk := (hphase k thread hk).elim (hs.ownRecord k thread) id

theorem phase_of_setPhase {s t : ThreadedWclap} {k : Nat} {phase : ThreadPhase}
    (hspawned : t.spawned = (s.setPhase k phase).spawned) (hne : ∀ thread, phase ≠ .starting thread)
    (j : Nat) (thread : Option Nat) (hj : t.phase j = some (.starting thread)) :
    s.phase j = some (.starting thread) ∨ thread = some j := by
  have hphase : t.phase j = (s.setPhase k phase).phase j := by
    unfold ThreadedWclap.phase
    rw [hspawned]
  rw [hphase, ThreadedWclap.phase_setPhase] at hj
  split at hj
  next =>
    obtain ⟨_, -, heq⟩ := Option.map_eq_some_iff.mp hj
    exact absurd heq (hne thread)
  next => exact .inl hj

/-- What calls nothing and leaves all threads in their phases. -/
theorem TableInvariant.keep {host : ThreadHost} {s t : ThreadedWclap} (hs : TableInvariant host s)
    (h : SameTable s t) (hstarts : t.starts = s.starts) (hphase : ∀ k, t.phase k = s.phase k) :
    TableInvariant host t :=
  hs.same h (fun _ hstart => .inl (hstarts ▸ hstart)) fun k _ hk => .inl (hphase k ▸ hk)

/-- A thread goes on, and calls nothing. -/
theorem TableInvariant.goOn {host : ThreadHost} {s t : ThreadedWclap} (hs : TableInvariant host s)
    {k : Nat} {before phase : ThreadPhase} (hk : s.phase k = some before)
    (hbefore : before ≠ .ended) (hphase : phase ≠ .ended)
    (hne : ∀ thread, phase ≠ .starting thread)
    (hspawned : t.spawned = (s.setPhase k phase).spawned)
    (hwclap : s.wclap.KeepsThreads t.wclap) (hanswers : t.answers = s.answers)
    (hstarts : t.starts = s.starts) : TableInvariant host t :=
  hs.same (.setPhase hk hbefore hphase hspawned hwclap hanswers)
    (fun _ hstart => .inl (hstarts ▸ hstart)) (phase_of_setPhase hspawned hne)

/-- A thread's number is its slot. -/
theorem id_toInt {host : ThreadHost} {slot : Nat} (hslot : slot ≤ host.threadLimit) :
    (Int32.ofNat slot).toInt = slot :=
  Int32.toInt_ofNat_of_lt (Nat.lt_of_le_of_lt hslot host.threadLimit_lt)

theorem id_ne_failed {host : ThreadHost} {slot : Nat} (hslot : slot ≤ host.threadLimit) :
    Int32.ofNat slot ≠ -1 := by
  intro heq
  have hid := id_toInt hslot
  rw [heq] at hid
  have hneg : (-1 : Int32).toInt = -1 := by decide
  omega

/-- The slot of a new thread is not beyond the number of threads. -/
theorem threadIndex_le {host : ThreadHost} {s : ThreadedWclap}
    (hs : SlotTable.Owned (pointers s) (owners s)) (hlive : s.live < host.threadLimit) :
    WclapModule.threadIndex s.wclap.threads ≤ host.threadLimit := by
  have hcount : (owners s).countP SlotTable.Owner.live = s.live := by
    rw [owners, List.countP_map]
    rfl
  have hle := hs.firstFree_le
  rw [hcount, pointers, ← threadIndex_eq_firstFree] at hle
  omega

/-- A new thread gets a slot of its own. -/
theorem spawn_tableInvariant {host : ThreadHost} {s : ThreadedWclap} {c : Caller}
    {value : WasmValue} {setup : SetupOutcome} {grow : HostFunction → GrowOutcome} {slot : Nat}
    {wclap : WclapModule} (hs : TableInvariant host s)
    (h : s.wclap.spawnLocked setup grow = (some slot, wclap)) (hlive : s.live < host.threadLimit) :
    TableInvariant host
      ({ s with wclap, spawned := s.spawned ++ [s.newThread slot value] }.answer c
        (Int32.ofNat slot)) := by
  obtain ⟨rfl, hthreads, hinstances, -⟩ := WclapModule.spawnLocked_some h
  have hle := threadIndex_le hs.owned hlive
  have hrecords : ∀ record, record ∈ (s.spawned ++ [s.newThread
      (WclapModule.threadIndex s.wclap.threads) value]).map SpawnedThread.toThreadRecord →
      record ∈ s.records ∨ record =
        (s.newThread (WclapModule.threadIndex s.wclap.threads) value).toThreadRecord := by
    intro record hrecord
    rw [List.map_append] at hrecord
    exact (List.mem_append.mp hrecord).imp_right List.mem_singleton.mp
  constructor
  case owned =>
    -- the new instance is in no record, since instances are numbered
    have hfresh : s.wclap.instances.length ∉ (owners s).map SlotTable.Owner.entry := by
      intro hmem
      rw [owners, List.map_map] at hmem
      obtain ⟨thread, hthread, heq⟩ := List.mem_map.mp hmem
      exact absurd heq (Nat.ne_of_lt (hs.fresh _ (List.mem_map_of_mem hthread)))
    have howned := hs.owned.put hfresh
    rw [pointers, ← threadSlots_eq_put, ← threadIndex_eq_firstFree, ← hthreads] at howned
    unfold owners
    rw [ThreadedWclap.answer, ThreadedWclap.setCall, List.map_append]
    exact howned
  case fresh =>
    intro record hrecord
    have hlength : (s.wclap.instances.length : Nat) < wclap.instances.length := by omega
    rcases hrecords record hrecord with hrecord | rfl
    · exact Nat.lt_trans (hs.fresh record hrecord) hlength
    · exact hlength
  case record =>
    intro record hrecord
    rcases hrecords record hrecord with hrecord | rfl
    · exact hs.record record hrecord
    · exact ⟨Nat.le_add_right 1 _, hle, rfl, rfl⟩
  case returned =>
    have hid := id_ne_failed hle
    have hold := hs.returned
    unfold ThreadedWclap.records at hold ⊢
    simp only [ThreadedWclap.answer, ThreadedWclap.setCall, List.map_append, List.filter_append]
    rw [hold]
    simp [hid, ThreadedWclap.newThread]
  case started =>
    -- the new thread has called nothing yet
    intro start hstart
    obtain ⟨record, hrecord, hsame⟩ := hs.started start hstart
    unfold ThreadedWclap.records at hrecord ⊢
    exact ⟨record, List.map_append ▸ List.mem_append_left _ hrecord, hsame⟩
  case ownRecord =>
    intro k thread hk
    unfold ThreadedWclap.phase ThreadedWclap.answer ThreadedWclap.setCall at hk
    rw [List.getElem?_append] at hk
    split at hk
    next => exact hs.ownRecord k thread hk
    next =>
      -- the new thread is not starting yet
      rw [List.getElem?_singleton] at hk
      split at hk
      next => cases hk
      next => cases hk

/-- A thread that has returned leaves its slot. -/
theorem finish_tableInvariant {host : ThreadHost} {s : ThreadedWclap} {k : Nat}
    {thread : SpawnedThread} (hs : TableInvariant host s) (hk : s.spawned[k]? = some thread)
    (hphase : thread.phase = .returned) :
    TableInvariant host
      { s.setPhase k .ended with wclap.threads := s.wclap.threads.set thread.slot none } where
  owned := by
    have hlive : thread.live = true := by simp [SpawnedThread.live, hphase]
    have hrelease := hs.owned.release (owners_getElem? hk) hlive
    have hpointers : (s.wclap.threads.set thread.slot none).map (Option.map Thread.instance_) =
        (pointers s).set thread.slot none := List.map_set
    have howners : (s.spawned.modify k ({ · with phase := .ended })).map owner =
        (owners s).set k { owner thread with live := false } := by
      apply List.ext_getElem?
      intro j
      rw [owners, List.getElem?_map, List.getElem?_modify, List.getElem?_set, List.length_map,
        List.getElem?_map]
      by_cases hkj : k = j
      · subst hkj
        obtain ⟨hlt, rfl⟩ := List.getElem?_eq_some_iff.mp hk
        simp [hlt, owner, SpawnedThread.live]
      · simp [hkj]
    unfold owners pointers ThreadedWclap.setPhase
    rw [hpointers, howners]
    exact hrelease
  fresh record hrecord := hs.fresh record (s.records_setPhase k .ended ▸ hrecord)
  record record hrecord := hs.record record (s.records_setPhase k .ended ▸ hrecord)
  returned := hs.returned.trans (congrArg (List.map _) (s.records_setPhase k .ended).symm)
  started start hstart := s.records_setPhase k .ended ▸ hs.started start hstart
  ownRecord j thread' hj :=
    (phase_of_setPhase rfl (fun _ => by simp) j thread' hj).elim (hs.ownRecord j thread') id

/-- A new thread looks up its record. -/
theorem startUp_tableInvariant {host : ThreadHost} {s : ThreadedWclap} {k : Nat}
    {thread : SpawnedThread} (hs : TableInvariant host s) (hk : s.spawned[k]? = some thread)
    (hphase : thread.phase = .created) (late : Bool) :
    TableInvariant host
      { s with
        wclap := OpenWclap.started s.wclap (.runThread thread.slot)
        spawned :=
          s.spawned.set k { thread with late, phase := .starting (s.holder thread.slot) } } := by
  have hlive : thread.live = true := by simp [SpawnedThread.live, hphase]
  refine hs.same ⟨pointers_started s.wclap thread.slot,
    List.map_set_of_eq hk (by simp [owner, SpawnedThread.live, hphase]),
    List.map_set_of_eq hk rfl, Nat.le_refl _, rfl⟩ (fun _ h => .inl h) fun j found hj => ?_
  unfold ThreadedWclap.phase at hj
  rw [List.getElem?_set] at hj
  split at hj
  next heq =>
    -- this thread has just found its record
    subst heq
    rw [if_pos (List.getElem?_eq_some_iff.mp hk).1] at hj
    cases hj
    exact .inr (holder_eq hs.owned hk hlive)
  next => exact .inl hj

theorem checkThreadsStopped_sameTable (s : ThreadedWclap) :
    SameTable s s.checkThreadsStopped.2 where
  pointers := rfl
  owners := by
    unfold owners ThreadedWclap.checkThreadsStopped
    rw [List.map_map]
    rfl
  records := by
    unfold ThreadedWclap.records ThreadedWclap.checkThreadsStopped
    rw [List.map_map]
    rfl
  instances := Nat.le_refl _
  returned := rfl

theorem checkThreadsStopped_phase (s : ThreadedWclap) (k : Nat) :
    s.checkThreadsStopped.2.phase k = s.phase k := by
  simp [ThreadedWclap.phase, ThreadedWclap.checkThreadsStopped, Function.comp_def]

/-- What the constructor leaves. -/
theorem begin_tableInvariant (host : ThreadHost) (is64 shared : Bool) (setup : SetupOutcome)
    (grow : HostFunction → GrowOutcome) :
    TableInvariant host (ThreadedWclap.begin is64 shared setup grow) where
  owned := by
    unfold pointers owners ThreadedWclap.begin
    rw [WclapModule.construct_threads]
    exact .nil
  fresh _ h := nomatch h
  record _ h := nomatch h
  returned := rfl
  started _ h := nomatch h
  ownRecord _ _ h := nomatch h

/-- A step keeps the invariant. -/
theorem step_tableInvariant {host : ThreadHost} {s t : ThreadedWclap} {a : ThreadAction}
    (hs : TableInvariant host s) (ht : step host s a = some t) : TableInvariant host t := by
  have hsame := WclapModule.KeepsThreads.refl s.wclap
  cases ThreadedWclap.step_cases ht with
  | perform env hr =>
    exact hs.keep (.of_wclap (s.wclap.perform_keepsThreads env hr) rfl rfl) rfl fun _ => rfl
  | init phase => exact hs.keep (.of_wclap hsame rfl rfl) rfl fun _ => rfl
  | endInit outcome => exact hs.keep (.of_wclap (hsame.setGroup _) rfl rfl) rfl fun _ => rfl
  | testNull | enterError =>
    -- the guest gets -1, which is no number of a thread
    exact hs.keep (.of_wclap hsame rfl (returnedIds_answer_failed s _)) rfl fun _ => rfl
  | test | readFunction | readContext | enter | clearContext =>
    exact hs.keep (.of_wclap hsame rfl rfl) rfl fun _ => rfl
  | spawnFailed hc hlock h =>
    exact hs.keep (.of_wclap (WclapModule.spawnLocked_none h) rfl (returnedIds_answer_failed _ _))
      rfl fun _ => rfl
  | spawn hc hlock h hlive => exact spawn_tableInvariant hs h hlive
  | startUp hk hphase => exact startUp_tableInvariant hs hk hphase _
  | refused hphase =>
    exact hs.goOn hphase (by simp) (by simp) (fun _ => by simp) rfl hsame rfl rfl
  | noStart message hphase =>
    exact hs.goOn hphase (by simp) (by simp) (fun _ => by simp) rfl (hsame.setGroup _) rfl rfl
  | @start k j thread hphase hj =>
    refine hs.same (.setPhase hphase (by simp) (by simp) rfl hsame rfl) (fun start hstart => ?_)
      (phase_of_setPhase rfl fun _ => by simp)
    -- the record is that of a spawned thread
    refine (List.mem_append.mp hstart).imp_right fun hnew => ?_
    cases List.mem_singleton.mp hnew
    exact ⟨thread.toThreadRecord, List.mem_map_of_mem (List.mem_of_getElem? hj), rfl, rfl⟩
  | refuse hphase =>
    exact hs.goOn hphase (by simp) (by simp) (fun _ => by simp) rfl (hsame.setGroup _) rfl rfl
  | return_ outcome hphase =>
    exact hs.goOn hphase (by simp) (by simp) (fun _ => by simp) rfl (hsame.setGroup _) rfl rfl
  | finish hk hphase => exact finish_tableInvariant hs hk hphase
  | clearFunction => exact hs.keep ⟨rfl, rfl, rfl, Nat.le_refl _, rfl⟩ rfl fun _ => rfl
  | wait =>
    -- the requests to stop change neither records nor phases
    exact hs.keep (checkThreadsStopped_sameTable s) rfl (checkThreadsStopped_phase s)
  | stopped =>
    have h := checkThreadsStopped_sameTable s
    exact hs.keep ⟨h.pointers, h.owners, h.records, h.instances, h.returned⟩ rfl
      (checkThreadsStopped_phase s)

/-- Records stay what they are. -/
theorem step_records {host : ThreadHost} {s t : ThreadedWclap} {a : ThreadAction}
    (ht : step host s a = some t) : s.records <+: t.records := by
  cases ThreadedWclap.step_cases ht with
  | spawn =>
    simp only [ThreadedWclap.records, ThreadedWclap.answer, ThreadedWclap.setCall, List.map_append]
    exact List.prefix_append _ _
  | startUp hk =>
    unfold ThreadedWclap.records
    exact ⟨[], (List.append_nil _).trans (List.map_set_of_eq hk (by rfl)).symm⟩
  | refused | noStart | start | refuse | return_ | finish =>
    exact (s.records_setPhase _ _) ▸ List.prefix_rfl
  | wait | stopped => exact (checkThreadsStopped_sameTable s).records ▸ List.prefix_rfl
  | _ => exact List.prefix_rfl

/-! ## What it means -/

theorem TableInvariant.slots {host : ThreadHost} {s : ThreadedWclap}
    (hs : TableInvariant host s) : ThreadTable s where
  slotZero := by
    have hzero := hs.owned.reserved
    rw [pointers, List.getElem?_map, Option.map_eq_some_iff] at hzero
    obtain ⟨thread, hthread, hnone⟩ := hzero
    rw [hthread, Option.map_eq_none_iff.mp hnone]
  oneSlot k := by
    rintro ⟨thread, hk, hlive⟩
    -- a live thread owns its slot, and its entry is in no other
    obtain ⟨pointer, hpointer, hinstance⟩ :=
      pointers_eq_some_iff.mp (hs.owned.entry_of_live (owners_getElem? hk) hlive)
    refine ⟨thread.slot, ⟨thread, pointer, hk, hpointer, hinstance⟩, ?_⟩
    rintro slot ⟨thread', pointer', hk', hpointer', hinstance'⟩
    cases hk.symm.trans hk'
    exact (hs.owned.slot_unique (owners_getElem? hk)
      (pointers_eq_some_iff.mpr ⟨pointer', hpointer', hinstance'⟩)).2
  occupied slot pointer hslot := by
    obtain ⟨k, _, hk, hlive, hslot, hentry⟩ :=
      (hs.owned.entry_iff slot pointer.instance_).mp (pointers_eq_some_iff.mpr ⟨_, hslot, rfl⟩)
    obtain ⟨thread, hthread, rfl⟩ := Option.map_eq_some_iff.mp (List.getElem?_map ▸ hk)
    exact ⟨k, thread, hthread, hlive, hentry.symm, hslot.symm⟩
  returned := by
    have hreturned := hs.returned
    rw [ThreadedWclap.records, List.map_map] at hreturned
    exact hreturned
  number thread hthread := by
    obtain ⟨hpos, hle, hindex, hid⟩ := hs.record _ (List.mem_map_of_mem hthread)
    have hlt := Nat.lt_of_le_of_lt hle host.threadLimit_lt
    refine ⟨hpos, hid ▸ id_toInt hle, hindex ▸ UInt32.toNat_ofNat_of_lt' ?_⟩
    exact Nat.lt_trans hlt (by decide)
  started start hstart := by
    obtain ⟨record, hrecord, hinstance, hid⟩ := hs.started start hstart
    obtain ⟨thread, hthread, rfl⟩ := List.mem_map.mp hrecord
    refine ⟨thread, hthread, hinstance, ?_⟩
    have hok := hs.record _ hrecord
    rw [hid, hok.id, hok.index, UInt32.toInt32_ofNat']
  ownRecord := hs.ownRecord

theorem TableInvariant.keepsSlots {host : ThreadHost} {s : ThreadedWclap} {a : ThreadAction}
    (hs : TableInvariant host s) : KeepsSlots host s a := by
  rintro t ht k slot ⟨thread', hk', hlive'⟩ ⟨thread, pointer, hk, hpointer, hinstance⟩
  have hsame : thread.slot = thread'.slot := by
    have hrecord : s.records[k]? = some thread.toThreadRecord := by
      rw [ThreadedWclap.records, List.getElem?_map, hk]
      rfl
    have hrecord' : t.records[k]? = some thread'.toThreadRecord := by
      rw [ThreadedWclap.records, List.getElem?_map, hk']
      rfl
    obtain ⟨new, hnew⟩ := step_records ht
    rw [← hnew, List.getElem?_append_left (List.getElem?_eq_some_iff.mp hrecord).1, hrecord]
      at hrecord'
    exact congrArg ThreadRecord.slot (Option.some.inj hrecord')
  have hslot := (hs.owned.slot_unique (owners_getElem? hk)
    (pointers_eq_some_iff.mpr ⟨pointer, hpointer, hinstance⟩)).2
  obtain ⟨pointer', hpointer', hinstance'⟩ := pointers_eq_some_iff.mp
    ((step_tableInvariant hs ht).owned.entry_of_live (owners_getElem? hk') hlive')
  refine ⟨thread', pointer', hk', ?_, hinstance'⟩
  rw [hslot.trans hsame]
  exact hpointer'

theorem TableInvariant.waitsForAll {host : ThreadHost} {s : ThreadedWclap} {a : ThreadAction}
    (hs : TableInvariant host s) : WaitsForAll host s a := by
  intro t ht hopen hclosed thread hthread
  have hinv := step_tableInvariant hs ht
  cases ThreadedWclap.step_cases ht with
  | stopped hwaiting hthreads =>
    have hempty : (pointers s).all Option.isNone = true := by
      rw [pointers, List.all_map]
      refine Eq.trans (congrArg (List.all _) (funext fun pointer => ?_)) hthreads
      cases pointer <;> rfl
    have hlive := hinv.owned.not_live hempty (owner thread) (List.mem_map_of_mem hthread)
    simpa [owner, SpawnedThread.live] using hlive
  | clearFunction | clearContext => cases hclosed
  | wait => exact absurd hclosed hopen
  | _ => exact absurd hclosed hopen

/-- For every order of the steps of a run: each live thread has its record in one
    slot, which is never 0 and whose index the guest knows it by, no spawn takes
    the slot of a live thread, a new thread finds its own record, and all threads
    have ended when the destructor stops to wait for them. -/
theorem threadTable (host : ThreadHost) (is64 shared : Bool) (setup : SetupOutcome)
    (grow : HostFunction → GrowOutcome) (as : List ThreadAction) :
    States (step host) ThreadTable (ThreadedWclap.begin is64 shared setup grow) as ∧
      Steps (step host) (fun s a => KeepsSlots host s a ∧ WaitsForAll host s a)
        (ThreadedWclap.begin is64 shared setup grow) as := by
  have hstates : States (step host) (TableInvariant host) _ as :=
    .of_invariant _ (fun s a t hs ht => step_tableInvariant hs ht)
      (begin_tableInvariant host is64 shared setup grow)
  constructor
  · exact hstates.mono fun s hs => hs.slots
  · exact .of_states (fun s a hs => ⟨hs.keepsSlots, hs.waitsForAll⟩) hstates

end WclapBridge.Spec
