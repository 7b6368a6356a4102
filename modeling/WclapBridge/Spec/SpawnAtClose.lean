import WclapBridge.Spec.ThreadTable

/-!
# Spawning while the module closes

`wtWasiThreadSpawn` looks at `wasiThreadSpawn`, and then reads it again, and its
context, without a lock. The destructor of the module sets both to null, under a
lock of its own. So a thread can find them set, and then call a null pointer.

## Key results

- `staysEmpty`: no thread comes after the destructor has waited for all of them
- `spawnSafe_of_clearsOutside`: the calls are safe if the destructor keeps out of
  the time between the look and the reads
- `spawn_calls_null`: a run where it does not
-/

namespace WclapBridge.Spec

open WclapBridge.Native
open ThreadedWclap (step)

/-! ## Safety -/

/-- The host closes a module when none of its own threads is in a spawn, and then
    leaves it alone. -/
def HostsQuiet (s : ThreadedWclap) : ThreadAction → Prop
  | .clearFunction => ∀ n, s.calls (.host n) = none
  | .test (.host _) _ => s.destructor = .open_
  | _ => True

/-- A spawn calls a function, with the context of a module that still waits for
    its threads, or returns -1. -/
structure SpawnSafe (host : ThreadHost) (s : ThreadedWclap) (a : ThreadAction) : Prop where
  call : ∀ k value wasiThreadSpawn wasiThreadSpawnContext, a = .enter (.thread k) →
    s.calls (.thread k) = some (value, .readContext wasiThreadSpawn wasiThreadSpawnContext) →
    wasiThreadSpawn = true ∧ wasiThreadSpawnContext = true ∧ s.destructor ≠ .closed
  failed : ∀ t c id, step host s a = some t → t.answers = s.answers ++ [(c, id)] →
    (∃ value, s.calls c = some (value, .entered)) ∨ id = -1

/-- The table is empty from the end of the loop on. -/
def EmptyWhenClosed (s : ThreadedWclap) : Prop :=
  s.destructor = .closed → ∀ (slot : Nat) (pointer : Thread),
    s.wclap.threads[slot]? ≠ some (some pointer)

/-- The destructor sets `wasiThreadSpawn` to null while no thread is between its
    look at it and the second read, and the context while none is between that
    and the read of the context. -/
def ClearsOutside (s : ThreadedWclap) : ThreadAction → Prop
  | .clearFunction => ∀ k value, s.calls (.thread k) ≠ some (value, .tested)
  | .clearContext => ∀ k value wasiThreadSpawn,
    s.calls (.thread k) ≠ some (value, .readFunction wasiThreadSpawn)
  | _ => True

/-! ## The end of the loop -/

/-- The invariant of a run in which the hosts are quiet. -/
structure CallsInvariant (host : ThreadHost) (s : ThreadedWclap) : Prop where
  table : TableInvariant host s
  /-- Only a thread that runs is in a call. -/
  running : ∀ k, s.calls (.thread k) ≠ none → s.phase k = some .running
  hosts : s.destructor ≠ .open_ → ∀ n, s.calls (.host n) = none
  ended : s.destructor = .closed → ∀ thread ∈ s.spawned, thread.phase = .ended

namespace CallsInvariant

variable {host : ThreadHost} {s t : ThreadedWclap}

/-- The loop waits for a thread that has not ended. -/
theorem not_closed (hs : CallsInvariant host s) {k : Nat} {phase : ThreadPhase}
    (hk : s.phase k = some phase) (hphase : phase ≠ .ended) : s.destructor ≠ .closed := by
  intro hclosed
  obtain ⟨thread, hthread, rfl⟩ := Option.map_eq_some_iff.mp hk
  exact hphase (hs.ended hclosed thread (List.mem_of_getElem? hthread))

/-- It waits for a caller. -/
theorem caller_not_closed (hs : CallsInvariant host s) {c : Caller}
    {call : WasmValue × SpawnStage} (hc : s.calls c = some call) : s.destructor ≠ .closed := by
  intro hclosed
  cases c with
  | host n =>
    have hidle := hs.hosts (by simp [hclosed]) n
    rw [hidle] at hc
    cases hc
  | thread k => exact hs.not_closed (hs.running k (by simp [hc])) (by simp) hclosed

/-- A call goes on, or ends. -/
theorem setCall (hs : CallsInvariant host s) {c : Caller} {call : WasmValue × SpawnStage}
    (hc : s.calls c = some call) (ht : TableInvariant host t)
    (hcalls : ∀ c', c' ≠ c → t.calls c' = s.calls c') (hdestructor : t.destructor = s.destructor)
    (hphase : ∀ k, s.phase k = some .running → t.phase k = some .running) :
    CallsInvariant host t where
  table := ht
  running k hk := by
    refine hphase k (hs.running k ?_)
    by_cases heq : .thread k = c
    · simp [heq, hc]
    · exact hcalls _ heq ▸ hk
  hosts hopen n := by
    rw [hdestructor] at hopen
    have hidle := hs.hosts hopen n
    rw [hcalls, hidle]
    rintro rfl
    simp [hidle] at hc
  -- the destructor still waits for the caller
  ended hclosed := absurd (hdestructor ▸ hclosed) (hs.caller_not_closed hc)

/-- A thread goes on which is not in a call. -/
theorem setPhase (hs : CallsInvariant host s) {k : Nat} {before phase : ThreadPhase}
    (hk : s.phase k = some before) (hbefore : before ≠ .ended)
    (hidle : before = .running → s.calls (.thread k) = none) (ht : TableInvariant host t)
    (hphase : ∀ j, t.phase j = (s.setPhase k phase).phase j) (hcalls : t.calls = s.calls)
    (hdestructor : t.destructor = s.destructor) : CallsInvariant host t where
  table := ht
  running j hj := by
    rw [hcalls] at hj
    have hrunning := hs.running j hj
    rw [hphase, ThreadedWclap.phase_setPhase]
    split
    next heq =>
      -- a thread that goes on in a call would have to be idle
      subst heq
      exact absurd (hidle (Option.some.inj (hk.symm.trans hrunning))) hj
    next => exact hrunning
  hosts hopen n := hcalls ▸ hs.hosts (hdestructor ▸ hopen) n
  ended hclosed := absurd (hdestructor ▸ hclosed) (hs.not_closed hk hbefore)

/-- What leaves the threads and their calls alone, but for calls that end. -/
theorem same (hs : CallsInvariant host s) (ht : TableInvariant host t)
    (hspawned : t.spawned = s.spawned)
    (hcalls : ∀ c, t.calls c = none ∨ t.calls c = s.calls c)
    (hdestructor : t.destructor = s.destructor) : CallsInvariant host t where
  table := ht
  running k hk := by
    unfold ThreadedWclap.phase
    rw [hspawned]
    exact hs.running k ((hcalls _).resolve_left hk ▸ hk)
  hosts hopen n := (hcalls _).elim id fun h => h.trans (hs.hosts (hdestructor ▸ hopen) n)
  ended hclosed := hspawned ▸ hs.ended (hdestructor ▸ hclosed)

end CallsInvariant

/-- A step keeps the invariant. -/
theorem step_callsInvariant {host : ThreadHost} {s t : ThreadedWclap} {a : ThreadAction}
    (hs : CallsInvariant host s) (ha : HostsQuiet s a) (ht : step host s a = some t) :
    CallsInvariant host t := by
  have htable := step_tableInvariant hs.table ht
  have hsetCall : ∀ c c' call, c' ≠ c → (s.setCall c call).calls c' = s.calls c' :=
    fun c c' call hne => if_neg hne
  have hanswer : ∀ c id c',
      (s.answer c id).calls c' = none ∨ (s.answer c id).calls c' = s.calls c' :=
    fun c id c' => by rw [ThreadedWclap.calls_answer]; split <;> simp
  cases ThreadedWclap.step_cases ht with
  | perform | init | endInit => exact hs.same htable rfl (fun _ => .inr rfl) rfl
  | testNull => exact hs.same htable rfl (hanswer _ _) rfl
  | @test c value hcan hidle =>
    refine ⟨htable, fun k hk => ?_, fun hopen n => ?_, hs.ended⟩
    · by_cases hc : .thread k = c
      · -- only a thread that runs can begin a call
        subst hc
        exact of_decide_eq_true hcan
      · exact hs.running k (hsetCall c _ _ hc ▸ hk)
    · -- the host begins no call now
      rw [hsetCall c, hs.hosts hopen n]
      rintro rfl
      exact hopen ha
  | readFunction hc | readContext hc | enter hc | enterError hc | spawnFailed hc =>
    exact hs.setCall hc htable (fun c' => hsetCall _ c' _) rfl fun _ h => h
  | spawn hc =>
    refine hs.setCall hc htable (fun c' => hsetCall _ c' _) rfl fun k hk => ?_
    obtain ⟨thread, hthread, hrunning⟩ := Option.map_eq_some_iff.mp hk
    have hlt := (List.getElem?_eq_some_iff.mp hthread).1
    exact Option.map_eq_some_iff.mpr
      ⟨thread, (List.getElem?_append_left hlt).trans hthread, hrunning⟩
  | startUp hk hphase =>
    have hcreated : s.phase _ = some .created := Option.map_eq_some_iff.mpr ⟨_, hk, hphase⟩
    exact hs.setPhase hcreated (by simp) (by simp) htable (ThreadedWclap.phase_set rfl hk) rfl rfl
  | refused hphase | noStart _ hphase | start hphase | refuse hphase =>
    exact hs.setPhase hphase (by simp) (by simp) htable (fun _ => rfl) rfl rfl
  | return_ outcome hphase hidle =>
    exact hs.setPhase hphase (by simp) (fun _ => hidle) htable (fun _ => rfl) rfl rfl
  | finish hk hphase =>
    have hreturned : s.phase _ = some .returned := Option.map_eq_some_iff.mpr ⟨_, hk, hphase⟩
    exact hs.setPhase hreturned (by simp) (by simp) htable (fun _ => rfl) rfl rfl
  | clearFunction => exact ⟨htable, hs.running, fun _ => ha, fun hclosed => nomatch hclosed⟩
  | clearContext hclearing =>
    exact ⟨htable, hs.running, fun _ => hs.hosts (by simp [hclearing]),
      fun hclosed => nomatch hclosed⟩
  | wait hwaiting =>
    refine ⟨htable, fun k hk => checkThreadsStopped_phase s k ▸ hs.running k hk,
      fun _ => hs.hosts (by simp [hwaiting]), fun hclosed => ?_⟩
    exact nomatch hwaiting.symm.trans hclosed
  | stopped hwaiting =>
    -- this is the end of the loop
    exact ⟨htable, fun k hk => checkThreadsStopped_phase s k ▸ hs.running k hk,
      fun _ => hs.hosts (by simp [hwaiting]),
      fun hclosed => hs.table.waitsForAll _ ht (by simp [hwaiting]) hclosed⟩

theorem begin_callsInvariant (host : ThreadHost) (is64 shared : Bool) (setup : SetupOutcome)
    (grow : HostFunction → GrowOutcome) :
    CallsInvariant host (ThreadedWclap.begin is64 shared setup grow) :=
  ⟨begin_tableInvariant host is64 shared setup grow, fun _ h => absurd rfl h, fun _ _ => rfl,
    fun h => nomatch h⟩

theorem CallsInvariant.emptyWhenClosed {host : ThreadHost} {s : ThreadedWclap}
    (hs : CallsInvariant host s) : EmptyWhenClosed s := by
  intro hclosed slot pointer hslot
  obtain ⟨k, thread, hk, hlive, -⟩ := hs.table.slots.occupied slot pointer hslot
  have hended := hs.ended hclosed thread (List.mem_of_getElem? hk)
  simp [SpawnedThread.live, hended] at hlive

/-! ## Keeping out of the calls -/

/-- What a call has seen is there, or has been read. -/
def Seen (s : ThreadedWclap) : SpawnStage → Prop
  | .tested => s.wclap.wasiThreadSpawn = true
  | .readFunction wasiThreadSpawn => wasiThreadSpawn = true ∧ s.wasiThreadSpawnContext = true
  | .readContext wasiThreadSpawn wasiThreadSpawnContext =>
    wasiThreadSpawn = true ∧ wasiThreadSpawnContext = true
  | .entered => True

/-- The invariant of a run in which the destructor keeps out of the calls. -/
structure ClearInvariant (s : ThreadedWclap) : Prop where
  set : s.wclap.wasiThreadSpawn = true → s.wasiThreadSpawnContext = true
  cleared : s.destructor ≠ .open_ → s.wclap.wasiThreadSpawn = false
  seen : ∀ k value stage, s.calls (.thread k) = some (value, stage) → Seen s stage

theorem ClearInvariant.same {s t : ThreadedWclap} (hs : ClearInvariant s)
    (hfunction : t.wclap.wasiThreadSpawn = s.wclap.wasiThreadSpawn)
    (hcontext : t.wasiThreadSpawnContext = s.wasiThreadSpawnContext)
    (hdestructor : t.destructor ≠ .open_ → s.destructor ≠ .open_)
    (hcalls : ∀ k value stage, t.calls (.thread k) = some (value, stage) →
      s.calls (.thread k) = some (value, stage) ∨ Seen s stage) : ClearInvariant t where
  set h := hcontext ▸ hs.set (hfunction ▸ h)
  cleared h := hfunction ▸ hs.cleared (hdestructor h)
  seen k value stage hk := by
    have hseen := (hcalls k value stage hk).elim (hs.seen k value stage) id
    cases stage with
    | tested => exact hfunction.trans hseen
    | readFunction wasiThreadSpawn => exact hseen.imp_right hcontext.trans
    | readContext | entered => exact hseen

/-- A thread's call goes on with what it has seen. -/
theorem calls_of_setCall {s : ThreadedWclap} {c : Caller} {value : WasmValue} {stage : SpawnStage}
    (hstage : ∀ k, c = .thread k → Seen s stage) (k : Nat) (value' : WasmValue)
    (stage' : SpawnStage)
    (hk : (s.setCall c (some (value, stage))).calls (.thread k) = some (value', stage')) :
    s.calls (.thread k) = some (value', stage') ∨ Seen s stage' := by
  rw [ThreadedWclap.calls_setCall] at hk
  split at hk
  next heq => cases hk; exact .inr (hstage k heq.symm)
  next => exact .inl hk

theorem calls_of_answer {s t : ThreadedWclap} {c : Caller}
    (ht : t.calls = (s.setCall c none).calls) (k : Nat) (value : WasmValue) (stage : SpawnStage)
    (hk : t.calls (.thread k) = some (value, stage)) :
    s.calls (.thread k) = some (value, stage) ∨ Seen s stage := by
  rw [ht, ThreadedWclap.calls_setCall] at hk
  split at hk
  next => cases hk
  next => exact .inl hk

/-- A step keeps the invariant. -/
theorem step_clearInvariant {host : ThreadHost} {s t : ThreadedWclap} {a : ThreadAction}
    (hs : ClearInvariant s) (ha : ClearsOutside s a) (ht : step host s a = some t) :
    ClearInvariant t := by
  have hsame : ∀ k value stage, s.calls (.thread k) = some (value, stage) →
      s.calls (.thread k) = some (value, stage) ∨ Seen s stage := fun _ _ _ => .inl
  cases ThreadedWclap.step_cases ht with
  | perform env hr =>
    exact hs.same (s.wclap.perform_keepsThreads env hr).wasiThreadSpawn rfl id hsame
  | test hcan hidle hvalue hset => exact hs.same rfl rfl id (calls_of_setCall fun _ _ => hset)
  | readFunction hc =>
    refine hs.same rfl rfl id (calls_of_setCall ?_)
    rintro k rfl
    -- the second read finds what the look has found
    have hset : s.wclap.wasiThreadSpawn = true := hs.seen k _ _ hc
    exact ⟨hset, hs.set hset⟩
  | readContext hc =>
    refine hs.same rfl rfl id (calls_of_setCall ?_)
    rintro k rfl
    have hseen := hs.seen k _ _ hc
    exact hseen
  | testNull | enterError => exact hs.same rfl rfl id (calls_of_answer rfl)
  | enter hc => exact hs.same rfl rfl id (calls_of_setCall fun _ _ => trivial)
  | spawnFailed hc hlock h =>
    exact hs.same (WclapModule.spawnLocked_none h).wasiThreadSpawn rfl id (calls_of_answer rfl)
  | spawn hc hlock h =>
    exact hs.same (WclapModule.spawnLocked_some h).2.2.2.2 rfl id (calls_of_answer rfl)
  | clearFunction =>
    refine ⟨fun h => Bool.noConfusion h, fun _ => rfl, fun k value stage hk => ?_⟩
    have hseen := hs.seen k value stage hk
    -- only a call that has yet to read the function depends on it
    cases stage with
    | tested => exact absurd hk (ha k value)
    | _ => exact hseen
  | clearContext hclearing =>
    have hcleared := hs.cleared (by simp [hclearing])
    refine ⟨fun h => absurd h (by simp [hcleared]), fun _ => hcleared, fun k value stage hk => ?_⟩
    have hseen := hs.seen k value stage hk
    cases stage with
    | tested => exact absurd hseen (by simp [Seen, hcleared])
    | readFunction wasiThreadSpawn => exact absurd hk (ha k value wasiThreadSpawn)
    | _ => exact hseen
  | wait hwaiting => exact hs.same rfl rfl id hsame
  | stopped hwaiting => exact hs.same rfl rfl (fun _ => by simp [hwaiting]) hsame
  | _ => exact hs.same rfl rfl id hsame

theorem begin_clearInvariant (is64 shared : Bool) (setup : SetupOutcome)
    (grow : HostFunction → GrowOutcome) :
    ClearInvariant (ThreadedWclap.begin is64 shared setup grow) :=
  ⟨fun h => (WclapModule.construct_wasiThreadSpawn ..).symm.trans h, fun h => absurd rfl h,
    fun _ _ _ h => nomatch h⟩

/-- A spawn that returns without a call has found a null pointer. -/
theorem answer_failed {host : ThreadHost} {s t : ThreadedWclap} {a : ThreadAction} {c : Caller}
    {id : Int32} (ht : step host s a = some t) (hanswer : t.answers = s.answers ++ [(c, id)]) :
    (∃ value, s.calls c = some (value, .entered)) ∨ id = -1 := by
  have hsame : s.answers ≠ s.answers ++ [(c, id)] := by simp
  cases ThreadedWclap.step_cases ht with
  | testNull | enterError | spawnFailed =>
    cases List.append_cancel_left hanswer
    exact .inr rfl
  | spawn hc =>
    cases List.append_cancel_left hanswer
    exact .inl ⟨_, hc⟩
  | _ => exact absurd hanswer hsame

theorem ClearInvariant.spawnSafe {host : ThreadHost} {s : ThreadedWclap} {a : ThreadAction}
    (hs : ClearInvariant s) (hcalls : CallsInvariant host s) : SpawnSafe host s a where
  call k _ _ _ _ hk :=
    have hseen := hs.seen k _ _ hk
    ⟨hseen.1, hseen.2, hcalls.caller_not_closed hk⟩
  failed _ _ _ ht hanswer := answer_failed ht hanswer

/-- Threads of the guest spawn others safely while the module closes, if its
    destructor keeps out of the calls; and no thread is left, or comes, after it
    has waited for all of them. -/
theorem spawnSafe_of_clearsOutside (host : ThreadHost) (is64 shared : Bool)
    (setup : SetupOutcome) (grow : HostFunction → GrowOutcome) (as : List ThreadAction)
    (hquiet : Steps (step host) HostsQuiet (ThreadedWclap.begin is64 shared setup grow) as)
    (hclears : Steps (step host) ClearsOutside (ThreadedWclap.begin is64 shared setup grow) as) :
    Steps (step host) (SpawnSafe host) (ThreadedWclap.begin is64 shared setup grow) as ∧
      States (step host) EmptyWhenClosed (ThreadedWclap.begin is64 shared setup grow) as := by
  have hcalls : States (step host) (CallsInvariant host) _ as :=
    .of_steps _ (fun s a t hs ha ht => step_callsInvariant hs ha ht)
      (begin_callsInvariant host is64 shared setup grow) hquiet
  have hclear : States (step host) ClearInvariant _ as :=
    .of_steps _ (fun s a t hs ha ht => step_clearInvariant hs ha ht)
      (begin_clearInvariant is64 shared setup grow) hclears
  exact ⟨.of_states (fun s a hs => hs.1.spawnSafe hs.2) (hclear.and hcalls),
    hcalls.mono fun s hs => hs.emptyWhenClosed⟩

/-! ## Two threads and a destructor -/

/-- A system that runs three threads at a time. -/
private def smallHost : ThreadHost :=
  ⟨.function, 3, by decide⟩

/-- The host has spawned a thread, which runs. -/
private def threadRuns : List ThreadAction :=
  [.beginInit, .endInit (.entry true 16), .test (.host 0) (.i32 5), .readFunction (.host 0),
    .readContext (.host 0), .enter (.host 0), .spawn (.host 0) (.ready [.null]) fun _ => .grown,
    .startUp 0, .runThread 0]

/-- The module closes after the thread has read what it calls. -/
theorem spawnSafe_after_reads :
    Steps (step smallHost) (SpawnSafe smallHost)
        (ThreadedWclap.begin false true (.ready [.null]) fun _ => .grown)
        (threadRuns ++ [.test (.thread 0) (.i32 7), .readFunction (.thread 0),
          .readContext (.thread 0), .clearFunction, .enter (.thread 0), .clearContext, .poll]) ∧
      States (step smallHost) EmptyWhenClosed
        (ThreadedWclap.begin false true (.ready [.null]) fun _ => .grown)
        (threadRuns ++ [.test (.thread 0) (.i32 7), .readFunction (.thread 0),
          .readContext (.thread 0), .clearFunction, .enter (.thread 0), .clearContext, .poll]) := by
  refine spawnSafe_of_clearsOutside smallHost false true _ _ _ ?_ ?_
  · refine .cons trivial rfl <| .cons trivial rfl <| .cons rfl rfl <| .cons trivial rfl <|
      .cons trivial rfl <| .cons trivial rfl <| .cons trivial rfl <| .cons trivial rfl <|
      .cons trivial rfl <| .cons trivial rfl <| .cons trivial rfl <| .cons trivial rfl <|
      .cons ?_ rfl <| .cons trivial rfl <| .cons trivial rfl <| .cons trivial rfl trivial
    intro n
    cases n <;> rfl
  · refine .cons trivial rfl <| .cons trivial rfl <| .cons trivial rfl <| .cons trivial rfl <|
      .cons trivial rfl <| .cons trivial rfl <| .cons trivial rfl <| .cons trivial rfl <|
      .cons trivial rfl <| .cons trivial rfl <| .cons trivial rfl <| .cons trivial rfl <|
      .cons ?_ rfl <| .cons trivial rfl <| .cons ?_ rfl <| .cons trivial rfl trivial
    · intro k value
      cases k <;> exact fun h => nomatch h
    · intro k value wasiThreadSpawn
      cases k <;> exact fun h => nomatch h

/-- The module closes while the thread is between its look and its reads. -/
private def closesMeanwhile : List ThreadAction :=
  threadRuns ++ [.test (.thread 0) (.i32 7), .clearFunction, .readFunction (.thread 0),
    .readContext (.thread 0)]

/-- Then it calls the null pointer. -/
theorem spawn_calls_null :
    ¬ ∀ as, Steps (step smallHost) HostsQuiet
        (ThreadedWclap.begin false true (.ready [.null]) fun _ => .grown) as →
      Steps (step smallHost) (SpawnSafe smallHost)
          (ThreadedWclap.begin false true (.ready [.null]) fun _ => .grown) as ∧
        States (step smallHost) EmptyWhenClosed
          (ThreadedWclap.begin false true (.ready [.null]) fun _ => .grown) as := by
  intro hsafe
  have hquiet : Steps (step smallHost) HostsQuiet
      (ThreadedWclap.begin false true (.ready [.null]) fun _ => .grown)
      (closesMeanwhile ++ [.enter (.thread 0)]) := by
    refine .cons trivial rfl <| .cons trivial rfl <| .cons rfl rfl <| .cons trivial rfl <|
      .cons trivial rfl <| .cons trivial rfl <| .cons trivial rfl <| .cons trivial rfl <|
      .cons trivial rfl <| .cons trivial rfl <| .cons ?_ rfl <| .cons trivial rfl <|
      .cons trivial rfl ⟨trivial, fun _ _ => trivial⟩
    intro n
    cases n <;> rfl
  have hread : ∃ t, closesMeanwhile.foldlM (step smallHost)
      (ThreadedWclap.begin false true (.ready [.null]) fun _ => .grown) = some t ∧
      t.calls (.thread 0) = some (.i32 7, .readContext false true) :=
    ⟨_, rfl, rfl⟩
  obtain ⟨t, ht, hcall⟩ := hread
  exact Bool.noConfusion (((hsafe _ hquiet).1.last ht).call 0 _ _ _ rfl hcall).1

end WclapBridge.Spec
