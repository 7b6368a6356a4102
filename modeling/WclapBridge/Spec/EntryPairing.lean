import WclapBridge.ForStd.Transition
import WclapBridge.Native.WclapClose

/-!
# `clap_entry.init` and `clap_entry.deinit`

`wclap_open` calls `clap_entry.init`, and `wclap_close` is to call
`clap_entry.deinit`. It does not.

## Key results

- `callsOk_step`: the constructor alone calls `clap_entry.init`, and nothing calls
  `clap_entry.deinit`
- `init_once`: `clap_entry.init` is called once at most
- `paired_iff`: so the calls are right for the WCLAPs whose `clap_entry.init` did
  not return `true`, and for no others
- `close_without_deinit`: one of the others
-/

namespace WclapBridge.Spec

open WclapBridge.Native
open WclapModule (main)
open WclapLifetime (step)

/-! ## The guest calls of a WCLAP -/

/-- `clap_entry.init` has returned `true`. -/
def InitReturnedTrue (calls : List GuestCall) : Prop :=
  ∃ call ∈ calls, call.function = .clap_entry .init ∧ call.result ≠ 0

def deinits (calls : List GuestCall) : Nat :=
  calls.countP (·.function = .clap_entry .deinit)

/-- `clap_entry.deinit` was called once and last for a WCLAP that has been initialised, and not
    at all for any other. -/
structure Paired (calls : List GuestCall) : Prop where
  deinitOnce : InitReturnedTrue calls → deinits calls = 1
  /-- It is in `wclap_close` and after all other calls on the main instance. -/
  deinitLast : InitReturnedTrue calls → ∃ before call after, calls = before ++ call :: after ∧
    call.function = .clap_entry .deinit ∧ call.closing = true ∧
    ∀ later ∈ after, later.instance_ ≠ main
  noDeinit : ¬ InitReturnedTrue calls → deinits calls = 0

/-! ## The constructor -/

/-- A call by a pointer. -/
def isCall : Request → Bool
  | .call _ => true
  | _ => false

theorem ask_atMost {r : Request} (hr : isCall r = false) : (Requests.ask_ r).AtMost isCall 0 :=
  ⟨by rw [hr]; exact Nat.le_refl 0, fun _ => trivial⟩

theorem copyAcross_atMost : Requests.copyAcross.AtMost isCall 0 :=
  .bind (m := 0) (n := 0) (ask_atMost rfl) fun _ => ask_atMost rfl

theorem bindGlobalArena_atMost : Requests.bindGlobalArena.AtMost isCall 0 :=
  .bind (m := 0) (n := 0) (.times copyAcross_atMost 20) fun _ => .times copyAcross_atMost 5

theorem call_atMost (i : Nat) : (Requests.call i).AtMost isCall 1 :=
  .bind (m := 0) (n := 1) (ask_atMost rfl) fun _ => ⟨Nat.le_refl 1, fun _ => trivial⟩

/-- The constructor makes one such call. -/
theorem construct_atMost : Requests.construct.AtMost isCall 1 := by
  refine .bind (m := 0) (n := 1) ⟨Nat.le_refl 0, fun _ => trivial⟩ fun entryPtr => ?_
  split
  next => exact .bind (m := 0) (n := 1) (ask_atMost rfl) fun _ => trivial
  next =>
    refine .bind (m := 0) (n := 1) bindGlobalArena_atMost fun _ => ?_
    refine .bind (m := 0) (n := 1) copyAcross_atMost fun _ => ?_
    refine .bind (m := 0) (n := 1) (ask_atMost rfl) fun _ => ?_
    refine .bind (m := 1) (n := 0) (call_atMost main) fun ok => ?_
    split
    next => exact .bind (m := 0) (n := 0) (ask_atMost rfl) fun _ => trivial
    next => exact .bind (m := 0) (n := 0) (ask_atMost rfl) fun _ => trivial

/-! ## Calls -/

/-- No operation calls the two functions. -/
theorem callee_ne (op : Operation) (n : Nat) :
    op.callee n ≠ .clap_entry .init ∧ op.callee n ≠ .clap_entry .deinit := by
  unfold Operation.callee
  split <;> decide

/-- A function of the entry is called by its pointer. -/
theorem mem_requestCalls {m : WclapModule} {callee : GuestFunction} {closing : Bool}
    {env : Environment} {r : Request} {call : GuestCall} {field : EntryFunction}
    (hcall : call ∈ m.requestCalls callee closing env r)
    (hfield : call.function = .clap_entry field) :
    callee = .clap_entry field ∧ isCall r = true := by
  have hguest {effects : List Effect} {other : GuestCall}
      (h : call ∈ guestCalls effects other) : call = other := by
    unfold guestCalls at h
    split at h
    next => exact List.mem_singleton.mp h
    next => cases h
  unfold WclapModule.requestCalls at hcall
  dsimp only at hcall
  split at hcall
  next => exact ⟨(congrArg GuestCall.function (hguest hcall)).symm.trans hfield, rfl⟩
  next => cases (congrArg GuestCall.function (hguest hcall)).symm.trans hfield
  next => cases (congrArg GuestCall.function (hguest hcall)).symm.trans hfield
  next => cases (congrArg GuestCall.function (hguest hcall)).symm.trans hfield
  next =>
    split at hcall
    next => cases (congrArg GuestCall.function (hguest hcall)).symm.trans hfield
    next => cases hcall
  all_goals cases hcall

theorem requestCalls_length (m : WclapModule) (callee : GuestFunction) (closing : Bool)
    (env : Environment) (r : Request) : (m.requestCalls callee closing env r).length ≤ 1 := by
  have hguest (effects : List Effect) (call : GuestCall) :
      (guestCalls effects call).length ≤ 1 := by
    unfold guestCalls
    split
    next => exact Nat.le_refl 1
    next => exact Nat.zero_le 1
  unfold WclapModule.requestCalls
  dsimp only
  split
  iterate 4 next => exact hguest _ _
  next =>
    split
    next => exact hguest _ _
    next => exact Nat.zero_le 1
  all_goals exact Nat.zero_le 1

def inits (calls : List GuestCall) : Nat :=
  calls.countP (·.function = .clap_entry .init)

theorem inits_append (calls more : List GuestCall) :
    inits (calls ++ more) = inits calls + inits more :=
  List.countP_append

theorem deinits_append (calls more : List GuestCall) :
    deinits (calls ++ more) = deinits calls + deinits more :=
  List.countP_append

theorem inits_eq_zero {calls : List GuestCall}
    (h : ∀ call ∈ calls, call.function ≠ .clap_entry .init) : inits calls = 0 :=
  List.countP_eq_zero.mpr fun call hcall => by simp [h call hcall]

theorem deinits_eq_zero {calls : List GuestCall}
    (h : ∀ call ∈ calls, call.function ≠ .clap_entry .deinit) : deinits calls = 0 :=
  List.countP_eq_zero.mpr fun call hcall => by simp [h call hcall]

/-- Only a call by a pointer can be one of `clap_entry.init`. -/
theorem inits_requestCalls (m : WclapModule) (callee : GuestFunction) (closing : Bool)
    (env : Environment) (r : Request) :
    inits (m.requestCalls callee closing env r) ≤ (isCall r).toNat := by
  cases hr : isCall r with
  | true => exact Nat.le_trans List.countP_le_length (requestCalls_length m callee closing env r)
  | false =>
    refine Nat.le_of_eq (inits_eq_zero fun call hcall hinit => ?_)
    rw [(mem_requestCalls hcall hinit).2] at hr
    cases hr

/-! ## The invariant -/

/-- What holds of the tasks and of the calls so far: the first task, which is the
    constructor, has yet to call `clap_entry.init`, or it has called it. -/
structure CallsOk (tasks : List Task) (taskCalls : List TaskCalls) (calls : List GuestCall) :
    Prop where
  tasks_ne : tasks ≠ []
  construct : ∀ task, tasks[0]? = some task → task.program.AtMost isCall (1 - inits calls)
  once : inits calls ≤ 1
  callee : ∀ i c n, taskCalls[i]? = some c →
    (i ≠ 0 → c.callee n ≠ .clap_entry .init) ∧ c.callee n ≠ .clap_entry .deinit
  noDeinit : deinits calls = 0

variable {tasks : List Task} {taskCalls : List TaskCalls} {calls more : List GuestCall}

/-- Other calls are made. -/
theorem CallsOk.append (hs : CallsOk tasks taskCalls calls)
    (hmore : ∀ call ∈ more, ∀ field, call.function ≠ .clap_entry field) :
    CallsOk tasks taskCalls (calls ++ more) := by
  have hinits : inits (calls ++ more) = inits calls := by
    rw [inits_append, inits_eq_zero fun call hcall => hmore call hcall .init, Nat.add_zero]
  refine ⟨hs.tasks_ne, ?_, ?_, hs.callee, ?_⟩
  · rw [hinits]
    exact hs.construct
  · rw [hinits]
    exact hs.once
  · rw [deinits_append, hs.noDeinit, deinits_eq_zero fun call hcall => hmore call hcall .deinit]

/-- An operation begins. -/
theorem CallsOk.start (hs : CallsOk tasks taskCalls calls) (task : Task) (op : Operation) :
    CallsOk (tasks ++ [task]) (taskCalls ++ [.operation op]) calls where
  tasks_ne := List.append_ne_nil_of_left_ne_nil hs.tasks_ne _
  construct first hfirst := by
    rw [List.getElem?_append_left (List.length_pos_iff.mpr hs.tasks_ne)] at hfirst
    exact hs.construct first hfirst
  once := hs.once
  callee i c n hc := by
    rw [List.getElem?_append] at hc
    split at hc
    next => exact hs.callee i c n hc
    next =>
      obtain rfl := List.mem_singleton.mp (List.mem_of_getElem? hc)
      exact ⟨fun _ => (callee_ne op n).1, (callee_ne op n).2⟩
  noDeinit := hs.noDeinit

/-- Tasks go on with the same functions. -/
theorem modify_answered {i j : Nat} {r : Request} {c : TaskCalls}
    (h : (taskCalls.modify i (·.answered r))[j]? = some c) :
    ∃ before, taskCalls[j]? = some before ∧ c.callee = before.callee := by
  rw [List.getElem?_modify] at h
  obtain ⟨before, hbefore, rfl⟩ := Option.map_eq_some_iff.mp h
  refine ⟨before, hbefore, ?_⟩
  split
  next => cases r <;> rfl
  next => rfl

/-- A request is answered. -/
theorem CallsOk.answer (hs : CallsOk tasks taskCalls calls) {i : Nat} {late needsGuest : Bool}
    {r : Request} {next : UInt64 → Requests UInt64}
    (hi : tasks[i]? = some ⟨late, needsGuest, .request r next⟩) (x : UInt64)
    (hinit : inits more ≤ (isCall r).toNat) (hothers : i ≠ 0 → inits more = 0)
    (hdeinit : deinits more = 0) :
    CallsOk (tasks.set i ⟨late, needsGuest, next x⟩) (taskCalls.modify i (·.answered r))
      (calls ++ more) where
  tasks_ne h := by simp_all [hs.tasks_ne]
  construct task htask := by
    have honce := hs.once
    rw [inits_append]
    -- only the constructor uses up the call that it may make
    by_cases h0 : i = 0
    · subst h0
      obtain ⟨hcalls, hnext⟩ := hs.construct _ hi
      rw [List.getElem?_set_self (List.getElem?_eq_some_iff.mp hi).1] at htask
      cases htask
      exact (hnext x).mono (by omega)
    · rw [List.getElem?_set_ne h0] at htask
      rw [hothers h0]
      exact hs.construct task htask
  once := by
    have honce := hs.once
    rw [inits_append]
    by_cases h0 : i = 0
    · subst h0
      have hcalls := (hs.construct _ hi).1
      omega
    · rw [hothers h0]
      exact honce
  callee j c n hc := by
    obtain ⟨before, hbefore, hcallee⟩ := modify_answered hc
    rw [hcallee]
    exact hs.callee j before n hbefore
  noDeinit := by rw [deinits_append, hs.noDeinit, hdeinit]

/-! ## Runs -/

/-- A call that is none of `clap_entry`. -/
theorem guestCalls_other {effects : List Effect} {call : GuestCall}
    (h : ∀ field, call.function ≠ .clap_entry field) :
    ∀ c ∈ guestCalls effects call, ∀ field, c.function ≠ .clap_entry field := by
  intro c hc
  unfold guestCalls at hc
  split at hc
  next =>
    obtain rfl := List.mem_singleton.mp hc
    exact h
  next => cases hc

def LifetimeOk (s : WclapLifetime) : Prop :=
  CallsOk s.openWclap.tasks s.taskCalls s.calls

theorem lifetimeOk_begin (is64 shared : Bool) (setup : SetupOutcome)
    (grow : HostFunction → GrowOutcome) :
    LifetimeOk (.begin is64 shared setup grow) := by
  have hfirst (goesOn : Bool) :
      (if goesOn then Requests.construct else pure 0).AtMost isCall 1 := by
    cases goesOn
    · exact trivial
    · exact construct_atMost
  have hempty : CallsOk (OpenWclap.begin is64 shared setup grow).tasks [.construct] [] := by
    refine ⟨List.cons_ne_nil _ _, fun task htask => ?_, Nat.zero_le 1, fun i c n hc => ?_, rfl⟩
    · cases htask
      exact hfirst _
    · obtain ⟨rfl, rfl⟩ : i = 0 ∧ TaskCalls.construct = c := by
        simpa [List.getElem?_singleton] using hc
      exact ⟨(absurd rfl ·), (nomatch ·)⟩
  exact hempty.append (guestCalls_other fun _ h => nomatch h)

theorem lifetimeOk_answer {s : WclapLifetime} (hs : LifetimeOk s) {i : Nat}
    {late needsGuest : Bool} {r : Request} {next : UInt64 → Requests UInt64} (env : Environment)
    (hi : s.openWclap.tasks[i]? = some ⟨late, needsGuest, .request r next⟩) (x : UInt64) :
    CallsOk (s.openWclap.tasks.set i ⟨late, needsGuest, next x⟩)
      (s.actionTasks (.answer i env)) (s.calls ++ s.actionCalls (.answer i env)) := by
  simp only [WclapLifetime.actionTasks, WclapLifetime.actionCalls, hi]
  cases hc : s.taskCalls[i]? with
  | none => exact hs.answer hi x (Nat.zero_le _) (fun _ => rfl) rfl
  | some c =>
    have hcallee := hs.callee i c c.count hc
    -- a function of the entry would have to be the callee
    refine hs.answer hi x (inits_requestCalls _ _ _ _ _) (fun h0 => ?_) ?_
    · exact inits_eq_zero fun call hcall hinit => hcallee.1 h0 (mem_requestCalls hcall hinit).1
    · exact deinits_eq_zero fun call hcall hdeinit => hcallee.2 (mem_requestCalls hcall hdeinit).1

theorem lifetimeOk_step {s t : WclapLifetime} {a : LifetimeAction} (hs : LifetimeOk s)
    (h : step s a = some t) : LifetimeOk t := by
  cases a with
  | action a =>
    simp only [step] at h
    split at h
    next =>
      obtain ⟨openWclap, hstep, rfl⟩ := Option.map_eq_some_iff.mp h
      have hother : LifetimeOk { s with calls := s.calls ++ [] } := by
        rw [List.append_nil]
        exact hs
      -- only a request that is answered, and a new thread, call guest functions
      cases OpenWclap.step_cases hstep with
      | getError | growTable | setEntry => exact hother
      | start op => exact hother.start _ op
      | answer env hi => exact lifetimeOk_answer hs env hi _
      | spawnThread env => exact hs.append (guestCalls_other fun _ h => nomatch h)
    next => cases h
  | wclap_close | threadsStopped | closed =>
    simp only [step] at h
    split at h
    next =>
      cases h
      exact hs
    next => cases h
  | release outcome =>
    simp only [step] at h
    split at h
    next =>
      cases h
      exact hs.append (guestCalls_other fun _ h => nomatch h)
    next => cases h

/-- In every run, `clap_entry.init` is called once at most. -/
theorem init_once (is64 shared : Bool) (setup : SetupOutcome) (grow : HostFunction → GrowOutcome)
    (run : List LifetimeAction) :
    States step (fun s => inits s.calls ≤ 1) (.begin is64 shared setup grow) run :=
  (States.of_invariant LifetimeOk (fun _ _ _ => lifetimeOk_step)
    (lifetimeOk_begin is64 shared setup grow)).mono fun _ hs => hs.once

/-- The calls are right without `clap_entry.deinit` unless `clap_entry.init` has
    returned `true`. -/
theorem LifetimeOk.paired {s : WclapLifetime} (hs : LifetimeOk s) :
    Paired s.calls ↔ ¬ InitReturnedTrue s.calls := by
  constructor
  · intro h hinit
    have hdeinit := h.deinitOnce hinit
    rw [hs.noDeinit] at hdeinit
    cases hdeinit
  · intro h
    exact ⟨(absurd · h), (absurd · h), fun _ => hs.noDeinit⟩

/-- In every run, the calls of a WCLAP that has been closed are right if and only if
    `clap_entry.init` did not return `true`. -/
theorem paired_iff (is64 shared : Bool) (setup : SetupOutcome)
    (grow : HostFunction → GrowOutcome) (run : List LifetimeAction) :
    States step (fun s => s.stage = .closed → (Paired s.calls ↔ ¬ InitReturnedTrue s.calls))
      (.begin is64 shared setup grow) run :=
  (States.of_invariant LifetimeOk (fun _ _ _ => lifetimeOk_step)
    (lifetimeOk_begin is64 shared setup grow)).mono fun _ hs _ => hs.paired

/-- A WCLAP is opened and closed. -/
private def openAndClose : List LifetimeAction :=
  List.replicate 57 (.action (.answer 0 .calm)) ++ [.wclap_close, .threadsStopped, .closed]

/-- `clap_entry.init` has returned `true`, and `wclap_close` does not call
    `clap_entry.deinit`. -/
theorem close_without_deinit :
    ¬ States step (fun s => s.stage = .closed → Paired s.calls)
      (.begin false true (.ready [.null]) fun _ => .grown) openAndClose := by
  intro hstates
  have hclosed : ∃ t, openAndClose.foldlM step
      (.begin false true (.ready [.null]) fun _ => .grown) = some t ∧ t.stage = .closed ∧
      t.calls = [⟨.start, main, 0, false⟩, ⟨.wasiInit, main, 0, false⟩,
        ⟨.clap_entry .init, main, 1, false⟩] :=
    ⟨_, rfl, rfl, rfl⟩
  obtain ⟨t, ht, hstage, hcalls⟩ := hclosed
  have hpaired := hstates.at_end ht hstage
  rw [hcalls] at hpaired
  have hdeinit := hpaired.deinitOnce ⟨⟨.clap_entry .init, main, 1, false⟩, by simp, rfl, by decide⟩
  exact absurd hdeinit (by decide)

end WclapBridge.Spec
