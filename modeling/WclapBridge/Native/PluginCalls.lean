import WclapBridge.ForStd.LockOrder
import WclapBridge.Native.Events

/-!
# Calls of a plugin

The methods of `Plugin` that hand host objects to the guest keep them in fields
of the plugin while the guest's function runs, and hold a mutex for these
fields. The guest reaches the objects through functions of the bridge, which
take the same mutex. `InstanceImpl::wtCall` holds another one.

Any number of host threads call one plugin. A step of a run is what one of them
does between two points at which it may have to wait or guest code may run.
-/

namespace WclapBridge.Native

variable {is64 : Bool}

/-- The fields of `Plugin` that a call sets for the guest. A stream of the host
    is identified by a number. -/
structure PluginSlots (is64 : Bool) extends PluginEvents is64 where
  hostIstream : Option Nat
  hostOstream : Option Nat

/-- The mutexes of a plugin and of the instance of its main thread. -/
inductive HostLock where
  | hostEventsMutex
  | hostStreamsMutex
  | callMutex
  deriving DecidableEq

/-- The fields for host objects. -/
inductive HostSlot where
  | hostOutputEvents
  | hostIstream
  | hostOstream
  deriving DecidableEq

/-- The mutex for a field. -/
def HostSlot.lock : HostSlot → HostLock
  | hostOutputEvents => .hostEventsMutex
  | hostIstream | hostOstream => .hostStreamsMutex

/-- What is in a field. -/
def PluginSlots.get (p : PluginSlots is64) : HostSlot → Option Nat
  | .hostOutputEvents => p.hostOutputEvents
  | .hostIstream => p.hostIstream
  | .hostOstream => p.hostOstream

/-- A call of the host, by the method of `Plugin` and the host objects it is
    given. -/
inductive PluginCall where
  | pluginProcess (in_events : ClapInputEvents) (out_events : Option Nat)
  | pluginOnMainThread
  | params_flush (eventsIn : ClapInputEvents) (eventsOut : Option Nat)
  | stateContext_save (stream : Option Nat)
  | stateContext_load (stream : Option Nat)
  | state_save (stream : Option Nat)
  | state_load (stream : Option Nat)
  /-- With what it finds in `wasFileUri`. -/
  | webview_get_resource (wasFileUri : Bool) (ostream : Option Nat)
  | webview_receive

namespace PluginCall

/-- The host's input events. -/
def eventsIn : PluginCall → Option ClapInputEvents
  | pluginProcess eventsIn _ | params_flush eventsIn _ => some eventsIn
  | _ => none

/-- The host object for the guest's output, or its stream. -/
def object : PluginCall → Option Nat
  | pluginProcess _ object | params_flush _ object | stateContext_save object
  | stateContext_load object | state_save object | state_load object
  | webview_get_resource _ object => object
  | pluginOnMainThread | webview_receive => none

/-- The field which the call sets. -/
def slot : PluginCall → Option HostSlot
  | pluginProcess .. | params_flush .. => some .hostOutputEvents
  | stateContext_save _ | state_save _ | webview_get_resource false _ => some .hostOstream
  | stateContext_load _ | state_load _ => some .hostIstream
  | pluginOnMainThread | webview_get_resource true _ | webview_receive => none

/-- The mutex which the call locks itself. -/
def lock (c : PluginCall) : Option HostLock :=
  c.slot.map HostSlot.lock

/-- `inputEvents.resize(0)`. -/
def resize (c : PluginCall) (p : PluginSlots is64) : PluginSlots is64 :=
  if c.slot = some .hostOutputEvents then { p with inputEvents := [] } else p

/-- The assignment of the host object. -/
def set (c : PluginCall) (p : PluginSlots is64) : PluginSlots is64 :=
  match c with
  | pluginProcess _ eventsOut | params_flush _ eventsOut => { p with hostOutputEvents := eventsOut }
  | stateContext_save stream | state_save stream | webview_get_resource false stream =>
    { p with hostOstream := stream }
  | stateContext_load stream | state_load stream => { p with hostIstream := stream }
  | pluginOnMainThread | webview_get_resource true _ | webview_receive => p

/-- The assignment after the guest's function. -/
def clear (c : PluginCall) (p : PluginSlots is64) : PluginSlots is64 :=
  match c with
  | pluginProcess .. | params_flush .. => { p with hostOutputEvents := none }
  | stateContext_save _ | state_save _ | webview_get_resource false _ =>
    { p with hostOstream := none }
  | stateContext_load _ | state_load _ => { p with hostIstream := none }
  | pluginOnMainThread | webview_get_resource true _ | webview_receive => p

/-- How many events there are to copy. -/
def count (c : PluginCall) : Nat :=
  (c.eventsIn.map fun eventsIn => eventsIn.size.toNat).getD 0

end PluginCall

/-- The functions of the bridge which the guest calls. -/
inductive GuestCallback where
  | inputEventsSize
  | inputEventsGet
  | outputEventsTryPush
  | istreamRead
  | ostreamWrite
  /-- The functions of `wclap_host` and its extensions. -/
  | host
  deriving DecidableEq

def GuestCallback.lock : GuestCallback → Option HostLock
  | inputEventsSize | inputEventsGet | outputEventsTryPush => some .hostEventsMutex
  | istreamRead | ostreamWrite => some .hostStreamsMutex
  | host => none

/-! ## Threads -/

/-- Where a call is. -/
inductive CallStage where
  | begun
  /-- It holds its mutex. -/
  | locked
  /-- So many input events are copied. -/
  | copying (copied : Nat)
  /-- The host object is set. -/
  | ready
  /-- The host object is not set any more. -/
  | cleared

/-- What is on the stack of a thread. -/
inductive Frame where
  | call (c : PluginCall) (stage : CallStage)
  /-- A function of the instance that holds `callMutex`. -/
  | guest
  | callback (k : GuestCallback)

/-- The mutex that a frame holds. -/
def Frame.lock : Frame → Option HostLock
  | call _ .begun => none
  | call c _ => c.lock
  | guest => some .callMutex
  | callback k => k.lock

/-- A frame that a thread can leave. -/
def Frame.Over : Frame → Prop
  | call c stage => stage = .cleared ∨ (stage = .begun ∧ c.lock = none)
  | guest | callback _ => True

/-- The steps before which a thread may have to wait. -/
inductive LockStep where
  /-- A method locks the mutex of its fields. -/
  | lock
  /-- Guest code is called: the method itself, or `malloc` for an arena. An access to
      memory that is not shared takes the same mutex. -/
  | enter
  /-- Guest code calls the bridge. -/
  | callback (k : GuestCallback)
  deriving DecidableEq

/-- The mutex that such a step needs. -/
def LockStep.mutex (frames : List Frame) : LockStep → Option HostLock
  | lock =>
    match frames with
    | .call c _ :: _ => c.lock
    | _ => none
  | enter => some .callMutex
  | callback k => k.lock

inductive CallStep (is64 : Bool) where
  | call (c : PluginCall)
  | acquire (l : LockStep)
  | resize
  | tryCopyInputEvent (arena : Arena is64) (g : GuestState)
  | set
  | clear
  /-- The guest's function returns. -/
  | leave
  /-- A function of the bridge returns to the guest. -/
  | finish
  | return_

/-- A thread: its stack, the innermost frame first, and the step for which it
    waits, with the mutex it needs. -/
structure CallThread where
  frames : List Frame
  waiting : Option (LockStep × HostLock)

/-- A plugin with the threads that call it. -/
structure CalledPlugin (is64 : Bool) where
  slots : PluginSlots is64
  mutexes : HostLock → RecursiveMutex Nat
  threads : Nat → CallThread
  /-- The host's events that were passed on since `inputEvents` was last emptied. -/
  passed : List NativeEvent

namespace CalledPlugin

/-- A new plugin. -/
def new : CalledPlugin is64 where
  slots := { inputEvents := [], hostOutputEvents := none, hostIstream := none, hostOstream := none }
  mutexes _ := .free
  threads _ := { frames := [], waiting := none }
  passed := []

/-- The mutexes, and the threads that wait for them. -/
def table (s : CalledPlugin is64) : LockTable Nat HostLock where
  holder mutex := (s.mutexes mutex).holder
  wants t := (s.threads t).waiting.map Prod.snd

/-- A thread goes on. -/
def goOn (s : CalledPlugin is64) (t : Nat) (frames : List Frame) : CalledPlugin is64 :=
  { s with threads := Function.update s.threads t { frames, waiting := none } }

/-- A thread waits. -/
def wait (s : CalledPlugin is64) (t : Nat) (l : LockStep) (mutex : HostLock) :
    CalledPlugin is64 :=
  let thread := { s.threads t with waiting := some (l, mutex) }
  { s with threads := Function.update s.threads t thread }

/-- A thread locks a mutex and goes on, or waits for it. -/
def lockOrWait (s : CalledPlugin is64) (t : Nat) (l : LockStep) (mutex : HostLock)
    (frames : List Frame) : CalledPlugin is64 :=
  match (s.mutexes mutex).lock t with
  | some locked => { s with mutexes := Function.update s.mutexes mutex locked }.goOn t frames
  | none => s.wait t l mutex

/-- A thread leaves a frame, which unlocks its mutex. -/
def pop (s : CalledPlugin is64) (t : Nat) (f : Frame) (frames : List Frame) :
    CalledPlugin is64 :=
  match f.lock with
  | some mutex =>
    { s with mutexes := Function.update s.mutexes mutex (s.mutexes mutex).unlock }.goOn t frames
  | none => s.goOn t frames

/-- A step for which a thread may have to wait. -/
def acquire (s : CalledPlugin is64) (t : Nat) (l : LockStep) : Option (CalledPlugin is64) :=
  match l, (s.threads t).frames with
  | .lock, .call c .begun :: frames =>
    c.lock.map fun mutex => s.lockOrWait t l mutex (.call c .locked :: frames)
  | .enter, f :: frames =>
    match f with
    | .guest => none
    | f => some (s.lockOrWait t l .callMutex (.guest :: f :: frames))
  -- guest code runs in a call, or on another instance
  | .callback k, [] | .callback k, .guest :: _ =>
    match k.lock with
    | some mutex => some (s.lockOrWait t l mutex (.callback k :: (s.threads t).frames))
    | none => some (s.goOn t (.callback k :: (s.threads t).frames))
  | _, _ => none

/-- A step of a thread that does not wait. -/
def proceed (abi : Abi is64) (s : CalledPlugin is64) (t : Nat) (a : CallStep is64) :
    Option (CalledPlugin is64) :=
  match a, (s.threads t).frames with
  -- the host calls of its own accord, or in a function that the bridge calls
  | .call c, [] => some (s.goOn t [.call c .begun])
  | .call c, .callback k :: frames => some (s.goOn t (.call c .begun :: .callback k :: frames))
  | .resize, .call c .locked :: frames =>
    some ({ s with
        slots := c.resize s.slots
        passed := if c.slot = some HostSlot.hostOutputEvents then [] else s.passed }.goOn t
      (.call c (.copying 0) :: frames))
  | .tryCopyInputEvent arena g, .call c (.copying i) :: frames =>
    c.eventsIn.bind fun eventsIn =>
      if i < eventsIn.size.toNat then
        let event := eventsIn.get i
        let (inputEvents, _) := tryCopyInputEvent abi arena event s.slots.inputEvents g
        some ({ s with
            slots.inputEvents := inputEvents
            passed := s.passed ++ [event] }.goOn t (.call c (.copying (i + 1)) :: frames))
      else none
  | .set, .call c (.copying i) :: frames =>
    if i = c.count then
      some ({ s with slots := c.set s.slots }.goOn t (.call c .ready :: frames))
    else none
  | .clear, .call c .ready :: frames =>
    some ({ s with slots := c.clear s.slots }.goOn t (.call c .cleared :: frames))
  | .leave, .guest :: frames => some (s.pop t .guest frames)
  | .finish, .callback k :: frames => some (s.pop t (.callback k) frames)
  | .return_, .call c .cleared :: frames => some (s.pop t (.call c .cleared) frames)
  | .return_, .call c .begun :: frames =>
    if c.lock = none then some (s.pop t (.call c .begun) frames) else none
  | _, _ => none

/-- A step of a run. A thread that waits can only try again. -/
def step (abi : Abi is64) (s : CalledPlugin is64) (a : Nat × CallStep is64) :
    Option (CalledPlugin is64) :=
  let (t, a) := a
  match a with
  | .acquire l => if (s.threads t).waiting.all (·.1 = l) then s.acquire t l else none
  | a => if (s.threads t).waiting.isNone then s.proceed abi t a else none

/-! ## Steps -/

/-- The steps, by what they do to the thread and to the fields. -/
inductive Stepped (abi : Abi is64) (s : CalledPlugin is64) (t : Nat) :
    CallStep is64 → CalledPlugin is64 → Prop where
  | wait {l : LockStep} {mutex : HostLock} (hmutex : l.mutex (s.threads t).frames = some mutex)
    (hlock : (s.mutexes mutex).lock t = none) :
    Stepped abi s t (.acquire l) (s.wait t l mutex)
  | lock {c : PluginCall} {frames : List Frame} {mutex : HostLock}
    {locked : RecursiveMutex Nat} (hframes : (s.threads t).frames = .call c .begun :: frames)
    (hmutex : c.lock = some mutex) (hlock : (s.mutexes mutex).lock t = some locked) :
    Stepped abi s t (.acquire .lock)
      ({ s with mutexes := Function.update s.mutexes mutex locked }.goOn t
        (.call c .locked :: frames))
  | push {l : LockStep} {f : Frame} {mutex : HostLock} {locked : RecursiveMutex Nat}
    (hf : f = .guest ∨ ∃ k, f = .callback k) (hmutex : f.lock = some mutex)
    (hlock : (s.mutexes mutex).lock t = some locked) :
    Stepped abi s t (.acquire l)
      ({ s with mutexes := Function.update s.mutexes mutex locked }.goOn t
        (f :: (s.threads t).frames))
  | callback {k : GuestCallback} (hk : k.lock = none) :
    Stepped abi s t (.acquire (.callback k)) (s.goOn t (.callback k :: (s.threads t).frames))
  | call {c : PluginCall} :
    Stepped abi s t (.call c) (s.goOn t (.call c .begun :: (s.threads t).frames))
  | resize {c : PluginCall} {frames : List Frame}
    (hframes : (s.threads t).frames = .call c .locked :: frames) :
    Stepped abi s t .resize
      ({ s with
          slots := c.resize s.slots
          passed := if c.slot = some HostSlot.hostOutputEvents then [] else s.passed }.goOn t
        (.call c (.copying 0) :: frames))
  | copy {c : PluginCall} {frames : List Frame} {arena : Arena is64} {g : GuestState} {i : Nat}
    {eventsIn : ClapInputEvents} (hframes : (s.threads t).frames = .call c (.copying i) :: frames)
    (hc : c.eventsIn = some eventsIn) :
    Stepped abi s t (.tryCopyInputEvent arena g)
      ({ s with
          slots.inputEvents :=
            (tryCopyInputEvent abi arena (eventsIn.get i) s.slots.inputEvents g).1
          passed := s.passed ++ [eventsIn.get i] }.goOn t (.call c (.copying (i + 1)) :: frames))
  | set {c : PluginCall} {frames : List Frame} {i : Nat}
    (hframes : (s.threads t).frames = .call c (.copying i) :: frames) :
    Stepped abi s t .set
      ({ s with slots := c.set s.slots }.goOn t (.call c .ready :: frames))
  | clear {c : PluginCall} {frames : List Frame}
    (hframes : (s.threads t).frames = .call c .ready :: frames) :
    Stepped abi s t .clear
      ({ s with slots := c.clear s.slots }.goOn t (.call c .cleared :: frames))
  | pop {a : CallStep is64} {f : Frame} {frames : List Frame}
    (hframes : (s.threads t).frames = f :: frames) (hf : f.Over) :
    Stepped abi s t a (s.pop t f frames)

/-- A thread locks the mutex of its next frame, or waits for it. -/
theorem lockOrWait_cases {abi : Abi is64} (s : CalledPlugin is64) (t : Nat) (l : LockStep)
    {f : Frame} {mutex : HostLock} (hf : f = .guest ∨ ∃ k, f = .callback k)
    (hmutex : f.lock = some mutex) (hl : l.mutex (s.threads t).frames = some mutex) :
    Stepped abi s t (.acquire l)
      (s.lockOrWait t l mutex (f :: (s.threads t).frames)) := by
  unfold lockOrWait
  split
  next hlock => exact .push hf hmutex hlock
  next hlock => exact .wait hl hlock

/-- The steps for which a thread may have to wait. -/
theorem acquire_cases {abi : Abi is64} {s s' : CalledPlugin is64} {t : Nat} {l : LockStep}
    (h : s.acquire t l = some s') : Stepped abi s t (.acquire l) s' := by
  unfold acquire at h
  split at h
  next c frames hframes =>
    obtain ⟨mutex, hmutex, rfl⟩ := Option.map_eq_some_iff.mp h
    unfold lockOrWait
    split
    next hlock => exact .lock hframes hmutex hlock
    next hlock => exact .wait (by rw [hframes]; exact hmutex) hlock
  next f frames hframes =>
    split at h
    next => cases h
    next =>
      cases h
      rw [← hframes]
      exact s.lockOrWait_cases t .enter (.inl rfl) rfl rfl
  next k hframes =>
    split at h
    next mutex hk =>
      cases h
      exact s.lockOrWait_cases t (.callback k) (.inr ⟨k, rfl⟩) hk hk
    next hk =>
      cases h
      exact .callback hk
  next k frames hframes =>
    split at h
    next mutex hk =>
      cases h
      exact s.lockOrWait_cases t (.callback k) (.inr ⟨k, rfl⟩) hk hk
    next hk =>
      cases h
      exact .callback hk
  next => cases h

theorem proceed_cases {abi : Abi is64} {s s' : CalledPlugin is64} {t : Nat} {a : CallStep is64}
    (h : s.proceed abi t a = some s') : Stepped abi s t a s' := by
  unfold proceed at h
  split at h
  next c hframes =>
    cases h
    rw [← hframes]
    exact .call
  next c k frames hframes =>
    cases h
    rw [← hframes]
    exact .call
  next c frames hframes =>
    cases h
    exact .resize hframes
  next arena g c i frames hframes =>
    obtain ⟨eventsIn, hc, h⟩ := Option.bind_eq_some_iff.mp h
    split at h
    next =>
      cases h
      exact .copy hframes hc
    next => cases h
  next c i frames hframes =>
    split at h
    next =>
      cases h
      exact .set hframes
    next => cases h
  next c frames hframes =>
    cases h
    exact .clear hframes
  next frames hframes =>
    cases h
    exact .pop hframes trivial
  next k frames hframes =>
    cases h
    exact .pop hframes trivial
  next c frames hframes =>
    cases h
    exact .pop hframes (.inl rfl)
  next c frames hframes =>
    split at h
    next hc =>
      cases h
      exact .pop hframes (.inr ⟨rfl, hc⟩)
    next => cases h
  next => cases h

/-- A step of a run is one of these. -/
theorem step_cases {abi : Abi is64} {s s' : CalledPlugin is64} {t : Nat} {a : CallStep is64}
    (h : step abi s (t, a) = some s') : Stepped abi s t a s' := by
  unfold step at h
  dsimp only at h
  split at h
  next l =>
    split at h
    next => exact acquire_cases h
    next => cases h
  next =>
    split at h
    next => exact proceed_cases h
    next => cases h

end CalledPlugin

end WclapBridge.Native
