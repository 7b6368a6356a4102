import WclapBridge.ForStd.Transition
import WclapBridge.Native.PluginCalls
import WclapBridge.Spec.EventCopy

/-!
# Host objects after a call

The fields for the output events and the streams of the host are null again when
the calls that set them are over. The list of input events is not emptied, so
that a guest can go on to read what the last call passed.

## Key results

- `bound_step`: a field that is set is that of a call in progress
- `noStaleObjects_iff`: nothing is left of a finished call in exactly
  those runs in which the host passes no events that have to be copied
- `stale_event`: an event that is left
-/

namespace WclapBridge.Spec

open WclapBridge.Native
open CalledPlugin (step)

variable {is64 : Bool}

/-! ## Calls in progress -/

/-- A call is in progress. -/
def InProgress (s : CalledPlugin is64) (c : PluginCall) : Prop :=
  ∃ t stage, .call c stage ∈ (s.threads t).frames

/-- No call that sets the field is in progress. -/
def NoneInProgress (s : CalledPlugin is64) (slot : HostSlot) : Prop :=
  ∀ c, c.slot = some slot → ¬ InProgress s c

/-- Nothing is left of finished calls: where no call of a kind is in progress,
    the guest finds none of its objects. -/
structure NoStaleObjects (s : CalledPlugin is64) : Prop where
  hostOutputEvents : NoneInProgress s .hostOutputEvents → s.slots.hostOutputEvents = none
  inputEventsSize : NoneInProgress s .hostOutputEvents → s.slots.inputEventsSize = 0
  inputEventsGet : NoneInProgress s .hostOutputEvents →
    ∀ index, s.slots.inputEventsGet index = Pointer.null
  hostIstream : NoneInProgress s .hostIstream → NoneInProgress s .hostOstream →
    s.slots.hostIstream = none
  hostOstream : NoneInProgress s .hostIstream → NoneInProgress s .hostOstream →
    s.slots.hostOstream = none

/-- Where no call of `process` or `flush` is in progress, the last ones to pass
    events to the guest passed none that are copied. -/
def NoneLeft (s : CalledPlugin is64) : Prop :=
  NoneInProgress s .hostOutputEvents → ∀ event ∈ s.passed, ¬ Recognised event = true

/-- The host passes fewer than 2^32 events at a time, and what is copied is an
    event of its type. -/
def HostEvents (abi : Abi is64) (s : CalledPlugin is64) : Prop :=
  s.passed.length < 2 ^ 32 ∧ ∀ event ∈ s.passed, Recognised event = true → HostEvent abi event

/-! ## The fields -/

theorem get_set (c : PluginCall) (p : PluginSlots is64) {slot : HostSlot}
    (h : c.slot ≠ some slot) : (c.set p).get slot = p.get slot := by
  cases c with
  | webview_get_resource wasFileUri ostream =>
    cases wasFileUri <;> cases slot <;> first | rfl | exact absurd rfl h
  | _ => cases slot <;> first | rfl | exact absurd rfl h

theorem get_clear (c : PluginCall) (p : PluginSlots is64) (slot : HostSlot) :
    (c.clear p).get slot = if c.slot = some slot then none else p.get slot := by
  cases c with
  | webview_get_resource wasFileUri ostream => cases wasFileUri <;> cases slot <;> rfl
  | _ => cases slot <;> rfl

theorem get_resize (c : PluginCall) (p : PluginSlots is64) (slot : HostSlot) :
    (c.resize p).get slot = p.get slot := by
  unfold PluginCall.resize
  split <;> cases slot <;> rfl

theorem inputEvents_set (c : PluginCall) (p : PluginSlots is64) :
    (c.set p).inputEvents = p.inputEvents := by
  cases c with
  | webview_get_resource wasFileUri ostream => cases wasFileUri <;> rfl
  | _ => rfl

theorem inputEvents_clear (c : PluginCall) (p : PluginSlots is64) :
    (c.clear p).inputEvents = p.inputEvents := by
  cases c with
  | webview_get_resource wasFileUri ostream => cases wasFileUri <;> rfl
  | _ => rfl

/-! ## Steps -/

/-- A call for the field is between setting and clearing it. -/
def ReadyFor (s : CalledPlugin is64) (slot : HostSlot) : Prop :=
  ∃ t c, c.slot = some slot ∧ .call c .ready ∈ (s.threads t).frames

theorem ReadyFor.update {s s' : CalledPlugin is64} {slot : HostSlot} {t : Nat}
    {thread : CallThread} (h : ReadyFor s slot)
    (hthreads : s'.threads = Function.update s.threads t thread)
    (hframes : ∀ c, c.slot = some slot → .call c .ready ∈ (s.threads t).frames →
      .call c .ready ∈ thread.frames) : ReadyFor s' slot := by
  obtain ⟨u, c, hc, hmem⟩ := h
  refine ⟨u, c, hc, ?_⟩
  rw [hthreads]
  by_cases hut : u = t
  · subst hut
    rw [Function.update_self]
    exact hframes c hc hmem
  · rwa [Function.update_of_ne hut]

theorem readyFor_set {s s' : CalledPlugin is64} {slot : HostSlot} {t : Nat}
    {thread : CallThread} {c : PluginCall}
    (hthreads : s'.threads = Function.update s.threads t thread) (hc : c.slot = some slot)
    (hmem : .call c .ready ∈ thread.frames) : ReadyFor s' slot := by
  refine ⟨t, c, hc, ?_⟩
  rwa [hthreads, Function.update_self]

theorem pop_threads (s : CalledPlugin is64) (t : Nat) (f : Frame) (frames : List Frame) :
    (s.pop t f frames).threads =
      Function.update s.threads t { frames, waiting := none } := by
  unfold CalledPlugin.pop
  split <;> rfl

theorem pop_slots (s : CalledPlugin is64) (t : Nat) (f : Frame) (frames : List Frame) :
    (s.pop t f frames).slots = s.slots := by
  unfold CalledPlugin.pop
  split <;> rfl

theorem pop_passed (s : CalledPlugin is64) (t : Nat) (f : Frame) (frames : List Frame) :
    (s.pop t f frames).passed = s.passed := by
  unfold CalledPlugin.pop
  split <;> rfl

/-- A frame that is not a call which has set its field takes none away. -/
private theorem ready_mem_of_cons {c : PluginCall} {f : Frame} {frames : List Frame}
    (hf : f ≠ .call c .ready) (h : .call c .ready ∈ f :: frames) : .call c .ready ∈ frames :=
  (List.mem_cons.mp h).resolve_left fun heq => hf heq.symm

/-- The innermost frame, which is none of those calls, is replaced. -/
theorem ReadyFor.replace {s s' : CalledPlugin is64} {slot : HostSlot} {t : Nat}
    {thread : CallThread} {f f' : Frame} {frames : List Frame} (h : ReadyFor s slot)
    (hthreads : s'.threads = Function.update s.threads t thread)
    (hnew : thread.frames = f' :: frames) (hframes : (s.threads t).frames = f :: frames)
    (hf : ∀ c, c.slot = some slot → f ≠ .call c .ready) : ReadyFor s' slot := by
  refine h.update hthreads fun c hc hmem => ?_
  rw [hframes] at hmem
  rw [hnew]
  exact List.mem_cons_of_mem _ (ready_mem_of_cons (hf c hc) hmem)

/-- A field that is set is that of a call in progress. -/
def Bound (s : CalledPlugin is64) : Prop :=
  ∀ slot, s.slots.get slot ≠ none → ReadyFor s slot

theorem bound_step {abi : Abi is64} {s s' : CalledPlugin is64} {t : Nat} {a : CallStep is64}
    (hs : Bound s) (h : step abi s (t, a) = some s') : Bound s' := by
  intro slot hslot
  cases CalledPlugin.step_cases h with
  | wait => exact (hs slot hslot).update rfl fun _ _ hmem => hmem
  | lock hframes => exact (hs slot hslot).replace rfl rfl hframes fun _ _ => by simp
  | push => exact (hs slot hslot).update rfl fun _ _ => List.mem_cons_of_mem _
  | callback => exact (hs slot hslot).update rfl fun _ _ => List.mem_cons_of_mem _
  | call => exact (hs slot hslot).update rfl fun _ _ => List.mem_cons_of_mem _
  | @resize c frames hframes =>
    -- a call that begins empties the list of input events only
    have hslot : (c.resize s.slots).get slot ≠ none := hslot
    rw [get_resize] at hslot
    exact (hs slot hslot).replace rfl rfl hframes fun _ _ => by simp
  | copy hframes =>
    have hslot : s.slots.get slot ≠ none := by cases slot <;> exact hslot
    exact (hs slot hslot).replace rfl rfl hframes fun _ _ => by simp
  | @set c frames i hframes =>
    by_cases hc : c.slot = some slot
    · -- the field is set by this call, which is ready now
      exact readyFor_set rfl hc List.mem_cons_self
    · have hslot : (c.set s.slots).get slot ≠ none := hslot
      rw [get_set c _ hc] at hslot
      exact (hs slot hslot).replace rfl rfl hframes fun _ _ => by simp
  | @clear c frames hframes =>
    have hslot : (c.clear s.slots).get slot ≠ none := hslot
    rw [get_clear] at hslot
    split at hslot
    next => exact absurd rfl hslot
    next hc =>
      -- the call that ends is for another field
      refine (hs slot hslot).replace rfl rfl hframes fun c' hc' heq => ?_
      cases heq
      exact hc hc'
  | @pop _ f frames hframes hf =>
    rw [pop_slots] at hslot
    -- a call that returns has cleared its field before
    refine (hs slot hslot).update (pop_threads ..) fun c hc hmem => ?_
    rw [hframes] at hmem
    refine ready_mem_of_cons ?_ hmem
    rintro rfl
    exact hf.elim (fun heq => nomatch heq) fun heq => nomatch heq.1

/-- The list of input events has a pointer for each recognised event that was
    passed since it was last emptied. -/
def Counted (abi : Abi is64) (s : CalledPlugin is64) : Prop :=
  (∀ event ∈ s.passed, Recognised event = true → HostEvent abi event) →
    s.slots.inputEvents.length = s.passed.countP Recognised

theorem counted_step {abi : Abi is64} {s s' : CalledPlugin is64} {t : Nat} {a : CallStep is64}
    (hs : Counted abi s) (h : step abi s (t, a) = some s') : Counted abi s' := by
  cases CalledPlugin.step_cases h with
  | wait => exact hs
  | lock => exact hs
  | push => exact hs
  | callback => exact hs
  | call => exact hs
  | @resize c =>
    -- with the list, the record of what has been passed begins anew
    change (∀ event ∈ (if c.slot = some HostSlot.hostOutputEvents then [] else s.passed), _) → _
    unfold CalledPlugin.goOn PluginCall.resize
    dsimp only
    split
    next => exact fun _ => rfl
    next => exact hs
  | @copy c frames arena g i eventsIn hframes hc =>
    intro hevents
    have hpassed : ∀ event ∈ s.passed, Recognised event = true → HostEvent abi event :=
      fun event hmem => hevents event (List.mem_append_left _ hmem)
    have hlength := hs hpassed
    change (tryCopyInputEvent abi arena (eventsIn.get i) s.slots.inputEvents g).1.length =
      (s.passed ++ [eventsIn.get i]).countP Recognised
    rw [List.countP_append, List.countP_singleton]
    -- a recognised event is copied, and any other is passed over
    split
    next hrec =>
      obtain ⟨ptr, g', hcopy, -⟩ := tryCopyInputEvent_recognised arena hrec
        (hevents _ (List.mem_append_right _ (List.mem_singleton_self _)) hrec)
        s.slots.inputEvents g
      rw [hcopy, List.length_append, hlength, List.length_singleton]
    next hrec => rw [tryCopyInputEvent_unrecognised abi arena hrec, hlength, Nat.add_zero]
  | @set c =>
    change _ → (c.set s.slots).inputEvents.length = _
    rw [inputEvents_set]
    exact hs
  | @clear c =>
    change _ → (c.clear s.slots).inputEvents.length = _
    rw [inputEvents_clear]
    exact hs
  | @pop _ f frames =>
    rw [Counted, pop_slots, pop_passed]
    exact hs

/-! ## Runs -/

/-- What holds in every state that can be reached. -/
structure SlotsOk (abi : Abi is64) (s : CalledPlugin is64) : Prop where
  bound : Bound s
  counted : Counted abi s

theorem slotsOk_new (abi : Abi is64) : SlotsOk abi CalledPlugin.new :=
  ⟨fun slot h => absurd (by cases slot <;> rfl) h, fun _ => rfl⟩

theorem slotsOk_step {abi : Abi is64} {s s' : CalledPlugin is64} (a : Nat × CallStep is64)
    (hs : SlotsOk abi s) (h : step abi s a = some s') : SlotsOk abi s' :=
  ⟨bound_step hs.bound h, counted_step hs.counted h⟩

theorem Bound.get_eq_none {s : CalledPlugin is64} (hs : Bound s) (slot : HostSlot)
    (h : NoneInProgress s slot) : s.slots.get slot = none := by
  by_contra hslot
  obtain ⟨t, c, hc, hmem⟩ := hs slot hslot
  exact h c hc ⟨t, _, hmem⟩

theorem noStaleObjects_of_noneLeft {abi : Abi is64} {s : CalledPlugin is64}
    (hs : SlotsOk abi s) (h : NoneLeft s) : NoStaleObjects s := by
  have hempty (hnone : NoneInProgress s .hostOutputEvents) : s.slots.inputEvents = [] := by
    have hquiet := h hnone
    rw [← List.length_eq_zero_iff,
      hs.counted fun event hmem hrec => absurd hrec (hquiet event hmem)]
    exact List.countP_eq_zero.mpr hquiet
  exact {
    hostOutputEvents := hs.bound.get_eq_none .hostOutputEvents
    inputEventsSize := fun hnone => by rw [PluginEvents.inputEventsSize, hempty hnone]; rfl
    inputEventsGet := fun hnone index => by
      rw [PluginEvents.inputEventsGet, dif_neg (by simp [hempty hnone])]
    hostIstream := fun hnone _ => hs.bound.get_eq_none .hostIstream hnone
    hostOstream := fun _ hnone => hs.bound.get_eq_none .hostOstream hnone }

theorem noneLeft_of_noStaleObjects {abi : Abi is64} {s : CalledPlugin is64}
    (hs : SlotsOk abi s) (hevents : HostEvents abi s) (h : NoStaleObjects s) : NoneLeft s := by
  intro hnone
  have hlength := hs.counted hevents.2
  have hlt : s.slots.inputEvents.length < 2 ^ 32 :=
    hlength ▸ Nat.lt_of_le_of_lt List.countP_le_length hevents.1
  -- the size has 32 bits, and so have the numbers of events
  have hzero := congrArg UInt32.toNat (h.inputEventsSize hnone)
  rw [PluginEvents.inputEventsSize, UInt32.toNat_ofNat_of_lt' hlt, hlength] at hzero
  exact List.countP_eq_zero.mp hzero

/-- Nothing is left of a finished call in any state of a run in which the last
    calls to pass events passed none that are copied; and no other run is like
    this, as long as the events are fewer than 2^32. -/
theorem noStaleObjects_iff (abi : Abi is64) (run : List (Nat × CallStep is64)) :
    (States (step abi) NoneLeft .new run → States (step abi) NoStaleObjects .new run) ∧
      (States (step abi) (HostEvents abi) .new run →
        States (step abi) NoStaleObjects .new run → States (step abi) NoneLeft .new run) := by
  have hok : States (step abi) (SlotsOk abi) .new run :=
    .of_invariant _ (fun s a s' hs h => slotsOk_step a hs h) (slotsOk_new abi)
  constructor
  · intro hleft
    exact (hok.and hleft).mono fun s hs => noStaleObjects_of_noneLeft hs.1 hs.2
  · intro hevents hstale
    exact ((hok.and hevents).and hstale).mono fun s hs =>
      noneLeft_of_noStaleObjects hs.1.1 hs.1.2 hs.2

/-- A note for the guest. -/
private def noteOn : NativeEvent :=
  ⟨⟨40, 0, CLAP_CORE_EVENT_SPACE_ID, 0, 0⟩, .plain .note (List.replicate 24 0)⟩

/-- Saving the state, and a call of `flush` without events, leave nothing. -/
theorem noStaleObjects_without_events :
    States (step (Abi.clap false)) NoStaleObjects .new
      [(0, .call (.state_save (some 1))), (0, .acquire .lock), (0, .resize), (0, .set),
        (0, .acquire .enter), (0, .acquire (.callback .ostreamWrite)), (0, .finish), (0, .leave),
        (0, .clear), (0, .return_), (0, .call (.params_flush ⟨0, fun _ => noteOn⟩ (some 0))),
        (0, .acquire .lock), (0, .resize), (0, .set), (0, .acquire .enter), (0, .leave),
        (0, .clear), (0, .return_)] := by
  have hnil (s : CalledPlugin false) (h : s.passed = []) : NoneLeft s := fun _ event hmem =>
    absurd (h ▸ hmem) List.not_mem_nil
  apply (noStaleObjects_iff (Abi.clap false) _).1
  iterate 18
    refine ⟨hnil _ rfl, ?_⟩
    rintro _ ⟨⟩
  exact hnil _ rfl

/-- One call of `process`, from its beginning to its end. -/
private def processOnce (eventsIn : ClapInputEvents) : List (Nat × CallStep false) :=
  [(0, .call (.pluginProcess eventsIn (some 0))), (0, .acquire .lock), (0, .resize),
    (0, .tryCopyInputEvent bumpArena ⟨.onePage, []⟩), (0, .set), (0, .acquire .enter),
    (0, .leave), (0, .clear), (0, .return_)]

/-- After a call of `process` with one note, the list of input events still has it. -/
theorem stale_event :
    ¬ States (step (Abi.clap false)) NoStaleObjects .new (processOnce ⟨1, fun _ => noteOn⟩) := by
  intro h
  obtain ⟨s, hs, hframes, hsize⟩ : ∃ s,
      (processOnce ⟨1, fun _ => noteOn⟩).foldlM (step (Abi.clap false)) .new = some s ∧
        (∀ t, (s.threads t).frames = []) ∧ s.slots.inputEventsSize = 1 := by
    refine ⟨_, rfl, fun t => ?_, rfl⟩
    cases t <;> rfl
  have hnone : NoneInProgress s .hostOutputEvents := by
    rintro c - ⟨t, stage, hmem⟩
    rw [hframes t] at hmem
    exact List.not_mem_nil hmem
  rw [(h.at_end hs).inputEventsSize hnone] at hsize
  exact absurd hsize (by decide)

end WclapBridge.Spec
