import WclapBridge.Native.PluginGui
import WclapBridge.Spec.MethodCalls

/-!
# Sessions of a GUI

A GUI is created, used and destroyed, in this order, any number of times. If the host keeps to
that, so does the bridge as a caller of the helper, and the guest is only ever called while
the helper has a GUI. The guest is not always treated so: the bridge goes on when the guest has
refused to create its GUI, and the next call of the guest is then one that should not come.

## Key results

- `GuestAt.concat`: what one more call of the guest comes to, by its status
- `Follows.method`: one method of the GUI
- `gui_sessions`: every sequence of calls, with anything in between
-/

namespace WclapBridge.Spec

open WclapBridge.Native

variable {is64 : Bool} {ω η : Type}

/-! ## The protocol -/

/-- What a call is in a session. -/
inductive GuiKind where
  /-- It is possible at any time. -/
  | query
  | create
  | destroy
  | window
  deriving DecidableEq

/-- The kind of a call. -/
def kind : GuiCall ω → GuiKind
  | .is_api_supported _ _ | .get_preferred_api => .query
  | .create _ _ => .create
  | .destroy => .destroy
  | _ => .window

/-- Whether there is a GUI. -/
inductive GuiPhase where
  | closed
  | opened
  deriving DecidableEq

/-- The phase after a call with this result, unless the call should not come. -/
def GuiPhase.next (p : GuiPhase) (e : GuiCall ω × Bool) : Option GuiPhase :=
  match kind e.1, p with
  | .query, p => some p
  | .create, .closed => some (if e.2 then .opened else .closed)
  | .destroy, .opened => some .closed
  | .window, .opened => some .opened
  | _, _ => none

/-- The phase after these calls. -/
def phaseAfter (trace : List (GuiCall ω × Bool)) : Option GuiPhase :=
  trace.foldlM GuiPhase.next .closed

/-- The calls are in order. -/
def Conforms (trace : List (GuiCall ω × Bool)) : Prop :=
  phaseAfter trace ≠ none

instance (trace : List (GuiCall ω × Bool)) : Decidable (Conforms trace) :=
  inferInstanceAs (Decidable (_ ≠ none))

theorem phaseAfter_concat (trace : List (GuiCall ω × Bool)) (e : GuiCall ω × Bool) :
    phaseAfter (trace ++ [e]) = (phaseAfter trace).bind fun p => p.next e := by
  simp only [phaseAfter, List.foldlM_append, List.foldlM_cons, List.foldlM_nil, bind_pure]
  rfl

/-- The calls of one party, with their results. -/
def calls (party : GuiParty) (events : List (GuiEvent ω)) : List (GuiCall ω × Bool) :=
  events.filterMap fun e => if e.party = party then some (e.call, e.result) else none

theorem calls_concat_self (party : GuiParty) (events : List (GuiEvent ω)) (call : GuiCall ω)
    (result : Bool) :
    calls party (events ++ [⟨party, call, result⟩]) = calls party events ++ [(call, result)] := by
  simp [calls, List.filterMap_append]

theorem calls_concat_of_ne {party other : GuiParty} (h : other ≠ party)
    (events : List (GuiEvent ω)) (call : GuiCall ω) (result : Bool) :
    calls party (events ++ [⟨other, call, result⟩]) = calls party events := by
  simp [calls, List.filterMap_append, h]

/-! ## The guest -/

/-- A call which has refused to create a GUI. -/
def Refused (e : GuiCall ω × Bool) : Prop := kind e.1 = .create ∧ e.2 = false

/-- After a refusal there are no more calls. -/
def RefusedLast (trace : List (GuiCall ω × Bool)) : Prop :=
  ∀ before e after, trace = before ++ e :: after → Refused e → after = []

/-- What the guest has had, when this is the phase of the host. -/
inductive GuestAt (p : GuiPhase) (trace : List (GuiCall ω × Bool)) : Prop where
  /-- It is in the same phase. -/
  | inStep (hphase : phaseAfter trace = some p) (hnone : ∀ e ∈ trace, ¬ Refused e)
  /-- It has just refused to create a GUI, but the host has one. -/
  | refused (before : List (GuiCall ω × Bool)) (e : GuiCall ω × Bool) (hp : p = .opened)
    (htrace : trace = before ++ [e]) (he : Refused e) (hphase : phaseAfter before = some .closed)
    (hnone : ∀ e ∈ before, ¬ Refused e)
  /-- It has had a call that should not have come. -/
  | broken (hphase : phaseAfter trace = none)

/-- The calls are in order, except for those after a refusal. -/
def RefusedIff (trace : List (GuiCall ω × Bool)) : Prop :=
  Conforms trace ↔ RefusedLast trace

theorem refusedLast_of_none {trace : List (GuiCall ω × Bool)} (h : ∀ e ∈ trace, ¬ Refused e) :
    RefusedLast trace := by
  rintro before e after rfl he
  exact absurd he (h e (by simp))

/-- Only the last call may be a refusal. -/
theorem RefusedLast.none_of_concat {trace : List (GuiCall ω × Bool)} {e : GuiCall ω × Bool}
    (h : RefusedLast (trace ++ [e])) : ∀ e' ∈ trace, ¬ Refused e' := by
  intro e' hmem he'
  obtain ⟨before, after, rfl⟩ := List.append_of_mem hmem
  have hlast := h before e' (after ++ [e]) (by simp) he'
  exact absurd hlast (by simp)

theorem refusedLast_concat {trace : List (GuiCall ω × Bool)} (e : GuiCall ω × Bool)
    (h : ∀ e ∈ trace, ¬ Refused e) : RefusedLast (trace ++ [e]) := by
  intro before e' after htrace he'
  rcases List.eq_nil_or_concat after with rfl | ⟨rest, last, rfl⟩
  · rfl
  · -- the refusal is not the last call, and so it is in the trace
    have hinit : trace = before ++ e' :: rest := by
      have hconcat : trace ++ [e] = (before ++ e' :: rest) ++ [last] := by
        rw [htrace, List.concat_eq_append, List.append_assoc, List.cons_append]
      exact (List.append_inj' hconcat rfl).1
    exact absurd he' (h e' (by rw [hinit]; simp))

/-- A call that is not a refusal goes like one that returns `true`. -/
theorem next_of_not_refused {e : GuiCall ω × Bool} (h : ¬ Refused e) (p : GuiPhase) :
    p.next e = p.next (e.1, true) := by
  obtain ⟨call, result⟩ := e
  cases result with
  | true => rfl
  | false =>
    have hkind : kind call ≠ .create := fun hkind => h ⟨hkind, rfl⟩
    unfold GuiPhase.next
    cases hk : kind call <;> cases p <;> first | rfl | exact absurd hk hkind

/-- One more call, which the host is allowed to make. -/
theorem GuestAt.concat {p q : GuiPhase} {trace : List (GuiCall ω × Bool)}
    {e : GuiCall ω × Bool} (h : GuestAt p trace) (hiff : RefusedIff trace)
    (hnext : p.next (e.1, true) = some q) (hquery : kind e.1 ≠ .query) :
    GuestAt q (trace ++ [e]) ∧ RefusedIff (trace ++ [e]) := by
  cases h with
  | inStep hphase hnone =>
    have hlast := refusedLast_concat e hnone
    by_cases he : Refused e
    · have hp : p = .closed ∧ q = .opened := by
        have hcreate := he.1
        unfold GuiPhase.next at hnext
        cases p <;> simp_all
      obtain ⟨rfl, rfl⟩ := hp
      refine ⟨.refused trace e rfl rfl he hphase hnone, iff_of_true ?_ hlast⟩
      have hclosed : GuiPhase.closed.next e = some .closed := by
        simp [GuiPhase.next, he.1, he.2]
      rw [Conforms, phaseAfter_concat, hphase, Option.bind_some, hclosed]
      exact Option.some_ne_none _
    · have hphase' : phaseAfter (trace ++ [e]) = some q := by
        rw [phaseAfter_concat, hphase, Option.bind_some, next_of_not_refused he, hnext]
      refine ⟨.inStep hphase' ?_, iff_of_true ?_ hlast⟩
      · intro e' hmem
        rcases List.mem_append.mp hmem with hmem | hmem
        · exact hnone e' hmem
        · rw [List.mem_singleton.mp hmem]
          exact he
      · rw [Conforms, hphase']
        exact Option.some_ne_none _
  | refused before e₀ hp htrace he₀ hphase hnone =>
    -- the guest has no GUI: a call for one should not come
    subst hp htrace
    have hclosed : phaseAfter (before ++ [e₀]) = some .closed := by
      rw [phaseAfter_concat, hphase, Option.bind_some]
      simp [GuiPhase.next, he₀.1, he₀.2]
    have hnone' : GuiPhase.closed.next e = none := by
      unfold GuiPhase.next at hnext ⊢
      cases hk : kind e.1 <;> simp_all
    have hphase' : phaseAfter (before ++ [e₀] ++ [e]) = none := by
      rw [phaseAfter_concat, hclosed, Option.bind_some, hnone']
    refine ⟨.broken hphase', iff_of_false (fun h => h hphase') fun hlast => ?_⟩
    exact hlast.none_of_concat e₀ (by simp) he₀
  | broken hphase =>
    have hphase' : phaseAfter (trace ++ [e]) = none := by
      rw [phaseAfter_concat, hphase, Option.bind_none]
    refine ⟨.broken hphase', iff_of_false (fun h => h hphase') fun hlast => ?_⟩
    exact hiff.mpr (refusedLast_of_none hlast.none_of_concat) hphase

/-! ## One call of the guest -/

/-- A call that does not reach the guest leaves an error. -/
theorem wtCallRaw_group_of_not_made {table : FunctionTable} {group : InstanceGroup}
    {fnPtr : Pointer is64} (h : ¬ CallMade table group fnPtr) (slots : List ValRaw) (argN : Nat) :
    (wtCallRaw table group fnPtr.toUInt64 slots argN).group.hasError = true := by
  unfold wtCallRaw
  split
  next herror => exact herror
  next hno =>
    rw [Bool.not_eq_true] at hno
    rcases htable : table fnPtr.toUInt64 with _ | _ | run
    · exact InstanceGroup.hasError_setError _ _
    · exact InstanceGroup.hasError_setError _ _
    · exact absurd ⟨hno, run, htable⟩ h

/-- A call is made, or there is an error. -/
theorem callAt_made {table : FunctionTable} {group : InstanceGroup} {mem : LinearMemory}
    {fnPtrPtr : Pointer is64} {ret : ReturnType} {args : List Arg} {stack : ValRaw} :
    (InstanceImpl.callAt table group mem fnPtrPtr ret args stack).slotCount = none ∧
        (InstanceImpl.callAt table group mem fnPtrPtr ret args stack).group.hasError = true ∨
      (InstanceImpl.callAt table group mem fnPtrPtr ret args stack).slotCount = some 1 ∧
        group.hasError = false := by
  obtain ⟨fnPtr, -, hcall⟩ := callAt_eq_call mem fnPtrPtr
  rw [hcall]
  by_cases hmade : CallMade table group fnPtr
  · exact .inr ⟨(call_slotCount 1).mpr ⟨hmade, rfl⟩, hmade.1⟩
  · refine .inl ⟨?_, wtCallRaw_group_of_not_made hmade _ _⟩
    exact Option.eq_none_iff_forall_ne_some.mpr fun n hn => hmade ((call_slotCount n).mp hn).1

/-- What a call of the guest changes: it gets there, or there is an error. -/
theorem callGuest_spec (c : GuiContext is64 ω η) (call : GuiCall ω) (function : PluginFunction)
    (ret : ReturnType) (args : List Arg) (g : GuestState) (s : GuiState ω η) :
    ((c.callGuest call function ret args g s).2.group.hasError = true ∧
        (c.callGuest call function ret args g s).2.events = s.events) ∨
      (s.group.hasError = false ∧ ∃ result,
        (c.callGuest call function ret args g s).2.events =
          s.events ++ [⟨.guest, call, result⟩]) := by
  unfold GuiContext.callGuest GetterView.call
  dsimp only
  rcases callAt_made with ⟨hcount, herror⟩ | ⟨hcount, hgroup⟩
  · rw [hcount]
    exact .inl ⟨herror, rfl⟩
  · rw [hcount]
    exact .inr ⟨hgroup, _, rfl⟩

/-! ## The methods -/

/-- Whenever the guest has been called, the helper had a GUI. -/
def WithinHelper (events : List (GuiEvent ω)) : Prop :=
  ∀ before call result after, events = before ++ ⟨.guest, call, result⟩ :: after →
    phaseAfter (calls .helper before) = some .opened

/-- The helper is in phase `p`. The guest should be in phase `q`. -/
structure Follows (c : GuiContext is64 ω η) (p q : GuiPhase) (s : GuiState ω η) : Prop where
  helper : phaseAfter (calls .helper s.events) = some p
  nested : WithinHelper s.events
  refused : RefusedIff (calls .guest s.events)
  absent : c.guiExt = false → calls .guest s.events = []
  guest : c.guiExt = true → s.group.hasError = false → GuestAt q (calls .guest s.events)

theorem WithinHelper.concat {events : List (GuiEvent ω)} {e : GuiEvent ω} (h : WithinHelper events)
    (he : e.party = .guest → phaseAfter (calls .helper events) = some .opened) :
    WithinHelper (events ++ [e]) := by
  intro before call result after hevents
  rcases List.eq_nil_or_concat after with rfl | ⟨rest, last, rfl⟩
  · obtain ⟨rfl, hlast⟩ := List.append_inj' hevents rfl
    cases hlast
    exact he rfl
  · refine h before call result rest ?_
    have hconcat : events ++ [e] = (before ++ ⟨.guest, call, result⟩ :: rest) ++ [last] := by
      rw [hevents, List.concat_eq_append, List.append_assoc, List.cons_append]
    exact (List.append_inj' hconcat rfl).1

namespace Follows

variable {c : GuiContext is64 ω η} {p q r : GuiPhase} {s : GuiState ω η} {call : GuiCall ω}

/-- A call of the helper. -/
theorem askHelper (h : Follows c p q s) (hnext : p.next (call, call.result
    (c.askHelper call s).1) = some r) : Follows c r q (c.askHelper call s).2 := by
  have hguest : calls .guest (c.askHelper call s).2.events = calls .guest s.events :=
    calls_concat_of_ne (by decide) _ _ _
  constructor
  case helper =>
    have hcalls : calls .helper (c.askHelper call s).2.events =
        calls .helper s.events ++ [(call, call.result (c.askHelper call s).1)] :=
      calls_concat_self _ _ _ _
    rw [hcalls, phaseAfter_concat, h.helper, Option.bind_some, hnext]
  case nested => exact h.nested.concat nofun
  case refused =>
    rw [hguest]
    exact h.refused
  case absent =>
    rw [hguest]
    exact h.absent
  case guest =>
    rw [hguest]
    exact h.guest

/-- A call of the guest, which has the extension, while the helper has a GUI. -/
theorem callGuest {function : PluginFunction} {ret : ReturnType} {args : List Arg}
    {g : GuestState} (h : Follows c .opened q s) (hext : c.guiExt = true)
    (hnext : q.next (call, true) = some r) (hquery : kind call ≠ .query) :
    Follows c .opened r (c.callGuest call function ret args g s).2 := by
  rcases callGuest_spec c call function ret args g s with
    ⟨herror, hevents⟩ | ⟨hgroup, result, hevents⟩
  · -- after an error, the guest is not called any more
    refine ⟨?_, ?_, ?_, ?_, fun _ hno => ?_⟩
    · rw [hevents]
      exact h.helper
    · rw [hevents]
      exact h.nested
    · rw [hevents]
      exact h.refused
    · rw [hevents]
      exact h.absent
    · rw [herror] at hno
      cases hno
  · have hguest := calls_concat_self .guest s.events call result
    have hhelper : calls .helper (s.events ++ [⟨.guest, call, result⟩]) = calls .helper s.events :=
      calls_concat_of_ne (by decide) _ _ _
    obtain ⟨hat, hrefused⟩ := (h.guest hext hgroup).concat (e := (call, result)) h.refused hnext
      hquery
    constructor
    case helper =>
      rw [hevents, hhelper]
      exact h.helper
    case nested =>
      rw [hevents]
      exact h.nested.concat fun _ => h.helper
    case refused =>
      rw [hevents, hguest]
      exact hrefused
    case absent =>
      intro hno
      rw [hext] at hno
      cases hno
    case guest =>
      intro _ _
      rw [hevents, hguest]
      exact hat

/-- Without the extension, nothing is known of the guest. -/
theorem of_absent (h : Follows c p q s) (hext : c.guiExt = false) : Follows c p r s where
  helper := h.helper
  nested := h.nested
  refused := h.refused
  absent := h.absent
  guest h' := by
    rw [hext] at h'
    cases h'

/-- What the guest is told if it has the extension. -/
theorem tell {function : PluginFunction} {ret : ReturnType} {args : List Arg} {g : GuestState}
    (h : Follows c .opened q s) (hnext : q.next (call, true) = some r)
    (hquery : kind call ≠ .query) :
    Follows c .opened r
      (if c.guiExt then (c.callGuest call function ret args g s).2 else s) := by
  split
  next hext => exact h.callGuest hext hnext hquery
  next hext => exact h.of_absent (Bool.eq_false_iff.mpr hext)

/-- A call that needs a GUI, and does not end it. -/
theorem window_next {b : Bool} (hkind : kind call = .window) :
    p.next (call, b) = some q ↔ p = .opened ∧ q = .opened := by
  unfold GuiPhase.next
  rw [hkind]
  cases p <;> simp [eq_comm]

/-- A call of the helper that needs a GUI. -/
theorem askHelper_window (h : Follows c .opened q s) (hkind : kind call = .window) :
    Follows c .opened q (c.askHelper call s).2 :=
  h.askHelper ((window_next hkind).mpr ⟨rfl, rfl⟩)

/-- The same for a call of the guest. -/
theorem callGuest_window {function : PluginFunction} {ret : ReturnType} {args : List Arg}
    {g : GuestState} (h : Follows c .opened .opened s) (hext : c.guiExt = true)
    (hkind : kind call = .window) :
    Follows c .opened .opened (c.callGuest call function ret args g s).2 :=
  h.callGuest hext ((window_next hkind).mpr ⟨rfl, rfl⟩) (by rw [hkind]; exact nofun)

theorem tell_window {function : PluginFunction} {ret : ReturnType} {args : List Arg}
    {g : GuestState} (h : Follows c .opened .opened s) (hkind : kind call = .window) :
    Follows c .opened .opened
      (if c.guiExt then (c.callGuest call function ret args g s).2 else s) :=
  h.tell ((window_next hkind).mpr ⟨rfl, rfl⟩) (by rw [hkind]; exact nofun)

/-- The bridge creates a GUI of the guest when the helper has one. -/
theorem gui_create {api : CString} {isFloating : Bool} (h : Follows c .closed .closed s) :
    Follows c (if (c.gui_create api isFloating s).1 then .opened else .closed)
      (if (c.gui_create api isFloating s).1 then .opened else .closed)
      (c.gui_create api isFloating s).2 := by
  have hhelper : ∀ {created : Bool}, (c.askHelper (.create api isFloating) s).1 = created →
      Follows c (if created then .opened else .closed) .closed
        (c.askHelper (.create api isFloating) s).2 := by
    rintro created rfl
    exact h.askHelper rfl
  unfold GuiContext.gui_create
  dsimp only
  split
  next hno => exact hhelper (Bool.not_eq_true' _ |>.mp hno)
  next hyes =>
    rw [Bool.not_eq_true] at hyes
    have hopened := hhelper (Bool.not_eq_false' _ |>.mp hyes)
    split
    next hext => exact hopened.callGuest hext rfl nofun
    next hext => exact hopened.of_absent (Bool.eq_false_iff.mpr hext)

/-- The guest's GUI is destroyed before that of the helper. -/
theorem gui_destroy (h : Follows c .opened .opened s) :
    Follows c .closed .closed (c.gui_destroy s).2 := by
  have htold : Follows c .opened .closed
      (if c.guiExt then (c.callGuest .destroy .gui_destroy none [] (c.guest s) s).2 else s) :=
    h.tell rfl nofun
  exact htold.askHelper rfl

/-- A method that needs a GUI. -/
theorem window (h : Follows c .opened .opened s) (hkind : kind call = .window) :
    Follows c .opened .opened (c.method call s).2 := by
  cases call with
  | is_api_supported api isFloating => cases hkind
  | get_preferred_api => cases hkind
  | create api isFloating => cases hkind
  | destroy => cases hkind
  | set_scale scale => exact h.askHelper_window rfl
  | get_size =>
    show Follows c .opened .opened (c.gui_get_size s).2
    unfold GuiContext.gui_get_size
    by_cases hext : c.guiExt = true
    · rw [if_pos hext]
      dsimp only
      split
      next => exact (h.callGuest_window hext rfl).askHelper_window rfl
      next => exact (h.callGuest_window hext rfl).askHelper_window rfl
    · rw [if_neg hext]
      exact h.askHelper_window rfl
  | can_resize =>
    show Follows c .opened .opened (c.gui_can_resize s).2
    unfold GuiContext.gui_can_resize
    by_cases hext : c.guiExt = true
    · rw [if_pos hext]
      exact h.callGuest_window hext rfl
    · rw [if_neg hext]
      exact h.askHelper_window rfl
  | get_resize_hints =>
    show Follows c .opened .opened (c.gui_get_resize_hints s).2
    unfold GuiContext.gui_get_resize_hints
    by_cases hext : c.guiExt = true
    · rw [if_pos hext]
      dsimp only
      split
      next => exact h.callGuest_window hext rfl
      next => exact (h.callGuest_window hext rfl).askHelper_window rfl
    · rw [if_neg hext]
      exact h.askHelper_window rfl
  | adjust_size width height =>
    show Follows c .opened .opened (c.gui_adjust_size width height s).2
    unfold GuiContext.gui_adjust_size
    by_cases hext : c.guiExt = true
    · rw [if_pos hext]
      dsimp only
      split
      next => exact h.callGuest_window hext rfl
      next => exact (h.callGuest_window hext rfl).askHelper_window rfl
    · rw [if_neg hext]
      exact h.askHelper_window rfl
  | set_size width height => exact (h.tell_window rfl).askHelper_window rfl
  | set_parent window => exact h.askHelper_window rfl
  | set_transient window => exact h.askHelper_window rfl
  | suggest_title title => exact (h.tell_window rfl).askHelper_window rfl
  | show_ => exact (h.tell_window rfl).askHelper_window rfl
  | hide => exact (h.tell_window rfl).askHelper_window rfl

/-- A method that the host is allowed to call. -/
theorem method (h : Follows c p p s)
    (hnext : p.next (call, call.result (c.method call s).1) = some q) :
    Follows c q q (c.method call s).2 := by
  cases hkind : kind call with
  | query =>
    have hq : p = q := by
      unfold GuiPhase.next at hnext
      rw [hkind] at hnext
      exact Option.some.inj hnext
    subst hq
    cases call with
    | is_api_supported api isFloating => exact h.askHelper hnext
    | get_preferred_api => exact h.askHelper hnext
    | _ => cases hkind
  | create =>
    cases call with
    | create api isFloating =>
      cases p with
      | closed =>
        rw [← Option.some.inj hnext]
        exact h.gui_create
      | opened => cases hnext
    | _ => cases hkind
  | destroy =>
    cases call with
    | destroy =>
      cases p with
      | closed => cases hnext
      | opened =>
        rw [← Option.some.inj hnext]
        exact h.gui_destroy
    | _ => cases hkind
  | window =>
    obtain ⟨rfl, rfl⟩ := (window_next hkind).mp hnext
    exact h.window hkind

/-- The return to the host. -/
theorem returned {result : Bool} (h : Follows c p q s) :
    Follows c p q { s with events := s.events ++ [⟨.bridge, call, result⟩] } := by
  have hhelper : calls .helper (s.events ++ [⟨.bridge, call, result⟩]) = calls .helper s.events :=
    calls_concat_of_ne (by decide) _ _ _
  have hguest : calls .guest (s.events ++ [⟨.bridge, call, result⟩]) = calls .guest s.events :=
    calls_concat_of_ne (by decide) _ _ _
  constructor
  case helper => exact hhelper ▸ h.helper
  case nested => exact h.nested.concat nofun
  case refused => exact hguest ▸ h.refused
  case absent => exact hguest ▸ h.absent
  case guest => exact hguest ▸ h.guest

end Follows

/-! ## All actions -/

section Run

variable (c : GuiContext is64 ω η)

/-- The methods are calls of the helper and of the guest. -/
theorem method_inv {P : GuiState ω η → Prop}
    (hhelper : ∀ (call : GuiCall ω) s, P s → P (c.askHelper call s).2)
    (hguest : ∀ (call : GuiCall ω) function ret args g s, P s →
      P (c.callGuest call function ret args g s).2)
    (call : GuiCall ω) {s : GuiState ω η} (h : P s) : P (c.method call s).2 := by
  cases call <;>
    simp only [GuiContext.method, GuiContext.gui_create, GuiContext.gui_destroy,
      GuiContext.gui_get_size, GuiContext.gui_can_resize, GuiContext.gui_get_resize_hints,
      GuiContext.gui_adjust_size, GuiContext.gui_set_size, GuiContext.gui_suggest_title,
      GuiContext.gui_show, GuiContext.gui_hide] <;>
    (repeat' split) <;>
    first
    | exact hhelper _ _ h
    | exact hguest _ _ _ _ _ _ h
    | exact hhelper _ _ (hguest _ _ _ _ _ _ h)
    | exact hguest _ _ _ _ _ _ (hhelper _ _ h)

/-- The methods do not call themselves. -/
theorem bridge_method (call : GuiCall ω) (s : GuiState ω η) :
    calls .bridge (c.method call s).2.events = calls .bridge s.events := by
  refine method_inv c (P := fun t => calls .bridge t.events = calls .bridge s.events)
    (fun call t h => ?_) (fun call function ret args g t h => ?_) call rfl
  · exact (calls_concat_of_ne (by decide) _ _ _).trans h
  · rcases callGuest_spec c call function ret args g t with ⟨-, hevents⟩ | ⟨-, result, hevents⟩
    · rw [hevents, h]
    · rw [hevents, calls_concat_of_ne (by decide), h]

/-- If the host has kept to the protocol so far, the others follow. -/
def KeepsUp (s : GuiState ω η) : Prop :=
  ∀ p, phaseAfter (calls .bridge s.events) = some p → Follows c p p s

theorem act_keepsUp {s : GuiState ω η} (h : KeepsUp c s) (a : GuiAction ω η) :
    KeepsUp c (c.act s a) := by
  intro q hq
  cases a with
  | call call =>
    have hcalls : calls .bridge (c.act s (.call call)).events = calls .bridge s.events ++
        [(call, call.result (c.method call s).1)] := by
      show calls .bridge ((c.method call s).2.events ++
        [⟨.bridge, call, call.result (c.method call s).1⟩]) = _
      rw [calls_concat_self, bridge_method]
    rw [hcalls, phaseAfter_concat, Option.bind_eq_some_iff] at hq
    obtain ⟨p, hp, hnext⟩ := hq
    exact ((h p hp).method hnext).returned
  | other helper mem error =>
    have hs := h q hq
    refine ⟨hs.helper, hs.nested, hs.refused, hs.absent, fun hext hgroup => hs.guest hext ?_⟩
    cases error with
    | none => exact hgroup
    | some message =>
      have herror := InstanceGroup.hasError_setError s.group message
      exact absurd (herror.symm.trans hgroup) nofun

theorem run_keepsUp {s : GuiState ω η} (h : KeepsUp c s) (actions : List (GuiAction ω η)) :
    KeepsUp c (c.run s actions) := by
  induction actions generalizing s with
  | nil => exact h
  | cons a actions ih => exact ih (act_keepsUp c h a)

/-- Before the first call, there is no GUI. -/
theorem follows_start (helper : η) (mem : LinearMemory) (group : InstanceGroup) :
    Follows c .closed .closed ⟨helper, mem, group, []⟩ where
  helper := rfl
  nested before call result after h := by simp at h
  refused := iff_of_true nofun (refusedLast_of_none nofun)
  absent _ := rfl
  guest _ _ := .inStep rfl nofun

end Run

/-- What has been called, when the host has kept to the protocol. -/
structure SessionInOrder (c : GuiContext is64 ω η) (s : GuiState ω η) : Prop where
  /-- The bridge keeps to it with the helper, which is in the same phase. -/
  helper : phaseAfter (calls .helper s.events) = phaseAfter (calls .bridge s.events)
  /-- The guest is only called while the helper has a GUI. -/
  nested : WithinHelper s.events
  absent : c.guiExt = false → calls .guest s.events = []
  /-- The guest's calls are in order if and only if it has not been called after it had refused
      to create a GUI. -/
  guest : Conforms (calls .guest s.events) ↔ RefusedLast (calls .guest s.events)
  /-- If it has never refused, it is in the same phase as well. -/
  inStep : c.guiExt = true → s.group.hasError = false →
    (∀ e ∈ calls .guest s.events, ¬ Refused e) →
      phaseAfter (calls .guest s.events) = phaseAfter (calls .bridge s.events)

theorem Follows.inOrder {c : GuiContext is64 ω η} {p : GuiPhase} {s : GuiState ω η}
    (h : Follows c p p s) (hp : phaseAfter (calls .bridge s.events) = some p) :
    SessionInOrder c s where
  helper := h.helper.trans hp.symm
  nested := h.nested
  absent := h.absent
  guest := h.refused
  inStep hext hgroup hnone := by
    rw [hp]
    cases h.guest hext hgroup with
    | inStep hphase _ => exact hphase
    | refused before e _ htrace he _ _ => exact absurd he (hnone e (by rw [htrace]; simp))
    | broken hphase => exact absurd hphase (h.refused.mpr (refusedLast_of_none hnone))

/-- If the host keeps to the protocol of a GUI, everything is in order, whatever happens in
    between. -/
theorem gui_sessions (c : GuiContext is64 ω η) (helper : η) (mem : LinearMemory)
    (group : InstanceGroup) (actions : List (GuiAction ω η))
    (hhost : Conforms (calls .bridge (c.run ⟨helper, mem, group, []⟩ actions).events)) :
    SessionInOrder c (c.run ⟨helper, mem, group, []⟩ actions) := by
  obtain ⟨p, hp⟩ := Option.ne_none_iff_exists'.mp hhost
  have hstart : KeepsUp c ⟨helper, mem, group, []⟩ := by
    intro q hq
    rw [← Option.some.inj hq]
    exact follows_start c helper mem group
  exact (run_keepsUp c hstart actions p hp).inOrder hp

/-! ## A guest that refuses -/

/-- A helper that does everything. -/
def willingHelper : Responder (GuiCall.Reply : GuiCall Unit → Type) Unit
  | .get_preferred_api, s => ((true, none), s)
  | .get_size, s => ((true, none), s)
  | .adjust_size _ _, s => ((true, none), s)
  | .get_resize_hints, s => ((true, none), s)
  | .destroy, s => ((), s)
  | .suggest_title _, s => ((), s)
  | .is_api_supported _ _, s => (true, s)
  | .create _ _, s => (true, s)
  | .set_scale _, s => (true, s)
  | .can_resize, s => (true, s)
  | .set_size _ _, s => (true, s)
  | .set_parent _, s => (true, s)
  | .set_transient _, s => (true, s)
  | .show_, s => (true, s)
  | .hide, s => (true, s)

theorem zero_not_mem_webview : (0 : UInt8) ∉ [119, 101, 98, 118, 105, 101, 119] := by decide

/-- `webview`. -/
def webview : CString := ⟨[119, 101, 98, 118, 105, 101, 119], zero_not_mem_webview⟩

/-- A guest whose function for `create` is number 6 of the table, and returns `false`. -/
def refusingGuest : GuiContext false Unit Unit where
  view :=
    { ptr := .ofNat 16
      exts := ⟨fun _ => .ofNat 16⟩
      offset := fun function => if function = .gui_create then 4 else 0
      table := fun _ fnP =>
        if fnP = 5 then some (.funcref returnsTrue)
        else if fnP = 6 then some (.funcref fun _ mem => (.returned 0, mem))
        else none }
  arena := bumpArena
  keeps _ := [⟨16, 8⟩]
  stack := 0
  resizeHints := guiResizeHintsCodec
  webviewApi := webview
  helper := willingHelper

/-- A session in which the size is set. -/
def refusedSession : GuiState Unit Unit :=
  refusingGuest.run
    ⟨(), { LinearMemory.onePage with
      bytes := LinearMemory.onePage.bytes.write 16 [5, 0, 0, 0, 6, 0, 0, 0] },
      ⟨true, true, none, none, false⟩, []⟩
    [.call (.create webview false), .call (.set_size 640 480), .call .destroy]

/-- The bridge goes on with a GUI that the guest does not have. -/
theorem gui_sessions_refused : SessionInOrder refusingGuest refusedSession ∧
    phaseAfter (calls .helper refusedSession.events) = some .closed ∧
    ¬ Conforms (calls .guest refusedSession.events) := by
  have h : SessionInOrder refusingGuest refusedSession := gui_sessions _ _ _ _ _ (by decide)
  exact ⟨h, by decide, by decide⟩

end WclapBridge.Spec
