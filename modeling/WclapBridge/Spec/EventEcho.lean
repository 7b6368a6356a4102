import WclapBridge.Spec.ProcessLayout

/-!
# Event echo

A guest that reads its input list with `size` and `get` and pushes every event
it got returns to the host what the host sent: the recognised events, in order,
each once, apart from the sysex messages that are too long. This holds for
`process` and for `params.flush`.

## Key results

- `openEvents_spec`: what both methods put into guest memory
- `echo_spec`: what the guest makes the host receive
- `events_echo`: the round trip through both methods
-/

namespace WclapBridge.Spec

open WclapBridge.Native

variable {is64 : Bool}

/-! ## The lists in guest memory -/

/-- The context field of a struct of `wclap` holds this plugin index, whatever
    is written to `X`. -/
def PluginAt (g : GuestState) (obj : Pointer is64) (ctxOffset : Nat) (pluginListIndex : UInt32)
    (X : Nat → Prop) : Prop :=
  Settled g.toHeap X (OfBytes g.mem.size fun mem =>
    (mem.get (pointerCodec is64) (obj.offset ctxOffset) 0).toNat = pluginListIndex.toNat)

theorem PluginAt.extends {g g' : GuestState} {obj : Pointer is64} {ctxOffset : Nat}
    {pluginListIndex : UInt32} {X W : Nat → Prop} (h : PluginAt g obj ctxOffset pluginListIndex X)
    (hext : Extends g g' W) (hW : ∀ x, W x → X x) :
    PluginAt g' obj ctxOffset pluginListIndex nowhere := by
  rw [PluginAt, hext.size]
  exact h.grows hext.grows hW of_nowhere

/-- An index fits in a pointer of either width. -/
theorem toNat_ofNat_index (pluginListIndex : UInt32) :
    (Pointer.ofNat pluginListIndex.toNat : Pointer is64).toNat = pluginListIndex.toNat := by
  have hlt := pluginListIndex.toNat_lt
  rw [Pointer.toNat, Pointer.ofNat, BitVec.toNat_ofNat]
  refine Nat.mod_eq_of_lt (Nat.lt_of_lt_of_le hlt (Nat.pow_le_pow_right (by decide) ?_))
  cases is64 <;> decide

theorem pointerCodec_width_pos : 0 < (pointerCodec is64).width := by
  cases is64 <;> decide

/-- `setPlugin` writes to its struct only. -/
theorem setPlugin_spec {g : GuestState} {obj : Pointer is64} {n ctxOffset : Nat}
    (hin : InRange g.mem obj n) (hctx : ctxOffset + (pointerCodec is64).width ≤ n)
    (pluginListIndex : UInt32) :
    Extends g (setPlugin g obj ctxOffset pluginListIndex) (span obj.toNat n) ∧
      ∀ X, (∀ x, span obj.toNat n x → Allocated g.blocks x ∧ ¬ X x) →
        PluginAt (setPlugin g obj ctxOffset pluginListIndex) obj ctxOffset pluginListIndex X := by
  obtain ⟨hoff, hfield⟩ := hin.field hctx pointerCodec_width_pos
  have hfield₁ : InRange g.mem (obj.offset ctxOffset) ((pointerCodec is64).width * 1) := by
    rwa [Nat.mul_one]
  obtain ⟨hext, -⟩ := set_extends hfield₁ Nat.zero_lt_one (Pointer.ofNat pluginListIndex.toNat)
  have hsub : ∀ x, span ((obj.offset ctxOffset).toNat + (pointerCodec is64).width * 0)
      (pointerCodec is64).width x → span obj.toNat n x := fun x hx => by
    rw [Nat.mul_zero, Nat.add_zero, hoff] at hx
    simp only [span] at hx ⊢
    omega
  refine ⟨hext.mono hsub, fun X hX => ?_⟩
  have hsettled := set_settled hfield₁ Nat.zero_lt_one (Pointer.ofNat pluginListIndex.toNat)
    fun x hx => hX x (hsub x hx)
  rw [PluginAt, setPlugin, hext.size]
  refine hsettled.imp fun m hm mem hmem hsize => ?_
  exact (congrArg Pointer.toNat (hm mem hmem hsize)).trans (toNat_ofNat_index pluginListIndex)

/-- `openEvents` leaves the old blocks alone. Both lists find the plugin, and
    the recognised events are in guest memory. -/
theorem openEvents_spec {abi : Abi is64} {arena : Arena is64} {templates : EventTemplates is64}
    {pluginListIndex : UInt32} {eventsIn : ClapInputEvents} {g : GuestState}
    (hevents : ∀ i < eventsIn.size.toNat, Recognised (eventsIn.get i) = true →
      HostEvent abi (eventsIn.get i)) :
    let r := openEvents abi arena templates pluginListIndex eventsIn g
    Later g r.2 ∧ (ArenaOk is64 r.2 → Extends g r.2 nowhere ∧
      PluginAt r.2 r.1.inEvents abi.inputEventsCtx pluginListIndex nowhere ∧
      PluginAt r.2 r.1.outEvents abi.outputEventsCtx pluginListIndex nowhere ∧
      List.Forall₂ (CopiedAt abi r.2) r.1.inputEvents
        ((firstEvents eventsIn eventsIn.size.toNat).filter Recognised)) := by
  let r₁ := g.copyAcross arena abi.inputEvents templates.inputEventsTemplate
  let r₂ := r₁.2.copyAcross arena abi.outputEvents templates.outputEventsTemplate
  let g₃ := setPlugin r₂.2 r₁.1 abi.inputEventsCtx pluginListIndex
  let g₄ := setPlugin g₃ r₂.1 abi.outputEventsCtx pluginListIndex
  -- both structs, then their contexts, then the events
  obtain ⟨hlater₅, hcopied⟩ := copyInputEvents_spec arena hevents g₄
  have hlater₄ : Later g₃ g₄ := set_later _ _ _ _
  have hlater₃ : Later r₂.2 g₃ := set_later _ _ _ _
  have hlater₂ : Later r₁.2 r₂.2 := copyAcross_later _ _
  have hlater₁ : Later g r₁.2 := copyAcross_later _ _
  intro r
  refine ⟨(((hlater₁.trans hlater₂).trans hlater₃).trans hlater₄).trans hlater₅, fun hok => ?_⟩
  obtain ⟨hext₅, hevents⟩ := hcopied hok
  have hok₂ : ArenaOk is64 r₂.2 := ((hlater₃.trans hlater₄).trans hlater₅).arenaOk hok
  have hplaced₂ : Placed is64 r₁.2 r₂.2 r₂.1 (abi.outputEvents.encode _) :=
    placed_of_copyAcross hok₂
  have hplaced₁ : Placed is64 g r₁.2 r₁.1 (abi.inputEvents.encode _) :=
    placed_of_copyAcross (hlater₂.arenaOk hok₂)
  have hin₁ := hplaced₁.inRange.of_size_eq hplaced₂.grown.size
  obtain ⟨hext₃, hctx₃⟩ := setPlugin_spec hin₁
    (by rw [Codec.length_encode]; exact abi.inputEventsCtx_le) pluginListIndex
  have hin₂ := hplaced₂.inRange.of_size_eq hext₃.size
  obtain ⟨hext₄, hctx₄⟩ := setPlugin_spec hin₂
    (by rw [Codec.length_encode]; exact abi.outputEventsCtx_le) pluginListIndex
  refine ⟨?_, ?_, ?_, hevents⟩
  · -- the contexts are written to new blocks
    refine (((hplaced₁.grown.more hplaced₂.grown).trans hext₃ ?_).trans hext₄ ?_).more hext₅
    · exact fun x hx hspan => absurd hx (hplaced₁.fresh x hspan).2
    · exact fun x hx hspan => absurd (hx.mono hlater₁.blocks) (hplaced₂.fresh x hspan).2
  · -- the output list is not in the block of the input list
    have hctx := hctx₃ (span r₂.1.toNat (abi.outputEvents.encode _).length) fun x hx =>
      ⟨(hplaced₁.fresh x hx).1.mono hlater₂.blocks,
        fun hout => (hplaced₂.fresh x hout).2 (hplaced₁.fresh x hx).1⟩
    exact (hctx.extends hext₄ fun _ h => h).extends hext₅ of_nowhere
  · have hctx := hctx₄ nowhere fun x hx =>
      ⟨(hplaced₂.fresh x hx).1.mono hlater₃.blocks, fun h => h⟩
    exact hctx.extends hext₅ of_nowhere

/-! ## The guest -/

/-- The part of the echo guest that both methods share: it reads the list with
    `size` and `get` in index order, pushes what it gets, and keeps the answers. -/
def echo (abi : Abi is64) (hostTryPush : NativeEvent → Bool) (inEvents outEvents : Pointer is64)
    (s : BridgeState is64) : List Bool × BridgeState is64 :=
  forLoop (inputEventsTemplate_size abi s inEvents).toNat (fun i (answers, s) =>
    let event := inputEventsTemplate_get abi s inEvents (UInt32.ofNat i)
    let (answer, s) := outputEventsTemplate_try_push abi hostTryPush s outEvents event
    (answers ++ [answer], s)) ([], s)

/-- The echo guest's `process`. -/
def echoProcess (abi : Abi is64) (hostTryPush : NativeEvent → Bool) (processPtr : Pointer is64)
    (s : BridgeState is64) : List Bool × BridgeState is64 :=
  let wProcess := s.mem.get abi.process processPtr 0
  echo abi hostTryPush wProcess.in_events wProcess.out_events s

/-- The host's answer to an event pushed back. -/
def answerTo (hostTryPush : NativeEvent → Bool) (event : NativeEvent) : Bool :=
  !TooLong event && hostTryPush (handedBack event)

/-- The calls of the host's `try_push` for these events. -/
def pushesOf (sink : Nat) (events : List NativeEvent) : List (Nat × NativeEvent) :=
  (events.filter fun event => !TooLong event).map fun event => (sink, handedBack event)

/-- One `try_push` of the guest. -/
theorem outputEventsTemplate_try_push_spec {abi : Abi is64} {hostTryPush : NativeEvent → Bool}
    {s : BridgeState is64} {obj ptr : Pointer is64} {p : PluginEvents is64} {sink : Nat}
    {event : NativeEvent} (hplugin : getPlugin s obj abi.outputEventsCtx = some p)
    (hsink : p.hostOutputEvents = some sink) (hpush : PushesBack abi s.mem ptr event) :
    outputEventsTemplate_try_push abi hostTryPush s obj ptr =
      (answerTo hostTryPush event, { s with pushed := s.pushed ++ pushesOf sink [event] }) := by
  have h := hpush p (by rw [hsink]; exact Option.some_ne_none sink)
  rw [outputEventsTemplate_try_push, hplugin]
  simp only [hsink, h, answerTo, pushesOf]
  by_cases hlong : TooLong event = true
  · simp [hlong]
  · simp [hlong]

/-- The guest makes the host receive the events that it found in its list, in
    order, each once, without those that are too long. -/
theorem echo_spec {abi : Abi is64} {s : BridgeState is64} {inEvents outEvents : Pointer is64}
    {p : PluginEvents is64} {sink : Nat} {events : List NativeEvent}
    (hostTryPush : NativeEvent → Bool)
    (hin : getPlugin s inEvents abi.inputEventsCtx = some p)
    (hout : getPlugin s outEvents abi.outputEventsCtx = some p)
    (hsink : p.hostOutputEvents = some sink) (hcount : p.inputEvents.length < 2 ^ 32)
    (hevents : List.Forall₂ (PushesBack abi s.mem) p.inputEvents events) :
    echo abi hostTryPush inEvents outEvents s =
      (events.map (answerTo hostTryPush),
        { s with pushed := s.pushed ++ pushesOf sink events }) := by
  have hsize : (inputEventsTemplate_size abi s inEvents).toNat = events.length := by
    rw [inputEventsTemplate_size, hin, ← hevents.length_eq]
    exact UInt32.toNat_ofNat_of_lt' hcount
  -- the invariant: the guest has pushed the first events, and nothing else has
  -- changed, so that it finds the same list in each iteration
  have hinv := forLoop_inv
    (f := fun i ((answers, s) : List Bool × BridgeState is64) =>
      let event := inputEventsTemplate_get abi s inEvents (UInt32.ofNat i)
      let (answer, s) := outputEventsTemplate_try_push abi hostTryPush s outEvents event
      (answers ++ [answer], s))
    (n := events.length) (s := ([], s))
    (fun i t => t = ((events.take i).map (answerTo hostTryPush),
      { s with pushed := s.pushed ++ pushesOf sink (events.take i) }))
    (by simp [pushesOf]) ?_
  · rw [echo, hsize, hinv, List.take_length]
  rintro i t hi rfl
  have hi' : i < p.inputEvents.length := by rw [hevents.length_eq]; exact hi
  have hindex : (UInt32.ofNat i).toNat = i := UInt32.toNat_ofNat_of_lt' (Nat.lt_trans hi' hcount)
  have hget : p.inputEventsGet (UInt32.ofNat i) = p.inputEvents[i] := by
    rw [PluginEvents.inputEventsGet, dif_pos (by rw [hindex]; exact hi')]
    simp only [hindex]
  have hpush : PushesBack abi s.mem p.inputEvents[i] events[i] :=
    (List.forall₂_iff_get.mp hevents).2 i hi' hi
  have htemplate : ∀ pushed, inputEventsTemplate_get abi { s with pushed } inEvents
      (UInt32.ofNat i) = p.inputEvents[i] := fun pushed => by
    have hplugin : getPlugin { s with pushed } inEvents abi.inputEventsCtx = some p := hin
    rw [inputEventsTemplate_get, hplugin]
    exact hget
  simp only [htemplate]
  rw [outputEventsTemplate_try_push_spec
    (s := { s with pushed := s.pushed ++ pushesOf sink (events.take i) }) hout hsink hpush,
    ← List.take_append_getElem hi]
  simp only [List.map_append, List.map_cons, List.map_nil, pushesOf, List.filter_append,
    List.append_assoc]

/-! ## Main result -/

/-- The host has got these events back, in order and each once, as events it
    cannot tell from its own, apart from those that are too long, which the
    guest saw refused. -/
def Echoed (hostTryPush : NativeEvent → Bool) (sink : Nat) (events : List NativeEvent)
    (pushed pushed' : List (Nat × NativeEvent)) (answers : List Bool) : Prop :=
  ∃ handed : NativeEvent → NativeEvent,
    (∀ event ∈ events, visible (handed event) = visible event) ∧
    pushed' = pushed ++
      (events.filter fun event => !TooLong event).map (fun event => (sink, handed event)) ∧
    answers = events.map fun event => !TooLong event && hostTryPush (handed event)

/-- The echo in a state in which the plugin's lists are open. -/
theorem echo_of_openEvents {abi : Abi is64} {arena : Arena is64}
    {templates : EventTemplates is64} {pluginListIndex : UInt32} {eventsIn : ClapInputEvents}
    {g : GuestState} {s : BridgeState is64} {sink : Nat} (hostTryPush : NativeEvent → Bool)
    (hevents : ∀ i < eventsIn.size.toNat, Recognised (eventsIn.get i) = true →
      HostEvent abi (eventsIn.get i)) (hok : ArenaOk is64 s.guest)
    (hext : Extends (openEvents abi arena templates pluginListIndex eventsIn g).2 s.guest nowhere)
    (hplugin : s.pluginList pluginListIndex.toNat = some
      { inputEvents := (openEvents abi arena templates pluginListIndex eventsIn g).1.inputEvents
        hostOutputEvents := some sink }) :
    let lists := (openEvents abi arena templates pluginListIndex eventsIn g).1
    let r := echo abi hostTryPush lists.inEvents lists.outEvents s
    Echoed hostTryPush sink ((firstEvents eventsIn eventsIn.size.toNat).filter Recognised)
      s.pushed r.2.pushed r.1 := by
  intro lists r
  obtain ⟨-, hin, hout, hcopied⟩ := (openEvents_spec hevents).2 (hext.later.arenaOk hok)
  -- the guest's calls resolve to this plugin through either list
  have hfind : ∀ obj ctxOffset, PluginAt
      (openEvents abi arena templates pluginListIndex eventsIn g).2 obj ctxOffset
      pluginListIndex nowhere →
      getPlugin s obj ctxOffset = some ⟨lists.inputEvents, some sink⟩ := by
    intro obj ctxOffset h
    have hindex := ofBytes_holds (h.extends hext of_nowhere)
    rw [getPlugin]
    exact (congrArg s.pluginList hindex).trans hplugin
  -- `size` and `get` do not truncate: there are no more events than the host had
  have hcount : lists.inputEvents.length < 2 ^ 32 := by
    rw [hcopied.length_eq]
    refine Nat.lt_of_le_of_lt (List.length_filter_le _ _) ?_
    rw [firstEvents, List.length_map, List.length_range]
    exact eventsIn.size.toNat_lt
  have hspec := echo_spec hostTryPush (hfind _ _ hin) (hfind _ _ hout) rfl hcount
    (hcopied.imp fun _ _ h => ofBytes_holds (h.extends hext))
  refine ⟨handedBack, fun event hevent => ?_, congrArg (fun t => t.2.pushed) hspec,
    congrArg Prod.fst hspec⟩
  rw [List.mem_filter, firstEvents, List.mem_map] at hevent
  obtain ⟨⟨i, hi, rfl⟩, hrec⟩ := hevent
  exact visible_handedBack (hevents i (List.mem_range.mp hi) hrec)

/-- **Event echo round trip**, for `process` and for `params.flush`. -/
theorem events_echo (abi : Abi is64) (arena : Arena is64) (templates : EventTemplates is64)
    (pluginListIndex : UInt32) (hostTryPush : NativeEvent → Bool) (eventsIn : ClapInputEvents)
    (sink : Nat) (s : BridgeState is64)
    (hevents : ∀ i < eventsIn.size.toNat, Recognised (eventsIn.get i) = true →
      HostEvent abi (eventsIn.get i)) :
    (∀ process host, process.in_events = eventsIn → process.out_events = some sink →
      ArenaOk is64
        (prepareProcess abi arena templates pluginListIndex host process s.guest).guest →
      let r := pluginProcess abi arena templates pluginListIndex (echoProcess abi hostTryPush)
        process host s
      Echoed hostTryPush sink ((firstEvents eventsIn eventsIn.size.toNat).filter Recognised)
        s.pushed r.2.2.pushed r.1) ∧
    (ArenaOk is64 (openEvents abi arena templates pluginListIndex eventsIn s.guest).2 →
      let r := params_flush abi arena templates pluginListIndex (echo abi hostTryPush) eventsIn
        (some sink) s
      Echoed hostTryPush sink ((firstEvents eventsIn eventsIn.size.toNat).filter Recognised)
        s.pushed r.2.pushed r.1) := by
  constructor
  · rintro process host rfl hsink hok
    obtain ⟨hext, hprocess⟩ := prepareProcess_spec hok
    let call := processCall abi arena templates pluginListIndex process host s
    have hplugin : call.2.pluginList pluginListIndex.toNat = some
        { inputEvents := call.1.lists.inputEvents, hostOutputEvents := some sink } := by
      rw [← hsink]
      exact if_pos rfl
    -- the guest finds the lists through the process struct
    have hguest : echoProcess abi hostTryPush call.1.processPtr call.2 =
        echo abi hostTryPush call.1.lists.inEvents call.1.lists.outEvents call.2 := by
      have hget : call.2.mem.get abi.process call.1.processPtr 0 = call.1.wProcess :=
        hprocess.wProcess
      rw [echoProcess, hget]
      rfl
    have hecho := echo_of_openEvents hostTryPush hevents (s := call.2) hok hext hplugin
    simp only [pluginProcess]
    rw [hguest]
    exact hecho
  · intro hok
    exact echo_of_openEvents (s := BridgeState.setPluginEvents
      { s with guest := (openEvents abi arena templates pluginListIndex eventsIn s.guest).2 }
      pluginListIndex.toNat _) hostTryPush hevents hok (Extends.refl _ _) (if_pos rfl)

/-- A list of a parameter value and a sysex message of three bytes. -/
private def paramAndSysex : ClapInputEvents where
  size := 2
  get
    | 0 => ⟨⟨56, 0, CLAP_CORE_EVENT_SPACE_ID, 5, 0⟩, .paramValue ⟨3, 17, -1, -1, -1, -1, 9⟩⟩
    | _ + 1 => ⟨⟨40, 4, CLAP_CORE_EVENT_SPACE_ID, 11, 0⟩, .midiSysex ⟨0, [0xF0, 1, 0xF7], 3⟩⟩

private def idleState : BridgeState false where
  guest := { mem := LinearMemory.onePage, blocks := [] }
  pluginList _ := none
  pushed := []

private def noAudio : AudioBuffer := ⟨none, none, 0, 0, 0⟩

private def silentProcess : ClapProcess :=
  ⟨0, 64, none, fun _ => noAudio, fun _ => noAudio, 0, 0, paramAndSysex, some 7⟩

private def silentHost : HostSamples := ⟨fun _ => 0, fun _ => 0⟩

private def callbackTemplates : EventTemplates false :=
  ⟨⟨Pointer.null, Pointer.ofNat 1, Pointer.ofNat 2⟩, ⟨Pointer.null, Pointer.ofNat 3⟩⟩

private theorem paramAndSysex_hostEvent (i : Nat) :
    HostEvent (Abi.clap false) (paramAndSysex.get i) := by
  cases i with
  | zero =>
    exact ⟨by decide, by decide, fun _ _ h => (nomatch h), fun _ h => (nomatch h),
      fun _ h => by injection h with h; subst h; decide⟩
  | succ i =>
    exact ⟨rfl, rfl, fun _ _ h => (nomatch h),
      fun _ h => by injection h with h; subst h; decide, fun _ h => (nomatch h)⟩

/-- A parameter value and a sysex message come back through `process` with no
    audio, and through `params.flush`. -/
theorem events_echo_paramAndSysex :
    let events := (firstEvents paramAndSysex paramAndSysex.size.toNat).filter Recognised
    let r := pluginProcess (Abi.clap false) bumpArena callbackTemplates 1
      (echoProcess (Abi.clap false) fun _ => true) silentProcess silentHost idleState
    let r' := params_flush (Abi.clap false) bumpArena callbackTemplates 1
      (echo (Abi.clap false) fun _ => true) paramAndSysex (some 7) idleState
    Echoed (fun _ => true) 7 events idleState.pushed r.2.2.pushed r.1 ∧
      Echoed (fun _ => true) 7 events idleState.pushed r'.2.pushed r'.1 := by
  have h := events_echo (Abi.clap false) bumpArena callbackTemplates 1 (fun _ => true)
    paramAndSysex 7 idleState fun i _ _ => paramAndSysex_hostEvent i
  exact ⟨h.1 silentProcess silentHost rfl rfl (by decide +kernel), h.2 (by decide +kernel)⟩

end WclapBridge.Spec
