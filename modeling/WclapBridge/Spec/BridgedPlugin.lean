import WclapBridge.ForStd.Responder
import WclapBridge.Spec.Getters

/-!
# A plugin behind the bridge

Suppose that a guest does what the specification of a plugin says: each of its functions,
when it finds the arguments of a call in its memory, returns what the plugin would answer, and
leaves a memory that represents the next state of the plugin. Then a host which makes calls
through the bridge, one after the other, gets the answers of the plugin. A call which the guest
does not finish is answered with zero, and so are all calls after it.

For an extension the host gets a struct of the bridge, whose functions look for the guest's
struct in a field of `Plugin`. The host calls them only once it has the struct.

## Key results

- `callMethod_of_hasError`: an instance with an error answers zero
- `holdsExtensions_next`: the fields have the addresses of the structs that the host has
  asked for
- `simulatedBy`: one call
- `bridge_transparent`: all calls of a session
-/

namespace WclapBridge.Spec

open WclapBridge.Native

variable {is64 : Bool} {σ : Type}

/-! ## What a host sees of a plugin -/

/-- The calls of a host. -/
inductive ApiCall where
  | method (call : HostCall)
  | getter (getter : InfoGetter)
  | pluginGetExtension (pluginExtId : CString)

namespace ApiCall

/-- What the host has afterwards: the answer, the struct, if it is told that there is one, or
    the extension of which it has been given the functions. -/
def Reply : ApiCall → Type
  | method m => ReturnType.Value m.methodCall.ret
  | getter g => Option g.Info
  | pluginGetExtension _ => Option PluginExtension

/-- Zero, or no struct. -/
def noReply : (call : ApiCall) → call.Reply
  | method m => ReturnType.zero m.methodCall.ret
  | getter _ => none
  | pluginGetExtension _ => none

/-- The call of the guest. -/
def methodCall (abi : GetterAbi is64) : ApiCall → MethodCall
  | method m => m.methodCall
  | getter g => (getterPlan abi g).methodCall
  | pluginGetExtension pluginExtId => callGetExtension is64 pluginExtId

/-- The extensions of which the host has the functions after a reply. -/
def learn : (call : ApiCall) → call.Reply → List PluginExtension → List PluginExtension
  | pluginGetExtension _, some e, known => e :: known
  | _, _, known => known

end ApiCall

/-- A plugin, by its answers to the host: a call that it does not finish has none. -/
abbrev PluginSpec (σ : Type) := PartialResponder ApiCall.Reply σ

/-! ## The bridge -/

/-- A plugin of a guest, with what its calls depend on. `view` has the address of the guest's
    struct for each extension, whether the host has asked for it or not. `keeps` are the blocks
    which are in use in a memory when the host makes a call: an arena gives out others. -/
structure BridgedPlugin (is64 : Bool) where
  view : PluginView is64
  abi : GetterAbi is64
  ids : PluginExtensionIds
  arena : Arena is64
  keeps : LinearMemory → List Block
  stack : ValRaw

/-- What the calls of a plugin change. -/
structure BridgedSession (is64 : Bool) where
  mem : LinearMemory
  group : InstanceGroup
  exts : PluginExts is64

namespace BridgedPlugin

variable (b : BridgedPlugin is64)

/-- The memory before a call. -/
def guest (s : BridgedSession is64) : GuestState := ⟨s.mem, b.keeps s.mem⟩

/-- The plugin with the fields that the host's queries have set. -/
def viewAt (s : BridgedSession is64) : PluginView is64 := { b.view with exts := s.exts }

/-- The call of the guest which a call of the host comes to. -/
def callGuest (call : ApiCall) (s : BridgedSession is64) :
    MethodResult (call.methodCall b.abi).ret :=
  callMethod b.arena (b.viewAt s) s.group (call.methodCall b.abi) (b.guest s) b.stack

/-- `wclapExt`, which the guest answers a query with. -/
def wclapExt (pluginExtId : CString) (s : BridgedSession is64) : Pointer is64 :=
  (b.callGuest (.pluginGetExtension pluginExtId) s).call.result

/-- `Plugin::pluginGetExtension`, from the string on. -/
def getExtension (pluginExtId : CString) (s : BridgedSession is64) :
    Option PluginExtension × PluginExts is64 :=
  pluginGetExtension (extensionId b.ids pluginExtId) (b.wclapExt pluginExtId s) s.exts

/-- The struct of a getter, for a host that looks at it only if the getter has returned
    `true`. -/
def infoIfTrue {Info : Type} (r : Bool × Option Info) : Option Info :=
  if r.1 then r.2 else none

/-- What the host gets. -/
def reply : (call : ApiCall) → BridgedSession is64 → call.Reply
  | .method m, s => (b.callGuest (.method m) s).call.result
  | .getter g, s => infoIfTrue (g.get b.abi b.arena ⟨b.viewAt s, s.group, b.stack⟩ (b.guest s))
  | .pluginGetExtension pluginExtId, s => (b.getExtension pluginExtId s).1

/-- The fields `ambisonicExt`, …, `webviewExt` after a call. -/
def extsAfter : ApiCall → BridgedSession is64 → PluginExts is64
  | .pluginGetExtension pluginExtId, s => (b.getExtension pluginExtId s).2
  | _, s => s.exts

/-- The plugin as the host sees it. -/
def responder : Responder ApiCall.Reply (BridgedSession is64) := fun call s =>
  (b.reply call s,
    ⟨(b.callGuest call s).mem, (b.callGuest call s).call.group, b.extsAfter call s⟩)

/-- What a host may do: it makes the calls that the plugin allows, and those of an extension
    only once it has its functions. -/
def contract (allowed : ApiCall → σ → Prop) :
    CallerContract ApiCall.Reply σ (List PluginExtension) where
  learn := ApiCall.learn
  allowed call s known :=
    allowed call s ∧ ∀ e ∈ (call.methodCall b.abi).function.ext, e ∈ known

/-- The guest's answer to a query: the address of its struct, or null. A string which is no id
    of an extension may have any answer. -/
def ReturnsExtension (ptr : Pointer is64) (reply : Option PluginExtension) : ExtensionId → Prop
  | .known e => (reply = some e ∧ ptr = b.view.exts.ext e ∧ ptr ≠ Pointer.null) ∨
    (reply = none ∧ ptr = Pointer.null)
  | .other _ => reply = none

/-- The guest returns this reply: it returns the answer, or it says whether it has filled in
    the struct behind its last argument. -/
def Returns (slots : List ValRaw) (v : ValRaw) (mem : LinearMemory) :
    (call : ApiCall) → call.Reply → Prop
  | .method m, reply => rawResult m.methodCall.ret v = reply
  | .getter _, none => wasmValToArg .bool v = false
  | .getter g, some info => wasmValToArg .bool v = true ∧
    (getterPlan b.abi g).translate mem
      (mem.get (getterPlan b.abi g).codec (slotPointer is64 (slots.getLastD 0)) 0) = info
  | .pluginGetExtension pluginExtId, reply =>
    b.ReturnsExtension (slotPointer is64 v) reply (extensionId b.ids pluginExtId)

/-- What the guest's function does with the arguments of a call. -/
def Answers (spec : PluginSpec σ) (R : σ → LinearMemory → Prop) (call : ApiCall) (s : σ)
    (run : GuestRun) (g : GuestState) (plugin : ValRaw) (slots : List ValRaw) : Prop :=
  match spec call s with
  | none => ∀ v, (run (plugin :: slots) g.mem).1 ≠ .returned v
  | some (reply, s') =>
    ∃ v, (run (plugin :: slots) g.mem).1 = .returned v ∧
      b.Returns slots v (run (plugin :: slots) g.mem).2 call reply ∧
      R s' (run (plugin :: slots) g.mem).2

/-- The guest does what the specification says about a call that is allowed. The function is
    the one whose pointer is in the guest's struct, and it may rely on the arguments only. -/
structure Implements (spec : PluginSpec σ) (allowed : ApiCall → σ → Prop)
    (R : σ → LinearMemory → Prop) (call : ApiCall) : Prop where
  /-- There is room for the arguments. -/
  arena : ∀ s mem, R s mem → allowed call s →
    ArenaOk is64 (placeArgs b.arena (call.methodCall b.abi).args ⟨mem, b.keeps mem⟩).2
  function : ∀ s mem, R s mem → allowed call s → ∃ (fnPtr : Pointer is64) (run : GuestRun),
    HasBytes ⟨mem, b.keeps mem⟩ (b.view.fnPtrPtr (call.methodCall b.abi).function)
        ((pointerCodec is64).encode fnPtr) ∧
      b.view.table (call.methodCall b.abi).thread fnPtr.toUInt64 = some (.funcref run) ∧
      ∀ g plugin slots, slotPointer is64 plugin = b.view.ptr →
        ArgsPlaced is64 ⟨mem, b.keeps mem⟩ g (call.methodCall b.abi).args slots →
          ArenaOk is64 g → b.Answers spec R call s run g plugin slots

end BridgedPlugin

/-! ## After an error -/

/-- After an error no call is made, and the error stays. -/
theorem callAt_of_hasError {table : FunctionTable} {group : InstanceGroup} {mem : LinearMemory}
    {fnPtrPtr : Pointer is64} {ret : ReturnType} {args : List Arg} {stack : ValRaw}
    (h : group.hasError = true) :
    (InstanceImpl.callAt table group mem fnPtrPtr ret args stack).result = ret.zero ∧
      (InstanceImpl.callAt table group mem fnPtrPtr ret args stack).group = group := by
  obtain ⟨fnPtr, -, hcall⟩ := callAt_eq_call mem fnPtrPtr
  rw [hcall]
  constructor
  · exact call_result_of_fails (.hasError h)
  · show (wtCallRaw table group _ _ _).group = group
    rw [wtCallRaw, if_pos h]

/-- An instance with an error answers zero. -/
theorem callMethod_of_hasError {arena : Arena is64} {p : PluginView is64} {group : InstanceGroup}
    {m : MethodCall} {g : GuestState} {stack : ValRaw} (h : group.hasError = true) :
    (callMethod arena p group m g stack).call.result = m.ret.zero ∧
      (callMethod arena p group m g stack).call.group = group :=
  callAt_of_hasError h

/-- What a call comes to if the callee does not return. -/
theorem Answered.of_fails {ret : ReturnType} {group : InstanceGroup} {outcome : CallOutcome}
    {call : CallResult ret} (h : Answered ret group outcome call)
    (hfails : ∀ v, outcome ≠ .returned v) :
    call.result = ret.zero ∧ call.group.hasError = true := by
  cases outcome with
  | returned v => exact absurd rfl (hfails v)
  | error e => exact h
  | timeout => exact h
  | trap => exact h

/-! ## The fields of the extensions -/

namespace BridgedPlugin

variable {b : BridgedPlugin is64} {known : List PluginExtension}

/-- The fields of the extensions which the host has the functions of lead to the structs of
    the guest. -/
def HoldsExtensions (b : BridgedPlugin is64) (known : List PluginExtension)
    (exts : PluginExts is64) : Prop :=
  ∀ e ∈ known, exts.ext e = b.view.exts.ext e ∧ exts.ext e ≠ Pointer.null

/-- So the functions of these are found in the structs of the guest. -/
theorem fnPtrPtr_viewAt {s : BridgedSession is64} (hexts : HoldsExtensions b known s.exts)
    {function : PluginFunction} (h : ∀ e ∈ function.ext, e ∈ known) :
    (b.viewAt s).fnPtrPtr function = b.view.fnPtrPtr function := by
  unfold PluginView.fnPtrPtr
  cases hext : function.ext with
  | none => rfl
  | some e =>
    show (s.exts.ext e).offset _ = (b.view.exts.ext e).offset _
    rw [(hexts e (h e hext)).1]
    rfl

/-- A field is set to the address of its struct. -/
theorem HoldsExtensions.set {exts : PluginExts is64} (hexts : HoldsExtensions b known exts)
    {e : PluginExtension} {ptr : Pointer is64} (hptr : ptr = b.view.exts.ext e)
    (hne : ptr ≠ Pointer.null) : HoldsExtensions b (e :: known) (exts.set e ptr) := by
  intro e' he'
  simp only [PluginExts.set]
  split
  next h => exact ⟨h ▸ hptr, hne⟩
  next h => exact hexts e' ((List.mem_cons.mp he').resolve_left h)

/-- A query for an extension that the guest has: the host gets the functions of the bridge,
    and the field has the address. The GUI does not take the place of a webview. -/
theorem holdsExtensions_known {exts : PluginExts is64} (hexts : HoldsExtensions b known exts)
    {e : PluginExtension} {ptr : Pointer is64} (hptr : ptr = b.view.exts.ext e)
    (hne : ptr ≠ Pointer.null) :
    (pluginGetExtension (.known e) ptr exts).1 = some e ∧
      HoldsExtensions b (e :: known) (pluginGetExtension (.known e) ptr exts).2 := by
  by_cases he : e = .gui
  · subst he
    rw [pluginGetExtension_gui hne, keepGui_eq hne]
    refine ⟨rfl, ?_⟩
    dsimp only
    split
    next hnull =>
      intro e' he'
      -- the host has no webview yet
      have hwebview : e' ≠ .webview := by
        rintro rfl
        exact (hexts _ ((List.mem_cons.mp he').resolve_left (by decide))).2 hnull
      have hset := hexts.set hptr hne e' he'
      simp only [PluginExts.set, if_neg hwebview] at hset ⊢
      exact hset
    next => exact hexts.set hptr hne
  · rw [pluginGetExtension_known hne he]
    exact ⟨rfl, hexts.set hptr hne⟩

/-- What the host gets for a query, and the fields after it. -/
theorem getExtension_next {s : BridgedSession is64} (hexts : HoldsExtensions b known s.exts)
    {pluginExtId : CString} {reply : Option PluginExtension}
    (h : b.ReturnsExtension (b.wclapExt pluginExtId s) reply (extensionId b.ids pluginExtId)) :
    (b.getExtension pluginExtId s).1 = reply ∧
      HoldsExtensions b (ApiCall.learn (.pluginGetExtension pluginExtId) reply known)
        (b.getExtension pluginExtId s).2 := by
  unfold getExtension
  cases hid : extensionId b.ids pluginExtId with
  | other id =>
    rw [hid] at h
    cases h
    rw [pluginGetExtension_other]
    exact ⟨rfl, hexts⟩
  | known e =>
    rw [hid] at h
    rcases h with ⟨rfl, hptr, hne⟩ | ⟨rfl, hnull⟩
    · exact holdsExtensions_known hexts hptr hne
    · rw [hnull, pluginGetExtension_null]
      exact ⟨rfl, hexts⟩

/-! ## One call -/

variable {spec : PluginSpec σ} {allowed : ApiCall → σ → Prop} {R : σ → LinearMemory → Prop}
  {call : ApiCall} {s : BridgedSession is64}

/-- A getter of which the guest has returned `false`, or nothing at all, has no struct. -/
theorem reply_getter_false {getter : InfoGetter}
    (h : (b.callGuest (.getter getter) s).call.result = false) :
    b.reply (.getter getter) s = none := by
  show infoIfTrue (getter.get b.abi b.arena ⟨b.viewAt s, s.group, b.stack⟩ (b.guest s)) = none
  rw [get_eq_run]
  show infoIfTrue ((getterPlan b.abi getter).copied (b.callGuest (.getter getter) s).call.result
    _ _) = none
  rw [h, GetterPlan.copied]
  split <;> rfl

/-- The address of a getter's struct is in the last slot. -/
theorem slotPointer_getLastD {Info : Type} (plan : GetterPlan Info) (arena : Arena is64)
    (g : GuestState) :
    slotPointer is64 ((argSlots (placeArgs arena plan.methodCall.args g).1).getLastD 0) =
      plan.infoPtr arena g := by
  rw [placeArgs_plan, argSlots, List.map_append, List.map_singleton, List.getLastD_concat]
  exact wasmValToArg_slot (.pointer is64) _

/-- A getter brings back the struct that the guest has filled in. -/
theorem reply_getter_true {getter : InfoGetter}
    (h : (b.callGuest (.getter getter) s).call.result = true) :
    b.reply (.getter getter) s =
      some ((getterPlan b.abi getter).translate (b.callGuest (.getter getter) s).mem
        ((b.callGuest (.getter getter) s).mem.get (getterPlan b.abi getter).codec
          ((getterPlan b.abi getter).infoPtr b.arena (b.guest s)) 0)) := by
  show infoIfTrue (getter.get b.abi b.arena ⟨b.viewAt s, s.group, b.stack⟩ (b.guest s)) = _
  rw [get_eq_run]
  show infoIfTrue ((getterPlan b.abi getter).copied (b.callGuest (.getter getter) s).call.result
    (b.callGuest (.getter getter) s).mem ((b.callGuest (.getter getter) s).mem.get _ _ 0)) = _
  rw [h, GetterPlan.copied, Bool.not_true, Bool.and_false]
  rfl

/-- A call that the guest does not finish changes no field, and has no reply. -/
theorem reply_of_zero (h : (b.callGuest call s).call.result = (call.methodCall b.abi).ret.zero) :
    b.reply call s = call.noReply := by
  cases call with
  | method call => exact h
  | getter getter => exact reply_getter_false h
  | pluginGetExtension pluginExtId =>
    have hnull : b.wclapExt pluginExtId s = Pointer.null := h
    show (b.getExtension pluginExtId s).1 = none
    rw [getExtension, hnull, pluginGetExtension_null]

/-- The states of a session in which the guest has done what it should. -/
def Related (b : BridgedPlugin is64) (R : σ → LinearMemory → Prop) (group : InstanceGroup)
    (s : σ) (known : List PluginExtension) (t : BridgedSession is64) : Prop :=
  R s t.mem ∧ t.group = group ∧ HoldsExtensions b known t.exts

/-- After an error. -/
def Failed (t : BridgedSession is64) : Prop := t.group.hasError = true

/-- What the guest returns, the host gets, and the fields are right for what it knows then. -/
theorem reply_of_returns {reply : call.Reply} {v : ValRaw}
    (hexts : HoldsExtensions b known s.exts)
    (hresult : (b.callGuest call s).call.result = rawResult (call.methodCall b.abi).ret v)
    (hreturns : b.Returns
      (argSlots (placeArgs b.arena (call.methodCall b.abi).args (b.guest s)).1) v
      (b.callGuest call s).mem call reply) :
    b.reply call s = reply ∧
      HoldsExtensions b (ApiCall.learn call reply known) (b.extsAfter call s) := by
  cases call with
  | method call => exact ⟨hresult.trans hreturns, hexts⟩
  | getter getter =>
    cases reply with
    | none => exact ⟨reply_getter_false (hresult.trans hreturns), hexts⟩
    | some info =>
      obtain ⟨htrue, hinfo⟩ := hreturns
      have hslot := slotPointer_getLastD (getterPlan b.abi getter) b.arena (b.guest s)
      refine ⟨?_, hexts⟩
      rw [reply_getter_true (hresult.trans htrue), ← hinfo, ← hslot]
      rfl
  | pluginGetExtension pluginExtId =>
    refine getExtension_next hexts ?_
    have hptr : b.wclapExt pluginExtId s = slotPointer is64 v := hresult
    rw [hptr]
    exact hreturns

/-- One call of a guest that does what the specification says. -/
theorem simulatedBy {group : InstanceGroup} (hgroup : group.hasError = false)
    (h : b.Implements spec allowed R call) :
    spec.SimulatedBy (b.contract allowed) ApiCall.noReply b.responder (Related b R group) Failed
      call := by
  -- the call, in a state in which the guest does what it should
  have hcall : ∀ {s known t}, Related b R group s known t →
      (b.contract allowed).allowed call s known → ∃ run : GuestRun,
      b.Answers spec R call s run (placeArgs b.arena (call.methodCall b.abi).args (b.guest t)).2
        (argToWasmVal (.pointer is64) b.view.ptr)
        (argSlots (placeArgs b.arena (call.methodCall b.abi).args (b.guest t)).1) ∧
      Delivered (b.viewAt t) t.group (call.methodCall b.abi) (b.guest t) (some (.funcref run))
        (b.callGuest call t) (argToWasmVal (.pointer is64) b.view.ptr)
        (argSlots (placeArgs b.arena (call.methodCall b.abi).args (b.guest t)).1) := by
    rintro s known t ⟨hR, -, hexts⟩ ⟨hallowed, hknown⟩
    obtain ⟨fnPtr, run, hfn, htable, hanswers⟩ := h.function s t.mem hR hallowed
    have hplace := h.arena s t.mem hR hallowed
    rw [← fnPtrPtr_viewAt hexts hknown] at hfn
    have hdelivered : Delivered (b.viewAt t) t.group (call.methodCall b.abi) (b.guest t)
        (b.view.table (call.methodCall b.abi).thread fnPtr.toUInt64) (b.callGuest call t) _ _ :=
      callMethod_delivered hfn hplace
    rw [htable] at hdelivered
    exact ⟨run, hanswers _ _ _ hdelivered.leads hdelivered.args hplace, hdelivered⟩
  constructor
  case replies =>
    intro s known t reply s' hR hallowed hspec
    obtain ⟨run, hanswers, hdelivered⟩ := hcall hR hallowed
    rw [Answers, hspec] at hanswers
    obtain ⟨v, hv, hreturns, hnext⟩ := hanswers
    obtain ⟨hanswered, hmem⟩ := hdelivered.answered run rfl (hR.2.1 ▸ hgroup)
    have hanswered' : Answered (call.methodCall b.abi).ret t.group (.returned v)
        (b.callGuest call t).call := hv ▸ hanswered
    obtain ⟨hresult, hsame⟩ := hanswered'
    obtain ⟨hreply, hexts⟩ := reply_of_returns hR.2.2 hresult (hmem ▸ hreturns)
    refine ⟨hreply, ?_, hsame.trans hR.2.1, hexts⟩
    show R s' (b.callGuest call t).mem
    exact hmem ▸ hnext
  case fails =>
    intro s known t hR hallowed hspec
    obtain ⟨run, hanswers, hdelivered⟩ := hcall hR hallowed
    rw [Answers, hspec] at hanswers
    obtain ⟨hzero, herror⟩ :=
      (hdelivered.answered run rfl (hR.2.1 ▸ hgroup)).1.of_fails hanswers
    exact ⟨reply_of_zero hzero, herror⟩
  case failed =>
    intro t hfailed
    have hcalled : (b.callGuest call t).call.result = (call.methodCall b.abi).ret.zero ∧
        (b.callGuest call t).call.group = t.group := callMethod_of_hasError hfailed
    refine ⟨reply_of_zero hcalled.1, ?_⟩
    show (b.callGuest call t).call.group.hasError = true
    rw [hcalled.2]
    exact hfailed

end BridgedPlugin

/-! ## All calls of a session -/

open BridgedPlugin in
/-- If the guest does what the specification says about the calls of a session, then a host
    that keeps to its contract gets the replies of the plugin, up to the first call that the
    guest does not finish. From that call on, all replies are zero. -/
theorem bridge_transparent (b : BridgedPlugin is64) (spec : PluginSpec σ)
    (allowed : ApiCall → σ → Prop) (R : σ → LinearMemory → Prop) (calls : List ApiCall) {s : σ}
    {t : BridgedSession is64} (hgroup : t.group.hasError = false) (hR : R s t.mem)
    (himplements : ∀ call ∈ calls, b.Implements spec allowed R call)
    (hpermitted : spec.Permitted (b.contract allowed) calls s []) :
    b.responder.replies calls t = (spec.orElse ApiCall.noReply).replies calls (some s) ∧
      PartialResponder.Related (Related b R t.group) Failed
        ((spec.orElse ApiCall.noReply).after calls (some s)) (b.responder.after calls t) :=
  PartialResponder.replies_orElse (fun call hcall => simulatedBy hgroup (himplements call hcall))
    ⟨hR, rfl, fun _ h => absurd h List.not_mem_nil⟩ hpermitted

/-! ## A plugin that traps when it is reset -/

/-- Functions 5 to 7 of the table, of which the second one traps, and the third one answers
    queries. -/
def viewOfThree : PluginView false where
  ptr := .ofNat 16
  exts := ⟨fun _ => .ofNat 16⟩
  offset function :=
    if function = .reset then 4 else if function = .get_extension then 8 else 0
  table _ fnP :=
    if fnP = 5 then some (.funcref returnsTrue)
    else if fnP = 6 then some (.funcref fun _ mem => (.trap, mem))
    else if fnP = 7 then some (.funcref fun _ mem => (.returned 16, mem))
    else none

theorem zero_not_mem_id (n : Nat) : (0 : UInt8) ∉ List.replicate n 97 := by
  intro h
  exact absurd (List.eq_of_mem_replicate h) (by decide)

/-- The struct of the plugin, which is that of its extensions too, is the only block in use. -/
def bridgedThree : BridgedPlugin false where
  view := viewOfThree
  abi := GetterAbi.clap false
  ids e := ⟨_, zero_not_mem_id (pluginExtensionBranches.idxOf e)⟩
  arena := bumpArena
  keeps _ := [⟨16, 12⟩]
  stack := 0

/-- A plugin which has one parameter, and the same note port at each index. -/
def onePort : PluginSpec Unit
  | .pluginGetExtension pluginExtId, s =>
    match extensionId bridgedThree.ids pluginExtId with
    | .known e => some (some e, s)
    | .other _ => some (none, s)
  | .method .params_count, s => some ((1 : UInt32), s)
  | .getter (.notePorts_get _ _), s => some (some blankNotePortInfo, s)
  | _, _ => none

/-- The calls of a host. -/
def onePortCalls : List ApiCall :=
  [.pluginGetExtension (bridgedThree.ids .notePorts), .getter (.notePorts_get 0 true),
    .pluginGetExtension (bridgedThree.ids .params), .method .params_count, .method .pluginReset,
    .method .params_count]

/-- One page of memory, with the function pointers of the struct in it. -/
structure HasThree (_ : Unit) (mem : LinearMemory) : Prop where
  size : mem.size = LinearMemory.onePage.size
  five : HasBytes ⟨mem, [⟨16, 12⟩]⟩ (.ofNat 16 : Pointer false)
    ((pointerCodec false).encode (.ofNat 5))
  six : HasBytes ⟨mem, [⟨16, 12⟩]⟩ (.ofNat 20 : Pointer false)
    ((pointerCodec false).encode (.ofNat 6))
  seven : HasBytes ⟨mem, [⟨16, 12⟩]⟩ (.ofNat 24 : Pointer false)
    ((pointerCodec false).encode (.ofNat 7))

/-- The struct is left alone when arguments are placed. -/
theorem HasThree.placed {mem : LinearMemory} {g : GuestState} {args : List MethodArg}
    {slots : List ValRaw} (h : HasThree () mem)
    (hplaced : ArgsPlaced false ⟨mem, [⟨16, 12⟩]⟩ g args slots) : HasThree () g.mem := by
  have hkept : ∀ {ptr : Pointer false} {bytes : List UInt8},
      HasBytes ⟨mem, [⟨16, 12⟩]⟩ ptr bytes → HasBytes ⟨g.mem, [⟨16, 12⟩]⟩ ptr bytes := by
    intro ptr bytes hbytes
    have hgrown := hbytes.extends hplaced.grown
    exact ⟨⟨hbytes.holds.allocated, hgrown.holds.read⟩, hgrown.inRange, hgrown.pos⟩
  exact ⟨hplaced.grown.size.trans h.size, hkept h.five, hkept h.six, hkept h.seven⟩

/-- Whether there is room depends on the size of the memory, and not on what is in it. -/
theorem arenaOk_placeArgs {arena : Arena is64} {args : List MethodArg} {g g' : GuestState}
    (hok : ArenaOk is64 (placeArgs arena args g').2) (hsize : g.mem.size = g'.mem.size)
    (hblocks : (placeArgs arena args g).2.blocks = (placeArgs arena args g').2.blocks) :
    ArenaOk is64 (placeArgs arena args g).2 :=
  hok.of_prefix (hblocks ▸ List.prefix_rfl) ((placeArgs_later args g').size.trans
    (hsize.symm.trans (placeArgs_later args g).size.symm))

theorem HasThree.arenaOk {mem : LinearMemory} {args : List MethodArg} (h : HasThree () mem)
    (hok : ArenaOk false (placeArgs (bumpArena : Arena false) args ⟨.onePage, [⟨16, 12⟩]⟩).2)
    (hblocks : (placeArgs (bumpArena : Arena false) args ⟨mem, [⟨16, 12⟩]⟩).2.blocks =
      (placeArgs (bumpArena : Arena false) args ⟨.onePage, [⟨16, 12⟩]⟩).2.blocks) :
    ArenaOk false (placeArgs (bumpArena : Arena false) args ⟨mem, [⟨16, 12⟩]⟩).2 :=
  arenaOk_placeArgs hok h.size hblocks

/-- The host may make any call. -/
def anyCall (_ : ApiCall) (_ : Unit) : Prop := True

theorem params_count_implements :
    bridgedThree.Implements onePort anyCall HasThree (.method .params_count) where
  arena _ mem h _ := h.arenaOk (by decide) rfl
  function _ mem h _ := by
    refine ⟨.ofNat 5, returnsTrue, h.five, rfl, fun g plugin slots _ hplaced _ => ?_⟩
    exact ⟨1, rfl, rfl, h.placed hplaced⟩

theorem pluginReset_implements :
    bridgedThree.Implements onePort anyCall HasThree (.method .pluginReset) where
  arena _ mem h _ := h.arenaOk (by decide) rfl
  function _ mem h _ := by
    refine ⟨.ofNat 6, fun _ mem => (.trap, mem), h.six, rfl, fun g plugin slots _ _ _ => ?_⟩
    intro v
    exact nofun

/-- The answer is the address of the struct, whatever the extension is. -/
theorem pluginGetExtension_implements {e : PluginExtension}
    (hid : extensionId bridgedThree.ids (bridgedThree.ids e) = .known e)
    (hok : ArenaOk false (placeArgs (bumpArena : Arena false)
      (callGetExtension false (bridgedThree.ids e)).args ⟨.onePage, [⟨16, 12⟩]⟩).2) :
    bridgedThree.Implements onePort anyCall HasThree
      (.pluginGetExtension (bridgedThree.ids e)) where
  arena _ mem h _ := h.arenaOk hok rfl
  function _ mem h _ := by
    refine ⟨.ofNat 7, fun _ mem => (.returned 16, mem), h.seven, rfl,
      fun g plugin slots _ hplaced _ => ?_⟩
    unfold BridgedPlugin.Answers
    simp only [onePort, hid]
    refine ⟨16, rfl, ?_, h.placed hplaced⟩
    simp only [BridgedPlugin.Returns, hid]
    exact .inl ⟨rfl, rfl, by decide⟩

/-- The struct that the bridge has placed is blank, and the guest leaves it so. -/
theorem notePorts_get_implements :
    bridgedThree.Implements onePort anyCall HasThree (.getter (.notePorts_get 0 true)) where
  arena _ mem h _ := h.arenaOk (by decide) rfl
  function _ mem h _ := by
    refine ⟨.ofNat 5, returnsTrue, h.five, rfl, fun g plugin slots _ hplaced _ => ?_⟩
    have hblank : g.mem.get (GetterAbi.clap false).notePortInfo
        (slotPointer false (slots.getLastD 0)) 0 = blankNotePortInfo := by
      cases hplaced.has with
      | cons _ hrest =>
        cases hrest with
        | cons _ hrest =>
          cases hrest with
          | cons hcopy hnil =>
            cases hnil
            exact (hcopy.hasBytes _ rfl).get
    exact ⟨1, rfl, ⟨rfl, hblank⟩, h.placed hplaced⟩

/-- The memory in which the session begins. -/
def memoryOfThree : LinearMemory :=
  { LinearMemory.onePage with
    bytes := LinearMemory.onePage.bytes.write 16 [5, 0, 0, 0, 6, 0, 0, 0, 7, 0, 0, 0] }

theorem hasThree_memoryOfThree : HasThree () memoryOfThree where
  size := rfl
  five := ⟨⟨fun x hx => ⟨_, List.mem_singleton_self _, hx.1, Nat.lt_of_lt_of_le hx.2 (by decide)⟩,
    by decide⟩, ⟨by decide, by decide⟩, by decide⟩
  six := ⟨⟨fun x hx => ⟨_, List.mem_singleton_self _, Nat.le_trans (by decide) hx.1,
    Nat.lt_of_lt_of_le hx.2 (by decide)⟩, by decide⟩, ⟨by decide, by decide⟩, by decide⟩
  seven := ⟨⟨fun x hx => ⟨_, List.mem_singleton_self _, Nat.le_trans (by decide) hx.1, hx.2⟩,
    by decide⟩, ⟨by decide, by decide⟩, by decide⟩

/-- The host asks for the note ports and for the parameters before it uses them. -/
theorem onePortCalls_permitted :
    onePort.Permitted (bridgedThree.contract anyCall) onePortCalls () [] := by
  refine ⟨⟨trivial, nofun⟩, ?_⟩
  rintro _ _ ⟨⟩
  refine ⟨⟨trivial, by decide⟩, ?_⟩
  rintro _ _ ⟨⟩
  refine ⟨⟨trivial, nofun⟩, ?_⟩
  rintro _ _ ⟨⟩
  refine ⟨⟨trivial, by decide⟩, ?_⟩
  rintro _ _ ⟨⟩
  exact ⟨⟨trivial, nofun⟩, nofun⟩

/-- The replies, before the trap and after it. -/
theorem bridge_transparent_trap :
    bridgedThree.responder.replies onePortCalls
        ⟨memoryOfThree, ⟨true, true, none, none, false⟩, .new⟩ =
        [⟨.pluginGetExtension (bridgedThree.ids .notePorts), some PluginExtension.notePorts⟩,
          ⟨.getter (.notePorts_get 0 true), some blankNotePortInfo⟩,
          ⟨.pluginGetExtension (bridgedThree.ids .params), some PluginExtension.params⟩,
          ⟨.method .params_count, (1 : UInt32)⟩,
          ⟨.method .pluginReset, ()⟩, ⟨.method .params_count, (0 : UInt32)⟩] ∧
      (bridgedThree.responder.after onePortCalls
        ⟨memoryOfThree, ⟨true, true, none, none, false⟩, .new⟩).group.hasError = true :=
  bridge_transparent bridgedThree onePort anyCall HasThree onePortCalls rfl
    hasThree_memoryOfThree (by
      simp only [onePortCalls, List.forall_mem_cons]
      exact ⟨pluginGetExtension_implements (by decide) (by decide), notePorts_get_implements,
        pluginGetExtension_implements (by decide) (by decide), params_count_implements,
        pluginReset_implements, params_count_implements, fun _ h => absurd h List.not_mem_nil⟩)
    onePortCalls_permitted

end WclapBridge.Spec
