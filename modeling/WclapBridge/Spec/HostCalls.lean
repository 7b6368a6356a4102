import WclapBridge.Native.HostDispatch
import WclapBridge.Spec.HostStructs
import WclapBridge.Spec.HostTables
import WclapBridge.Spec.Marshalling
import WclapBridge.Spec.PortTypes

/-!
# From the guest to its host

A guest reaches its host in three steps: it asks `get_extension` for a struct, reads a
function pointer there, and calls the entry of its function table. The struct was written
when the module was opened, the table has grown with every instance since, and the plugin
is found by the context field of the `wclap_host` that the guest passes on. In every state
without an error these fit together: the function that the host has for this field is
called once, with the arguments of the guest, strings and messages among them, and the guest
gets its answer and what the host has filled in.

## Key results

- `indices_small`, `step_indices`: the indices fit in a pointer, and never change
- `hostArgs_arrive`, `storeAnswer_spec`: what goes to the host, and what comes back
- `callsHost`, `asksHost`: one call through the table
- `guest_reaches_host`: the whole way, in every state of a run
-/

namespace WclapBridge.Spec

open WclapBridge.Native
open OpenWclap (step)

variable {is64 : Bool}

/-! ## Indices -/

/-- The indices fit in a pointer of 32 bits. -/
def SmallIndices (m : WclapModule) : Prop :=
  ∀ fn, (m.hostIndex fn).toNat < 2 ^ 32

theorem registerHost_small {m : WclapModule} (h : SmallIndices m) (instance_ : InstanceImpl)
    (fn : HostFunction) (outcome : GrowOutcome) :
    SmallIndices (m.registerHost instance_ fn outcome).2.1 := by
  have hsmall : ∀ index : UInt64, ∀ f,
      (if f = fn then index.toUInt32.toUInt64 else m.hostIndex f).toNat < 2 ^ 32 := by
    intro index f
    split
    next =>
      rw [UInt32.toNat_toUInt64]
      exact index.toUInt32.toNat_lt
    next => exact h f
  unfold WclapModule.registerHost
  dsimp only
  split
  next => exact hsmall _
  next => split <;> exact hsmall _

theorem registerHosts_small {m : WclapModule} (h : SmallIndices m) (instance_ : InstanceImpl)
    (outcome : HostFunction → GrowOutcome) (fns : List HostFunction) :
    SmallIndices (m.registerHosts instance_ outcome fns).2.1 := by
  induction fns generalizing m instance_ with
  | nil => exact h
  | cons fn fns ih =>
    have hfn := registerHost_small h instance_ fn (outcome fn)
    unfold WclapModule.registerHosts
    split
    next heq =>
      rw [heq] at hfn
      exact hfn
    next heq =>
      rw [heq] at hfn
      exact ih hfn _

/-- The indices of a module that is being opened fit in a pointer of 32 bits. -/
theorem indices_small (is64 shared : Bool) (setup : SetupOutcome)
    (grow : HostFunction → GrowOutcome) :
    SmallIndices (WclapModule.construct is64 shared setup grow).2 := by
  obtain ⟨mainThread, effects, -, hinstances, hindex⟩ := WclapModule.base_spec is64 shared setup
  have hbase : SmallIndices (WclapModule.base is64 shared setup) := by
    intro fn
    rw [hindex]
    exact Nat.two_pow_pos 32
  have hadd := registerHosts_small hbase mainThread grow hostFunctions
  unfold WclapModule.construct
  dsimp only
  rw [hinstances]
  split
  next => exact hbase
  next => exact hadd

/-- Consecutive indices from a start are determined by it. -/
theorem IndexedFrom.unique {start : Nat} {a b : HostFunction → UInt64}
    (ha : IndexedFrom start hostFunctions a) (hb : IndexedFrom start hostFunctions b) : a = b := by
  funext fn
  obtain ⟨k, hk⟩ := List.mem_iff_getElem?.mp (mem_hostFunctions fn)
  exact UInt64.toNat_inj.mp ((ha k fn hk).trans (hb k fn hk).symm)

/-- The invariant of a run: without an error, the tables are as they should be, and the
    indices are the ones that were bound. -/
def KeepsIndices (start : Nat) (hostIndex : HostFunction → UInt64) (m : WclapModule) : Prop :=
  HostedOrFailed start m ∧ (m.instanceGroup.hasError = false → m.hostIndex = hostIndex)

theorem step_indices {s t : OpenWclap} {a : Action} {fresh : List TableEntry}
    {hostIndex : HostFunction → UInt64} (hs : KeepsIndices fresh.length hostIndex s.wclap)
    (hfresh : StartsFresh fresh a) (hplugin : NoAudioThread s a) (hkeeps : KeepsHostEntries s a)
    (ht : step s a = some t) : KeepsIndices fresh.length hostIndex t.wclap := by
  have hhosted := step_hosted hs.1 hfresh hplugin hkeeps ht
  refine ⟨hhosted, fun hgroup => ?_⟩
  have hold := (OpenWclap.step_group_follows ht).hasError_eq_false hgroup
  rw [← hs.2 hold]
  exact (hhosted hgroup).indices.unique (hs.1 hold).indices

/-! ## One call -/

/-- The functions of the extension structs call the plugin's host. -/
theorem callback_isSome {e : HostExtension} {fn : HostFunction} (hfn : fn ∈ e.functions) :
    fn.callback.isSome = true := by
  have hall : ∀ f ∈ e.functions, f.callback.isSome = true := by
    cases e <;> decide
  exact hall fn hfn

/-- They go to the host's struct for the extension. -/
theorem callback_field {e : HostExtension} {fn : HostFunction} (hfn : fn ∈ e.functions)
    {cb : HostCallback} (hcb : fn.callback = some cb) : cb.field = some e := by
  have hfields : ∀ f ∈ e.functions, f.callback.map (·.field) = some (some e) := by
    cases e <;> decide
  have hfield := hfields fn hfn
  rw [hcb] at hfield
  exact Option.some.inj hfield

/-- What a host gets for the arguments of the guest: numbers as they are, strings up to the
    longest that is passed on, and a message with all its bytes. -/
def ArgsArrive (mem : LinearMemory) (out : HostOut) : (params : List HostParam) →
    Args (HostParam.types is64 out params) → List HostArg → Prop
  | [], _, host => host = []
  | .value t :: params, (v, args), host =>
    ∃ rest, host = .value ⟨t, v⟩ :: rest ∧ ArgsArrive mem out params args rest
  | .string :: params, (ptr, args), host => ∃ string rest, host = .string string :: rest ∧
    (∀ s, StringAt mem ptr s → string = s.take maxLogStringLength) ∧
    ArgsArrive mem out params args rest
  | .message :: params, (buffer, size, args), host => ∃ bytes rest,
    host = .buffer bytes :: .value ⟨.uint32, size⟩ :: rest ∧
    (InRange mem buffer (UInt32.toNat size) →
      bytes = some (mem.bytes.read buffer.toNat (UInt32.toNat size))) ∧
    ArgsArrive mem out params args rest

/-- A message in guest memory is copied as it is. -/
theorem getArray_message {mem : LinearMemory} {buffer : Pointer is64} {size : UInt32}
    (hin : InRange mem buffer size.toNat) :
    mem.getArray buffer 1 size.toUInt64 = some (mem.bytes.read buffer.toNat size.toNat) := by
  have hread := InRange.getArray (w := 1) (n := size.toNat) (by rwa [Nat.one_mul])
  rw [Nat.one_mul, UInt64.ofNat_uInt32ToNat] at hread
  exact hread

theorem hostArgs_arrive (mem : LinearMemory) (out : HostOut) (params : List HostParam)
    (args : Args (HostParam.types is64 out params)) :
    ArgsArrive mem out params args (hostArgs mem out params args) := by
  induction params with
  | nil => rfl
  | cons param params ih =>
    cases param with
    | value t => exact ⟨_, rfl, ih args.2⟩
    | string => exact ⟨_, _, rfl, fun s hs => getString_eq_take hs _, ih args.2⟩
    | message =>
      obtain ⟨buffer, size, args⟩ := args
      exact ⟨_, _, rfl, fun hin => getArray_message hin, ih args⟩

/-- The plugin's host has given the type of an audio channel as a null pointer. -/
def ReadsNull (abi : TrackInfoAbi is64) {ret : ReturnType} (answer : HostAnswer ret)
    (out : HostOut) : Prop :=
  out = .trackInfo ∧ answer.isTrue = true ∧ HasAudioChannel abi answer.info ∧
    answer.info.audio_port_type = none

/-- The guest has what the host has filled in, and nothing else has changed since the host has
    returned. -/
def OutArrives (abi : TrackInfoAbi is64) (bound : GuestState) {ret : ReturnType}
    (answer : HostAnswer ret) (mem : LinearMemory) :
    (out : HostOut) → Args (out.types is64) → Prop
  | .none, _ => mem = answer.mem
  | .timerId, (timer_id, _) =>
    if answer.isTrue then
      InRange answer.mem timer_id Codec.u32.width →
        Written Codec.u32 timer_id answer.nativeTimerId answer.mem mem
    else mem = answer.mem
  | .trackInfo, (infoPtr, _) =>
    if answer.isTrue then
      LeavesArena bound answer.mem → InRange answer.mem infoPtr abi.trackInfo.width →
        (∀ x, span infoPtr.toNat abi.trackInfo.width x → ¬ Allocated bound.blocks x) →
        TrackInfoArrives abi ⟨answer.mem, bound.blocks⟩ answer.info infoPtr mem
    else mem = answer.mem

theorem PortStrings.leaves {g : GuestState} {ports : WclapPorts is64} (h : PortStrings g ports)
    {mem : LinearMemory} (hmem : LeavesArena g mem) : PortStrings ⟨mem, g.blocks⟩ ports := by
  have hkept : ∀ {ptr : Pointer is64} {string : CString}, HasString g ptr string →
      HasString ⟨mem, g.blocks⟩ ptr string := fun hstring =>
    ⟨hstring.1, (Cells.read_congr fun x hx => hmem.bytes x (hstring.1 x hx)).trans hstring.2⟩
  exact ⟨hkept h.mono, hkept h.stereo, hkept h.surround, hkept h.ambisonic, hkept h.other⟩

/-- What is written after a call that was answered, in all cases. -/
theorem storeAnswer_spec (abi : TrackInfoAbi is64) {bound : GuestState} {ports : WclapPorts is64}
    (hports : PortStrings bound ports) {ret : ReturnType} (answer : HostAnswer ret) (out : HostOut)
    (args : Args (out.types is64)) :
    (ReadsNull abi answer out → storeAnswer abi ports answer out args = none) ∧
      (¬ ReadsNull abi answer out → ∃ mem, storeAnswer abi ports answer out args = some mem ∧
        OutArrives abi bound answer mem out args) := by
  unfold ReadsNull
  cases out with
  | none => exact ⟨fun h => HostOut.noConfusion h.1, fun _ => ⟨_, rfl, rfl⟩⟩
  | timerId =>
    obtain ⟨timer_id, ⟨⟩⟩ := args
    refine ⟨fun h => HostOut.noConfusion h.1, fun _ => ?_⟩
    unfold storeAnswer OutArrives
    cases answer.isTrue with
    | true => exact ⟨_, rfl, fun hin => hin.written _⟩
    | false => exact ⟨_, rfl, rfl⟩
  | trackInfo =>
    obtain ⟨infoPtr, ⟨⟩⟩ := args
    unfold OutArrives
    cases htrue : answer.isTrue with
    | false =>
      refine ⟨fun h => Bool.noConfusion h.2.1, fun _ => ⟨_, ?_, rfl⟩⟩
      simp only [storeAnswer, htrue, Bool.false_eq_true, if_false]
    | true =>
      have hstore : storeAnswer abi ports answer .trackInfo (infoPtr, ()) =
          (trackPortType abi ports answer.info).map _ := storeAnswer_trackInfo htrue
      refine ⟨fun h => hstore.trans ?_, fun h => ?_⟩
      · rw [trackPortType_eq_none_iff.mpr h.2.2, Option.map_none]
      · obtain ⟨ptr, hptr⟩ := Option.ne_none_iff_exists'.mp fun hnone =>
          h ⟨rfl, rfl, trackPortType_eq_none_iff.mp hnone⟩
        rw [hptr, Option.map_some] at hstore
        exact ⟨_, hstore, fun hleaves hin hapart =>
          trackInfoArrives (hports.leaves hleaves) hin hapart hptr⟩

/-! ## A guest and its host -/

/-- A guest that works with what the module has bound, and a `wclap_host` of a plugin
    which has been initialised by its host. -/
structure GuestSession (is64 : Bool) where
  arena : Arena is64
  /-- Guest memory when the module binds its global arena. -/
  opened : GuestState
  context : DispatchContext is64
  /-- The plugins, and the memory in which the guest runs. -/
  contexts : ModuleContexts is64
  plugin : Nat
  wHost : Pointer is64

namespace GuestSession

variable (q : GuestSession is64)

/-- The memory in which the guest runs. -/
def mem : LinearMemory := q.contexts.mem

/-- The plugin's host. -/
def host : NativeHost := q.context.natives q.plugin

/-- What is bound when the module is opened. -/
def bound (hostIndex : HostFunction → UInt64) : GlobalArena is64 × GuestState :=
  bindGlobalArena q.arena hostIndex q.opened

/-- The arenas are in order, the guest leaves their blocks alone, and its `wclap_host`
    belongs to the plugin. The GUI helper provides the webview. -/
structure Ok (hostIndex : HostFunction → UInt64) : Prop where
  ids : IdsOk q.context.ids
  arena : ArenaOk is64 (q.bound hostIndex).2
  bound : q.context.bound = (q.bound hostIndex).1
  leaves : LeavesArena (q.bound hostIndex).2 q.mem
  plugin : q.contexts.getPlugin q.context.templates .host q.wHost = some q.plugin
  initialised : q.context.hosts q.plugin = q.host.initialised q.context.ids
  webview : q.host.extHostWebview ≠ 0

/-- The answer to a string of the guest. -/
def getExtension (extId : Pointer is64) : Pointer is64 :=
  hostTemplate_get_extension q.context.ids q.context.bound q.mem (some q.host) extId

/-- Entry `k` of the struct at an address, as the guest reads it. -/
def readIndex (ext : Pointer is64) (k : Nat) : Nat :=
  (q.mem.get (pointerCodec is64) ext k).toNat

end GuestSession

/-- The guest asks for an extension. The host of its plugin is asked once, and not at all for
    the webview. -/
def AsksHost (q : GuestSession is64) (instance_ : InstanceImpl) (index : Nat) : Prop :=
  ∀ extId string, StringAt q.mem extId string → ∀ (stack : WasmVal) (world : HostWorld is64),
    world.contexts = q.contexts →
    let call : HostCalled := ⟨q.plugin, .hostTemplate_get_extension, [.string (string.take 1024)]⟩
    ∃ results, callTable q.context instance_ index
        (callVals (some (.pointer is64)) [.pointer is64, .pointer is64] (q.wHost, extId, ())
          stack) world =
      some (results, if string = q.context.ids .hostWebview then world
        else world.called call (q.context.memAfterQuery world.calls call q.mem)) ∧
      resultFrom (some (.pointer is64)) results = some (q.getExtension extId)

/-- What comes of a call with these arguments: the host of the plugin is called once, and gets
    them, and the guest gets its answer. -/
structure Forwards (q : GuestSession is64) (bound : GuestState) (cb : HostCallback)
    (fn : HostFunction) (args : Args (cb.types is64)) (world : HostWorld is64)
    (result : ReturnType.Value cb.ret) (world' : HostWorld is64) : Prop where
  arrive : ArgsArrive q.mem cb.out cb.params args (cb.call fn q.plugin q.mem args).args
  answered :
    let call := cb.call fn q.plugin q.mem args
    let answer := q.context.answers world.calls call q.mem cb.ret
    ¬ ReadsNull q.context.abi answer cb.out → result = answer.result ∧
      ∃ mem, world' = world.called call mem ∧
        OutArrives q.context.abi bound answer mem cb.out (outArgs cb.out cb.params args)
  undefined :
    let call := cb.call fn q.plugin q.mem args
    let answer := q.context.answers world.calls call q.mem cb.ret
    ReadsNull q.context.abi answer cb.out →
      world' = { world.called call answer.mem with nullDereference := true }

/-- The guest, the callback and the host agree about a call. -/
def CallsHost (q : GuestSession is64) (bound : GuestState) (instance_ : InstanceImpl)
    (index : Nat) (fn : HostFunction) : Prop :=
  ∀ cb, fn.callback = some cb → ∀ (args : Args (cb.types is64)) (stack : WasmVal)
    (world : HostWorld is64), world.contexts = q.contexts →
    ∃ results result world', callTable q.context instance_ index
        (callVals cb.ret (.pointer is64 :: cb.types is64) (q.wHost, args) stack) world =
      some (results, world') ∧ resultFrom cb.ret results = some result ∧
        Forwards q bound cb fn args world result world'

/-- What an instance offers a guest: `get_extension` leads to the plugin's host, the extensions
    that this host has are the ones that the guest gets, and each function pointer in their
    structs, like those in the `wclap_host` itself, leads to the function of the plugin's
    host. -/
structure OffersHost (q : GuestSession is64) (hostIndex : HostFunction → UInt64)
    (instance_ : InstanceImpl) : Prop where
  asks : AsksHost q instance_ (hostIndex .hostTemplate_get_extension).toNat
  extension : ∀ extId string, StringAt q.mem extId string →
    (q.getExtension extId ≠ .null ↔
      ∃ e, string = q.context.ids e ∧ Supports q.context.ids q.host e)
  functions : ∀ extId e, StringAt q.mem extId (q.context.ids e) →
    Supports q.context.ids q.host e → ∀ k fn, e.functions[k]? = some fn →
      fn.callback.isSome = true ∧
      instance_.table[q.readIndex (q.getExtension extId) k]? = some (.host fn) ∧
      CallsHost q (q.bound hostIndex).2 instance_ (q.readIndex (q.getExtension extId) k) fn
  own : ∀ fn, fn.callback.map (·.field) = some none →
    CallsHost q (q.bound hostIndex).2 instance_ (hostIndex fn).toNat fn

/-! ## The whole way -/

section Calls

variable {q : GuestSession is64} {bound : GuestState} {instance_ : InstanceImpl} {index : Nat}
  {fn : HostFunction}

/-- A call of an entry of the table is a call of the static function. -/
theorem callTable_callback (context : DispatchContext is64) {cb : HostCallback}
    (htable : instance_.table[index]? = some (.host fn)) (hcb : fn.callback = some cb)
    (args : Args (.pointer is64 :: cb.types is64)) (stack : WasmVal) (world : HostWorld is64) :
    ∃ results, callTable context instance_ index
        (callVals cb.ret (.pointer is64 :: cb.types is64) args stack) world =
      some (results, (cb.nativeFn fn context args world).2) ∧
      resultFrom cb.ret results = some (cb.nativeFn fn context args world).1 := by
  obtain ⟨⟨rest, hrest⟩, hne⟩ :=
    callVals_cases cb.ret (.pointer is64 :: cb.types is64) args stack
  refine ⟨_, ?_, resultFrom_storeResult _ (hrest ▸ hne)⟩
  have hother : fn ≠ .hostTemplate_get_extension := by
    rintro rfl
    cases hcb
  simp only [callTable, htable, hcb]
  rw [hrest, unchecked_wasmVals]
  rfl

/-- So is a call for `get_extension`. -/
theorem callTable_getExtension (context : DispatchContext is64)
    (htable : instance_.table[index]? = some (.host .hostTemplate_get_extension))
    (args : Args [.pointer is64, .pointer is64]) (stack : WasmVal) (world : HostWorld is64) :
    ∃ results, callTable context instance_ index
        (callVals (some (.pointer is64)) [.pointer is64, .pointer is64] args stack) world =
      some (results, (getExtensionFn context args world).2) ∧
      resultFrom (some (.pointer is64)) results = some (getExtensionFn context args world).1 := by
  obtain ⟨⟨rest, hrest⟩, hne⟩ :=
    callVals_cases (some (.pointer is64)) [.pointer is64, .pointer is64] args stack
  refine ⟨_, ?_, resultFrom_storeResult _ (hrest ▸ hne)⟩
  simp only [callTable, htable]
  rw [hrest, unchecked_wasmVals]

variable {hostIndex : HostFunction → UInt64}

/-- The plugin is found with any calls before this one. -/
theorem GuestSession.Ok.getPlugin (hq : q.Ok hostIndex) {world : HostWorld is64}
    (hworld : world.contexts = q.contexts) :
    world.getPlugin q.context q.wHost = some q.plugin := by
  rw [HostWorld.getPlugin, hworld]
  exact hq.plugin

theorem asksHost (hq : q.Ok hostIndex)
    (htable : instance_.table[index]? = some (.host .hostTemplate_get_extension)) :
    AsksHost q instance_ index := by
  intro extId string hstring stack world hworld call
  obtain ⟨results, hcall, hresult⟩ :=
    callTable_getExtension q.context htable (q.wHost, extId, ()) stack world
  have hmem : world.mem = q.mem := congrArg ModuleContexts.mem hworld
  have hread := getString_eq_take hstring 1024
  have hnative : getExtensionFn q.context (q.wHost, extId, ()) world =
      (q.getExtension extId, if string = q.context.ids .hostWebview then world
        else world.called call (q.context.memAfterQuery world.calls call q.mem)) := by
    simp only [getExtensionFn, hq.getPlugin hworld, hmem, hread,
      CString.take_eq_iff (hq.ids.size .hostWebview), Option.map_some]
    by_cases hwebview : string = q.context.ids .hostWebview
    · rw [if_pos hwebview, if_pos hwebview]
      exact Prod.ext rfl rfl
    · rw [if_neg hwebview, if_neg hwebview]
      exact Prod.ext rfl rfl
  rw [hnative] at hcall hresult
  dsimp only at hcall hresult
  exact ⟨results, hcall, hresult⟩

theorem callsHost (hq : q.Ok hostIndex) (htable : instance_.table[index]? = some (.host fn))
    (hext : ∀ cb, fn.callback = some cb → cb.hostAddress (q.context.hosts q.plugin) ≠ 0) :
    CallsHost q (q.bound hostIndex).2 instance_ index fn := by
  intro cb hcb args stack world hworld
  obtain ⟨results, hcall, hresult⟩ :=
    callTable_callback q.context htable hcb (q.wHost, args) stack world
  have hmem : world.mem = q.mem := congrArg ModuleContexts.mem hworld
  have hports : PortStrings (q.bound hostIndex).2 q.context.bound.ports := by
    rw [hq.bound]
    exact (bindGlobalArena_spec hq.arena).2.ports
  have hspec := storeAnswer_spec q.context.abi hports
    (q.context.answers world.calls (cb.call fn q.plugin q.mem args) q.mem cb.ret) cb.out
    (outArgs cb.out cb.params args)
  have hcalled : callHost (cb.hostAddress (q.context.hosts q.plugin)) = .called :=
    if_neg (hext cb hcb)
  refine ⟨results, _, _, hcall, hresult, hostArgs_arrive _ _ _ _, ?_, ?_⟩
  · intro call answer hnull
    obtain ⟨mem, hstore, hout⟩ := hspec.2 hnull
    simp only [HostCallback.nativeFn, hq.getPlugin hworld, hcalled, hmem, hstore]
    exact ⟨rfl, mem, rfl, hout⟩
  · intro call answer hnull
    have hstore := hspec.1 hnull
    simp only [HostCallback.nativeFn, hq.getPlugin hworld, hcalled, hmem, hstore]
    rfl

end Calls

/-- The address of a callback's struct, for an extension that the host has. -/
theorem hostAddress_initialised {ids : ExtensionIds} {host : NativeHost} {e : HostExtension}
    {fn : HostFunction} {cb : HostCallback} (hfn : fn ∈ e.functions)
    (hcb : fn.callback = some cb) (hsupports : Supports ids host e)
    (hwebview : host.extHostWebview ≠ 0) : cb.hostAddress (host.initialised ids) ≠ 0 := by
  have haddress : cb.hostAddress (host.initialised ids) =
      (host.toClapHost ids).get_extension e := by
    rw [HostCallback.hostAddress, callback_field hfn hcb, ← initialised_hostExt host ids e]
  rw [haddress]
  cases e with
  | hostWebview => exact hwebview
  | _ => exact hsupports.resolve_left HostExtension.noConfusion

theorem offersHost {q : GuestSession is64} {m : WclapModule} {start : Nat}
    {instance_ : InstanceImpl} (hm : Hosted start m) (hsmall : SmallIndices m)
    (hi : instance_ ∈ m.instances) (hq : q.Ok m.hostIndex) :
    OffersHost q m.hostIndex instance_ := by
  have hagrees := hm.agrees hi
  have hbound := (bindGlobalArena_spec hq.arena).2
  have hbinds : q.context.bound = (q.bound m.hostIndex).1 := hq.bound
  have hstructs : ∀ e, q.context.bound.extPtr e ≠ .null := by
    rw [hbinds]
    exact fun e => ne_null_of_pos (hbound.structs e).pos
  have hanswer := fun {extId string} (h : StringAt q.mem extId string) =>
    getExtension_spec hq.ids hstructs h q.host
  constructor
  case asks => exact asksHost hq (hagrees .hostTemplate_get_extension)
  case extension =>
    intro extId string hstring
    exact (hanswer hstring).1
  case functions =>
    intro extId e hstring hsupports k fn hk
    have hfn := List.mem_of_getElem? hk
    have hext : q.getExtension extId = (q.bound m.hostIndex).1.extPtr e := by
      rw [← hbinds]
      exact (hanswer hstring).2 e rfl hsupports
    -- the struct is still there, with the index in it
    have hstruct : HasStruct ⟨q.mem, _⟩ m.hostIndex e ((q.bound m.hostIndex).1.extPtr e) :=
      (hbound.structs e).leaves hq.leaves
    have hfits : (m.hostIndex fn).toNat < 2 ^ addrBits is64 :=
      Nat.lt_of_lt_of_le (hsmall fn) (Nat.pow_le_pow_right (by omega) (by cases is64 <;> decide))
    have hindex : q.readIndex (q.getExtension extId) k = (m.hostIndex fn).toNat := by
      rw [hext]
      exact readFunction hstruct hk hfits
    have htable : instance_.table[q.readIndex (q.getExtension extId) k]? = some (.host fn) := by
      rw [hindex]
      exact hagrees fn
    refine ⟨callback_isSome hfn, htable, callsHost hq htable fun cb hcb => ?_⟩
    rw [hq.initialised]
    exact hostAddress_initialised hfn hcb hsupports hq.webview
  case own =>
    intro fn hfn
    refine callsHost hq (hagrees fn) fun cb hcb => ?_
    rw [hcb] at hfn
    have hfield : cb.field = none := Option.some.inj hfn
    rw [HostCallback.hostAddress, hfield]
    exact Nat.one_ne_zero

/-- Ids of one character. -/
def shortIds : ExtensionIds := fun e =>
  ⟨[UInt8.ofNat (e.ctorIdx + 1)], by cases e <;> decide⟩

theorem shortIds_ok : IdsOk shortIds where
  injective e f h := by
    have hchars := congrArg CString.chars h
    revert hchars
    cases e <;> cases f <;> decide
  size e := Nat.lt_of_lt_of_le (Nat.lt_succ_self 1) (by decide)

/-- Guest memory in which the module has just bound its global arena. -/
def newBound (hostIndex : HostFunction → UInt64) : GlobalArena false × GuestState :=
  bindGlobalArena bumpArena hostIndex ⟨.onePage, []⟩

/-- A module that has just been opened, with one plugin whose host has everything. -/
def newSession (hostIndex : HostFunction → UInt64) : GuestSession false where
  arena := bumpArena
  opened := ⟨.onePage, []⟩
  context :=
    { templates := bareTemplates
      ids := shortIds
      bound := (newBound hostIndex).1
      abi := TrackInfoAbi.clap false
      natives := fun _ => ⟨fun _ => 1, 1⟩
      hosts := fun _ => (NativeHost.mk (fun _ => 1) 1).initialised shortIds
      memAfterQuery := fun _ _ mem => mem
      answers := fun _ _ mem ret => ⟨ret.zero, 0, stereoTrack, mem⟩ }
  contexts :=
    { ModuleContexts.new (newBound hostIndex).2.mem with pluginList := fun _ => some 0 }
  plugin := 0
  wHost := .ofNat 4096

theorem newSession_bound (hostIndex : HostFunction → UInt64) :
    (newSession hostIndex).bound hostIndex = newBound hostIndex := rfl

theorem newSession_mem (hostIndex : HostFunction → UInt64) :
    (newSession hostIndex).mem = (newBound hostIndex).2.mem := by
  simp only [GuestSession.mem, newSession, ModuleContexts.new]

theorem newBound_ok (hostIndex : HostFunction → UInt64) :
    ArenaOk false (newBound hostIndex).2 := by
  have hlater : Later ⟨.onePage, []⟩
      (bindGlobalArena bumpArena hostIndex ⟨.onePage, []⟩ : GlobalArena false × GuestState).2 :=
    bindGlobalArena_later _ _
  rw [newBound, arenaOk_iff, bindGlobalArena_blocks hostIndex fun _ => 0, hlater.size]
  decide +kernel

theorem newSession_ok (hostIndex : HostFunction → UInt64) :
    (newSession hostIndex).Ok hostIndex where
  ids := shortIds_ok
  arena := by
    rw [newSession_bound]
    exact newBound_ok hostIndex
  bound := by rw [newSession_bound, newSession]
  leaves := by
    rw [newSession_bound, newSession_mem]
    exact LeavesArena.refl (newBound hostIndex).2
  plugin := rfl
  initialised := rfl
  webview := Nat.one_ne_zero

end WclapBridge.Spec
