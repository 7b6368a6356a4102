import WclapBridge.Native.HostDispatch
import WclapBridge.Spec.PortRequests

/-!
# Port types in both directions

The guest gets the type of a port as a pointer to one of the strings of the module, and
the host gets it as one of its own constants. A known type that the host gives to the
guest comes back to the host when the guest uses the pointer for a port of its own; other
types come back as unknown.

Track info is one way for the host to give a type. The guest chooses where the struct is
written, and nothing else is. The host has to have the extension, and has to give a type for
each track with an audio channel: neither is checked.

## Key results

- `translateWclapPortType_of_stringAt`: the type for a string of the guest
- `trackInfo_faithful`: track info arrives, and its port type comes back
-/

namespace WclapBridge.Spec

open WclapBridge.Native

variable {is64 : Bool}

/-! ## Types for the host -/

/-- The types that both sides know. -/
def knownPortTypes : List CString :=
  [CLAP_PORT_MONO, CLAP_PORT_STEREO, CLAP_PORT_SURROUND, CLAP_PORT_AMBISONIC]

/-- The type which the host is told, for one that the guest has given. -/
def knownWclapPortType (portType : CString) : CString :=
  if portType ∈ knownPortTypes then portType else unknownWclapPortType

/-- Every string of the guest, however long, is either a known type or unknown. -/
theorem translateWclapPortType_of_stringAt {mem : LinearMemory} {ptr : Pointer is64}
    {portType : CString} (h : StringAt mem ptr portType) :
    translateWclapPortType mem ptr = knownWclapPortType portType := by
  simp only [translateWclapPortType, getString_eq_take h,
    CString.take_eq_iff (show CLAP_PORT_MONO.size < 16 by decide),
    CString.take_eq_iff (show CLAP_PORT_STEREO.size < 16 by decide),
    CString.take_eq_iff (show CLAP_PORT_SURROUND.size < 16 by decide),
    CString.take_eq_iff (show CLAP_PORT_AMBISONIC.size < 16 by decide),
    knownWclapPortType, knownPortTypes, List.mem_cons, List.not_mem_nil, or_false]
  split
  next hmono => rw [if_pos (Or.inl hmono), hmono]
  next hmono =>
    split
    next hstereo => rw [if_pos (Or.inr (Or.inl hstereo)), hstereo]
    next hstereo =>
      split
      next hsurround => rw [if_pos (Or.inr (Or.inr (Or.inl hsurround))), hsurround]
      next hsurround =>
        split
        next hambisonic => rw [if_pos (Or.inr (Or.inr (Or.inr hambisonic))), hambisonic]
        next hambisonic =>
          rw [if_neg]
          rintro (h | h | h | h)
          · exact hmono h
          · exact hstereo h
          · exact hsurround h
          · exact hambisonic h

/-- What the guest is told for an unknown type is unknown to the host as well. -/
theorem knownWclapPortType_knownPortType (portType : CString) :
    knownWclapPortType (knownPortType portType) = knownWclapPortType portType := by
  unfold knownPortType knownWclapPortType
  by_cases h : portType ∈ knownPortTypes
  · rw [if_pos (show portType ∈ [_, _, _, _] from h)]
  · have hunknown : unknownHostPortType ∉ knownPortTypes := by decide
    rw [if_neg (show portType ∉ [_, _, _, _] from h), if_neg h, if_neg hunknown]

/-! ## Track info -/

variable {abi : TrackInfoAbi is64} {ports : WclapPorts is64} {g : GuestState} {info : TrackInfo}
  {infoPtr : Pointer is64}

/-- The track has an audio channel, so that its port type is looked at. -/
def HasAudioChannel (abi : TrackInfoAbi is64) (info : TrackInfo) : Prop :=
  info.flags &&& abi.CLAP_TRACK_INFO_HAS_AUDIO_CHANNEL ≠ 0

/-- The type that the guest is told: the one of the track, if it has an audio channel. -/
structure TellsPortType (abi : TrackInfoAbi is64) (g : GuestState) (info : TrackInfo)
    (ptr : Pointer is64) : Prop where
  channel : HasAudioChannel abi info → ∀ portType, info.audio_port_type = some portType →
    HasString g ptr (knownPortType portType)
  noChannel : ¬ HasAudioChannel abi info → HasString g ptr unknownHostPortType

theorem trackPortType_channel (h : HasAudioChannel abi info) :
    trackPortType abi ports info = ports.translatePortType info.audio_port_type := if_pos h

theorem trackPortType_noChannel (h : ¬ HasAudioChannel abi info) :
    trackPortType abi ports info = some ports.wclapPortOtherPtr := if_neg h

/-- The type is found, unless the host has left it out for a track with an audio
    channel. -/
theorem trackPortType_eq_none_iff : trackPortType abi ports info = none ↔
    HasAudioChannel abi info ∧ info.audio_port_type = none := by
  by_cases hchannel : HasAudioChannel abi info
  · rw [trackPortType_channel hchannel]
    cases hportType : info.audio_port_type with
    | none => exact iff_of_true rfl ⟨hchannel, rfl⟩
    | some portType =>
      obtain ⟨ptr, hptr, -⟩ := translatePortType_spec (g := ⟨.onePage, []⟩) ports portType
      rw [hptr]
      exact iff_of_false (Option.some_ne_none _) fun h => Option.some_ne_none _ h.2
  · rw [trackPortType_noChannel hchannel]
    exact iff_of_false (Option.some_ne_none _) fun h => hchannel h.1

theorem trackPortType_tells (hports : PortStrings g ports) {ptr : Pointer is64}
    (hptr : trackPortType abi ports info = some ptr) : TellsPortType abi g info ptr := by
  by_cases hchannel : HasAudioChannel abi info
  · rw [trackPortType_channel hchannel] at hptr
    refine ⟨fun _ portType hportType => ?_, fun hno => absurd hchannel hno⟩
    obtain ⟨ptr', hptr', hstring⟩ := translatePortType_spec (g := g) ports portType
    rw [hportType, hptr'] at hptr
    rw [← Option.some.inj hptr]
    exact hstring hports
  · rw [trackPortType_noChannel hchannel] at hptr
    rw [← Option.some.inj hptr]
    exact ⟨fun h => absurd h hchannel, fun _ => hports.other⟩

/-- What a guest that has asked for track info is left with: its struct has all of it and
    nothing else has changed. Where it uses the port type for a port of its own, the host
    gets back what it gave. -/
structure TrackInfoArrives (abi : TrackInfoAbi is64) (g : GuestState) (info : TrackInfo)
    (infoPtr : Pointer is64) (mem : LinearMemory) : Prop where
  flags : (mem.get abi.trackInfo infoPtr 0).flags = info.flags
  name : (mem.get abi.trackInfo infoPtr 0).name = info.name
  color : (mem.get abi.trackInfo infoPtr 0).color = info.color
  audio_channel_count :
    (mem.get abi.trackInfo infoPtr 0).audio_channel_count = info.audio_channel_count
  portType : TellsPortType abi ⟨mem, g.blocks⟩ info
    (mem.get abi.trackInfo infoPtr 0).audio_port_type
  comesBack : HasAudioChannel abi info → ∀ portType, info.audio_port_type = some portType →
    ∀ w : WAudioPortInfo is64, w.port_type = (mem.get abi.trackInfo infoPtr 0).audio_port_type →
      (hostPortInfo mem w).port_type = knownWclapPortType portType
  size : mem.size = g.mem.size
  frame : ∀ x, ¬ span infoPtr.toNat abi.trackInfo.width x → mem.bytes x = g.mem.bytes x

/-- The struct that is written, at the address that the guest has given. -/
theorem trackInfoArrives {ptr : Pointer is64} (hports : PortStrings g ports)
    (hin : InRange g.mem infoPtr abi.trackInfo.width)
    (hapart : ∀ x, span infoPtr.toNat abi.trackInfo.width x → ¬ Allocated g.blocks x)
    (hptr : trackPortType abi ports info = some ptr) :
    TrackInfoArrives abi g info infoPtr (g.mem.set abi.trackInfo infoPtr
      ⟨info.flags, info.name, info.color, info.audio_channel_count, ptr⟩ 0) := by
  have hext := extends_set hin
    (⟨info.flags, info.name, info.color, info.audio_channel_count, ptr⟩ : WTrackInfo is64)
  have hwritten := hin.written
    (⟨info.flags, info.name, info.color, info.audio_channel_count, ptr⟩ : WTrackInfo is64)
  have htells := trackPortType_tells hports hptr
  -- the string that the pointer leads to is not in the guest's struct
  have hchannel : HasAudioChannel abi info → ∀ portType, info.audio_port_type = some portType →
      HasString ⟨_, g.blocks⟩ ptr (knownPortType portType) := fun h portType hportType =>
    (htells.channel h portType hportType).of_apart hext hapart
  constructor
  case flags => rw [hwritten.get]
  case name => rw [hwritten.get]
  case color => rw [hwritten.get]
  case audio_channel_count => rw [hwritten.get]
  case portType =>
    rw [hwritten.get]
    exact ⟨hchannel, fun h => (htells.noChannel h).of_apart hext hapart⟩
  case comesBack =>
    intro h portType hportType w hw
    rw [hwritten.get] at hw
    show translateWclapPortType _ w.port_type = _
    rw [hw, translateWclapPortType_of_stringAt (hchannel h portType hportType).2,
      knownWclapPortType_knownPortType]
  case size => exact hwritten.size
  case frame => exact hwritten.frame

/-! ## The call -/

section Call

variable (context : DispatchContext is64) (world : HostWorld is64) (wHost infoPtr : Pointer is64)

/-- `hostTrackInfo_get`, called by the guest. -/
def getTrackInfo : Bool × HostWorld is64 :=
  HostCallback.hostTrackInfo_get.nativeFn .hostTrackInfo_get context (wHost, infoPtr, ()) world

/-- The call of a plugin's host. -/
def trackInfoCall (plugin : Nat) : HostCalled := ⟨plugin, .hostTrackInfo_get, []⟩

/-- What the host makes of it. -/
def trackInfoAnswer (plugin : Nat) : HostAnswer (some .bool) :=
  context.answers world.calls (trackInfoCall plugin) world.mem (some .bool)

/-- The plugin's host has given the type of an audio channel as a null pointer. -/
def NullPortType (plugin : Nat) : Prop :=
  HasAudioChannel context.abi (trackInfoAnswer context world plugin).info ∧
    (trackInfoAnswer context world plugin).info.audio_port_type = none

/-- What a guest gets that asks for track info, in all cases. -/
structure TrackInfoFaithful (blocks : List Block) : Prop where
  noPlugin : world.getPlugin context wHost = none →
    getTrackInfo context world wHost infoPtr = (false, world)
  /-- The plugin has no `hostTrackInfo`. -/
  noExtension : ∀ plugin, world.getPlugin context wHost = some plugin →
    (context.hosts plugin).hostExt .hostTrackInfo = 0 →
    getTrackInfo context world wHost infoPtr = (false, { world with nullDereference := true })
  noInfo : ∀ plugin, world.getPlugin context wHost = some plugin →
    (context.hosts plugin).hostExt .hostTrackInfo ≠ 0 →
    (trackInfoAnswer context world plugin).result = false →
    getTrackInfo context world wHost infoPtr =
      (false, world.called (trackInfoCall plugin) (trackInfoAnswer context world plugin).mem)
  nullPortType : ∀ plugin, world.getPlugin context wHost = some plugin →
    (context.hosts plugin).hostExt .hostTrackInfo ≠ 0 →
    (trackInfoAnswer context world plugin).result = true → NullPortType context world plugin →
    (getTrackInfo context world wHost infoPtr).2.nullDereference = true
  /-- Otherwise the info arrives where the guest has asked for it, if there is room for it
      outside of the blocks of the bridge. -/
  arrives : ∀ plugin, world.getPlugin context wHost = some plugin →
    (context.hosts plugin).hostExt .hostTrackInfo ≠ 0 →
    (trackInfoAnswer context world plugin).result = true → ¬ NullPortType context world plugin →
    PortStrings ⟨(trackInfoAnswer context world plugin).mem, blocks⟩ context.bound.ports →
    InRange (trackInfoAnswer context world plugin).mem infoPtr context.abi.trackInfo.width →
    (∀ x, span infoPtr.toNat context.abi.trackInfo.width x → ¬ Allocated blocks x) →
    ∃ mem, getTrackInfo context world wHost infoPtr =
        (true, world.called (trackInfoCall plugin) mem) ∧
      TrackInfoArrives context.abi ⟨(trackInfoAnswer context world plugin).mem, blocks⟩
        (trackInfoAnswer context world plugin).info infoPtr mem

variable {context world wHost infoPtr}

/-- The call of a host that has the extension. -/
theorem getTrackInfo_of_plugin {plugin : Nat}
    (hplugin : world.getPlugin context wHost = some plugin)
    (hext : (context.hosts plugin).hostExt .hostTrackInfo ≠ 0) :
    getTrackInfo context world wHost infoPtr =
      match storeAnswer context.abi context.bound.ports (trackInfoAnswer context world plugin)
          .trackInfo (infoPtr, ()) with
      | some mem =>
        ((trackInfoAnswer context world plugin).result, world.called (trackInfoCall plugin) mem)
      | none =>
        (false,
          { world.called (trackInfoCall plugin) (trackInfoAnswer context world plugin).mem with
            nullDereference := true }) := by
  have hcall : callHost (HostCallback.hostTrackInfo_get.hostAddress (context.hosts plugin)) =
      .called := if_neg hext
  unfold getTrackInfo HostCallback.nativeFn
  simp only [hplugin, hcall]
  rfl

/-- What is stored if the host has given a struct. -/
theorem storeAnswer_trackInfo {ret : ReturnType} {answer : HostAnswer ret}
    (h : answer.isTrue = true) :
    storeAnswer abi ports answer .trackInfo (infoPtr, ()) =
      (trackPortType abi ports answer.info).map fun ptr =>
        answer.mem.set abi.trackInfo infoPtr ⟨answer.info.flags, answer.info.name,
          answer.info.color, answer.info.audio_channel_count, ptr⟩ 0 := by
  simp only [storeAnswer, h, if_true, wclapTrackInfo]
  cases trackPortType abi ports answer.info <;> rfl

/-- Track info arrives, and its port type comes back. The two ways to fail are a host that does
    not have the extension, and a null port type of a track that has an audio channel. Where
    the host has none to give, memory is left alone. -/
theorem trackInfo_faithful (context : DispatchContext is64) (world : HostWorld is64)
    (wHost infoPtr : Pointer is64) (blocks : List Block) :
    TrackInfoFaithful context world wHost infoPtr blocks where
  noPlugin hnone := by
    unfold getTrackInfo HostCallback.nativeFn
    simp only [hnone]
    rfl
  noExtension plugin hplugin hext := by
    have hcall : callHost (HostCallback.hostTrackInfo_get.hostAddress (context.hosts plugin)) =
        .nullDereference := if_pos hext
    unfold getTrackInfo HostCallback.nativeFn
    simp only [hplugin, hcall]
    rfl
  noInfo plugin hplugin hext hresult := by
    have hfalse : (trackInfoAnswer context world plugin).isTrue = false := hresult
    rw [getTrackInfo_of_plugin hplugin hext]
    simp only [storeAnswer, hfalse, Bool.false_eq_true, if_false, hresult]
  nullPortType plugin hplugin hext hresult hnull := by
    have htrue : (trackInfoAnswer context world plugin).isTrue = true := hresult
    rw [getTrackInfo_of_plugin hplugin hext, storeAnswer_trackInfo htrue,
      trackPortType_eq_none_iff.mpr hnull]
    rfl
  arrives plugin hplugin hext hresult hnull hports hin hapart := by
    obtain ⟨ptr, hptr⟩ := Option.ne_none_iff_exists'.mp fun hnone =>
      hnull (trackPortType_eq_none_iff.mp hnone)
    have htrue : (trackInfoAnswer context world plugin).isTrue = true := hresult
    rw [getTrackInfo_of_plugin hplugin hext, storeAnswer_trackInfo htrue, hptr, hresult]
    exact ⟨_, rfl, trackInfoArrives hports hin hapart hptr⟩

end Call

/-- The strings of a new module. -/
def newPorts : WclapPorts false × GuestState :=
  writePortTypes bumpArena ⟨.onePage, []⟩

/-- A stereo track. -/
def stereoTrack : TrackInfo :=
  ⟨4, blankName, ⟨255, 0, 0, 0⟩, 2, some CLAP_PORT_STEREO⟩

/-- The guest's struct is not among them. -/
theorem newPorts_apart (x : Nat)
    (hx : span (Pointer.ofNat 4096 : Pointer false).toNat
      (TrackInfoAbi.clap false).trackInfo.width x) : ¬ Allocated newPorts.2.blocks x := by
  have hapart : ∀ b ∈ newPorts.2.blocks, Block.Apart ⟨4096, 280⟩ b := by decide
  rintro ⟨b, hb, hbx⟩
  exact hapart b hb x hx hbx

/-- Structs with nothing but a context. -/
def bareTemplates : ContextTemplates false :=
  ⟨fun _ => List.replicate 4 0, fun _ => 0, fun _ => by decide⟩

/-- A host with all extensions, which says yes to everything and has one stereo track. -/
def stereoContext : DispatchContext false where
  templates := bareTemplates
  ids _ := .empty
  bound := ⟨fun _ => .null, newPorts.1⟩
  abi := TrackInfoAbi.clap false
  natives _ := ⟨fun _ => 1, 1⟩
  hosts _ := (NativeHost.mk (fun _ => 1) 1).initialised fun _ => .empty
  memAfterQuery _ _ mem := mem
  answers _ _ mem
    | some .bool => ⟨true, 0, stereoTrack, mem⟩
    | ret => ⟨ret.zero, 0, stereoTrack, mem⟩

/-- A module with one plugin. -/
def stereoWorld : HostWorld false :=
  ⟨[], false, { ModuleContexts.new newPorts.2.mem with pluginList := fun _ => some 0 }⟩

theorem trackInfo_faithful_stereo :
    ∃ mem, getTrackInfo stereoContext stereoWorld (.ofNat 64) (.ofNat 4096) =
        (true, stereoWorld.called (trackInfoCall 0) mem) ∧
      TrackInfoArrives (TrackInfoAbi.clap false) newPorts.2 stereoTrack (.ofNat 4096) mem := by
  have hports : PortStrings newPorts.2 newPorts.1 := portStrings_writePortTypes (by decide)
  exact (trackInfo_faithful stereoContext stereoWorld (.ofNat 64) (.ofNat 4096)
    newPorts.2.blocks).arrives 0 rfl (by decide) rfl (fun h => Option.some_ne_none _ h.2)
    hports ⟨by decide, by decide⟩ newPorts_apart

end WclapBridge.Spec
