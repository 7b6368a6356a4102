import WclapBridge.Native.PluginCalls
import WclapBridge.Native.Streams
import WclapBridge.Spec.MemoryAccess
import WclapBridge.Spec.PluginIsolation

/-!
# The bytes of state streams

Whatever the sizes of the guest's transfers, and whatever part of each the host
makes, no byte of a plugin's state is lost, repeated or reordered. A transfer moves
the bytes that come next, and both sides advance by its result.

## Key results

- `ostreamTemplate_write_spec`, `istreamTemplate_read_spec`: what a transfer does
- `Saving.step_received`, `Loading.step_received`: no byte goes missing in a step
- `getPlugin_state_save_enter`, `getPlugin_state_load_enter`: the guest's stream
  object leads to its plugin
- `state_save_pluginList`, `state_load_pluginList`: the fields of the plugin are set and
  cleared as in the model of its calls
- `stateStreams_faithful`: saves and loads of any sizes, in any pieces
-/

namespace WclapBridge.Spec

open WclapBridge.Native

variable {is64 : Bool}

/-- The bytes which the bridge transfers at most, of those requested. -/
def clipped (size : UInt64) : UInt64 :=
  if size > 1024 then 1024 else size

/-- The guest's next write is of the bytes which come next, and its host accepts
    no more than it is offered. -/
structure WritesNext (ts : ContextTemplates is64) (streamPtr : Pointer is64) (stream : Nat)
    (bytes : List UInt8) (s : Saving is64) (buffer : Pointer is64) (size : UInt64)
    (answer : HostWrite) : Prop where
  /-- The object leads to the host's stream, or to none. -/
  object : ∀ p other, s.streams.getPlugin ts .ostream streamPtr = some p →
    p.hostOstream = some other → other = stream
  inRange : AccessInside s.streams.mem buffer 1 (clipped size)
  next : s.streams.mem.bytes.read buffer.toNat (clipped size).toNat =
    (bytes.drop s.advanced).take (clipped size).toNat
  answer_le : ∀ offered, (answer offered).toInt ≤ offered.length

/-- What is assumed of a step in a save. -/
def SaveAssumption (ts : ContextTemplates is64) (streamPtr : Pointer is64) (stream : Nat)
    (bytes : List UInt8) (s : Saving is64) : SaveAction is64 → Prop
  | .write buffer size answer => WritesNext ts streamPtr stream bytes s buffer size answer
  | .guest _ => True

/-- The guest saves `bytes`. -/
def GuestSaves (ts : ContextTemplates is64) (arena : Arena is64) (s : StreamState is64)
    (pluginListIndex : UInt32) (stream : Nat) (bytes : List UInt8)
    (guestSave : List (SaveAction is64)) : Prop :=
  let (streamPtr, saving) := state_save_enter ts arena s pluginListIndex stream
  Steps (Saving.step ts streamPtr) (SaveAssumption ts streamPtr stream bytes) saving guestSave

/-- What a write does: the result is the host's, or -1 without a stream, and guest
    memory stays as it is. -/
structure WriteLaw (ts : ContextTemplates is64) (streamPtr : Pointer is64) (stream : Nat)
    (s : StreamState is64) (buffer : Pointer is64) (size : UInt64) (answer : HostWrite) :
    Prop where
  result : ∀ p, s.getPlugin ts .ostream streamPtr = some p → p.hostOstream = some stream →
    ∃ offered : List UInt8, offered.length ≤ size.toNat ∧
      (s.ostreamTemplate_write ts answer streamPtr buffer size).1 = answer offered
  noStream : (∀ p, s.getPlugin ts .ostream streamPtr = some p → p.hostOstream = none) →
    s.ostreamTemplate_write ts answer streamPtr buffer size = (-1, s)
  guest : (s.ostreamTemplate_write ts answer streamPtr buffer size).2.guest = s.guest

/-- The law for the writes of a save. -/
def SaveStepLaw (ts : ContextTemplates is64) (streamPtr : Pointer is64) (stream : Nat)
    (s : Saving is64) : SaveAction is64 → Prop
  | .write buffer size answer => WriteLaw ts streamPtr stream s.streams buffer size answer
  | .guest _ => True

/-- A save of `bytes` is faithful. -/
structure SaveFaithful (ts : ContextTemplates is64) (arena : Arena is64) (s : StreamState is64)
    (pluginListIndex : UInt32) (stream : Nat) (bytes : List UInt8)
    (guestSave : List (SaveAction is64)) : Prop where
  /-- At any time the host has received the bytes over which the guest has advanced. -/
  received :
    let (streamPtr, saving) := state_save_enter ts arena s pluginListIndex stream
    States (Saving.step ts streamPtr) (fun t => t.advanced ≤ bytes.length ∧
      t.streams.ostreams stream = s.ostreams stream ++ bytes.take t.advanced) saving guestSave
  writes :
    let (streamPtr, saving) := state_save_enter ts arena s pluginListIndex stream
    Steps (Saving.step ts streamPtr) (SaveStepLaw ts streamPtr stream) saving guestSave
  /-- A guest which has written all has saved all. -/
  complete : ∀ t, state_save ts arena s pluginListIndex stream guestSave = some t →
    t.advanced = bytes.length → t.streams.ostreams stream = s.ostreams stream ++ bytes

/-- The guest's next read is to a buffer in range, and its host reads no more than
    it is asked for and has left. -/
structure ReadsInRange (ts : ContextTemplates is64) (streamPtr : Pointer is64) (stream : Nat)
    (s : Loading is64) (buffer : Pointer is64) (size : UInt64) (answer : HostRead) : Prop where
  /-- The object leads to the host's stream, or to none. -/
  object : ∀ p other, s.streams.getPlugin ts .istream streamPtr = some p →
    p.hostIstream = some other → other = stream
  inRange : AccessInside s.streams.mem buffer 1 (clipped size)
  answer_le : ∀ left n, (answer left n).1.toInt ≤ n.toNat ∧ (answer left n).1.toInt ≤ left.length

/-- What is assumed of a step in a load. -/
def LoadAssumption (ts : ContextTemplates is64) (streamPtr : Pointer is64) (stream : Nat)
    (s : Loading is64) : LoadAction is64 → Prop
  | .read buffer size answer => ReadsInRange ts streamPtr stream s buffer size answer
  | .guest _ => True

/-- The guest loads with reads in range. -/
def GuestLoads (ts : ContextTemplates is64) (arena : Arena is64) (s : StreamState is64)
    (pluginListIndex : UInt32) (stream : Nat) (guestLoad : List (LoadAction is64)) : Prop :=
  let (streamPtr, loading) := state_load_enter ts arena s pluginListIndex stream
  Steps (Loading.step ts streamPtr) (LoadAssumption ts streamPtr stream) loading guestLoad

/-- What a read does: the result is the host's, or -1 without a stream, and it
    stores that many bytes of what comes next at the buffer, and nothing else. -/
structure ReadLaw (ts : ContextTemplates is64) (streamPtr : Pointer is64) (stream : Nat)
    (s : StreamState is64) (buffer : Pointer is64) (size : UInt64) (answer : HostRead) :
    Prop where
  result : ∀ p, s.getPlugin ts .istream streamPtr = some p → p.hostIstream = some stream →
    ∃ n ≤ size,
      (s.istreamTemplate_read ts answer streamPtr buffer size).1 = (answer (s.istreams stream) n).1
  noStream : (∀ p, s.getPlugin ts .istream streamPtr = some p → p.hostIstream = none) →
    s.istreamTemplate_read ts answer streamPtr buffer size = (-1, s)
  result_le : (s.istreamTemplate_read ts answer streamPtr buffer size).1.toNatClampNeg ≤
    size.toNat
  outside : ∀ a, ¬ span buffer.toNat
      (s.istreamTemplate_read ts answer streamPtr buffer size).1.toNatClampNeg a →
    (s.istreamTemplate_read ts answer streamPtr buffer size).2.mem.bytes a = s.mem.bytes a
  untouched : (s.istreamTemplate_read ts answer streamPtr buffer size).1 ≤ 0 →
    (s.istreamTemplate_read ts answer streamPtr buffer size).2.guest = s.guest

/-- The law for the reads of a load. -/
def LoadStepLaw (ts : ContextTemplates is64) (streamPtr : Pointer is64) (stream : Nat)
    (s : Loading is64) : LoadAction is64 → Prop
  | .read buffer size answer => ReadLaw ts streamPtr stream s.streams buffer size answer
  | .guest _ => True

/-- A load is faithful. -/
structure LoadFaithful (ts : ContextTemplates is64) (arena : Arena is64) (s : StreamState is64)
    (pluginListIndex : UInt32) (stream : Nat) (guestLoad : List (LoadAction is64)) : Prop where
  /-- At any time the stream has left what the guest has not yet received. -/
  received :
    let (streamPtr, loading) := state_load_enter ts arena s pluginListIndex stream
    States (Loading.step ts streamPtr) (fun t =>
      t.received ++ t.streams.istreams stream = s.istreams stream) loading guestLoad
  reads :
    let (streamPtr, loading) := state_load_enter ts arena s pluginListIndex stream
    Steps (Loading.step ts streamPtr) (LoadStepLaw ts streamPtr stream) loading guestLoad
  /-- In the end the guest has a prefix of the stream. -/
  loaded : ∀ t, state_load ts arena s pluginListIndex stream guestLoad = some t →
    t.received ++ t.streams.istreams stream = s.istreams stream

/-! ## Transfers -/

theorem clipped_toNat (size : UInt64) : (clipped size).toNat = min size.toNat 1024 := by
  unfold clipped
  have h : (1024 : UInt64).toNat = 1024 := rfl
  split
  next hlt =>
    have hlt' := UInt64.lt_iff_toNat_lt.mp hlt
    omega
  next hle =>
    have hle' := UInt64.le_iff_toNat_le.mp (UInt64.not_lt.mp hle)
    omega

theorem accessLength_one (count : UInt64) : accessLength 1 count = count.toNat :=
  Nat.one_mul _

theorem accessInside_of_le {mem : LinearMemory} {ptr : Pointer is64} {count : UInt64}
    (h : ptr.toNat + count.toNat ≤ mem.size.toNat) : AccessInside mem ptr 1 count := fun a ha => by
  rw [accessLength_one] at ha
  exact Nat.lt_of_lt_of_le ha.2 h

variable {ts : ContextTemplates is64} {streamPtr buffer : Pointer is64} {stream : Nat}
  {bytes : List UInt8} {size : UInt64}

/-- A write finds no stream, or it offers the host the bytes which come next. -/
theorem ostreamTemplate_write_spec {s : Saving is64} {answer : HostWrite}
    (h : WritesNext ts streamPtr stream bytes s buffer size answer) :
    (s.streams.ostreamTemplate_write ts answer streamPtr buffer size = (-1, s.streams) ∧
      ∀ p, s.streams.getPlugin ts .ostream streamPtr = some p → p.hostOstream = none) ∨
    s.streams.ostreamTemplate_write ts answer streamPtr buffer size =
      s.streams.hostWrite stream answer ((bytes.drop s.advanced).take (clipped size).toNat) := by
  unfold StreamState.ostreamTemplate_write
  cases hp : s.streams.getPlugin ts .ostream streamPtr with
  | none => exact .inl ⟨rfl, fun p hsome => nomatch hsome⟩
  | some p =>
    simp only [StreamState.ostreamWrite]
    cases hstream : p.hostOstream with
    | none =>
      refine .inl ⟨rfl, fun q hq => ?_⟩
      cases hq
      exact hstream
    | some other =>
      -- the stream is that of the call, and what is read is what comes next
      cases h.object p other hp hstream
      have hget := getArray_of_inside h.inRange
      rw [accessLength_one, h.next] at hget
      exact .inr (congrArg (fun value => s.streams.hostWrite stream answer (value.getD [])) hget)

theorem toNatClampNeg_le {x : Int64} {n : Nat} (h : x.toInt ≤ n) : x.toNatClampNeg ≤ n :=
  Int.toNat_le.mpr h

theorem writeLaw_of_writesNext {s : Saving is64} {answer : HostWrite}
    (h : WritesNext ts streamPtr stream bytes s buffer size answer) :
    WriteLaw ts streamPtr stream s.streams buffer size answer := by
  rcases ostreamTemplate_write_spec h with ⟨hwrite, hnone⟩ | hwrite
  · refine ⟨fun p hp hsome => ?_, fun _ => hwrite, by rw [hwrite]⟩
    rw [hnone p hp] at hsome
    exact nomatch hsome
  · refine ⟨fun p hp hsome => ⟨_, ?_, by rw [hwrite]; rfl⟩, fun hnone => ?_, by rw [hwrite]; rfl⟩
    · refine Nat.le_trans (List.length_take_le _ _) ?_
      rw [clipped_toNat]
      exact Nat.min_le_left _ _
    · -- an object that leads to no stream is not written to
      unfold StreamState.ostreamTemplate_write
      cases hp : s.streams.getPlugin ts .ostream streamPtr with
      | none => rfl
      | some p => simp only [StreamState.ostreamWrite, hnone p hp]

/-- What a step in a save keeps: the host has received the bytes over which the
    guest has advanced. -/
theorem Saving.step_received {initial : List UInt8} {s t : Saving is64} {a : SaveAction is64}
    (hs : s.advanced ≤ bytes.length ∧
      s.streams.ostreams stream = initial ++ bytes.take s.advanced)
    (ha : SaveAssumption ts streamPtr stream bytes s a)
    (ht : Saving.step ts streamPtr s a = some t) :
    t.advanced ≤ bytes.length ∧ t.streams.ostreams stream = initial ++ bytes.take t.advanced := by
  obtain ⟨hle, hreceived⟩ := hs
  cases a with
  | guest mem =>
    simp only [Saving.step] at ht
    split at ht
    next =>
      cases ht
      exact ⟨hle, hreceived⟩
    next => exact nomatch ht
  | write buffer size answer =>
    rcases ostreamTemplate_write_spec ha with ⟨hwrite, -⟩ | hwrite
    · -- -1 does not advance the guest
      simp only [Saving.step, hwrite] at ht
      cases ht
      exact ⟨hle, hreceived⟩
    · simp only [Saving.step, hwrite] at ht
      cases ht
      -- the host accepts a part of what it is offered, which is part of what is left
      have hresult := toNatClampNeg_le (ha.answer_le
        ((bytes.drop s.advanced).take (clipped size).toNat))
      have hpart := Nat.le_trans hresult (List.length_take_le _ _)
      have hleft := Nat.le_trans hresult (List.length_take_le' _ _)
      rw [List.length_drop] at hleft
      refine ⟨by simp only [StreamState.hostWrite]; omega, ?_⟩
      simp only [StreamState.hostWrite, Function.update_self]
      rw [hreceived, List.append_assoc, List.take_take, Nat.min_eq_left hpart, List.take_add]

/-- The state after `count` bytes have gone from the stream to the buffer. -/
def afterRead (s : StreamState is64) (stream : Nat) (buffer : Pointer is64) (count : Nat) :
    StreamState is64 :=
  { s with
    guest :=
      { s.guest with
        mem :=
          { s.guest.mem with
            bytes := s.mem.bytes.write buffer.toNat ((s.istreams stream).take count) } }
    istreams := Function.update s.istreams stream ((s.istreams stream).drop count) }

/-- Nothing is stored if nothing is read. -/
theorem afterRead_zero (s : StreamState is64) : (afterRead s stream buffer 0).guest = s.guest := by
  simp only [afterRead, List.take_zero, Cells.write_nil]
  rfl

theorem afterRead_istreams (s : StreamState is64) (count : Nat) :
    (afterRead s stream buffer count).istreams stream = (s.istreams stream).drop count :=
  Function.update_self _ _ _

/-- What is read is in the buffer. -/
theorem afterRead_read (s : StreamState is64) {count : Nat}
    (h : count ≤ (s.istreams stream).length) :
    (afterRead s stream buffer count).mem.bytes.read buffer.toNat count =
      (s.istreams stream).take count := by
  have hread := Cells.read_write_self s.mem.bytes buffer.toNat ((s.istreams stream).take count)
  rwa [List.length_take_of_le h] at hread

/-- `setArray` does not look behind the elements it stores. -/
theorem setArray_append (mem : LinearMemory) (ptr : Pointer is64) {value : List UInt8}
    {count : UInt64} (h : value.length = count.toNat) (rest : List UInt8) :
    mem.setArray ptr (value ++ rest) 1 count = mem.setArray ptr value 1 count := by
  rw [LinearMemory.setArray_eq, LinearMemory.setArray_eq, UInt64.one_mul, ← h, List.take_left,
    List.take_length]

/-- The branch of `istreamRead` that stores what the host has read. -/
theorem setArray_localBuffer {g : GuestState} {result : Int64} {left rest : List UInt8}
    (hpos : result > 0) (hin : AccessInside g.mem buffer 1 (clipped size))
    (hsize : result.toNatClampNeg ≤ (clipped size).toNat)
    (hleft : result.toNatClampNeg ≤ left.length) :
    g.setArray buffer (left.take result.toNatClampNeg ++ rest) 1 result.toUInt64 =
      { g with
        mem :=
          { g.mem with
            bytes := g.mem.bytes.write buffer.toNat (left.take result.toNatClampNeg) } } := by
  have hcount : result.toUInt64.toNat = result.toNatClampNeg :=
    Int64.toNat_toUInt64_of_le (Int64.le_of_lt hpos)
  have hlength : (left.take result.toNatClampNeg).length = result.toNatClampNeg :=
    List.length_take_of_le hleft
  -- the buffer is at least as long as what was read
  have hpart : AccessInside g.mem buffer 1 result.toUInt64 := fun a ha => by
    refine hin a ?_
    rw [accessLength_one] at ha ⊢
    exact ⟨ha.1, by have := ha.2; omega⟩
  have hset := setArray_of_inside hpart
    (show (left.take result.toNatClampNeg).length = _ by rw [accessLength_one, hlength, hcount])
  rw [GuestState.setArray, setArray_append _ _ (hlength.trans hcount.symm), hset]
  rfl

/-- A read finds no stream, or it moves what the host reads to the buffer. -/
theorem istreamTemplate_read_spec {s : Loading is64} {answer : HostRead}
    (h : ReadsInRange ts streamPtr stream s buffer size answer) :
    (s.streams.istreamTemplate_read ts answer streamPtr buffer size = (-1, s.streams) ∧
      ∀ p, s.streams.getPlugin ts .istream streamPtr = some p → p.hostIstream = none) ∨
    s.streams.istreamTemplate_read ts answer streamPtr buffer size =
      ((answer (s.streams.istreams stream) (clipped size)).1,
        afterRead s.streams stream buffer
          (answer (s.streams.istreams stream) (clipped size)).1.toNatClampNeg) := by
  unfold StreamState.istreamTemplate_read
  cases hp : s.streams.getPlugin ts .istream streamPtr with
  | none => exact .inl ⟨rfl, fun p hsome => nomatch hsome⟩
  | some p =>
    simp only [StreamState.istreamRead]
    cases hstream : p.hostIstream with
    | none =>
      refine .inl ⟨rfl, fun q hq => ?_⟩
      cases hq
      exact hstream
    | some other =>
      cases h.object p other hp hstream
      refine .inr ?_
      obtain ⟨hsize, hleft⟩ := h.answer_le (s.streams.istreams stream) (clipped size)
      generalize hanswer : answer (s.streams.istreams stream) (clipped size) = r at hsize hleft ⊢
      obtain ⟨result, rest⟩ := r
      replace hsize : result.toInt ≤ (clipped size).toNat := hsize
      have hclipped : (if size > 1024 then 1024 else size) = clipped size := rfl
      simp only [StreamState.hostRead, hclipped, hanswer]
      split
      next hresult =>
        rw [setArray_localBuffer hresult.1 h.inRange (toNatClampNeg_le hsize)
          (toNatClampNeg_le hleft)]
        rfl
      next hresult =>
        -- the result is not above 1024, so it is zero or negative
        have hle : result ≤ 1024 := by
          rw [Int64.le_iff_toInt_le, show (1024 : Int64).toInt = 1024 from rfl]
          have hclip := clipped_toNat size
          omega
        have hzero : result.toNatClampNeg = 0 := by
          rw [Int64.toNatClampNeg_eq_zero_iff]
          exact Int64.not_lt.mp fun hpos => hresult ⟨hpos, hle⟩
        rw [hzero]
        simp only [afterRead, List.take_zero, Cells.write_nil]
        rfl

theorem readLaw_of_readsInRange {s : Loading is64} {answer : HostRead}
    (h : ReadsInRange ts streamPtr stream s buffer size answer) :
    ReadLaw ts streamPtr stream s.streams buffer size answer := by
  have hclip : clipped size ≤ size := by
    rw [UInt64.le_iff_toNat_le, clipped_toNat]
    exact Nat.min_le_left _ _
  rcases istreamTemplate_read_spec h with ⟨hread, hnone⟩ | hread
  · -- without a stream nothing happens
    constructor
    case result =>
      intro p hp hsome
      rw [hnone p hp] at hsome
      exact nomatch hsome
    case noStream => exact fun _ => hread
    case result_le =>
      rw [hread]
      exact Nat.zero_le _
    case outside =>
      intro a _
      rw [hread]
    case untouched =>
      intro _
      rw [hread]
  · -- the host reads no more than `clipped size`, and no more than it has left
    obtain ⟨hsize, hleft⟩ := h.answer_le (s.streams.istreams stream) (clipped size)
    constructor
    case result => exact fun p _ _ => ⟨_, hclip, by rw [hread]⟩
    case noStream =>
      intro hnone
      unfold StreamState.istreamTemplate_read
      cases hp : s.streams.getPlugin ts .istream streamPtr with
      | none => rfl
      | some p => simp only [StreamState.istreamRead, hnone p hp]
    case result_le =>
      rw [hread]
      exact Nat.le_trans (toNatClampNeg_le hsize) (UInt64.le_iff_toNat_le.mp hclip)
    case outside =>
      intro a ha
      rw [hread] at ha ⊢
      refine Cells.write_of_outside _ _ _ ?_
      rwa [List.length_take_of_le (toNatClampNeg_le hleft)]
    case untouched =>
      intro hle
      rw [hread] at hle ⊢
      simp only [Int64.toNatClampNeg_eq_zero_iff.mpr hle, afterRead_zero]

/-- What a step in a load keeps: the stream has left what the guest has not yet
    received. -/
theorem Loading.step_received {contents : List UInt8} {s t : Loading is64} {a : LoadAction is64}
    (hs : s.received ++ s.streams.istreams stream = contents)
    (ha : LoadAssumption ts streamPtr stream s a)
    (ht : Loading.step ts streamPtr s a = some t) :
    t.received ++ t.streams.istreams stream = contents := by
  cases a with
  | guest mem =>
    simp only [Loading.step] at ht
    split at ht
    next =>
      cases ht
      exact hs
    next => exact nomatch ht
  | read buffer size answer =>
    rcases istreamTemplate_read_spec ha with ⟨hread, -⟩ | hread
    · -- -1 is no number of bytes
      simp only [Loading.step, hread] at ht
      cases ht
      exact (congrArg (· ++ _) (List.append_nil _)).trans hs
    · simp only [Loading.step, hread] at ht
      cases ht
      -- the guest receives what was read, and the stream keeps what is behind it
      obtain ⟨-, hleft⟩ := ha.answer_le (s.streams.istreams stream) (clipped size)
      simp only [afterRead_read _ (toNatClampNeg_le hleft), afterRead_istreams,
        List.append_assoc, List.take_append_drop]
      exact hs

/-! ## Calls -/

section Calls

variable {arena : Arena is64} {s : StreamState is64} {pluginListIndex : UInt32}

/-- A copy of a template leads to its plugin. -/
theorem context_copyTemplate {kind : ContextStruct} (pluginListIndex : UInt32)
    (hin : InRange s.mem (s.copyTemplate ts arena kind pluginListIndex).1
      (ts.template kind).length) :
    (ModuleContexts.context ts (s.copyTemplate ts arena kind pluginListIndex).2.mem kind
      (s.copyTemplate ts arena kind pluginListIndex).1).toNat = pluginListIndex.toNat := by
  have hsize := (setArray_later (g := s.guest) (s.copyTemplate ts arena kind pluginListIndex).1
    (ts.template kind) (UInt64.ofNat (ts.template kind).length) 1).size
  refine Eq.trans (congrArg Pointer.toNat ?_) (toNat_ofNat_index pluginListIndex)
  exact context_memSetPlugin (hin.of_size_eq hsize) pluginListIndex

/-- The stream object of a save leads to its plugin, which has the host's stream. -/
theorem getPlugin_state_save_enter {p : PluginStreams}
    (hp : s.pluginList pluginListIndex.toNat = some p)
    (hin : InRange s.mem (state_save_enter ts arena s pluginListIndex stream).1
      (ts.template .ostream).length) :
    (state_save_enter ts arena s pluginListIndex stream).2.streams.getPlugin ts .ostream
      (state_save_enter ts arena s pluginListIndex stream).1 =
        some { p with hostOstream := some stream } := by
  have hcontext := context_copyTemplate pluginListIndex hin
  refine (congrArg _ hcontext).trans ?_
  refine (Function.update_self _ _ _).trans ?_
  exact congrArg (Option.map _) hp

/-- The stream object of a load leads to its plugin, which has the host's stream. -/
theorem getPlugin_state_load_enter {p : PluginStreams}
    (hp : s.pluginList pluginListIndex.toNat = some p)
    (hin : InRange s.mem (state_load_enter ts arena s pluginListIndex stream).1
      (ts.template .istream).length) :
    (state_load_enter ts arena s pluginListIndex stream).2.streams.getPlugin ts .istream
      (state_load_enter ts arena s pluginListIndex stream).1 =
        some { p with hostIstream := some stream } := by
  have hcontext := context_copyTemplate pluginListIndex hin
  refine (congrArg _ hcontext).trans ?_
  refine (Function.update_self _ _ _).trans ?_
  exact congrArg (Option.map _) hp

/-- The fields for streams, of all that calls set. -/
def streamFields (p : PluginSlots is64) : PluginStreams := ⟨p.hostIstream, p.hostOstream⟩

theorem ostreamTemplate_write_pluginList (answer : HostWrite) :
    (s.ostreamTemplate_write ts answer streamPtr buffer size).2.pluginList = s.pluginList := by
  unfold StreamState.ostreamTemplate_write
  split
  next p _ =>
    unfold StreamState.ostreamWrite
    split
    next => rfl
    next => rfl
  next => rfl

theorem istreamTemplate_read_pluginList (answer : HostRead) :
    (s.istreamTemplate_read ts answer streamPtr buffer size).2.pluginList = s.pluginList := by
  unfold StreamState.istreamTemplate_read
  split
  next p _ =>
    unfold StreamState.istreamRead
    split
    next => rfl
    next =>
      -- whatever the size is, the bytes are stored or not
      dsimp only
      generalize (if size > 1024 then (1024 : UInt64) else size) = n
      split
      next => rfl
      next => rfl
  next => rfl

theorem Saving.step_pluginList {t t' : Saving is64} {a : SaveAction is64}
    (h : Saving.step ts streamPtr t a = some t') :
    t'.streams.pluginList = t.streams.pluginList := by
  cases a with
  | guest mem =>
    simp only [Saving.step] at h
    split at h
    next =>
      cases h
      rfl
    next => exact nomatch h
  | write buffer size answer =>
    cases h
    exact ostreamTemplate_write_pluginList answer

theorem Loading.step_pluginList {t t' : Loading is64} {a : LoadAction is64}
    (h : Loading.step ts streamPtr t a = some t') :
    t'.streams.pluginList = t.streams.pluginList := by
  cases a with
  | guest mem =>
    simp only [Loading.step] at h
    split at h
    next =>
      cases h
      rfl
    next => exact nomatch h
  | read buffer size answer =>
    cases h
    exact istreamTemplate_read_pluginList answer

/-- A save sets the field, and clears it when it ends. -/
theorem state_save_pluginList {p : PluginSlots is64} {guestSave : List (SaveAction is64)}
    {t : Saving is64} (hp : s.pluginList pluginListIndex.toNat = some (streamFields p))
    (h : state_save ts arena s pluginListIndex stream guestSave = some t) :
    let call := PluginCall.state_save (some stream)
    t.streams.pluginList pluginListIndex.toNat = some (streamFields (call.clear (call.set p))) := by
  intro call
  simp only [state_save, Option.bind_eq_bind, Option.bind_eq_some_iff, Option.some.injEq] at h
  obtain ⟨saved, hsaved, rfl⟩ := h
  -- the guest does not touch the field
  have hkept : saved.streams.pluginList =
      (state_save_enter ts arena s pluginListIndex stream).2.streams.pluginList :=
    foldlM_inv (fun t : Saving is64 => t.streams.pluginList = _)
      (fun _ _ _ ht hstep => (Saving.step_pluginList hstep).trans ht) rfl hsaved
  simp only [StreamState.modifyPlugin, Function.update_self, hkept, state_save_enter]
  exact congrArg (Option.map _) (congrArg (Option.map _) hp)

/-- A load sets the field, and clears it when it ends. -/
theorem state_load_pluginList {p : PluginSlots is64} {guestLoad : List (LoadAction is64)}
    {t : Loading is64} (hp : s.pluginList pluginListIndex.toNat = some (streamFields p))
    (h : state_load ts arena s pluginListIndex stream guestLoad = some t) :
    let call := PluginCall.state_load (some stream)
    t.streams.pluginList pluginListIndex.toNat = some (streamFields (call.clear (call.set p))) := by
  intro call
  simp only [state_load, Option.bind_eq_bind, Option.bind_eq_some_iff, Option.some.injEq] at h
  obtain ⟨loaded, hloaded, rfl⟩ := h
  -- the guest does not touch the field
  have hkept : loaded.streams.pluginList =
      (state_load_enter ts arena s pluginListIndex stream).2.streams.pluginList :=
    foldlM_inv (fun t : Loading is64 => t.streams.pluginList = _)
      (fun _ _ _ ht hstep => (Loading.step_pluginList hstep).trans ht) rfl hloaded
  simp only [StreamState.modifyPlugin, Function.update_self, hkept, state_load_enter]
  exact congrArg (Option.map _) (congrArg (Option.map _) hp)

theorem saveFaithful_of_guestSaves {guestSave : List (SaveAction is64)}
    (h : GuestSaves ts arena s pluginListIndex stream bytes guestSave) :
    SaveFaithful ts arena s pluginListIndex stream bytes guestSave := by
  have hreceived := States.of_steps
    (fun t : Saving is64 => t.advanced ≤ bytes.length ∧
      t.streams.ostreams stream = s.ostreams stream ++ bytes.take t.advanced)
    (fun _ _ _ => Saving.step_received)
    ⟨Nat.zero_le _, (List.append_nil _).symm⟩ h
  refine ⟨hreceived, h.mono fun t a ha => ?_, fun t ht hall => ?_⟩
  · cases a with
    | write buffer size answer => exact writeLaw_of_writesNext ha
    | guest mem => exact trivial
  · simp only [state_save, Option.bind_eq_bind, Option.bind_eq_some_iff, Option.some.injEq] at ht
    obtain ⟨saved, hsaved, rfl⟩ := ht
    obtain ⟨-, hstream⟩ := hreceived.at_end hsaved
    rwa [show saved.advanced = bytes.length from hall, List.take_length] at hstream

theorem loadFaithful_of_guestLoads {guestLoad : List (LoadAction is64)}
    (h : GuestLoads ts arena s pluginListIndex stream guestLoad) :
    LoadFaithful ts arena s pluginListIndex stream guestLoad := by
  have hreceived := States.of_steps
    (fun t : Loading is64 => t.received ++ t.streams.istreams stream = s.istreams stream)
    (fun _ _ _ => Loading.step_received) (List.nil_append _) h
  refine ⟨hreceived, h.mono fun t a ha => ?_, fun t ht => ?_⟩
  · cases a with
    | read buffer size answer => exact readLaw_of_readsInRange ha
    | guest mem => exact trivial
  · simp only [state_load, Option.bind_eq_bind, Option.bind_eq_some_iff, Option.some.injEq] at ht
    obtain ⟨loaded, hloaded, rfl⟩ := ht
    have hall := hreceived.at_end hloaded
    exact hall

end Calls

/-- Every save whose guest writes what comes next is faithful, and so is every load,
    with buffers in range and hosts that transfer no more than they are offered. -/
theorem stateStreams_faithful (ts : ContextTemplates is64) (arena : Arena is64)
    (s : StreamState is64) (pluginListIndex : UInt32) (stream : Nat) :
    (∀ (bytes : List UInt8) (guestSave : List (SaveAction is64)),
      GuestSaves ts arena s pluginListIndex stream bytes guestSave →
        SaveFaithful ts arena s pluginListIndex stream bytes guestSave) ∧
    ∀ guestLoad : List (LoadAction is64),
      GuestLoads ts arena s pluginListIndex stream guestLoad →
        LoadFaithful ts arena s pluginListIndex stream guestLoad :=
  ⟨fun _ _ h => saveFaithful_of_guestSaves h, fun _ h => loadFaithful_of_guestLoads h⟩

/-- A plugin, whose host has a stream to load from. -/
private def onePlugin : StreamState false where
  guest := ⟨.onePage, []⟩
  pluginList i := if i = 0 then some ⟨none, none⟩ else none
  istreams _ := [1, 2, 3]
  ostreams _ := []

/-- A host which accepts one byte at a time. -/
private def acceptOne : HostWrite := fun offered => if offered = [] then 0 else 1

private theorem acceptOne_le (offered : List UInt8) :
    (acceptOne offered).toInt ≤ offered.length := by
  unfold acceptOne
  split
  next => exact Int.natCast_nonneg _
  next hsome =>
    have hpos := List.length_pos_iff.mpr hsome
    change (1 : Int) ≤ _
    omega

/-- A guest saves three bytes, which the host accepts one by one, and loads two of
    three. -/
theorem three_bytes_saved :
    SaveFaithful templates32 bumpArena onePlugin 0 7 [1, 2, 3]
      [.guest { LinearMemory.onePage with bytes := LinearMemory.onePage.bytes.write 256 [1, 2, 3] },
        .write (Pointer.ofNat 256) 3 acceptOne, .write (Pointer.ofNat 257) 2 acceptOne,
        .write (Pointer.ofNat 258) 1 acceptOne] ∧
    LoadFaithful templates32 bumpArena onePlugin 0 7
      [.read (Pointer.ofNat 256) 8 fun left n =>
        (if left = [1, 2, 3] ∧ n = 8 then 2 else 0, [])] := by
  refine ⟨(stateStreams_faithful _ _ _ _ _).1 _ _ ⟨trivial, ?_⟩,
    (stateStreams_faithful _ _ _ _ _).2 _ ⟨?_, fun _ _ => trivial⟩⟩
  · rintro _ ⟨⟩
    refine ⟨⟨?_, accessInside_of_le (by decide), by decide, acceptOne_le⟩, ?_⟩
    · rintro _ _ ⟨⟩ ⟨⟩
      rfl
    rintro _ ⟨⟩
    refine ⟨⟨?_, accessInside_of_le (by decide), by decide, acceptOne_le⟩, ?_⟩
    · rintro _ _ ⟨⟩ ⟨⟩
      rfl
    rintro _ ⟨⟩
    refine ⟨⟨?_, accessInside_of_le (by decide), by decide, acceptOne_le⟩, fun _ _ => trivial⟩
    rintro _ _ ⟨⟩ ⟨⟩
    rfl
  · refine ⟨?_, accessInside_of_le (by decide), fun left n => ?_⟩
    · rintro _ _ ⟨⟩ ⟨⟩
      rfl
    · -- two bytes of three, if there is place for them
      split
      next h =>
        obtain ⟨rfl, rfl⟩ := h
        decide
      next => exact ⟨Int.natCast_nonneg _, Int.natCast_nonneg _⟩

end WclapBridge.Spec
