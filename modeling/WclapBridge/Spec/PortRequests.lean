import WclapBridge.Native.AudioPorts
import WclapBridge.Spec.ProcessLayout

/-!
# Port configuration requests in guest memory

The guest finds the requests of the host as an array of its own structs, with the
type of each as a pointer to a string of the module and its details in a block of
their own. A request without a type does not get that far: `translatePortType`
compares the type with a string whether there is one or not.

## Key results

- `copyRequest_spec`: one iteration of the loop
- `portStrings_writePortTypes`: the strings of the module are in blocks of their own
- `portRequests_translated_iff`: the requests arrive if and only if each has a type
-/

namespace WclapBridge.Spec

open WclapBridge.Native

variable {is64 : Bool} {abi : PortAbi is64} {arena : Arena is64} {ports : WclapPorts is64}
  {g : GuestState}

/-! ## What the guest is supposed to find -/

/-- The type which the guest is told, for one that the host has given. -/
def knownPortType (portType : CString) : CString :=
  if portType ∈ [CLAP_PORT_MONO, CLAP_PORT_STEREO, CLAP_PORT_SURROUND, CLAP_PORT_AMBISONIC] then
    portType
  else unknownHostPortType

/-- The strings that `writePortTypes` has written are still there. -/
structure PortStrings (g : GuestState) (ports : WclapPorts is64) : Prop where
  mono : HasString g ports.wclapPortMonoPtr CLAP_PORT_MONO
  stereo : HasString g ports.wclapPortStereoPtr CLAP_PORT_STEREO
  surround : HasString g ports.wclapPortSurroundPtr CLAP_PORT_SURROUND
  ambisonic : HasString g ports.wclapPortAmbisonicPtr CLAP_PORT_AMBISONIC
  other : HasString g ports.wclapPortOtherPtr unknownHostPortType

/-- Guest memory has a copy of the details of a request, in the shape that its type
    has. -/
def DetailsAt (abi : PortAbi is64) (request : PortConfigurationRequest) (ptr : Pointer is64)
    (mem : LinearMemory) : Prop :=
  match request.port_details with
  | none => ptr = Pointer.null
  | some port_details =>
    if request.port_type = some CLAP_PORT_SURROUND then
      ptr ≠ Pointer.null ∧ mem.bytes.read ptr.toNat request.channel_count.toNat =
        port_details.read 0 request.channel_count.toNat
    else if request.port_type = some CLAP_PORT_AMBISONIC then
      ptr ≠ Pointer.null ∧ mem.get abi.ambisonicConfig ptr 0 =
        ambisonicConfigCodec.decode (port_details.read 0 ambisonicConfigCodec.width)
    else ptr = Pointer.null

/-- Guest memory has a copy of a request at index `i` of the array. -/
structure RequestAt (abi : PortAbi is64) (ports : WclapPorts is64)
    (request : PortConfigurationRequest) (requestsPtr : Pointer is64) (i : Nat)
    (mem : LinearMemory) : Prop where
  is_input : (mem.get abi.request requestsPtr i).is_input = request.is_input
  port_index : (mem.get abi.request requestsPtr i).port_index = request.port_index
  channel_count : (mem.get abi.request requestsPtr i).channel_count = request.channel_count
  port_type : ports.translatePortType request.port_type =
    some (mem.get abi.request requestsPtr i).port_type
  port_details : DetailsAt abi request (mem.get abi.request requestsPtr i).port_details mem

/-- The guest is called with a copy of all requests. -/
structure RequestsArrive (abi : PortAbi is64) (ports : WclapPorts is64) (g : GuestState)
    {request_count : UInt32} (requests : Vector PortConfigurationRequest request_count.toNat)
    (call : ConfigurationCall is64) : Prop where
  count : call.request_count = request_count
  inRange : InRange call.guest.mem call.requestsPtr (abi.request.width * request_count.toNat)
  request : ∀ i (hi : i < request_count.toNat),
    RequestAt abi ports requests[i] call.requestsPtr i call.guest.mem
  /-- The pointers lead to the strings of the types. -/
  portType : PortStrings g ports → ∀ i (hi : i < request_count.toNat),
    ∃ portType, requests[i].port_type = some portType ∧
      StringAt call.guest.mem (call.guest.mem.get abi.request call.requestsPtr i).port_type
        (knownPortType portType)
  /-- Nothing that was allocated before is written to. -/
  grown : Extends g call.guest nowhere

/-- A method calls its function of the guest with a copy of all requests, and reads
    through no null pointer on the way. -/
def TranslatesRequests (abi : PortAbi is64) (ports : WclapPorts is64) (g : GuestState)
    {request_count : UInt32} (requests : Vector PortConfigurationRequest request_count.toNat)
    (method : Option (ConfigurationCall is64)) (function : ConfigurationFunction) : Prop :=
  ∃ call, method = some call ∧ call.function = function ∧
    (ArenaOk is64 call.guest → RequestsArrive abi ports g requests call)

/-! ## Port types -/

theorem strcmpEq_some (a b : CString) : strcmpEq (some a) b = some (decide (a = b)) := rfl

/-- The pointer for a type leads to its string. -/
theorem translatePortType_spec (ports : WclapPorts is64) (portType : CString) :
    ∃ ptr, ports.translatePortType (some portType) = some ptr ∧
      (PortStrings g ports → HasString g ptr (knownPortType portType)) := by
  unfold WclapPorts.translatePortType
  simp only [strcmpEq_some, Option.bind_eq_bind, Option.bind_some, decide_eq_true_eq]
  by_cases hmono : portType = CLAP_PORT_MONO
  · subst hmono
    exact ⟨_, if_pos rfl, fun h => h.mono⟩
  rw [if_neg hmono]
  by_cases hstereo : portType = CLAP_PORT_STEREO
  · subst hstereo
    exact ⟨_, if_pos rfl, fun h => h.stereo⟩
  rw [if_neg hstereo]
  by_cases hsurround : portType = CLAP_PORT_SURROUND
  · subst hsurround
    exact ⟨_, if_pos rfl, fun h => h.surround⟩
  rw [if_neg hsurround]
  by_cases hambisonic : portType = CLAP_PORT_AMBISONIC
  · subst hambisonic
    exact ⟨_, if_pos rfl, fun h => h.ambisonic⟩
  rw [if_neg hambisonic]
  refine ⟨_, rfl, fun h => ?_⟩
  have hunknown : knownPortType portType = unknownHostPortType :=
    if_neg (by simp [hmono, hstereo, hsurround, hambisonic])
  exact hunknown ▸ h.other

theorem translatePortType_isSome {portType : Option CString}
    (h : (ports.translatePortType portType).isSome) : portType ≠ none := by
  rintro rfl
  exact absurd h Bool.false_ne_true

theorem PortStrings.extends {g' : GuestState} (h : PortStrings g ports)
    (hext : Extends g g' nowhere) : PortStrings g' ports :=
  ⟨h.mono.extends hext, h.stereo.extends hext, h.surround.extends hext, h.ambisonic.extends hext,
    h.other.extends hext⟩

/-- The strings of the module are in blocks of their own. -/
theorem portStrings_writePortTypes (hok : ArenaOk is64 (writePortTypes arena g).2) :
    PortStrings (writePortTypes arena g).2 (writePortTypes arena g).1 := by
  let r₁ := g.writeString arena CLAP_PORT_MONO
  let r₂ := r₁.2.writeString arena CLAP_PORT_STEREO
  let r₃ := r₂.2.writeString arena CLAP_PORT_SURROUND
  let r₄ := r₃.2.writeString arena CLAP_PORT_AMBISONIC
  let r₅ := r₄.2.writeString arena unknownHostPortType
  -- each step is in order because the state after the last one is
  have hok₄ : ArenaOk is64 r₄.2 := (writeString_later unknownHostPortType).arenaOk hok
  have hok₃ : ArenaOk is64 r₃.2 := (writeString_later CLAP_PORT_AMBISONIC).arenaOk hok₄
  have hok₂ : ArenaOk is64 r₂.2 := (writeString_later CLAP_PORT_SURROUND).arenaOk hok₃
  have hok₁ : ArenaOk is64 r₁.2 := (writeString_later CLAP_PORT_STEREO).arenaOk hok₂
  have hext₅ := (placed_of_writeString (g := r₄.2) hok).grown
  have hext₄ := (placed_of_writeString hok₄).grown.more hext₅
  have hext₃ := (placed_of_writeString hok₃).grown.more hext₄
  have hext₂ := (placed_of_writeString hok₂).grown.more hext₃
  exact ⟨(hasString_writeString hok₁).extends hext₂, (hasString_writeString hok₂).extends hext₃,
    (hasString_writeString hok₃).extends hext₄, (hasString_writeString hok₄).extends hext₅,
    hasString_writeString (g := r₄.2) hok⟩

/-! ## One request -/

/-- The details are null. -/
theorem copyDetails_null {request : PortConfigurationRequest}
    (hnull : copyDetails abi arena request g = some (Pointer.null, g))
    (hshape : ∀ mem, DetailsAt abi request Pointer.null mem) :
    ∃ ptr g', copyDetails abi arena request g = some (ptr, g') ∧ Later g g' ∧
      (ArenaOk is64 g' → Extends g g' nowhere ∧ ∀ X, (∀ x, X x → Allocated g.blocks x) →
        Settled g'.toHeap X (OfBytes g.mem.size (DetailsAt abi request ptr))) :=
  ⟨_, _, hnull, .refl g, fun _ => ⟨.refl g _, fun _ _ _ _ mem _ _ => hshape mem⟩⟩

/-- What `copyDetails` has copied is in a block of its own. -/
theorem copyDetails_spec (abi : PortAbi is64) (arena : Arena is64)
    {request : PortConfigurationRequest} (htype : request.port_type ≠ none) (g : GuestState) :
    ∃ ptr g', copyDetails abi arena request g = some (ptr, g') ∧ Later g g' ∧
      (ArenaOk is64 g' → Extends g g' nowhere ∧ ∀ X, (∀ x, X x → Allocated g.blocks x) →
        Settled g'.toHeap X (OfBytes g.mem.size (DetailsAt abi request ptr))) := by
  obtain ⟨portType, hportType⟩ := Option.ne_none_iff_exists'.mp htype
  cases hdetails : request.port_details with
  | none =>
    refine copyDetails_null ?_ fun mem => ?_
    · simp [copyDetails, hportType, hdetails, strcmpEq_some]
    · simp [DetailsAt, hdetails]
  | some details =>
  by_cases hsurround : portType = CLAP_PORT_SURROUND
  · -- an array of one byte for each channel
    have heq : copyDetails abi arena request g =
        some ((g.array arena 1 request.channel_count.toNat).1,
          (g.array arena 1 request.channel_count.toNat).2.setArray
            (g.array arena 1 request.channel_count.toNat).1
            (details.read 0 request.channel_count.toNat) (UInt64.ofNat 1)
            (UInt64.ofNat request.channel_count.toNat)) := by
      simp [copyDetails, hportType, hdetails, strcmpEq_some, hsurround]
    refine ⟨_, _, heq, (array_later _ _).trans (setArray_later _ _ _ _), fun hok => ?_⟩
    have hlen : (details.read 0 request.channel_count.toNat).length =
        1 * request.channel_count.toNat := by rw [Cells.length_read, Nat.one_mul]
    have hplaced := placed_of_setArray rfl hlen hok
    refine ⟨hplaced.grown, fun X hX => (hplaced.settled X hX).imp ?_⟩
    rintro m hm mem rfl -
    rw [Cells.length_read] at hm
    simp only [DetailsAt, hdetails, hportType, hsurround, if_true]
    exact ⟨ne_null_of_pos hplaced.pos, hm⟩
  by_cases hambisonic : portType = CLAP_PORT_AMBISONIC
  · -- a struct
    subst hambisonic
    have heq : copyDetails abi arena request g =
        some (g.copyAcross arena abi.ambisonicConfig
          (ambisonicConfigCodec.decode (details.read 0 ambisonicConfigCodec.width))) := by
      simp [copyDetails, hportType, hdetails, strcmpEq_some, hsurround]
    refine ⟨_, _, heq, copyAcross_later _ _, fun hok => ?_⟩
    have hplaced := placed_of_copyAcross hok
    refine ⟨hplaced.grown, fun X hX => (hplaced.get hX).imp ?_⟩
    rintro m hm mem rfl hsize
    simp only [DetailsAt, hdetails, hportType, hsurround, Option.some.injEq, if_false, if_true]
    exact ⟨ne_null_of_pos hplaced.pos, hm mem rfl (hsize.trans hplaced.grown.size.symm)⟩
  · refine copyDetails_null ?_ fun mem => ?_
    · simp [copyDetails, hportType, hdetails, strcmpEq_some, hsurround, hambisonic]
    · simp [DetailsAt, hportType, hdetails, hsurround, hambisonic]

/-- One iteration of the loop: a request with a type in the array, and its details in
    a block of their own. -/
theorem copyRequest_spec (abi : PortAbi is64) (arena : Arena is64) (ports : WclapPorts is64)
    (requestsPtr : Pointer is64) {request : PortConfigurationRequest}
    (htype : request.port_type ≠ none) {n i : Nat} (hi : i < n) (g : GuestState) :
    ∃ g', copyRequest abi arena ports requestsPtr i request g = some g' ∧ Later g g' ∧
      (InRange g.mem requestsPtr (abi.request.width * n) →
        (∀ x, span requestsPtr.toNat (abi.request.width * n) x → Allocated g.blocks x) →
        ArenaOk is64 g' →
        Extends g g' (span (requestsPtr.toNat + abi.request.width * i) abi.request.width) ∧
          SettledElement g g' requestsPtr.toNat
            (OfBytes g.mem.size (RequestAt abi ports request requestsPtr i)) abi.request.width i)
      := by
  obtain ⟨portType, hportType⟩ := Option.ne_none_iff_exists'.mp htype
  obtain ⟨typePtr, htypePtr, -⟩ := translatePortType_spec (g := g) ports portType
  rw [← hportType] at htypePtr
  obtain ⟨detailsPtr, t, hdetails, hlater, hcopied⟩ :=
    copyDetails_spec abi arena htype g
  let wRequest : WPortConfigurationRequest is64 :=
    ⟨request.is_input, request.port_index, request.channel_count, typePtr, detailsPtr⟩
  refine ⟨t.set abi.request requestsPtr wRequest i, ?_, hlater.trans (set_later _ _ _ _),
    fun hin halloc hok => ?_⟩
  · simp only [copyRequest, htypePtr, hdetails, Option.bind_eq_bind, Option.bind_some]
    rfl
  -- the details first, then the element, which is in an older block
  obtain ⟨hext, hsettled⟩ := hcopied ((set_later _ _ _ _).arenaOk hok)
  obtain ⟨hset, -⟩ := set_extends (hin.of_size_eq hext.size) hi wRequest
  refine ⟨(hext.mono of_nowhere).trans hset fun _ _ h => h, fun X hX hdisj => ?_⟩
  have hrequest := set_settled (hin.of_size_eq hext.size) hi wRequest (X := X) fun x hx =>
    ⟨(halloc x (span_element hi hx)).mono hext.grows.blocks, fun hxX => hdisj x hxX hx⟩
  -- the details, whatever happens to the old blocks and to this element
  have hY : ∀ x, X x ∨ span (requestsPtr.toNat + abi.request.width * i) abi.request.width x →
      Allocated g.blocks x := by
    rintro x (hx | hx)
    · exact hX x hx
    · exact halloc x (span_element hi hx)
  have hkept := (hsettled _ hY).grows hset.grows (fun x hx => Or.inr hx) fun x hx => Or.inl hx
  refine (hrequest.and hkept).imp ?_
  rintro m ⟨hm, hm'⟩ mem rfl hmem
  have hget := hm mem rfl (hmem.trans hext.size.symm)
  constructor <;> rw [hget]
  · exact htypePtr
  · exact hm' mem rfl hmem

/-! ## All requests -/

theorem copyRequestAt_eq {requestsPtr : Pointer is64} {n i : Nat} (hi : i < n)
    (requests : Vector PortConfigurationRequest n) (t : GuestState) :
    copyRequestAt abi arena ports requestsPtr requests i t =
      copyRequest abi arena ports requestsPtr i requests[i] t := by
  rw [copyRequestAt, Vector.getElem?_eq_getElem hi]
  rfl

/-- The loop fails if a request has no type. -/
theorem copyRequests_typed {requestsPtr : Pointer is64} {n : Nat}
    {requests : Vector PortConfigurationRequest n}
    (h : (copyRequests abi arena ports requestsPtr requests g).isSome) :
    ∀ i (hi : i < n), requests[i].port_type ≠ none := by
  intro i hi
  obtain ⟨t, ht⟩ := forLoop_bind_isSome h i hi
  rw [copyRequestAt_eq hi] at ht
  exact translatePortType_isSome (Option.isSome_of_isSome_bind ht)

/-- The loop fills the array. -/
theorem copyRequests_spec (abi : PortAbi is64) (arena : Arena is64) (ports : WclapPorts is64)
    (requestsPtr : Pointer is64) {n : Nat} {requests : Vector PortConfigurationRequest n}
    (htyped : ∀ i (hi : i < n), requests[i].port_type ≠ none) (g : GuestState) :
    ∃ g', copyRequests abi arena ports requestsPtr requests g = some g' ∧ Later g g' ∧
      (InRange g.mem requestsPtr (abi.request.width * n) →
        (∀ x, span requestsPtr.toNat (abi.request.width * n) x → Allocated g.blocks x) →
        ArenaOk is64 g' →
        Extends g g' (span requestsPtr.toNat (abi.request.width * n)) ∧
          ∀ i (hi : i < n), RequestAt abi ports requests[i] requestsPtr i g'.mem) := by
  -- no iteration fails, so the loop is one over a total function
  let f : Nat → GuestState → GuestState := fun i t =>
    (copyRequestAt abi arena ports requestsPtr requests i t).getD t
  have hstep {i : Nat} (hi : i < n) (t : GuestState) :=
    copyRequest_spec abi arena ports requestsPtr (htyped i hi) hi t
  have hf {i : Nat} (hi : i < n) (t : GuestState) :
      copyRequestAt abi arena ports requestsPtr requests i t = some (f i t) := by
    obtain ⟨t', ht', -⟩ := hstep hi t
    simp only [f, copyRequestAt_eq hi, ht', Option.getD_some]
  have hlater (i : Nat) (t : GuestState) : Later t (f i t) := by
    by_cases hi : i < n
    · obtain ⟨t', ht', hlater, -⟩ := hstep hi t
      simp only [f, copyRequestAt_eq hi, ht', Option.getD_some]
      exact hlater
    · have hnone : requests[i]? = none := Vector.getElem?_eq_none (Nat.le_of_not_lt hi)
      simp only [f, copyRequestAt, hnone]
      exact .refl t
  refine ⟨forLoop n f g, forLoop_bind_of_some (fun i hi t => hf hi t) g,
    Later.forLoop g hlater, fun hin halloc hok => ?_⟩
  -- each iteration settles its element
  obtain ⟨hext, hrequests⟩ := fillArray
    (Q := fun i => OfBytes g.mem.size fun mem =>
      ∀ hi : i < n, RequestAt abi ports requests[i] requestsPtr i mem)
    hlater hok halloc fun i t hi ht hokt => by
      obtain ⟨t', ht', -, hspec⟩ := hstep hi t
      have hft : f i t = t' := by simp only [f, copyRequestAt_eq hi, ht', Option.getD_some]
      rw [hft] at hokt ⊢
      obtain ⟨hext, hsettled⟩ := hspec (hin.of_size_eq ht.size)
        (fun x hx => (halloc x hx).mono ht.blocks) hokt
      refine ⟨hext, fun X hX hdisj => (hsettled X hX hdisj).imp ?_⟩
      rw [ht.size]
      exact fun m hm mem hmem hsize _ => hm mem hmem hsize
  refine ⟨hext, fun i hi => ?_⟩
  have hsettled := hrequests i hi nowhere of_nowhere of_nowhere
  rw [← hext.size] at hsettled
  exact ofBytes_holds hsettled hi

/-- The method does nothing but copy the requests. -/
theorem configurableAudioPorts_method_eq (applyChanges : Bool) {request_count : UInt32}
    (requests : Vector PortConfigurationRequest request_count.toNat) :
    configurableAudioPorts_method applyChanges abi arena ports g requests =
      (copyRequests abi arena ports (g.array arena abi.request.width request_count.toNat).1 requests
        (g.array arena abi.request.width request_count.toNat).2).map fun t =>
          ⟨if applyChanges then .apply_configuration else .can_apply_configuration,
            (g.array arena abi.request.width request_count.toNat).1, request_count, t⟩ := by
  rw [Option.map_eq_bind]
  cases applyChanges <;> rfl

/-- A method calls the guest with its requests if and only if each has a type. -/
theorem method_translates_iff (applyChanges : Bool) (abi : PortAbi is64) (arena : Arena is64)
    (ports : WclapPorts is64) (g : GuestState) {request_count : UInt32}
    (requests : Vector PortConfigurationRequest request_count.toNat) :
    TranslatesRequests abi ports g requests
        (configurableAudioPorts_method applyChanges abi arena ports g requests)
        (if applyChanges then .apply_configuration else .can_apply_configuration) ↔
      ∀ request ∈ requests, request.port_type ≠ none := by
  rw [configurableAudioPorts_method_eq]
  let r := g.array arena abi.request.width request_count.toNat
  constructor
  · rintro ⟨call, hcall, -⟩ request hrequest
    -- the guest is only called after the loop
    obtain ⟨t, ht, -⟩ := Option.map_eq_some_iff.mp hcall
    obtain ⟨i, hi, rfl⟩ := Vector.getElem_of_mem hrequest
    exact copyRequests_typed (by rw [ht]; rfl) i hi
  · intro htyped
    have htyped' (i : Nat) (hi : i < request_count.toNat) : requests[i].port_type ≠ none :=
      htyped _ (Vector.getElem_mem hi)
    obtain ⟨t, ht, hlater, hspec⟩ := copyRequests_spec abi arena ports r.1 htyped' r.2
    refine ⟨⟨_, r.1, request_count, t⟩, by rw [ht]; rfl, rfl, fun hok => ?_⟩
    have hblock : ⟨r.1.toNat, abi.request.width * request_count.toNat⟩ ∈ r.2.blocks :=
      reserve_mem_blocks _ _
    have hin := (hlater.arenaOk hok).inRange hblock
    obtain ⟨hext, hrequests⟩ := hspec hin (fun x hx => ⟨_, hblock, hx⟩) hok
    -- the array is a new block, too
    have hgrown : Extends g t nowhere :=
      (reserve_extends _ _ _).trans hext fun x hx hw =>
        absurd hx (reserve_fresh hlater.blocks hok hw)
    refine ⟨rfl, hin.of_size_eq hext.size, hrequests, fun hstrings i hi => ?_, hgrown⟩
    obtain ⟨portType, hportType⟩ := Option.ne_none_iff_exists'.mp (htyped' i hi)
    obtain ⟨ptr, hptr, hstring⟩ := translatePortType_spec (g := t) ports portType
    have htype := (hrequests i hi).port_type
    rw [hportType, hptr] at htype
    cases htype
    exact ⟨portType, hportType, (hstring (hstrings.extends hgrown)).2⟩

/-- Both methods hand their requests to the guest if and only if each has a type. -/
theorem portRequests_translated_iff (abi : PortAbi is64) (arena : Arena is64)
    (ports : WclapPorts is64) (g : GuestState) {request_count : UInt32}
    (requests : Vector PortConfigurationRequest request_count.toNat) :
    (TranslatesRequests abi ports g requests
        (configurableAudioPorts_can_apply_configuration abi arena ports g requests)
        .can_apply_configuration ∧
      TranslatesRequests abi ports g requests
        (configurableAudioPorts_apply_configuration abi arena ports g requests)
        .apply_configuration) ↔
      ∀ request ∈ requests, request.port_type ≠ none :=
  (and_congr (method_translates_iff false abi arena ports g requests)
    (method_translates_iff true abi arena ports g requests)).trans (and_self_iff)

/-- A request for two channels of a surround port, with their map. -/
def surroundRequests : Vector PortConfigurationRequest (1 : UInt32).toNat :=
  #v[⟨false, 0, 2, some CLAP_PORT_SURROUND, some fun i => UInt8.ofNat i⟩]

-- an arena that is in order to the end
example :
    let (ports, g) := writePortTypes bumpArena ⟨.onePage, []⟩
    ∃ call, configurableAudioPorts_apply_configuration (PortAbi.clap false) bumpArena ports g
      surroundRequests = some call ∧ ArenaOk false call.guest :=
  ⟨_, rfl, by decide⟩

/-- A request for two channels of an unspecified type. -/
def unspecifiedRequests : Vector PortConfigurationRequest (1 : UInt32).toNat :=
  #v[⟨false, 0, 2, none, none⟩]

theorem unspecifiedRequests_not_translated :
    let (ports, g) := writePortTypes bumpArena ⟨.onePage, []⟩
    ¬ TranslatesRequests (PortAbi.clap false) ports g unspecifiedRequests
      (configurableAudioPorts_can_apply_configuration (PortAbi.clap false) bumpArena ports g
        unspecifiedRequests) .can_apply_configuration := by
  rintro ⟨call, hcall, -⟩
  exact Option.some_ne_none call hcall.symm

end WclapBridge.Spec
