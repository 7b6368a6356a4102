import WclapBridge.Native.PluginGetters

/-!
# Terminated strings

A host reads a name or a text up to its NUL. The bridge copies the bytes of the guest
as they are, without a look at them, and `strncpy` leaves no NUL in a buffer that is
not longer than the string. So whether a string is terminated is up to the guest, or
to the length of a media type.

## Key results

- `callToFillBuffer_iff`, `nul_mem_strncpy_iff`: when a buffer is terminated
- `serveFile_mime`: a file that is served comes with a media type
- `terminatedStrings_iff`: when all strings that are handed out have a NUL
-/

namespace WclapBridge.Spec

open WclapBridge.Native

variable {is64 : Bool} {σ : Type}

/-! ## The methods -/

/-- A request for a file, as `serveFile` gets it. -/
structure FileRequest (σ : Type) where
  fuel : Nat
  dirs : ConfiguredDirs
  cwd : List Char
  files : List Char → Option OpenedFile
  guessMediaType : List Char → CString
  path : List Char
  mimeCapacity : UInt32
  ostream : ClapOstream σ
  host : σ

/-- The methods of `Plugin` which hand out strings of the guest's. -/
inductive StringMethod (σ : Type) where
  | audioPortsConfig_get
  | audioPortsConfigInfo_get
  | audioPorts_get
  | noteName_get
  | notePorts_get
  | params_get_info
  | params_value_to_text (textCapacity : UInt32)
  | remoteControls_get
  /-- With what it finds in `wasFileUri`. -/
  | webview_get_resource (wasFileUri : Bool) (request : FileRequest σ)

namespace StringMethod

variable (abi : InfoAbi is64) (arena : Arena is64) (g : GuestState) (guest : GuestFills is64)

/-- The strings of what is stored, if it is. -/
def stored {α : Type} (strings : α → List (List UInt8)) (r : Bool × Option α) :
    Bool × List (List UInt8) :=
  (r.1, (r.2.map strings).getD [])

/-- The result of a method, and the arrays and buffers of the host that hold strings
    afterwards. -/
def handed : StringMethod σ → Bool × List (List UInt8)
  | audioPortsConfig_get =>
    stored (fun config => [config.name.toList]) (Native.audioPortsConfig_get abi arena g guest)
  | audioPortsConfigInfo_get =>
    stored (fun info => [info.name.toList]) (Native.audioPortsConfigInfo_get abi arena g guest)
  | audioPorts_get =>
    stored (fun info => [info.name.toList]) (Native.audioPorts_get abi arena g guest)
  | noteName_get =>
    stored (fun note_name => [note_name.name.toList]) (Native.noteName_get abi arena g guest)
  | notePorts_get =>
    stored (fun info => [info.name.toList]) (Native.notePorts_get abi arena g guest)
  | params_get_info =>
    stored (fun info => [info.name.toList, info.module_.toList])
      (Native.params_get_info abi arena g guest)
  | params_value_to_text textCapacity =>
    let (result, text) := Native.params_value_to_text arena g guest textCapacity
    (result, [text])
  | remoteControls_get =>
    stored (fun page => [page.section_name.toList, page.page_name.toList])
      (Native.remoteControls_get abi arena g guest)
  | webview_get_resource false request =>
    let (result, mime) := getGuestResource arena g guest request.mimeCapacity
    (result, [mime])
  | webview_get_resource true r =>
    match serveFile r.fuel r.dirs r.cwd r.files r.guessMediaType r.path r.mimeCapacity r.ostream
      r.host with
    | none => (false, [])
    | some served => (served.result, served.mime.toList)

/-- The guest has left a NUL among the bytes of a buffer that the bridge reads. -/
def BufferHasNul (capacity : UInt32) : Prop :=
  let (ptr, g) := g.array arena 1 capacity.toNat
  let mem := (guest ptr g.mem).2
  ∃ i < capacity.toNat, mem.bytes (mem.clamp ptr.toUInt64 capacity.toUInt64 + i) = 0

/-- Whether the strings are terminated: the guest has left a NUL in each of its arrays
    that are copied, or the media type is shorter than the buffer for it. -/
def Terminates : StringMethod σ → Prop
  | audioPortsConfig_get =>
    0 ∈ (callToFill abi.audioPortsConfig guest
      (g.reserveBlank arena abi.audioPortsConfig)).2.1.name
  | audioPortsConfigInfo_get | audioPorts_get =>
    0 ∈ (callToFill abi.audioPortInfo guest (g.reserveBlank arena abi.audioPortInfo)).2.1.name
  | noteName_get =>
    0 ∈ (callToFill abi.noteName guest (g.reserveBlank arena abi.noteName)).2.1.name
  | notePorts_get =>
    0 ∈ (callToFill abi.notePortInfo guest
      (g.copyAcross arena abi.notePortInfo blankNotePortInfo)).2.1.name
  | params_get_info =>
    let wclapInfo := (callToFill abi.paramInfo guest
      (g.copyAcross arena abi.paramInfo blankParamInfo)).2.1
    0 ∈ wclapInfo.name ∧ 0 ∈ wclapInfo.module_
  | params_value_to_text textCapacity => BufferHasNul arena g guest textCapacity
  | remoteControls_get =>
    let wPage := (callToFill abi.remoteControlsPage guest
      (g.reserveBlank arena abi.remoteControlsPage)).2.1
    0 ∈ wPage.section_name ∧ 0 ∈ wPage.page_name
  | webview_get_resource false request => BufferHasNul arena g guest request.mimeCapacity
  | webview_get_resource true request =>
    (request.guessMediaType request.path).size < request.mimeCapacity.toNat

end StringMethod

/-! ## Buffers and arrays -/

/-- A string that `strncpy` has copied is terminated if it is shorter than the buffer. -/
theorem nul_mem_strncpy_iff (s : CString) (capacity : Nat) :
    0 ∈ strncpy s.chars capacity ↔ s.size < capacity := by
  rw [strncpy_chars, List.take_append]
  constructor
  · intro h
    rcases List.mem_append.mp h with h | h
    · exact absurd (List.mem_of_mem_take h) s.noNul
    · -- there is room for the zeros that follow
      have hlen := List.length_pos_of_mem h
      rw [List.length_take, List.length_replicate] at hlen
      rw [CString.size]
      omega
  · intro h
    refine List.mem_append_right _ ?_
    rw [List.take_replicate, List.mem_replicate]
    rw [CString.size] at h
    exact ⟨by omega, rfl⟩

theorem mem_read_iff {m : Cells UInt8} {a n : Nat} :
    0 ∈ m.read a n ↔ ∃ i < n, m (a + i) = 0 := by
  simp [Cells.read]

/-- A buffer is terminated if the guest has left a NUL in it. -/
theorem callToFillBuffer_iff (arena : Arena is64) (g : GuestState) (guest : GuestFills is64)
    (capacity : UInt32) :
    0 ∈ (callToFillBuffer arena g guest capacity).2 ↔
      StringMethod.BufferHasNul arena g guest capacity := by
  simp only [callToFillBuffer, StringMethod.BufferHasNul, LinearMemory.getArray_eq,
    UInt64.one_mul, Option.getD_some, mem_read_iff, UInt32.toNat_toUInt64]

/-! ## The law -/

/-- A file that is served comes with a media type. -/
theorem serveFile_mime {fuel : Nat} {dirs : ConfiguredDirs} {cwd path : List Char}
    {files : List Char → Option OpenedFile} {guessMediaType : List Char → CString}
    {mimeCapacity : UInt32} {ostream : ClapOstream σ} {host : σ} {served : ResourceResult σ}
    (h : serveFile fuel dirs cwd files guessMediaType path mimeCapacity ostream host =
      some served) (hresult : served.result = true) :
    served.mime = some (strncpy (guessMediaType path).chars mimeCapacity.toNat) := by
  unfold serveFile at h
  split at h
  next =>
    cases h
    exact absurd hresult Bool.false_ne_true
  next =>
    -- from here on `mime` is set, however far it gets
    split at h
    next => cases h; rfl
    next =>
      split at h
      next => cases h; rfl
      next =>
        split at h
        next =>
          obtain ⟨⟨result, s⟩, -, rfl⟩ := Option.map_eq_some_iff.mp h
          rfl
        next => cases h; rfl

/-- After a call that succeeds, the strings of a method are terminated if and only if
    the guest has left a NUL in each array or buffer it fills, or, for the media type of a
    file, the type is shorter than the buffer. -/
theorem terminatedStrings_iff (abi : InfoAbi is64) (arena : Arena is64) (g : GuestState)
    (guest : GuestFills is64) (method : StringMethod σ)
    (h : (method.handed abi arena g guest).1 = true) :
    (∀ string ∈ (method.handed abi arena g guest).2, 0 ∈ string) ↔
      method.Terminates abi arena g guest := by
  cases method with
  | audioPortsConfig_get =>
    simp only [StringMethod.handed, audioPortsConfig_get, StringMethod.Terminates] at h ⊢
    generalize callToFill _ _ _ = filled at h ⊢
    obtain ⟨_ | _, wConfig, mem⟩ := filled
    · exact absurd h Bool.false_ne_true
    · simp [StringMethod.stored, copyName_eq]
  | audioPortsConfigInfo_get =>
    simp only [StringMethod.handed, audioPortsConfigInfo_get, StringMethod.Terminates] at h ⊢
    generalize callToFill _ _ _ = filled at h ⊢
    obtain ⟨_ | _, wclapInfo, mem⟩ := filled
    · exact absurd h Bool.false_ne_true
    · simp [StringMethod.stored, hostPortInfo, copyName_eq]
  | audioPorts_get =>
    -- copied before the result is looked at
    simp [StringMethod.handed, audioPorts_get, StringMethod.Terminates, StringMethod.stored,
      hostPortInfo, copyName_eq]
  | noteName_get =>
    simp only [StringMethod.handed, noteName_get, StringMethod.Terminates] at h ⊢
    generalize callToFill _ _ _ = filled at h ⊢
    obtain ⟨_ | _, wName, mem⟩ := filled
    · exact absurd h Bool.false_ne_true
    · simp [StringMethod.stored, copyName_eq]
  | notePorts_get =>
    simp [StringMethod.handed, notePorts_get, StringMethod.Terminates, StringMethod.stored,
      copyName_eq]
  | params_get_info =>
    simp [StringMethod.handed, params_get_info, StringMethod.Terminates, StringMethod.stored,
      copyName_eq, copy_eq]
  | params_value_to_text textCapacity =>
    -- the host gets as many bytes as it has room for
    simp only [StringMethod.handed, StringMethod.Terminates, List.mem_singleton, forall_eq]
    exact callToFillBuffer_iff arena g guest textCapacity
  | remoteControls_get =>
    simp only [StringMethod.handed, remoteControls_get, StringMethod.Terminates] at h ⊢
    generalize callToFill _ _ _ = filled at h ⊢
    obtain ⟨_ | _, wPage, mem⟩ := filled
    · exact absurd h Bool.false_ne_true
    · simp [StringMethod.stored, copyName_eq]
  | webview_get_resource wasFileUri request =>
    cases wasFileUri with
    | false =>
      simp only [StringMethod.handed, StringMethod.Terminates, List.mem_singleton, forall_eq]
      exact callToFillBuffer_iff arena g guest request.mimeCapacity
    | true =>
      simp only [StringMethod.handed, StringMethod.Terminates] at h ⊢
      split at h
      next => exact absurd h Bool.false_ne_true
      next served hserved =>
        -- the type is the bridge's own here
        rw [serveFile_mime hserved h]
        simp only [Option.toList_some, List.mem_singleton, forall_eq]
        exact nul_mem_strncpy_iff _ _

/-- A guest that fills all of its memory, and says that it has an answer. -/
def fillsAll (byte : UInt8) : GuestFills false :=
  fun _ mem => (true, { mem with bytes := fun _ => byte })

/-- A guest whose memory is full of letters, but for the end of its text of five letters. -/
def fillsText : GuestFills false :=
  fun ptr mem => (true, { mem with bytes := fun x => if x = ptr.toNat + 5 then 0 else 97 })

/-- The host has room for eight bytes. -/
theorem terminatedStrings_valueText :
    let method : StringMethod Unit := .params_value_to_text 8
    let handed := method.handed (InfoAbi.clap false) bumpArena ⟨.onePage, []⟩ fillsText
    handed = (true, [[97, 97, 97, 97, 97, 0, 97, 97]]) ∧ ∀ string ∈ handed.2, 0 ∈ string :=
  ⟨by decide +kernel,
    (terminatedStrings_iff (InfoAbi.clap false) bumpArena ⟨.onePage, []⟩ fillsText
      (.params_value_to_text 8 : StringMethod Unit) rfl).mpr ⟨5, by decide, by decide +kernel⟩⟩

/-- What the guest has written, as a struct. -/
def letters : NoteName :=
  ⟨Vector.replicate _ 97, 24929, 24929, 24929⟩

theorem noteName_unterminated :
    let r := (StringMethod.noteName_get : StringMethod Unit).handed (InfoAbi.clap false) bumpArena
      ⟨.onePage, []⟩ (fillsAll 97)
    r.1 = true ∧ ¬ ∀ string ∈ r.2, 0 ∈ string := by
  refine ⟨rfl, fun h => ?_⟩
  have hread : LinearMemory.get noteNameCodec { LinearMemory.onePage with bytes := fun _ => 97 }
      (bumpArena [] 262 262 : Pointer false) 0 = letters :=
    InRange.get_of_encode ⟨by decide +kernel, by decide +kernel⟩ (by decide +kernel)
  have hname := h _ (List.mem_singleton_self _)
  rw [copyName_eq] at hname
  have hletters : 0 ∈ letters.name.toList := by
    rw [← hread]
    exact hname
  exact absurd (List.mem_replicate.mp hletters).2 (by decide)

end WclapBridge.Spec
