import WclapBridge.Native.GuestBytes
import WclapBridge.Native.HostExtensions
import WclapBridge.Spec.PortRequests

/-!
# The structs of the host extensions

After `bindGlobalArena` the guest can read the index of each host function in the struct
of its extension, for as long as it leaves the blocks of the bridge alone. The answer to
`get_extension` leads to this struct, for the extensions that the plugin's host has and
for the webview.

## Key results

- `bindGlobalArena_spec`: what is bound
- `readFunction`: a function pointer in a struct
- `getExtension_spec`: the answer to a string of the guest, however long
-/

namespace WclapBridge.Spec

open WclapBridge.Native

variable {is64 : Bool} {arena : Arena is64} {hostIndex : HostFunction → UInt64}

/-- The guest finds the struct of an extension at the pointer. -/
def HasStruct (g : GuestState) (hostIndex : HostFunction → UInt64) (e : HostExtension)
    (ptr : Pointer is64) : Prop :=
  HasBytes g ptr ((hostStructCodec is64 e).encode (hostStruct is64 hostIndex e))

/-! ## Binding -/

theorem copyHostStructs_later (es : List HostExtension) (extPtr : HostExtension → Pointer is64)
    (g : GuestState) : Later g (copyHostStructs arena hostIndex es extPtr g).2 := by
  induction es generalizing extPtr g with
  | nil => exact Later.refl g
  | cons e es ih => exact (copyAcross_later _ _).trans (ih _ _)

/-- The structs are copied one after another, each to a block of its own. -/
theorem copyHostStructs_spec {es : List HostExtension} {extPtr : HostExtension → Pointer is64}
    {g : GuestState} (hok : ArenaOk is64 (copyHostStructs arena hostIndex es extPtr g).2) :
    Extends g (copyHostStructs arena hostIndex es extPtr g).2 nowhere ∧
      ∀ e, e ∈ es ∨ HasStruct g hostIndex e (extPtr e) →
        HasStruct (copyHostStructs arena hostIndex es extPtr g).2 hostIndex e
          ((copyHostStructs arena hostIndex es extPtr g).1 e) := by
  induction es generalizing extPtr g with
  | nil => exact ⟨Extends.refl g _, fun e he => he.resolve_left List.not_mem_nil⟩
  | cons e es ih =>
    let r := g.copyAcross arena (hostStructCodec is64 e) (hostStruct is64 hostIndex e)
    have hokRest : ArenaOk is64
        (copyHostStructs arena hostIndex es (Function.update extPtr e r.1) r.2).2 := hok
    have hplaced : Placed is64 g r.2 r.1 _ :=
      placed_of_copyAcross ((copyHostStructs_later es _ r.2).arenaOk hokRest)
    obtain ⟨hext, hstructs⟩ := ih hokRest
    refine ⟨hplaced.grown.more hext, fun f hf => hstructs f ?_⟩
    by_cases hfe : f = e
    · -- the struct that was copied last
      subst hfe
      right
      rw [Function.update_self]
      exact hplaced.hasBytes
    · rw [Function.update_of_ne hfe]
      rcases hf with hf | hf
      · exact .inl ((List.mem_cons.mp hf).resolve_left hfe)
      · exact .inr (hf.extends hplaced.grown)

theorem writePortTypes_later (g : GuestState) : Later g (writePortTypes arena g).2 :=
  (((((writeString_later _).trans (writeString_later _)).trans (writeString_later _)).trans
    (writeString_later _))).trans (writeString_later _)

theorem writeString_extends {g : GuestState} {string : CString}
    (hok : ArenaOk is64 (g.writeString arena string).2) :
    Extends g (g.writeString arena string).2 nowhere :=
  (placed_of_writeString hok).grown

/-- The strings between the structs go to blocks of their own as well. -/
theorem writePortTypes_extends {g : GuestState} (hok : ArenaOk is64 (writePortTypes arena g).2) :
    Extends g (writePortTypes arena g).2 nowhere := by
  let r₁ := g.writeString arena CLAP_PORT_MONO
  let r₂ := r₁.2.writeString arena CLAP_PORT_STEREO
  let r₃ := r₂.2.writeString arena CLAP_PORT_SURROUND
  let r₄ := r₃.2.writeString arena CLAP_PORT_AMBISONIC
  let r₅ := r₄.2.writeString arena unknownHostPortType
  have hok₅ : ArenaOk is64 r₅.2 := hok
  have hok₄ : ArenaOk is64 r₄.2 := (writeString_later _).arenaOk hok₅
  have hok₃ : ArenaOk is64 r₃.2 := (writeString_later _).arenaOk hok₄
  have hok₂ : ArenaOk is64 r₂.2 := (writeString_later _).arenaOk hok₃
  have hok₁ : ArenaOk is64 r₁.2 := (writeString_later _).arenaOk hok₂
  exact ((((writeString_extends hok₁).more (writeString_extends hok₂)).more
    (writeString_extends hok₃)).more (writeString_extends hok₄)).more (writeString_extends hok₅)

/-- What the guest finds after `bindGlobalArena`. -/
structure GlobalBound (g : GuestState) (hostIndex : HostFunction → UInt64)
    (bound : GlobalArena is64) : Prop where
  structs : ∀ e, HasStruct g hostIndex e (bound.extPtr e)
  ports : PortStrings g bound.ports

theorem bindGlobalArena_spec {g : GuestState}
    (hok : ArenaOk is64 (bindGlobalArena arena hostIndex g).2) :
    Extends g (bindGlobalArena arena hostIndex g).2 nowhere ∧
      GlobalBound (bindGlobalArena arena hostIndex g).2 hostIndex
        (bindGlobalArena arena hostIndex g).1 := by
  let r₁ := copyHostStructs arena hostIndex structsBeforePorts (fun _ => .null) g
  let r₂ := writePortTypes arena r₁.2
  let r₃ := copyHostStructs arena hostIndex structsBehindPorts r₁.1 r₂.2
  have hok₃ : ArenaOk is64 r₃.2 := hok
  have hok₂ : ArenaOk is64 r₂.2 := (copyHostStructs_later structsBehindPorts _ _).arenaOk hok₃
  have hok₁ : ArenaOk is64 r₁.2 := (writePortTypes_later r₁.2).arenaOk hok₂
  obtain ⟨hext₁, hstructs₁⟩ := copyHostStructs_spec hok₁
  obtain ⟨hext₃, hstructs₃⟩ := copyHostStructs_spec hok₃
  have hext₂ : Extends r₁.2 r₂.2 nowhere := writePortTypes_extends hok₂
  refine ⟨(hext₁.more hext₂).more hext₃, ?_, (portStrings_writePortTypes hok₂).extends hext₃⟩
  intro e
  apply hstructs₃ e
  rcases mem_structs e with he | he
  · exact .inr ((hstructs₁ e (.inl he)).extends hext₂)
  · exact .inl he

/-! ## Where it is bound -/

theorem copyAcross_blocks {α : Type} {c : Codec α} {value value' : α} {g g' : GuestState}
    (h : g.blocks = g'.blocks) :
    (g.copyAcross arena c value).2.blocks = (g'.copyAcross arena c value').2.blocks := by
  simp only [GuestState.copyAcross, GuestState.set, GuestState.reserve, h]

theorem writeString_blocks {string : CString} {g g' : GuestState} (h : g.blocks = g'.blocks) :
    (g.writeString arena string).2.blocks = (g'.writeString arena string).2.blocks := by
  simp only [GuestState.writeString, GuestState.setArray, GuestState.reserve, h]

/-- Where the structs go does not depend on what is in them. -/
theorem copyHostStructs_blocks {hostIndex hostIndex' : HostFunction → UInt64}
    (es : List HostExtension) {extPtr extPtr' : HostExtension → Pointer is64} {g g' : GuestState}
    (h : g.blocks = g'.blocks) :
    (copyHostStructs arena hostIndex es extPtr g).2.blocks =
      (copyHostStructs arena hostIndex' es extPtr' g').2.blocks := by
  induction es generalizing extPtr extPtr' g g' with
  | nil => exact h
  | cons e es ih => exact ih (copyAcross_blocks h)

theorem writePortTypes_blocks {g g' : GuestState} (h : g.blocks = g'.blocks) :
    (writePortTypes arena g).2.blocks = (writePortTypes arena g').2.blocks :=
  writeString_blocks (writeString_blocks (writeString_blocks (writeString_blocks
    (writeString_blocks h))))

theorem bindGlobalArena_blocks (hostIndex hostIndex' : HostFunction → UInt64) (g : GuestState) :
    (bindGlobalArena arena hostIndex g).2.blocks =
      (bindGlobalArena arena hostIndex' g).2.blocks := by
  let r := copyHostStructs arena hostIndex structsBeforePorts (fun _ => .null) g
  let r' := copyHostStructs arena hostIndex' structsBeforePorts (fun _ => .null) g
  let p := writePortTypes arena r.2
  let p' := writePortTypes arena r'.2
  have hfront : r.2.blocks = r'.2.blocks := copyHostStructs_blocks _ rfl
  have hports : p.2.blocks = p'.2.blocks := writePortTypes_blocks hfront
  show (copyHostStructs arena hostIndex structsBehindPorts r.1 p.2).2.blocks =
    (copyHostStructs arena hostIndex' structsBehindPorts r'.1 p'.2).2.blocks
  exact copyHostStructs_blocks structsBehindPorts hports

theorem bindGlobalArena_later (hostIndex : HostFunction → UInt64) (g : GuestState) :
    Later g (bindGlobalArena arena hostIndex g).2 := by
  let r₁ := copyHostStructs arena hostIndex structsBeforePorts (fun _ => .null) g
  let r₂ := writePortTypes arena r₁.2
  have h₁ : Later g r₁.2 := copyHostStructs_later _ _ _
  have h₃ : Later r₂.2 (bindGlobalArena arena hostIndex g).2 :=
    copyHostStructs_later structsBehindPorts r₁.1 r₂.2
  exact (h₁.trans (writePortTypes_later r₁.2)).trans h₃

/-! ## Reading a struct -/

/-- The guest can read the index of each function in the struct of its extension, if it
    fits in a pointer. -/
theorem readFunction {g : GuestState} {e : HostExtension} {ptr : Pointer is64} {k : Nat}
    {fn : HostFunction} (h : HasStruct g hostIndex e ptr) (hk : e.functions[k]? = some fn)
    (hfits : (hostIndex fn).toNat < 2 ^ addrBits is64) :
    (g.mem.get (pointerCodec is64) ptr k).toNat = (hostIndex fn).toNat := by
  obtain ⟨hlt, hfn⟩ := List.getElem?_eq_some_iff.mp hk
  have hlt' : k < (hostStruct is64 hostIndex e).toList.length := by
    rw [Vector.length_toList]
    exact hlt
  have helem : (hostStruct is64 hostIndex e).toList[k] = .ofNat (hostIndex fn).toNat := by
    simp [hostStruct, hfn]
  have hread : g.mem.get (pointerCodec is64) ptr k = .ofNat (hostIndex fn).toNat :=
    (HasBytes.getElem h hlt').trans helem
  rw [hread]
  exact Nat.mod_eq_of_lt hfits

/-! ## Answers -/

/-- The ids of the published headers are different, and not long. -/
structure IdsOk (ids : ExtensionIds) : Prop where
  injective : Function.Injective ids
  size : ∀ e, (ids e).size < 1024

/-- The extension is the webview, or the host has it. -/
def Supports (ids : ExtensionIds) (host : NativeHost) (e : HostExtension) : Prop :=
  e = .hostWebview ∨ host.get_extension (ids e) ≠ 0

/-- The branch for an id. -/
theorem find?_branches {ids : ExtensionIds} (hids : IdsOk ids) {e : HostExtension}
    (he : e ∈ extensionBranches) : extensionBranches.find? (fun f => ids e = ids f) = some e := by
  obtain ⟨f, hf⟩ : ∃ f, extensionBranches.find? (fun f => decide (ids e = ids f)) = some f := by
    rw [← Option.isSome_iff_exists, List.find?_isSome]
    exact ⟨e, he, decide_eq_true rfl⟩
  have hfe := hids.injective (of_decide_eq_true (List.find?_some (p := fun f => ids e = ids f) hf))
  rw [hf, hfe]

/-- The answer to a string of the guest, however long: the struct of the extension with
    this id, if the plugin's host has it or it is the webview, and null otherwise. -/
theorem getExtension_spec {ids : ExtensionIds} (hids : IdsOk ids) {bound : GlobalArena is64}
    (hpos : ∀ e, bound.extPtr e ≠ .null) {mem : LinearMemory} {extId : Pointer is64}
    {string : CString} (hstring : StringAt mem extId string) (host : NativeHost) :
    (hostTemplate_get_extension ids bound mem (some host) extId ≠ .null ↔
        ∃ e, string = ids e ∧ Supports ids host e) ∧
      ∀ e, string = ids e → Supports ids host e →
        hostTemplate_get_extension ids bound mem (some host) extId = bound.extPtr e := by
  have hread := getString_eq_take hstring 1024
  -- the answer for an id of the bridge
  have hanswer : ∀ e, string = ids e → Supports ids host e →
      hostTemplate_get_extension ids bound mem (some host) extId = bound.extPtr e := by
    intro e he hsupports
    have htake : string.take 1024 = ids e := (CString.take_eq_iff (hids.size e)).mpr he
    simp only [hostTemplate_get_extension, hread, htake]
    by_cases hwebview : e = .hostWebview
    · rw [hwebview, if_pos rfl]
    · rw [if_neg fun h => hwebview (hids.injective h), if_neg (hsupports.resolve_left hwebview),
        find?_branches hids (mem_extensionBranches hwebview)]
  refine ⟨⟨fun hne => ?_, ?_⟩, hanswer⟩
  · simp only [hostTemplate_get_extension, hread] at hne
    split at hne
    next hwebview => exact ⟨_, (CString.take_eq_iff (hids.size _)).mp hwebview, .inl rfl⟩
    next =>
      split at hne
      next => exact absurd rfl hne
      next hhost =>
        split at hne
        next e hfind =>
          have he := of_decide_eq_true
            (List.find?_some (p := fun f => string.take 1024 = ids f) hfind)
          refine ⟨e, (CString.take_eq_iff (hids.size e)).mp he, .inr ?_⟩
          rwa [← he]
        next => exact absurd rfl hne
  · rintro ⟨e, he, hsupports⟩
    rw [hanswer e he hsupports]
    exact hpos e

end WclapBridge.Spec
