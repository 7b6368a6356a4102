import WclapBridge.ForStd.Transition
import WclapBridge.Native.Contexts
import WclapBridge.Spec.EventEcho

/-!
# Plugins of one module

A callback finds its plugin by the index in the context field of the struct that
it is called with. Plugins are created and destroyed in any order, and indices,
arenas and addresses are used again, but a struct never leads to another plugin
than its own. For this its memory has to be that of the guest: `wasmMemory` moves
what is behind the end to the end, and there two structs have one field.

## Key results

- `contextsOk_step`: what the fields and `pluginList` have in common, step by
  step
- `isolated_of_inMemory`: a struct whose context field the guest leaves alone
  leads to its plugin, as long as that is alive
- `not_isolated_behind_memory`: two plugins with arenas behind the end
-/

namespace WclapBridge.Spec

open WclapBridge.Native
open ModuleContexts (step context memSetPlugin)

variable {is64 : Bool} (ts : ContextTemplates is64)

/-! ## Structs that lead to their plugins -/

/-- Structs that are valid, and whose context field the guest has not changed since
    the bridge handed them out, lead to their plugins while these are alive. -/
def Isolated (s : ModuleContexts is64) : Prop :=
  ∀ i object p plugin, s.objects i = some object → object.plugin = some p →
    object.changed = false → s.plugins p = some plugin → plugin.destroyCalled = false →
    s.getPlugin ts object.kind object.ptr = some p

/-- The memory of a copy. -/
def objectBlock (object : ContextObject is64) : Block :=
  ⟨object.ptr.toNat, (ts.template object.kind).length⟩

/-- The block which a step gets from an arena. -/
def newBlock : ContextAction is64 → Option Block
  | .copyAcross _ kind ptr => some ⟨ptr.toNat, (ts.template kind).length⟩
  | .reserve _ ptr size => some ⟨ptr.toNat, size⟩
  | _ => none

/-- What the bridge relies on: `IndexLookup::retain` picks an index that no other
    living plugin has, and arenas hand out blocks that are disjoint from those of all
    open scopes and of all plugins whose arena has not been returned. -/
structure LibraryOk (s : ModuleContexts is64) (a : ContextAction is64) : Prop where
  retain : ∀ i pluginListIndex, a = .construct i pluginListIndex →
    ∀ p plugin, s.plugins p = some plugin → plugin.destroyCalled = false →
      plugin.pluginListIndex ≠ pluginListIndex
  apartObjects : ∀ b, newBlock ts a = some b → ∀ i object, s.objects i = some object →
    (objectBlock ts object).Apart b
  apartBlocks : ∀ b, newBlock ts a = some b → ∀ c ∈ s.blocks, b.Apart c.2

/-- A block which a step gets is in the memory of the guest. -/
structure InMemory (s : ModuleContexts is64) (a : ContextAction is64) : Prop where
  inMemory : ∀ b, newBlock ts a = some b → b.start + b.size ≤ s.mem.size.toNat
  addressable : ∀ b, newBlock ts a = some b → b.start + b.size ≤ 2 ^ addrBits is64

variable {ts}

/-! ## Context fields in memory -/

section Memory

variable {mem mem' : LinearMemory} {kind : ContextStruct} {obj : Pointer is64}

theorem setArray_inRange {bytes : List UInt8} (hin : InRange mem obj bytes.length) :
    (mem.setArray obj bytes (UInt64.ofNat bytes.length) 1).getD mem =
      { mem with bytes := mem.bytes.write obj.toNat bytes } := by
  have hin₁ : InRange mem obj (bytes.length * 1) := by rwa [Nat.mul_one]
  rw [show (1 : UInt64) = UInt64.ofNat 1 from rfl, hin₁.setArray (Nat.mul_one _).symm,
    Option.getD_some]

private theorem field_inRange (hin : InRange mem obj (ts.template kind).length) :
    (obj.offset (ts.ctx kind)).toNat = obj.toNat + ts.ctx kind ∧
      InRange mem (obj.offset (ts.ctx kind)) ((pointerCodec is64).width * 1) := by
  rw [Nat.mul_one]
  exact hin.field (ts.ctx_le kind) pointerCodec_width_pos

/-- The field is read from memory. -/
theorem context_eq (hin : InRange mem obj (ts.template kind).length) :
    context ts mem kind obj = (pointerCodec is64).decode
      (mem.bytes.read (obj.toNat + ts.ctx kind) (pointerCodec is64).width) := by
  obtain ⟨hoff, hfield⟩ := field_inRange hin
  rw [context, hfield.get Nat.zero_lt_one, Codec.decodeAt, hoff, Nat.mul_zero, Nat.add_zero]

/-- Memory that differs elsewhere has the same field. -/
theorem context_congr (hin : InRange mem obj (ts.template kind).length)
    (hin' : InRange mem' obj (ts.template kind).length)
    (h : ∀ x, span obj.toNat (ts.template kind).length x → mem'.bytes x = mem.bytes x) :
    context ts mem' kind obj = context ts mem kind obj := by
  rw [context_eq hin, context_eq hin']
  -- the field is within the struct
  refine congrArg _ (Cells.read_congr fun x hx => h x ?_)
  have hle := ts.ctx_le kind
  simp only [span] at hx ⊢
  omega

theorem memSetPlugin_eq (hin : InRange mem obj (ts.template kind).length) (index : UInt32) :
    memSetPlugin ts mem kind obj index =
      { mem with
        bytes := mem.bytes.write (obj.toNat + ts.ctx kind)
          ((pointerCodec is64).encode (Pointer.ofNat index.toNat)) } := by
  obtain ⟨hoff, hfield⟩ := field_inRange hin
  rw [memSetPlugin, setPlugin, GuestState.set, hfield.set Nat.zero_lt_one, hoff, Nat.mul_zero,
    Nat.add_zero]

/-- `setPlugin` sets the field. -/
theorem context_memSetPlugin (hin : InRange mem obj (ts.template kind).length)
    (index : UInt32) :
    context ts (memSetPlugin ts mem kind obj index) kind obj = Pointer.ofNat index.toNat := by
  have hsize : (memSetPlugin ts mem kind obj index).size = mem.size := by
    rw [memSetPlugin_eq hin]
  have hlen := (pointerCodec is64).length_encode (Pointer.ofNat index.toNat)
  rw [context_eq (hin.of_size_eq hsize), memSetPlugin_eq hin, ← hlen, Cells.read_write_self,
    (pointerCodec is64).decode_encode]

/-- A write outside of a copy leaves its field alone. -/
theorem context_write (hin : InRange mem obj (ts.template kind).length) {a : Nat}
    {bytes : List UInt8} (houtside : ∀ x, span obj.toNat (ts.template kind).length x →
      ¬ span a bytes.length x) :
    context ts { mem with bytes := mem.bytes.write a bytes } kind obj =
      context ts mem kind obj :=
  context_congr hin (hin.of_size_eq rfl) fun x hx =>
    Cells.write_of_outside _ _ _ (houtside x hx)

/-- So does `setPlugin` of another copy. -/
theorem context_memSetPlugin_of_apart {kind' : ContextStruct} {obj' : Pointer is64}
    (hin : InRange mem obj (ts.template kind).length)
    (hin' : InRange mem obj' (ts.template kind').length)
    (happart : ∀ x, span obj.toNat (ts.template kind).length x →
      ¬ span obj'.toNat (ts.template kind').length x) (index : UInt32) :
    context ts (memSetPlugin ts mem kind' obj' index) kind obj = context ts mem kind obj := by
  rw [memSetPlugin_eq hin']
  refine context_write hin fun x hx hspan => happart x hx ?_
  have hle := ts.ctx_le kind'
  rw [(pointerCodec is64).length_encode] at hspan
  simp only [span] at hspan ⊢
  omega

end Memory

/-! ## The invariant -/

private theorem update_some {α : Type} {f : Nat → Option α} {i k : Nat} {a b : α}
    (h : Function.update f k (some a) i = some b) : (i = k ∧ b = a) ∨ (i ≠ k ∧ f i = some b) := by
  by_cases hi : i = k
  · subst hi
    rw [Function.update_self] at h
    exact .inl ⟨rfl, (Option.some.inj h).symm⟩
  · rw [Function.update_of_ne hi] at h
    exact .inr ⟨hi, h⟩

private theorem apart_symm {b c : Block} (h : b.Apart c) : c.Apart b :=
  fun x hc hb => h x hb hc

/-- The copies and the other blocks are in memory, apart from each other. -/
structure ObjectsOk (ts : ContextTemplates is64) (s : ModuleContexts is64) : Prop where
  inRange : ∀ i object, s.objects i = some object →
    InRange s.mem object.ptr (ts.template object.kind).length
  apart : ∀ i j object object', i ≠ j → s.objects i = some object →
    s.objects j = some object' → (objectBlock ts object).Apart (objectBlock ts object')
  blocksApart : ∀ i object, s.objects i = some object → ∀ b ∈ s.blocks,
    (objectBlock ts object).Apart b.2
  blocksInMemory : ∀ b ∈ s.blocks, b.2.start + b.2.size ≤ s.mem.size.toNat
  blocksAddressable : ∀ b ∈ s.blocks, b.2.start + b.2.size ≤ 2 ^ addrBits is64
  noObject : ∀ i, s.objectCount ≤ i → s.objects i = none

/-- The index of a living plugin leads to it, and a context field that has not been
    changed has the index of its plugin. -/
structure IndicesOk (ts : ContextTemplates is64) (s : ModuleContexts is64) : Prop where
  noPlugin : ∀ p, s.pluginCount ≤ p → s.plugins p = none
  index : ∀ p plugin, s.plugins p = some plugin → plugin.destroyCalled = false →
    s.pluginList plugin.pluginListIndex.toNat = some p
  field : ∀ i object p, s.objects i = some object → object.plugin = some p →
    object.changed = false → ∃ plugin, s.plugins p = some plugin ∧
      context ts s.mem object.kind object.ptr = Pointer.ofNat plugin.pluginListIndex.toNat

theorem IndicesOk.isolated {s : ModuleContexts is64} (hs : IndicesOk ts s) : Isolated ts s := by
  intro i object p plugin hobject hp hchanged hplugin halive
  obtain ⟨plugin', hplugin', hcontext⟩ := hs.field i object p hobject hp hchanged
  cases hplugin.symm.trans hplugin'
  rw [ModuleContexts.getPlugin, hcontext, toNat_ofNat_index]
  exact hs.index p plugin hplugin halive

/-! ## Where the copies are -/

namespace ObjectsOk

variable {s s' : ModuleContexts is64}

/-- What keeps the copies that are left where they were. -/
theorem of_same (hs : ObjectsOk ts s) (hmem : s.mem.size.toNat ≤ s'.mem.size.toNat)
    (hblocks : s'.blocks ⊆ s.blocks) (hcount : s'.objectCount = s.objectCount)
    (hobjects : ∀ i object', s'.objects i = some object' → ∃ object, s.objects i = some object ∧
      object'.kind = object.kind ∧ object'.ptr = object.ptr) : ObjectsOk ts s' where
  inRange i object' h := by
    obtain ⟨object, hobject, hkind, hptr⟩ := hobjects i object' h
    rw [hkind, hptr]
    exact (hs.inRange i object hobject).of_size hmem
  apart i j object₁ object₂ hij h₁ h₂ := by
    obtain ⟨object, hobject, hkind, hptr⟩ := hobjects i object₁ h₁
    obtain ⟨object', hobject', hkind', hptr'⟩ := hobjects j object₂ h₂
    rw [objectBlock, objectBlock, hkind, hptr, hkind', hptr']
    exact hs.apart i j object object' hij hobject hobject'
  blocksApart i object' h b hb := by
    obtain ⟨object, hobject, hkind, hptr⟩ := hobjects i object' h
    rw [objectBlock, hkind, hptr]
    exact hs.blocksApart i object hobject b (hblocks hb)
  blocksInMemory b hb := Nat.le_trans (hs.blocksInMemory b (hblocks hb)) hmem
  blocksAddressable b hb := hs.blocksAddressable b (hblocks hb)
  noObject i hi := by
    by_contra hne
    obtain ⟨object', h⟩ := Option.ne_none_iff_exists'.mp hne
    obtain ⟨object, hobject, -⟩ := hobjects i object' h
    rw [hs.noObject i (hcount ▸ hi)] at hobject
    cases hobject

/-- What keeps all copies and blocks. -/
theorem of_objects (hs : ObjectsOk ts s) (hmem : s'.mem.size = s.mem.size)
    (hblocks : s'.blocks = s.blocks) (hcount : s'.objectCount = s.objectCount)
    (hobjects : s'.objects = s.objects) : ObjectsOk ts s' :=
  hs.of_same (Nat.le_of_eq (congrArg UInt64.toNat hmem.symm)) (hblocks ▸ List.Subset.refl _)
    hcount fun _ object h => ⟨object, hobjects ▸ h, rfl, rfl⟩

/-- A new copy, outside of what there was. -/
theorem addObject (hs : ObjectsOk ts s) {object : ContextObject is64}
    (hmem : s'.mem.size = s.mem.size) (hblocks : s'.blocks = s.blocks)
    (hobject : s'.objects = Function.update s.objects s.objectCount (some object))
    (hcount : s'.objectCount = s.objectCount + 1)
    (hinRange : InRange s.mem object.ptr (ts.template object.kind).length)
    (happart : ∀ i object', s.objects i = some object' →
      (objectBlock ts object').Apart (objectBlock ts object))
    (hapart : ∀ b ∈ s.blocks, (objectBlock ts object).Apart b.2) : ObjectsOk ts s' where
  inRange i object' h := by
    rw [hobject] at h
    obtain ⟨-, rfl⟩ | ⟨-, h'⟩ := update_some h
    · exact hinRange.of_size_eq hmem
    · exact (hs.inRange i object' h').of_size_eq hmem
  apart i j object₁ object₂ hij h₁ h₂ := by
    rw [hobject] at h₁ h₂
    -- either of the two can be the new one
    obtain ⟨hi, rfl⟩ | ⟨-, h₁'⟩ := update_some h₁
    · obtain ⟨hj, -⟩ | ⟨-, h₂'⟩ := update_some h₂
      · exact absurd (hi.trans hj.symm) hij
      · exact apart_symm (happart j object₂ h₂')
    · obtain ⟨-, rfl⟩ | ⟨-, h₂'⟩ := update_some h₂
      · exact happart i object₁ h₁'
      · exact hs.apart i j object₁ object₂ hij h₁' h₂'
  blocksApart i object' h b hb := by
    rw [hobject] at h
    rw [hblocks] at hb
    obtain ⟨-, rfl⟩ | ⟨-, h'⟩ := update_some h
    · exact hapart b hb
    · exact hs.blocksApart i object' h' b hb
  blocksInMemory b hb := hmem ▸ hs.blocksInMemory b (hblocks ▸ hb)
  blocksAddressable b hb := hs.blocksAddressable b (hblocks ▸ hb)
  noObject i hi := by
    rw [hcount] at hi
    rw [hobject, Function.update_of_ne (Nat.ne_of_gt hi)]
    exact hs.noObject i (Nat.le_of_succ_le hi)

/-- A new block, outside of all copies. -/
theorem reserve (hs : ObjectsOk ts s) {scope : Nat} {b : Block}
    (hapart : ∀ i object, s.objects i = some object → (objectBlock ts object).Apart b)
    (hmem : b.start + b.size ≤ s.mem.size.toNat)
    (haddressable : b.start + b.size ≤ 2 ^ addrBits is64) :
    ObjectsOk ts { s with blocks := s.blocks ++ [(scope, b)] } where
  __ := hs
  blocksApart i object h c hc := by
    obtain hc | hc := List.mem_append.mp hc
    · exact hs.blocksApart i object h c hc
    · cases List.mem_singleton.mp hc
      exact hapart i object h
  blocksInMemory c hc := by
    obtain hc | hc := List.mem_append.mp hc
    · exact hs.blocksInMemory c hc
    · cases List.mem_singleton.mp hc
      exact hmem
  blocksAddressable c hc := by
    obtain hc | hc := List.mem_append.mp hc
    · exact hs.blocksAddressable c hc
    · cases List.mem_singleton.mp hc
      exact haddressable

/-- The memory of a scope is free for others. -/
theorem release (hs : ObjectsOk ts s) (scope : Nat) : ObjectsOk ts (s.release scope) :=
  hs.of_same (Nat.le_refl _) (List.filter_subset_self _) rfl fun _ object hobject =>
    ⟨object, (Option.filter_eq_some_iff.mp hobject).1, rfl, rfl⟩

/-- A plugin is set in a copy. -/
theorem handOut (hs : ObjectsOk ts s) {i p : Nat} {object : ContextObject is64}
    (hobject : s.objects i = some object) (index : UInt32) :
    ObjectsOk ts (s.handOut ts i object p index) := by
  refine hs.of_same (Nat.le_of_eq ?_) (List.Subset.refl _) rfl fun j object' h => ?_
  · rw [ModuleContexts.handOut, memSetPlugin_eq (hs.inRange i object hobject)]
  · obtain ⟨rfl, rfl⟩ | ⟨-, h⟩ := update_some h
    · exact ⟨object, hobject, rfl, rfl⟩
    · exact ⟨object', h, rfl, rfl⟩

end ObjectsOk

/-! ## What the fields lead to -/

namespace IndicesOk

variable {s s' : ModuleContexts is64}

/-- What keeps the plugins, and the fields of copies that had a plugin. -/
theorem of_same (hs : IndicesOk ts s) (hlist : s'.pluginList = s.pluginList)
    (hplugins : s'.plugins = s.plugins) (hcount : s'.pluginCount = s.pluginCount)
    (hobjects : ∀ i object' p, s'.objects i = some object' → object'.plugin = some p →
      object'.changed = false → ∃ object, s.objects i = some object ∧
        object.plugin = some p ∧ object.changed = false ∧
        context ts s'.mem object'.kind object'.ptr = context ts s.mem object.kind object.ptr) :
    IndicesOk ts s' where
  noPlugin p hp := by
    rw [hplugins]
    exact hs.noPlugin p (hcount ▸ hp)
  index p plugin hplugin halive := by
    rw [hlist]
    exact hs.index p plugin (hplugins ▸ hplugin) halive
  field i object' p h hp hchanged := by
    obtain ⟨object, hobject, hp', hchanged', heq⟩ := hobjects i object' p h hp hchanged
    rw [hplugins, heq]
    exact hs.field i object p hobject hp' hchanged'

/-- A write outside of all copies. -/
theorem write (hs : IndicesOk ts s) (hok : ObjectsOk ts s) (hlist : s'.pluginList = s.pluginList)
    (hplugins : s'.plugins = s.plugins) (hcount : s'.pluginCount = s.pluginCount) {a : Nat}
    {bytes : List UInt8} (hmem : s'.mem = { s.mem with bytes := s.mem.bytes.write a bytes })
    (houtside : ∀ i object, s.objects i = some object → ∀ x, (objectBlock ts object).addresses x →
      ¬ span a bytes.length x)
    (hobjects : ∀ i object p, s'.objects i = some object → object.plugin = some p →
      s.objects i = some object) : IndicesOk ts s' := by
  refine hs.of_same hlist hplugins hcount fun i object p h hp hchanged => ?_
  have hobject := hobjects i object p h hp
  refine ⟨object, hobject, hp, hchanged, ?_⟩
  rw [hmem]
  exact context_write (hok.inRange i object hobject) (houtside i object hobject)

/-- A plugin is set in a copy. -/
theorem handOut (hs : IndicesOk ts s) (hok : ObjectsOk ts s) {i p : Nat}
    {object : ContextObject is64} {plugin : PluginRecord} (hobject : s.objects i = some object)
    (hplugin : s.plugins p = some plugin) :
    IndicesOk ts (s.handOut ts i object p plugin.pluginListIndex) where
  __ := hs
  field j object' q h hq hchanged := by
    have hin := hok.inRange i object hobject
    obtain ⟨rfl, rfl⟩ | ⟨hj, h⟩ := update_some h
    · cases hq
      exact ⟨plugin, hplugin, context_memSetPlugin hin _⟩
    · obtain ⟨plugin', hplugin', hcontext⟩ := hs.field j object' q h hq hchanged
      refine ⟨plugin', hplugin', hcontext ▸ ?_⟩
      exact context_memSetPlugin_of_apart (hok.inRange j object' h) hin
        (hok.apart j i object' object hj h hobject) _

/-- A plugin is constructed, with an index that no other living one has. -/
theorem retain (hs : IndicesOk ts s) {plugin : PluginRecord}
    (hfresh : ∀ p plugin', s.plugins p = some plugin' → plugin'.destroyCalled = false →
      plugin'.pluginListIndex ≠ plugin.pluginListIndex) : IndicesOk ts (s.retain plugin) where
  noPlugin p hp := by
    have hne : p ≠ s.pluginCount := Nat.ne_of_gt hp
    simp only [ModuleContexts.retain, Function.update_of_ne hne]
    exact hs.noPlugin p (Nat.le_of_succ_le hp)
  index p plugin' h halive := by
    obtain ⟨rfl, rfl⟩ | ⟨-, h⟩ := update_some h
    · exact Function.update_self ..
    · have hne : plugin'.pluginListIndex.toNat ≠ plugin.pluginListIndex.toNat :=
        fun heq => hfresh p plugin' h halive (UInt32.toNat_inj.mp heq)
      simp only [ModuleContexts.retain, Function.update_of_ne hne]
      exact hs.index p plugin' h halive
  field i object p h hp hchanged := by
    obtain ⟨plugin', hplugin', hcontext⟩ := hs.field i object p h hp hchanged
    -- the copy belongs to a plugin from before
    have hne : p ≠ s.pluginCount := by
      rintro rfl
      rw [hs.noPlugin _ (Nat.le_refl _)] at hplugin'
      cases hplugin'
    exact ⟨plugin', (Function.update_of_ne hne ..).trans hplugin', hcontext⟩

/-- A plugin is destroyed. -/
theorem destroy (hs : IndicesOk ts s) {p : Nat} {plugin : PluginRecord}
    (hplugin : s.plugins p = some plugin) (halive : plugin.destroyCalled = false) :
    IndicesOk ts
      { s with
        plugins := Function.update s.plugins p (some { plugin with destroyCalled := true })
        pluginList := Function.update s.pluginList plugin.pluginListIndex.toNat none } where
  noPlugin q hq := by
    have hne : q ≠ p := by
      rintro rfl
      rw [hs.noPlugin q hq] at hplugin
      cases hplugin
    simp only [Function.update_of_ne hne]
    exact hs.noPlugin q hq
  index q plugin' h halive' := by
    obtain ⟨rfl, rfl⟩ | ⟨hq, h⟩ := update_some h
    · cases halive'
    · -- two living plugins do not have one index
      have hne : plugin'.pluginListIndex.toNat ≠ plugin.pluginListIndex.toNat := by
        intro heq
        have hindex := hs.index q plugin' h halive'
        rw [heq, hs.index p plugin hplugin halive] at hindex
        exact hq (Option.some.inj hindex).symm
      simp only [Function.update_of_ne hne]
      exact hs.index q plugin' h halive'
  field i object q h hq hchanged := by
    obtain ⟨plugin', hplugin', hcontext⟩ := hs.field i object q h hq hchanged
    -- the field of a destroyed plugin still has its index
    by_cases hqp : q = p
    · subst hqp
      cases hplugin.symm.trans hplugin'
      exact ⟨_, Function.update_self .., hcontext⟩
    · exact ⟨plugin', (Function.update_of_ne hqp ..).trans hplugin', hcontext⟩

/-- The arena of a destroyed plugin is returned. -/
theorem returnArena (hs : IndicesOk ts s) {p : Nat} {plugin : PluginRecord}
    (hplugin : s.plugins p = some plugin) (hdestroyed : plugin.destroyCalled = true) :
    IndicesOk ts
      { s.release plugin.arena with
        plugins := Function.update s.plugins p (some { plugin with arenaReturned := true }) } where
  noPlugin q hq := by
    have hne : q ≠ p := by
      rintro rfl
      rw [hs.noPlugin q hq] at hplugin
      cases hplugin
    simp only [Function.update_of_ne hne]
    exact hs.noPlugin q hq
  index q plugin' h halive := by
    obtain ⟨rfl, rfl⟩ | ⟨-, h⟩ := update_some h
    · exact Bool.noConfusion (hdestroyed.symm.trans halive)
    · exact hs.index q plugin' h halive
  field i object q h hq hchanged := by
    have hobject := (Option.filter_eq_some_iff.mp h).1
    obtain ⟨plugin', hplugin', hcontext⟩ := hs.field i object q hobject hq hchanged
    -- event lists that are still there have the index of the plugin
    by_cases hqp : q = p
    · subst hqp
      cases hplugin.symm.trans hplugin'
      exact ⟨_, Function.update_self .., hcontext⟩
    · exact ⟨plugin', (Function.update_of_ne hqp ..).trans hplugin', hcontext⟩

end IndicesOk

/-! ## Steps -/

/-- What the memory, the copies and `pluginList` have in common. -/
structure ContextsOk (ts : ContextTemplates is64) (s : ModuleContexts is64) : Prop where
  objects : ObjectsOk ts s
  indices : IndicesOk ts s

theorem contextsOk_new (mem : LinearMemory) : ContextsOk ts (.new mem) where
  objects := {
    inRange := fun _ _ h => nomatch h
    apart := fun _ _ _ _ _ h => nomatch h
    blocksApart := fun _ _ h => nomatch h
    blocksInMemory := fun _ h => nomatch h
    blocksAddressable := fun _ h => nomatch h
    noObject := fun _ _ => rfl }
  indices := {
    noPlugin := fun _ _ => rfl
    index := fun _ _ h => nomatch h
    field := fun _ _ _ h => nomatch h }

theorem contextsOk_step {s s' : ModuleContexts is64} {a : ContextAction is64}
    (hs : ContextsOk ts s) (ha : LibraryOk ts s a) (hmem : InMemory ts s a)
    (h : step ts s a = some s') : ContextsOk ts s' := by
  obtain ⟨hobjects, hindices⟩ := hs
  cases a with
  | copyAcross scope kind ptr =>
    have hin : InRange s.mem ptr (ts.template kind).length :=
      ⟨hmem.inMemory _ rfl, hmem.addressable _ rfl⟩
    have happart := ha.apartObjects _ rfl
    simp only [step, setArray_inRange hin, Option.some.injEq] at h
    subst h
    -- the new copy is written outside of all others, and has no plugin yet
    refine ⟨hobjects.addObject rfl rfl rfl rfl hin happart (ha.apartBlocks _ rfl),
      hindices.write hobjects rfl rfl rfl rfl (fun i object hobject x hx => ?_) ?_⟩
    · exact happart i object hobject x hx
    · intro i object p hobject hp
      obtain ⟨-, rfl⟩ | ⟨-, hobject⟩ := update_some hobject
      · cases hp
      · exact hobject
  | reserve scope ptr size =>
    cases h
    exact ⟨hobjects.reserve (ha.apartObjects _ rfl) (hmem.inMemory _ rfl)
        (hmem.addressable _ rfl),
      hindices.of_same rfl rfl rfl fun i object p hobject hp hchanged =>
        ⟨object, hobject, hp, hchanged, rfl⟩⟩
  | setArray ptr bytes =>
    simp only [step] at h
    split at h
    next hany =>
      obtain ⟨⟨scope, b⟩, hb, hin⟩ := List.any_eq_true.mp hany
      simp only [decide_eq_true_eq] at hin
      have hin' : InRange s.mem ptr bytes.length :=
        ⟨Nat.le_trans hin.2 (hobjects.blocksInMemory _ hb),
          Nat.le_trans hin.2 (hobjects.blocksAddressable _ hb)⟩
      rw [setArray_inRange hin'] at h
      cases h
      refine ⟨hobjects.of_objects rfl rfl rfl rfl,
        hindices.write hobjects rfl rfl rfl rfl (fun i object hobject x hx hspan => ?_)
          fun i object p hobject _ => hobject⟩
      -- the bytes are in a block which is no copy
      refine hobjects.blocksApart i object hobject _ hb x hx ?_
      simp only [Block.addresses, span] at hspan ⊢
      omega
    next => cases h
  | construct i pluginListIndex =>
    simp only [step] at h
    split at h
    next object hobject =>
      split at h
      next =>
        cases h
        have hretained : IndicesOk ts (s.retain ⟨pluginListIndex, object.scope, false, false⟩) :=
          hindices.retain (ha.retain i pluginListIndex rfl)
        -- the new plugin has its index before `setPlugin` writes it
        have hok : ObjectsOk ts (s.retain ⟨pluginListIndex, object.scope, false, false⟩) :=
          hobjects.of_objects rfl rfl rfl rfl
        have hplugin :
            (s.retain ⟨pluginListIndex, object.scope, false, false⟩).plugins s.pluginCount =
              some ⟨pluginListIndex, object.scope, false, false⟩ := Function.update_self ..
        have hhanded := hretained.handOut hok hobject hplugin
        exact ⟨hok.handOut hobject pluginListIndex, hhanded⟩
      next => cases h
    next => cases h
  | setPlugin i p =>
    simp only [step] at h
    split at h
    next object plugin hobject hplugin =>
      split at h
      next =>
        cases h
        exact ⟨hobjects.handOut hobject _, hindices.handOut hobjects hobject hplugin⟩
      next => cases h
    next => cases h
  | destroy p =>
    simp only [step] at h
    split at h
    next plugin hplugin =>
      split at h
      next => cases h
      next hdestroyed =>
        cases h
        exact ⟨hobjects.of_objects rfl rfl rfl rfl,
          hindices.destroy hplugin (Bool.eq_false_iff.mpr hdestroyed)⟩
    next => cases h
  | returnArena p =>
    simp only [step] at h
    split at h
    next plugin hplugin =>
      split at h
      next hdestroyed =>
        cases h
        exact ⟨(hobjects.release plugin.arena).of_objects rfl rfl rfl rfl,
          hindices.returnArena hplugin hdestroyed.1⟩
      next => cases h
    next => cases h
  | closeScope scope =>
    simp only [step] at h
    split at h
    next =>
      cases h
      -- the copies of other scopes stay as they are
      exact ⟨hobjects.release scope,
        hindices.of_same rfl rfl rfl fun i object p hobject hp hchanged =>
          ⟨object, (Option.filter_eq_some_iff.mp hobject).1, hp, hchanged, rfl⟩⟩
    next => cases h
  | guest mem =>
    simp only [step] at h
    split at h
    next hsize =>
      cases h
      -- a field that is not marked as changed is the same in the guest's new memory
      refine ⟨hobjects.of_same (UInt64.le_iff_toNat_le.mp hsize) (List.Subset.refl _) rfl
          fun i object hobject => ?_,
        hindices.of_same rfl rfl rfl fun i object p hobject hp hchanged => ?_⟩
      · obtain ⟨object', hobject', rfl⟩ := Option.map_eq_some_iff.mp hobject
        exact ⟨object', hobject', rfl, rfl⟩
      · obtain ⟨object', hobject', rfl⟩ := Option.map_eq_some_iff.mp hobject
        obtain ⟨hchanged', heq⟩ := Bool.or_eq_false_iff.mp hchanged
        exact ⟨object', hobject', hp, hchanged', by simpa using heq⟩
    next => cases h

/-- In every run with the arenas in guest memory, a struct whose context field the guest
    leaves alone leads to its plugin as long as it is valid and the plugin is alive. -/
theorem isolated_of_inMemory (ts : ContextTemplates is64) (mem : LinearMemory)
    (run : List (ContextAction is64))
    (h : Steps (step ts) (fun s a => LibraryOk ts s a ∧ InMemory ts s a) (.new mem) run) :
    States (step ts) (Isolated ts) (.new mem) run :=
  (States.of_steps (ContextsOk ts) (fun _ _ _ hs ha => contextsOk_step hs ha.1 ha.2)
    (contextsOk_new mem) h).mono fun _ hs => hs.indices.isolated

/-- So a callback reads and writes the fields of that plugin. -/
theorem Isolated.reaches {s : ModuleContexts is64} (hs : Isolated ts s) {i p : Nat}
    {object : ContextObject is64} {plugin : PluginRecord} (hobject : s.objects i = some object)
    (hp : object.plugin = some p) (hchanged : object.changed = false)
    (hplugin : s.plugins p = some plugin) (halive : plugin.destroyCalled = false)
    (fields : Nat → PluginEvents is64) :
    getPlugin (s.toBridgeState fields) object.ptr (ts.ctx object.kind) = some (fields p) :=
  congrArg (Option.map fields) (hs i object p plugin hobject hp hchanged hplugin halive)

/-! ## Runs of a module with 32-bit pointers -/

/-- The templates of a module with 32-bit pointers. -/
def templates32 : ContextTemplates false where
  template
    | .host => List.replicate 48 0
    | .inputEvents => List.replicate 12 0
    | .outputEvents | .istream | .ostream => List.replicate 8 0
  ctx
    | .host => 12
    | _ => 0
  ctx_le k := by cases k <;> decide

/-- A step that gets a block and does not construct a plugin. -/
private theorem libraryOk_block {s : ModuleContexts false} {a : ContextAction false} {b : Block}
    (hb : newBlock templates32 a = some b)
    (hobjects : ∀ i object, s.objects i = some object →
      (objectBlock templates32 object).Apart b)
    (hblocks : s.blocks = []) : LibraryOk templates32 s a where
  retain := by
    rintro i index rfl
    cases hb
  apartObjects c hc := by
    cases hb.symm.trans hc
    exact hobjects
  apartBlocks c hc d hd := by
    rw [hblocks] at hd
    cases hd

private theorem inMemory_block {s : ModuleContexts false} {a : ContextAction false} {b : Block}
    (hb : newBlock templates32 a = some b) (hmem : b.start + b.size ≤ s.mem.size.toNat)
    (haddressable : b.start + b.size ≤ 2 ^ addrBits false) : InMemory templates32 s a where
  inMemory c hc := by
    cases hb.symm.trans hc
    exact hmem
  addressable c hc := by
    cases hb.symm.trans hc
    exact haddressable

/-- A step that gets no block. -/
private theorem libraryOk_noBlock {s : ModuleContexts false} {a : ContextAction false}
    (hb : newBlock templates32 a = none)
    (hretain : ∀ i index, a = .construct i index → ∀ p plugin, s.plugins p = some plugin →
      plugin.destroyCalled = false → plugin.pluginListIndex ≠ index) :
    LibraryOk templates32 s a where
  retain := hretain
  apartObjects _ hc := nomatch hb.symm.trans hc
  apartBlocks _ hc := nomatch hb.symm.trans hc

private theorem inMemory_noBlock {s : ModuleContexts false} {a : ContextAction false}
    (hb : newBlock templates32 a = none) : InMemory templates32 s a where
  inMemory _ hc := nomatch hb.symm.trans hc
  addressable _ hc := nomatch hb.symm.trans hc

section Tables

variable {α : Type} {table : Nat → Option α} {P : Nat → α → Prop} {k : Nat} {a : α}

private theorem forall_update (hold : ∀ i b, table i = some b → i ≠ k → P i b) (hnew : P k a)
    (i : Nat) (b : α) (h : Function.update table k (some a) i = some b) : P i b := by
  obtain ⟨rfl, rfl⟩ | ⟨hi, h⟩ := update_some h
  · exact hnew
  · exact hold i b h hi

private theorem forall_filter {q : α → Bool}
    (hold : ∀ i b, table i = some b → q b = true → P i b) (i : Nat) (b : α)
    (h : (table i).filter q = some b) : P i b :=
  hold i b (Option.filter_eq_some_iff.mp h).1 (Option.filter_eq_some_iff.mp h).2

end Tables

/-- A plugin is destroyed; another one gets its index and has its host at the same address, and
    is called with an event list. -/
def reuseRun : List (ContextAction false) :=
  [.copyAcross 0 .host (Pointer.ofNat 64), .construct 0 0,
    .copyAcross 1 .host (Pointer.ofNat 128), .construct 1 1, .destroy 0, .returnArena 0,
    .copyAcross 0 .host (Pointer.ofNat 64), .construct 2 0,
    .copyAcross 2 .inputEvents (Pointer.ofNat 192), .setPlugin 3 2]

/-- Where a struct leads to, with the plugin that it is for and whether its field was changed. -/
def leadsTo (s : ModuleContexts false) (i : Nat) : Option (Option Nat × Bool × Option Nat) :=
  (s.objects i).map fun object =>
    (object.plugin, object.changed, s.getPlugin templates32 object.kind object.ptr)

theorem isolated_reuseRun :
    States (step templates32) (Isolated templates32) (.new .onePage) reuseRun ∧
      (reuseRun.foldlM (step templates32) (.new .onePage)).map
          (fun s => [leadsTo s 0, leadsTo s 1, leadsTo s 2, leadsTo s 3]) =
        some [none, some (some 1, false, some 1), some (some 2, false, some 2),
          some (some 2, false, some 2)] := by
  refine ⟨isolated_of_inMemory _ _ _ ?_, by decide +kernel⟩
  refine ⟨⟨libraryOk_block rfl (fun _ _ h => nomatch h) rfl,
    inMemory_block rfl (by decide) (by decide)⟩, ?_⟩
  rintro _ ⟨⟩
  refine ⟨⟨libraryOk_noBlock rfl (fun _ _ _ _ _ h => nomatch h), inMemory_noBlock rfl⟩, ?_⟩
  rintro _ ⟨⟩
  -- the host of plugin 1 is behind that of plugin 0
  refine ⟨⟨libraryOk_block rfl (forall_update (forall_update (fun _ _ h => nomatch h) (by decide))
    (by decide)) rfl, inMemory_block rfl (by decide) (by decide)⟩, ?_⟩
  rintro _ ⟨⟩
  refine ⟨⟨libraryOk_noBlock rfl fun i index ha => ?_, inMemory_noBlock rfl⟩, ?_⟩
  · cases ha
    exact forall_update (fun _ _ h => nomatch h) (by decide)
  rintro _ ⟨⟩
  refine ⟨⟨libraryOk_noBlock rfl (fun _ _ ha => nomatch ha), inMemory_noBlock rfl⟩, ?_⟩
  rintro _ ⟨⟩
  refine ⟨⟨libraryOk_noBlock rfl (fun _ _ ha => nomatch ha), inMemory_noBlock rfl⟩, ?_⟩
  rintro _ ⟨⟩
  -- the host of plugin 0 is gone, and its address is free
  refine ⟨⟨libraryOk_block rfl (forall_filter (forall_update (forall_update (forall_update
    (forall_update (fun _ _ h => nomatch h) ?_) ?_) ?_) ?_)) rfl,
    inMemory_block rfl (by decide) (by decide)⟩, ?_⟩
  iterate 4 decide
  rintro _ ⟨⟩
  refine ⟨⟨libraryOk_noBlock rfl fun i index ha => ?_, inMemory_noBlock rfl⟩, ?_⟩
  · -- plugin 0 is not alive, and plugin 1 has another index
    cases ha
    refine forall_update (forall_update (forall_update (forall_update (fun _ _ h => nomatch h) ?_)
      ?_) ?_) ?_
    iterate 4 decide
  rintro _ ⟨⟩
  -- the event list is apart from what is left, and from the new host
  refine ⟨⟨libraryOk_block rfl (forall_update (forall_update (forall_filter (forall_update
    (forall_update (forall_update (forall_update (fun _ _ h => nomatch h) ?_) ?_) ?_) ?_)) ?_) ?_)
    rfl, inMemory_block rfl (by decide) (by decide)⟩, ?_⟩
  iterate 6 decide
  rintro _ ⟨⟩
  refine ⟨⟨libraryOk_noBlock rfl (fun _ _ ha => nomatch ha), inMemory_noBlock rfl⟩, ?_⟩
  exact fun _ _ => trivial

/-- Two plugins with arenas behind the end of a memory of one page. -/
def behindRun : List (ContextAction false) :=
  [.copyAcross 0 .host (Pointer.ofNat 131072), .construct 0 0,
    .copyAcross 1 .host (Pointer.ofNat 131136), .construct 1 1]

/-- The context fields of the two hosts are in one place, and a callback of plugin 0 goes to
    plugin 1. -/
theorem not_isolated_behind_memory :
    Steps (step templates32) (LibraryOk templates32) (.new .onePage) behindRun ∧
      ¬ States (step templates32) (Isolated templates32) (.new .onePage) behindRun := by
  constructor
  · refine ⟨libraryOk_block rfl (fun _ _ h => nomatch h) rfl, ?_⟩
    rintro _ ⟨⟩
    refine ⟨libraryOk_noBlock rfl (fun _ _ _ _ _ h => nomatch h), ?_⟩
    rintro _ ⟨⟩
    refine ⟨libraryOk_block rfl (forall_update (forall_update (fun _ _ h => nomatch h)
      (by decide)) (by decide)) rfl, ?_⟩
    rintro _ ⟨⟩
    refine ⟨libraryOk_noBlock rfl fun i index ha => ?_, fun _ _ => trivial⟩
    cases ha
    exact forall_update (fun _ _ h => nomatch h) (by decide)
  · intro h
    obtain ⟨s, hs, hend⟩ : ∃ s, behindRun.foldlM (step templates32) (.new .onePage) = some s ∧
        leadsTo s 0 = some (some 0, false, some 1) ∧
        (s.plugins 0).map (·.destroyCalled) = some false :=
      ⟨_, rfl, by decide +kernel⟩
    obtain ⟨object, hobject, hleads⟩ := Option.map_eq_some_iff.mp hend.1
    obtain ⟨plugin, hplugin, halive⟩ := Option.map_eq_some_iff.mp hend.2
    simp only [Prod.mk.injEq] at hleads
    obtain ⟨hp, hchanged, hfound⟩ := hleads
    have hisolated := (h.at_end hs) 0 object 0 plugin hobject hp hchanged hplugin halive
    exact absurd (hfound.symm.trans hisolated) (by decide)

end WclapBridge.Spec
