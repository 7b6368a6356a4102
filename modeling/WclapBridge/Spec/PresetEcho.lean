import WclapBridge.Native.PresetLoad

/-!
# Preset locations that come back

A guest that answers with the location it was given should lead the host back to it.
It does where both strings are there. For a string that was left out the guest gets
the null pointer, and on the way back that is the address of whatever string the guest
has there.

## Key results

- `writeNullable_spec`: a string in a block of its own
- `presetEcho_iff`: when a location comes back as it was
-/

namespace WclapBridge.Spec

open WclapBridge.Native

variable {is64 : Bool} {arena : Arena is64} {g : GuestState} {preset : PresetLocation}

/-- The guest has left the blocks alone that were handed out since `g`. -/
def LeavesBlocks (g g' : GuestState) (mem : LinearMemory) : Prop :=
  ∀ x, Allocated g'.blocks x → ¬ Allocated g.blocks x → mem.bytes x = g'.mem.bytes x

/-- Each string is of fewer than 8192 bytes. -/
def ShortStrings (preset : PresetLocation) : Prop :=
  (∀ string ∈ preset.location, string.size < maxLogStringLength) ∧
    ∀ string ∈ preset.load_key, string.size < maxLogStringLength

/-- The host gets back what it has passed, by both callbacks. -/
structure PresetEcho (arena : Arena is64) (g : GuestState) (preset : PresetLocation)
    (mem : LinearMemory) : Prop where
  loaded : hostPresetLoad_loaded mem true (presetLoad_from_location arena g preset).1 = some preset
  on_error : ∀ os_error msg, ∃ error,
    hostPresetLoad_on_error mem true (presetLoad_from_location arena g preset).1 os_error msg =
      some error ∧ error.preset = preset

theorem writeNullable_later (string : Option CString) :
    Later g (writeNullable arena g string).2 := by
  cases string with
  | none => exact .refl g
  | some string => exact writeString_later string

/-- A string that is there is written to a block of its own. -/
theorem writeNullable_spec {string : Option CString}
    (hok : ArenaOk is64 (writeNullable arena g string).2) :
    Extends g (writeNullable arena g string).2 nowhere ∧
      ∀ s ∈ string, HasString (writeNullable arena g string).2 (writeNullable arena g string).1 s ∧
        ∀ x, span (writeNullable arena g string).1.toNat s.bytes.length x →
          ¬ Allocated g.blocks x := by
  cases string with
  | none => exact ⟨.refl g _, fun s hs => nomatch hs⟩
  | some string =>
    have hplaced := placed_of_writeString hok
    refine ⟨hplaced.grown, fun s hs => ?_⟩
    cases hs
    exact ⟨hasString_writeString hok, fun x hx => (hplaced.fresh x hx).2⟩

/-- A string in a block that the guest has left alone reads back. -/
theorem getString_of_leaves {g' : GuestState} {mem : LinearMemory} {ptr : Pointer is64}
    {string : CString} (hstring : HasString g' ptr string)
    (hfresh : ∀ x, span ptr.toNat string.bytes.length x → ¬ Allocated g.blocks x)
    (hleaves : LeavesBlocks g g' mem) (hsize : string.size < maxLogStringLength) :
    mem.getString ptr maxLogStringLength = string := by
  refine getString_of_read ?_ (Nat.le_of_lt hsize)
  -- the string's block is one of those that were handed out since `g`
  have hread : mem.bytes.read ptr.toNat string.bytes.length =
      g'.mem.bytes.read ptr.toNat string.bytes.length :=
    Cells.read_congr fun x hx => hleaves x (hstring.1 x hx) (hfresh x hx)
  exact hread.trans hstring.2

/-- Both strings come back if they are there. -/
theorem readPreset_from_location {mem : LinearMemory}
    (hok : ArenaOk is64 (presetLoad_from_location arena g preset).2)
    (hleaves : LeavesBlocks g (presetLoad_from_location arena g preset).2 mem)
    (hshort : ShortStrings preset) (hlocation : preset.location ≠ none)
    (hload_key : preset.load_key ≠ none) :
    readPreset mem (presetLoad_from_location arena g preset).1 = preset := by
  obtain ⟨kind, location, load_key⟩ := preset
  obtain ⟨location, rfl⟩ := Option.ne_none_iff_exists'.mp hlocation
  obtain ⟨load_key, rfl⟩ := Option.ne_none_iff_exists'.mp hload_key
  let r := writeNullable arena g (some location)
  have hok₂ : ArenaOk is64 (writeNullable arena r.2 (some load_key)).2 := hok
  have hok₁ : ArenaOk is64 r.2 := (writeNullable_later (some load_key)).arenaOk hok₂
  obtain ⟨hext, hstrings⟩ := writeNullable_spec hok₁
  obtain ⟨hext', hstrings'⟩ := writeNullable_spec hok₂
  obtain ⟨hstring, hfresh⟩ := hstrings location rfl
  obtain ⟨hstring', hfresh'⟩ := hstrings' load_key rfl
  -- the second string is written without touching the first
  have hget := getString_of_leaves (hstring.extends hext') hfresh hleaves (hshort.1 _ rfl)
  have hget' := getString_of_leaves hstring'
    (fun x hx hold => hfresh' x hx (hold.mono hext.grows.blocks)) hleaves (hshort.2 _ rfl)
  show (⟨kind, some (mem.getString r.1 maxLogStringLength),
    some (mem.getString (writeNullable arena r.2 (some load_key)).1 maxLogStringLength)⟩ :
      PresetLocation) = _
  rw [hget, hget']

/-- A location comes back as it was if and only if both of its strings are there. -/
theorem presetEcho_iff {mem : LinearMemory}
    (hok : ArenaOk is64 (presetLoad_from_location arena g preset).2)
    (hleaves : LeavesBlocks g (presetLoad_from_location arena g preset).2 mem)
    (hshort : ShortStrings preset) :
    PresetEcho arena g preset mem ↔ preset.location ≠ none ∧ preset.load_key ≠ none := by
  constructor
  · intro h
    -- what the host gets is never null
    have hpreset := Option.some.inj h.loaded
    rw [← hpreset]
    exact ⟨Option.some_ne_none _, Option.some_ne_none _⟩
  · rintro ⟨hlocation, hload_key⟩
    have hread := readPreset_from_location hok hleaves hshort hlocation hload_key
    exact ⟨congrArg some hread, fun os_error msg => ⟨_, rfl, hread⟩⟩

/-- A preset of the plugin's own, with a key. -/
def keyOnly : PresetLocation :=
  ⟨1, none, some ⟨[107], by decide⟩⟩

theorem presetEcho_keyOnly :
    PresetEcho (bumpArena : Arena false) ⟨.onePage, []⟩ keyOnly
        (presetLoad_from_location (bumpArena : Arena false) ⟨.onePage, []⟩ keyOnly).2.mem ↔
      keyOnly.location ≠ none ∧ keyOnly.load_key ≠ none :=
  presetEcho_iff (by decide) (fun _ _ _ => rfl) (by unfold ShortStrings; decide)

/-- The host has passed null, and gets an empty string. -/
theorem keyOnly_not_echoed :
    ¬ PresetEcho (bumpArena : Arena false) ⟨.onePage, []⟩ keyOnly
      (presetLoad_from_location (bumpArena : Arena false) ⟨.onePage, []⟩ keyOnly).2.mem := by
  intro h
  exact Option.some_ne_none _ (congrArg PresetLocation.location (Option.some.inj h.loaded))

end WclapBridge.Spec
