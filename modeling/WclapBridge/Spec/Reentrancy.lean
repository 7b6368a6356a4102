import WclapBridge.Native.NestedCalls
import WclapBridge.Spec.StaleObjects

/-!
# Calls within calls

A call sets its field to null at its end. It does not restore what was there
before, so that a call around it loses its host object if both use the same
field of the same plugin.

## Key results

- `Restored.kept`: code that restores the fields keeps them for the calls around
  it
- `restored_of_apart`, `apart_of_restored`: the calls around others find their
  objects again in exactly those sequences in which no two calls, one in the
  other, use the same field
- `save_in_save`: two calls that do
-/

namespace WclapBridge.Spec

open WclapBridge.Native

variable {is64 : Bool} {abi : Abi is64}

/-- The fields that are in use by calls around the current code. -/
abbrev Outer := List (Nat × HostSlot)

/-- The fields in use within a call. -/
def within (plugin : Nat) (c : PluginCall) (outer : Outer) : Outer :=
  (c.slot.map fun slot => (plugin, slot)).toList ++ outer

/-- What a call set for the guest is in effect as before: the host object in the
    field and, with the output events, the list of input events. -/
structure SameObjects (slot : HostSlot) (p p' : PluginSlots is64) : Prop where
  get : p'.get slot = p.get slot
  inputEvents : slot = .hostOutputEvents → p'.inputEvents = p.inputEvents

/-- The calls around the current code find their objects. -/
def Keeps (outer : Outer) (s s' : NestedState is64) : Prop :=
  ∀ plugin slot, (plugin, slot) ∈ outer → SameObjects slot (s.plugins plugin) (s'.plugins plugin)

/-- Wherever a call returns, the calls around it find their objects as they were
    before it, and the thread never waits for itself. -/
def Restored (abi : Abi is64) {side : Side} (outer : Outer) :
    Nested is64 side → NestedState is64 → Prop
  | .done, _ => True
  | .call plugin c arena g inside rest, s =>
    let s₁ := s.modify plugin (c.enter abi arena g)
    Restored abi (within plugin c outer) inside s₁ ∧
      ∀ s₂, inside.exec abi s₁ = some s₂ →
        Keeps outer s (s₂.modify plugin c.clear) ∧
          Restored abi outer rest (s₂.modify plugin c.clear)
  | .callback _ _ inside rest, s =>
    Restored abi outer inside s ∧
      ∀ s₁, inside.exec abi s = some s₁ → Restored abi outer rest s₁
  | .webviewSend plugin inside rest, s =>
    s.sending plugin = false ∧ Restored abi outer inside (s.setSending plugin true) ∧
      ∀ s₁, inside.exec abi (s.setSending plugin true) = some s₁ →
        Restored abi outer rest (s₁.setSending plugin false)

/-- No call uses a field that a call around it uses, and no message is sent to a
    plugin within the sending of another one. -/
def Apart {side : Side} (outer : Outer) (sending : List Nat) : Nested is64 side → Prop
  | .done => True
  | .call plugin c _ _ inside rest =>
    (∀ slot, c.slot = some slot → (plugin, slot) ∉ outer) ∧
      Apart (within plugin c outer) sending inside ∧ Apart outer sending rest
  | .callback _ _ inside rest => Apart outer sending inside ∧ Apart outer sending rest
  | .webviewSend plugin inside rest =>
    plugin ∉ sending ∧ Apart outer (plugin :: sending) inside ∧ Apart outer sending rest

/-- The host passes an object to each call that has one. -/
def PassesObjects {side : Side} : Nested is64 side → Prop
  | .done => True
  | .call _ c _ _ inside rest =>
    (c.slot.isSome → c.object.isSome) ∧ PassesObjects inside ∧ PassesObjects rest
  | .callback _ _ inside rest | .webviewSend _ inside rest =>
    PassesObjects inside ∧ PassesObjects rest

/-! ## Fields of one plugin -/

namespace SameObjects

variable {slot : HostSlot} {p p₁ p₂ : PluginSlots is64}

theorem refl (slot : HostSlot) (p : PluginSlots is64) : SameObjects slot p p :=
  ⟨rfl, fun _ => rfl⟩

theorem trans (h₁ : SameObjects slot p p₁) (h₂ : SameObjects slot p₁ p₂) :
    SameObjects slot p p₂ :=
  ⟨h₂.get.trans h₁.get, fun hslot => (h₂.inputEvents hslot).trans (h₁.inputEvents hslot)⟩

end SameObjects

theorem slot_of_eventsIn {c : PluginCall} {eventsIn : ClapInputEvents}
    (h : c.eventsIn = some eventsIn) : c.slot = some .hostOutputEvents := by
  cases c with
  | pluginProcess | params_flush => rfl
  | _ => cases h

/-- A call leaves the other fields alone at its start. -/
theorem sameObjects_enter {c : PluginCall} {slot : HostSlot} (h : c.slot ≠ some slot)
    (arena : Arena is64) (g : GuestState) (p : PluginSlots is64) :
    SameObjects slot p (c.enter abi arena g p) := by
  unfold PluginCall.enter
  dsimp only
  split
  next eventsIn hc =>
    -- the call uses the output events, so that it is about another field
    have hslot : slot ≠ .hostOutputEvents := fun heq => h (heq ▸ slot_of_eventsIn hc)
    refine ⟨?_, fun heq => absurd heq hslot⟩
    rw [get_set c _ h, ← get_resize c p slot]
    cases slot <;> rfl
  next =>
    refine ⟨by rw [get_set c _ h, get_resize], ?_⟩
    rintro rfl
    rw [inputEvents_set, PluginCall.resize, if_neg h]

/-- It leaves them alone at its end. -/
theorem sameObjects_clear {c : PluginCall} {slot : HostSlot} (h : c.slot ≠ some slot)
    (p : PluginSlots is64) : SameObjects slot p (c.clear p) :=
  ⟨by rw [get_clear, if_neg h], fun _ => inputEvents_clear c p⟩

theorem get_set_self {c : PluginCall} {slot : HostSlot} (h : c.slot = some slot)
    (p : PluginSlots is64) : (c.set p).get slot = c.object := by
  cases c with
  | webview_get_resource wasFileUri ostream =>
    cases wasFileUri with
    | true => cases h
    | false =>
      cases h
      rfl
  | pluginOnMainThread | webview_receive => cases h
  | _ =>
    cases h
    rfl

/-- A call has its object in its field. -/
theorem get_enter {c : PluginCall} {slot : HostSlot} (h : c.slot = some slot)
    (arena : Arena is64) (g : GuestState) (p : PluginSlots is64) :
    (c.enter abi arena g p).get slot = c.object := by
  unfold PluginCall.enter
  dsimp only
  split <;> exact get_set_self h _

/-! ## All plugins -/

namespace Keeps

variable {outer outer' : Outer} {s s₁ s₂ : NestedState is64}

theorem refl (outer : Outer) (s : NestedState is64) : Keeps outer s s :=
  fun _ slot _ => .refl slot _

theorem trans (h₁ : Keeps outer s s₁) (h₂ : Keeps outer s₁ s₂) : Keeps outer s s₂ :=
  fun plugin slot hmem => (h₁ plugin slot hmem).trans (h₂ plugin slot hmem)

theorem of_within {plugin : Nat} {c : PluginCall} (h : Keeps (within plugin c outer) s s₁) :
    Keeps outer s s₁ :=
  fun q slot hmem => h q slot (List.mem_append_right _ hmem)

/-- A change to other fields. -/
theorem modify {plugin : Nat} {f : PluginSlots is64 → PluginSlots is64}
    (h : ∀ slot, (plugin, slot) ∈ outer →
      SameObjects slot (s.plugins plugin) (f (s.plugins plugin))) :
    Keeps outer s (s.modify plugin f) := by
  intro q slot hmem
  by_cases hq : q = plugin
  · subst hq
    rw [NestedState.plugins_modify_self]
    exact h slot hmem
  · rw [NestedState.plugins_modify_of_ne s f hq]
    exact .refl slot _

end Keeps

/-- Code that restores the fields comes to its end and keeps them. -/
theorem Restored.kept {side : Side} {outer : Outer} {code : Nested is64 side}
    {s : NestedState is64} (h : Restored abi outer code s) :
    ∃ s', code.exec abi s = some s' ∧ Keeps outer s s' ∧ s'.sending = s.sending := by
  induction code generalizing outer s with
  | done => exact ⟨s, rfl, .refl outer s, rfl⟩
  | call plugin c arena g inside rest ihInside ihRest =>
    -- what the inner call leaves is what the rest starts from
    obtain ⟨hinside, hafter⟩ := h
    obtain ⟨s₂, hexec, -, hsending⟩ := ihInside hinside
    obtain ⟨hkeeps, hrest⟩ := hafter s₂ hexec
    obtain ⟨s', hexec', hkeeps', hsending'⟩ := ihRest hrest
    refine ⟨s', ?_, hkeeps.trans hkeeps', hsending'.trans hsending⟩
    rw [Nested.exec, hexec]
    exact hexec'
  | callback plugin k inside rest ihInside ihRest =>
    obtain ⟨hinside, hafter⟩ := h
    obtain ⟨s₁, hexec, hkeeps, hsending⟩ := ihInside hinside
    obtain ⟨s', hexec', hkeeps', hsending'⟩ := ihRest (hafter s₁ hexec)
    refine ⟨s', ?_, hkeeps.trans hkeeps', hsending'.trans hsending⟩
    rw [Nested.exec, hexec]
    exact hexec'
  | webviewSend plugin inside rest ihInside ihRest =>
    obtain ⟨hfree, hinside, hafter⟩ := h
    obtain ⟨s₁, hexec, hkeeps, hsending⟩ := ihInside hinside
    obtain ⟨s', hexec', hkeeps', hsending'⟩ := ihRest (hafter s₁ hexec)
    refine ⟨s', ?_, Keeps.trans hkeeps hkeeps', ?_⟩
    · rw [Nested.exec, if_neg (by simp [hfree]), hexec]
      exact hexec'
    · -- the mutex is unlocked again
      rw [hsending']
      funext q
      by_cases hq : q = plugin
      · rw [hq, NestedState.sending_setSending_self, hfree]
      · rw [NestedState.sending_setSending_of_ne _ _ hq, hsending,
          NestedState.sending_setSending_of_ne _ _ hq]

/-- Calls that are apart restore the fields. -/
theorem restored_of_apart {side : Side} {outer : Outer} {sending : List Nat}
    {code : Nested is64 side} {s : NestedState is64} (h : Apart outer sending code)
    (hsending : ∀ plugin, s.sending plugin = true → plugin ∈ sending) :
    Restored abi outer code s := by
  induction code generalizing outer sending s with
  | done => trivial
  | call plugin c arena g inside rest ihInside ihRest =>
    obtain ⟨hslot, hinside, hrest⟩ := h
    have hrestored : Restored abi (within plugin c outer) inside
        (s.modify plugin (c.enter abi arena g)) := ihInside hinside hsending
    refine ⟨hrestored, fun s₂ hexec => ?_⟩
    obtain ⟨s₂', hexec', hkeeps, hsending'⟩ := hrestored.kept
    cases hexec.symm.trans hexec'
    -- the call itself changes none of the fields of the calls around it
    have hother (slot : HostSlot) (hmem : (plugin, slot) ∈ outer) : c.slot ≠ some slot :=
      fun hc => hslot slot hc hmem
    have hbefore : Keeps outer s (s.modify plugin (c.enter abi arena g)) :=
      .modify fun slot hmem => sameObjects_enter (hother slot hmem) arena g _
    have hafter : Keeps outer s₂ (s₂.modify plugin c.clear) :=
      .modify fun slot hmem => sameObjects_clear (hother slot hmem) _
    refine ⟨(hbefore.trans hkeeps.of_within).trans hafter, ihRest hrest fun q hq => ?_⟩
    exact hsending q (congrFun hsending' q ▸ hq)
  | callback plugin k inside rest ihInside ihRest =>
    obtain ⟨hinside, hrest⟩ := h
    have hrestored : Restored abi outer inside s := ihInside hinside hsending
    refine ⟨hrestored, fun s₁ hexec => ihRest hrest fun q hq => ?_⟩
    obtain ⟨s₁', hexec', -, hsending'⟩ := hrestored.kept
    cases hexec.symm.trans hexec'
    exact hsending q (congrFun hsending' q ▸ hq)
  | webviewSend plugin inside rest ihInside ihRest =>
    obtain ⟨hfree, hinside, hrest⟩ := h
    have hrestored : Restored abi outer inside (s.setSending plugin true) := by
      -- within the sending, this mutex is locked too
      refine ihInside hinside fun q hq => ?_
      by_cases hqp : q = plugin
      · exact hqp ▸ List.mem_cons_self
      · rw [NestedState.sending_setSending_of_ne _ _ hqp] at hq
        exact List.mem_cons_of_mem _ (hsending q hq)
    refine ⟨Bool.eq_false_iff.mpr fun hp => hfree (hsending plugin hp), hrestored,
      fun s₁ hexec => ihRest hrest fun q hq => ?_⟩
    obtain ⟨s₁', hexec', -, hsending'⟩ := hrestored.kept
    cases hexec.symm.trans hexec'
    by_cases hqp : q = plugin
    · rw [hqp, NestedState.sending_setSending_self] at hq
      cases hq
    · rw [NestedState.sending_setSending_of_ne _ _ hqp, hsending',
        NestedState.sending_setSending_of_ne _ _ hqp] at hq
      exact hsending q hq

/-- Only calls that are apart restore the fields, if the host passes an object to
    each of them. -/
theorem apart_of_restored {side : Side} {outer : Outer} {sending : List Nat}
    {code : Nested is64 side} {s : NestedState is64} (h : Restored abi outer code s)
    (hpasses : PassesObjects code)
    (hset : ∀ plugin slot, (plugin, slot) ∈ outer → (s.plugins plugin).get slot ≠ none)
    (hsending : ∀ plugin ∈ sending, s.sending plugin = true) : Apart outer sending code := by
  induction code generalizing outer sending s with
  | done => trivial
  | call plugin c arena g inside rest ihInside ihRest =>
    obtain ⟨hobject, hpassesInside, hpassesRest⟩ := hpasses
    obtain ⟨hinside, hafter⟩ := h
    obtain ⟨s₂, hexec, -, hsending'⟩ := hinside.kept
    obtain ⟨hkeeps, hrest⟩ := hafter s₂ hexec
    refine ⟨fun slot hc hmem => ?_, ihInside hinside hpassesInside (fun q slot hmem => ?_) hsending,
      ihRest hrest hpassesRest (fun q slot hmem => ?_) fun q hq => ?_⟩
    · -- the call would have set the field to null
      have hget := (hkeeps plugin slot hmem).get
      rw [NestedState.plugins_modify_self, get_clear, if_pos hc] at hget
      exact hset plugin slot hmem hget.symm
    · -- within the call, its own field is set as well
      by_cases hq : q = plugin ∧ c.slot = some slot
      · obtain ⟨rfl, hc⟩ := hq
        rw [NestedState.plugins_modify_self, get_enter hc]
        exact Option.isSome_iff_ne_none.mp (hobject (by rw [hc]; rfl))
      · have hmem : (q, slot) ∈ outer := by
          refine (List.mem_append.mp hmem).resolve_left fun hin => hq ?_
          obtain ⟨slot', hc, heq⟩ := Option.map_eq_some_iff.mp (Option.mem_toList.mp hin)
          cases heq
          exact ⟨rfl, hc⟩
        have hother (slot' : HostSlot) (hmem' : (plugin, slot') ∈ [(q, slot)]) :
            c.slot ≠ some slot' := by
          rintro hc
          cases List.mem_singleton.mp hmem'
          exact hq ⟨rfl, hc⟩
        have hbefore : Keeps [(q, slot)] s (s.modify plugin (c.enter abi arena g)) :=
          .modify fun slot' hmem' => sameObjects_enter (hother slot' hmem') arena g _
        rw [(hbefore q slot (List.mem_singleton_self _)).get]
        exact hset q slot hmem
    · rw [(hkeeps q slot hmem).get]
      exact hset q slot hmem
    · rw [NestedState.sending_modify, hsending']
      exact hsending q hq
  | callback plugin k inside rest ihInside ihRest =>
    obtain ⟨hpassesInside, hpassesRest⟩ := hpasses
    obtain ⟨hinside, hafter⟩ := h
    obtain ⟨s₁, hexec, hkeeps, hsending'⟩ := hinside.kept
    refine ⟨ihInside hinside hpassesInside hset hsending,
      ihRest (hafter s₁ hexec) hpassesRest (fun q slot hmem => ?_) fun q hq => ?_⟩
    · rw [(hkeeps q slot hmem).get]
      exact hset q slot hmem
    · rw [hsending']
      exact hsending q hq
  | webviewSend plugin inside rest ihInside ihRest =>
    obtain ⟨hpassesInside, hpassesRest⟩ := hpasses
    obtain ⟨hfree, hinside, hafter⟩ := h
    -- the thread would wait for itself
    have hnot : plugin ∉ sending := fun hmem =>
      Bool.noConfusion (hfree.symm.trans (hsending plugin hmem))
    obtain ⟨s₁, hexec, hkeeps, hsending'⟩ := hinside.kept
    refine ⟨hnot, ihInside hinside hpassesInside hset fun q hq => ?_,
      ihRest (hafter s₁ hexec) hpassesRest (fun q slot hmem => ?_) fun q hq => ?_⟩
    · by_cases hqp : q = plugin
      · rw [hqp, NestedState.sending_setSending_self]
      · rw [NestedState.sending_setSending_of_ne _ _ hqp]
        exact hsending q ((List.mem_cons.mp hq).resolve_left hqp)
    · rw [NestedState.plugins_setSending, (hkeeps q slot hmem).get]
      exact hset q slot hmem
    · have hqp : q ≠ plugin := fun heq => hnot (heq ▸ hq)
      rw [NestedState.sending_setSending_of_ne _ _ hqp, hsending',
        NestedState.sending_setSending_of_ne _ _ hqp]
      exact hsending q hq

/-! ## Sequences -/

/-- In a nested sequence of calls, the calls around others find their objects again
    and the thread does not wait for itself, if the calls are apart; and only then,
    if the host passes an object to each call that has one. -/
theorem restored_iff (abi : Abi is64) (code : Nested is64 .host)
    (plugins : Nat → PluginSlots is64) :
    (Apart [] [] code → Restored abi [] code ⟨plugins, fun _ => false⟩) ∧
      (PassesObjects code → Restored abi [] code ⟨plugins, fun _ => false⟩ →
        Apart [] [] code) := by
  constructor
  · exact fun h => restored_of_apart h fun _ hp => Bool.noConfusion hp
  · intro hpasses h
    refine apart_of_restored h hpasses (fun _ _ hmem => ?_) fun _ hmem => ?_
    · exact absurd hmem List.not_mem_nil
    · exact absurd hmem List.not_mem_nil

/-- A new plugin. -/
private def newPlugin : PluginSlots false where
  inputEvents := []
  hostOutputEvents := none
  hostIstream := none
  hostOstream := none

/-- The host calls a plugin, and in it the host function that guest code calls does
    something. -/
private def callWith (plugin : Nat) (c : PluginCall) (inside : Nested false .host) :
    Nested false .host :=
  .call plugin c bumpArena ⟨.onePage, []⟩ (.callback plugin .host inside .done) .done

/-- The host saves the state of a plugin when that tells it of a change while its
    state is loaded, and that of another plugin. -/
theorem restored_save_in_load :
    Restored (Abi.clap false) []
      (callWith 0 (.state_load (some 1))
        (callWith 0 (.state_save (some 2)) (callWith 1 (.state_save (some 3)) .done)))
      ⟨fun _ => newPlugin, fun _ => false⟩ := by
  refine (restored_iff (Abi.clap false) _ fun _ => newPlugin).1 ?_
  simp [callWith, Apart, within, PluginCall.slot]

/-- The host saves the state of a plugin when that tells it of a change while its
    state is saved: the guest cannot write the rest of its state. -/
theorem save_in_save :
    ¬ Restored (Abi.clap false) []
      (callWith 0 (.state_save (some 1)) (callWith 0 (.state_save (some 2)) .done))
      ⟨fun _ => newPlugin, fun _ => false⟩ := by
  intro h
  have hkeeps := (h.1.1.2 _ rfl).1 0 .hostOstream (List.mem_singleton_self _)
  cases hkeeps.get

end WclapBridge.Spec
