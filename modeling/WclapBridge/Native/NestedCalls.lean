import WclapBridge.Native.PluginCalls

/-!
# Nested calls

On one thread, a call of the host ends after the calls of the bridge that guest
code makes in it, and such a call ends after what the host does in it. The
mutexes of a plugin and of its instance are recursive and let the thread in
again. Only `webviewMessageMutex` is not.
-/

namespace WclapBridge.Native

variable {is64 : Bool}

/-- Whose code runs. -/
inductive Side where
  | host
  | guest

/-- What the host, or guest code, does from a point on, on any plugins. -/
inductive Nested (is64 : Bool) : Side → Type where
  | done {side : Side} : Nested is64 side
  /-- The host calls a plugin. The input events are copied with an arena into guest
      memory as it is then. -/
  | call (plugin : Nat) (c : PluginCall) (arena : Arena is64) (g : GuestState)
    (inside : Nested is64 .guest) (rest : Nested is64 .host) : Nested is64 .host
  /-- Guest code calls the bridge, which can call the host. -/
  | callback (plugin : Nat) (k : GuestCallback) (inside : Nested is64 .host)
    (rest : Nested is64 .guest) : Nested is64 .guest
  /-- Guest code sends a message, which the bridge hands to the host. -/
  | webviewSend (plugin : Nat) (inside : Nested is64 .host) (rest : Nested is64 .guest) :
    Nested is64 .guest

/-- All plugins, and which `webviewMessageMutex` the thread holds. -/
structure NestedState (is64 : Bool) where
  plugins : Nat → PluginSlots is64
  sending : Nat → Bool

namespace NestedState

/-- Assign to fields of a plugin. -/
def modify (s : NestedState is64) (plugin : Nat) (f : PluginSlots is64 → PluginSlots is64) :
    NestedState is64 :=
  { s with plugins := Function.update s.plugins plugin (f (s.plugins plugin)) }

/-- Lock or unlock a `webviewMessageMutex`. -/
def setSending (s : NestedState is64) (plugin : Nat) (locked : Bool) : NestedState is64 :=
  { s with sending := Function.update s.sending plugin locked }

@[simp] theorem plugins_modify_self (s : NestedState is64) (plugin : Nat)
    (f : PluginSlots is64 → PluginSlots is64) :
    (s.modify plugin f).plugins plugin = f (s.plugins plugin) :=
  Function.update_self ..

@[simp] theorem plugins_modify_of_ne (s : NestedState is64) {plugin q : Nat}
    (f : PluginSlots is64 → PluginSlots is64) (h : q ≠ plugin) :
    (s.modify plugin f).plugins q = s.plugins q :=
  Function.update_of_ne h ..

@[simp] theorem sending_modify (s : NestedState is64) (plugin : Nat)
    (f : PluginSlots is64 → PluginSlots is64) : (s.modify plugin f).sending = s.sending := rfl

@[simp] theorem plugins_setSending (s : NestedState is64) (plugin : Nat) (locked : Bool) :
    (s.setSending plugin locked).plugins = s.plugins := rfl

@[simp] theorem sending_setSending_self (s : NestedState is64) (plugin : Nat) (locked : Bool) :
    (s.setSending plugin locked).sending plugin = locked :=
  Function.update_self ..

@[simp] theorem sending_setSending_of_ne (s : NestedState is64) {plugin q : Nat} (locked : Bool)
    (h : q ≠ plugin) : (s.setSending plugin locked).sending q = s.sending q :=
  Function.update_of_ne h ..

end NestedState

/-- What a call does before it calls the guest. -/
def PluginCall.enter (abi : Abi is64) (c : PluginCall) (arena : Arena is64) (g : GuestState)
    (p : PluginSlots is64) : PluginSlots is64 :=
  let p := c.resize p
  match c.eventsIn with
  | some eventsIn => c.set { p with inputEvents := (copyInputEvents abi arena eventsIn g).1 }
  | none => c.set p

namespace Nested

/-- The state afterwards, or `none` where the thread waits for itself. -/
def exec (abi : Abi is64) {side : Side} :
    Nested is64 side → NestedState is64 → Option (NestedState is64)
  | done, s => some s
  | call plugin c arena g inside rest, s => do
    let s ← inside.exec abi (s.modify plugin (c.enter abi arena g))
    rest.exec abi (s.modify plugin c.clear)
  | callback _ _ inside rest, s => do
    let s ← inside.exec abi s
    rest.exec abi s
  | webviewSend plugin inside rest, s =>
    if s.sending plugin then none
    else do
      let s ← inside.exec abi (s.setSending plugin true)
      rest.exec abi (s.setSending plugin false)

end Nested

end WclapBridge.Native
