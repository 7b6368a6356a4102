import WclapBridge.Native.GuestCall
import WclapBridge.Native.PluginFactory
import WclapBridge.Native.WclapClose

/-!
# Asking for the factory

`WclapModule::getFactory` calls `get_factory` of the guest once, and makes a
`PluginFactory` of what it returns. The constructor enumerates the descriptors through
the pointer before anybody has looked whether it is null.

The guest is given by its memory and its function table, which depend on the state it is
in. To read a descriptor takes no call, and is left to `PluginFactory.construct`.
-/

namespace WclapBridge.Native

variable {is64 : Bool} {γ : Type}

/-- A guest whose states are of type `γ`. -/
structure GuestMachine (is64 : Bool) (γ : Type) where
  memory : γ → LinearMemory
  table : γ → FunctionTable
  /-- The state after a call of the function that a pointer in memory leads to. -/
  called : γ → Pointer is64 → List Arg → γ
  /-- Whether the arena has room for a string, and where it puts it. -/
  room : γ → CString → Bool
  written : γ → CString → Pointer is64 × γ
  /-- `malloc()`, for an arena without room. -/
  malloc : γ → CallOutcome
  mallocCalled : γ → γ

/-- The offsets of the function pointers in `wclap_plugin_entry` and in
    `wclap_plugin_factory`. -/
structure FactoryLayout where
  get_factory : Nat
  get_plugin_count : Nat
  get_plugin_descriptor : Nat

/-- What `getFactory` works with, and the functions of the guest that it has called. -/
structure FactoryCaller (is64 : Bool) (γ : Type) where
  guest : γ
  mainThread : InstanceImpl
  group : InstanceGroup
  hasError : Bool
  errorMessage : String
  pluginFactory : Option (Pointer is64)
  called : List GuestFunction

namespace FactoryCaller

/-- `call` of a function pointer in guest memory. -/
def callAt (guest : GuestMachine is64 γ) (s : FactoryCaller is64 γ) (fn : GuestFunction)
    (fnPtrPtr : Pointer is64) (ret : ReturnType) (args : List Arg) :
    ReturnType.Value ret × FactoryCaller is64 γ :=
  let call := InstanceImpl.callAt (guest.table s.guest) s.group (guest.memory s.guest) fnPtrPtr
    ret args 0
  let s := { s with group := call.group }
  if call.slotCount.isSome then
    (call.result,
      { s with guest := guest.called s.guest fnPtrPtr args, called := s.called ++ [fn] })
  else (call.result, s)

/-- `scoped.writeString(string)`. -/
def writeString (guest : GuestMachine is64 γ) (s : FactoryCaller is64 γ) (string : CString) :
    Pointer is64 × FactoryCaller is64 γ :=
  let s :=
    if guest.room s.guest string then s
    else
      { s with
        group := (wtMalloc s.mainThread (guest.malloc s.guest) s.group).2.1
        guest := guest.mallocCalled s.guest
        called := s.called ++ [.malloc] }
  let (ptr, g) := guest.written s.guest string
  (ptr, { s with guest := g })

/-- An iteration of the loop over the descriptors. -/
def getDescriptor (guest : GuestMachine is64 γ) (layout : FactoryLayout) (ptr : Pointer is64)
    (i : Nat) (s : FactoryCaller is64 γ) : FactoryCaller is64 γ :=
  (s.callAt guest .get_plugin_descriptor (ptr.offset layout.get_plugin_descriptor)
    (some (.pointer is64)) [⟨.pointer is64, ptr⟩, ⟨.uint32, UInt32.ofNat i⟩]).2

/-- The constructor of `PluginFactory`. -/
def newPluginFactory (guest : GuestMachine is64 γ) (layout : FactoryLayout)
    (s : FactoryCaller is64 γ) (ptr : Pointer is64) : FactoryCaller is64 γ :=
  let (count, s) := s.callAt guest .get_plugin_count (ptr.offset layout.get_plugin_count)
    (some .uint32) [⟨.pointer is64, ptr⟩]
  forLoop (UInt32.toNat count) (getDescriptor guest layout ptr) s

/-- `entryPtr[&wclap_plugin_entry::get_factory]`, and the call of it. -/
def callGetFactory (guest : GuestMachine is64 γ) (layout : FactoryLayout)
    (entryPtr : Pointer is64) (s : FactoryCaller is64 γ) (wclapStr : Pointer is64) :
    Pointer is64 × FactoryCaller is64 γ :=
  s.callAt guest (.clap_entry .get_factory) (entryPtr.offset layout.get_factory)
    (some (.pointer is64)) [⟨.pointer is64, wclapStr⟩]

/-- `WclapModule::getFactory`. It returns the static struct of a factory whose address
    is not null; the address stands for it here. -/
def getFactory (guest : GuestMachine is64 γ) (layout : FactoryLayout) (entryPtr : Pointer is64)
    (s : FactoryCaller is64 γ) (factoryId : CString) : Pointer is64 × FactoryCaller is64 γ :=
  if factoryId = CLAP_PLUGIN_FACTORY_ID then
    match s.pluginFactory with
    | some ptr => (ptr, s)
    | none =>
      let (wclapStr, s) := s.writeString guest CLAP_PLUGIN_FACTORY_ID
      let (factoryPtr, s) := s.callGetFactory guest layout entryPtr wclapStr
      let s := s.newPluginFactory guest layout factoryPtr
      (factoryPtr, { s with pluginFactory := some factoryPtr })
  else (Pointer.null, s)

end FactoryCaller

end WclapBridge.Native
