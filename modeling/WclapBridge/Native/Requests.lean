import WclapBridge.ForStd.Program
import WclapBridge.Native.Extensions
import WclapBridge.Native.Process
import WclapBridge.Native.WclapModule

/-!
# What the operations ask of the instances

Each function of the API as the sequence of its requests to the instances of the
module, which reach guest memory, the arenas' `malloc()` and guest functions.
Guest memory is not part of this model: any value may be read from it. Structs
are read a field at a time where a field decides what comes next.
-/

namespace WclapBridge.Native

/-- A request to the instances, or an assignment to a field of the module. -/
inductive Request where
  /-- `getArray` or `setArray` on an instance. -/
  | memory (i : Nat)
  /-- An arena scope reserves memory. The arenas belong to the main thread. -/
  | reserve
  /-- `call` on an instance. -/
  | call (i : Nat)
  /-- `mainThread->init()`. -/
  | init
  /-- `new Plugin(…)`. -/
  | newPlugin
  /-- `pluginFactory.emplace(…)`. -/
  | setPluginFactory (ptr : UInt64)
  /-- `setError(error)`. -/
  | setError (error : String)
  /-- `hasError = false`. -/
  | clearError
  /-- `thread->instance->runThread(…)` for the thread at an index. -/
  | runThread (index : Nat)

/-- A function which makes requests. The answers are 0 where there is nothing to
    answer. -/
abbrev Requests := Program Request UInt64

namespace Requests

open WclapModule (main)

/-! ## Access to an instance -/

/-- A request whose answer is of no interest. -/
def ask_ (r : Request) : Requests Unit := do
  let _ ← Program.ask r

/-- Read or write guest memory. -/
def memory (i : Nat) : Requests Unit :=
  ask_ (.memory i)

/-- Read a value on which something depends. -/
def read (i : Nat) : Requests UInt64 :=
  Program.ask (.memory i)

/-- `scoped.reserve` and `scoped.array`. -/
def reserve : Requests Unit :=
  ask_ .reserve

/-- `scoped.copyAcross`, `scoped.reserveBlank` and `scoped.writeString`. -/
def copyAcross : Requests Unit := do
  reserve
  memory main

/-- `callAt`: the function pointer is read, and the function called. -/
def call (i : Nat) : Requests UInt64 := do
  memory i
  Program.ask (.call i)

/-- A call of a function without a result. -/
def callVoid (i : Nat) : Requests UInt64 := do
  let _ ← call i
  return 0

/-! ## The module -/

/-- `bindGlobalArena`: the extension structs and the port types. -/
def bindGlobalArena : Requests Unit := do
  Program.times 20 copyAcross
  Program.times 5 copyAcross

/-- The rest of the constructor of `WclapModule`. -/
def construct : Requests UInt64 := do
  let entryPtr ← Program.ask .init
  if entryPtr = 0 then
    ask_ (.setError "clap_entry is NULL")
    return 0
  else
    bindGlobalArena
    copyAcross -- `mainThread->path()`
    memory main -- `clap_version`
    let ok ← call main
    if ok = 0 then
      ask_ (.setError "clap_entry::init() returned false")
      return 0
    else
      ask_ .clearError
      return 0

/-- `PluginFactory::readString`. -/
def readString : Requests Unit := do
  let ptr ← read main
  if ptr = 0 then return () else memory main

/-- The loop over the features of a descriptor, of which there are `n` to go. -/
def readFeatures : Nat → Requests Unit
  | 0 => pure ()
  | n + 1 => do
    let featureStr ← read main
    if featureStr = 0 then return ()
    else
      memory main
      readFeatures n

/-- An iteration of the loop over the descriptors. -/
def readDescriptor : Requests Unit := do
  let descPtr ← call main
  if descPtr = 0 then return ()
  else
    Program.times 8 readString
    readFeatures 1000

/-- The constructor of `PluginFactory`. -/
def newPluginFactory : Requests Unit := do
  let count ← call main
  Program.times count.toUInt32.toNat readDescriptor

/-- `WclapModule::getFactory`. It returns the static struct of a factory whose
    address is not null; the address stands for it here. -/
def getFactory (isPluginFactoryId : Bool) (pluginFactory : Option UInt64) : Requests UInt64 :=
  if !isPluginFactoryId then pure 0
  else
    match pluginFactory with
    | some ptr => pure ptr
    | none => do
      copyAcross
      let factoryPtr ← call main
      newPluginFactory
      ask_ (.setPluginFactory factoryPtr)
      return factoryPtr

/-- `PluginFactory::createPlugin`. -/
def createPlugin (found : Bool) : Requests UInt64 :=
  if !found then pure 0
  else do
    Program.times 2 copyAcross -- `pluginId` and `hostTemplate`
    let pluginPtr ← call main
    if pluginPtr = 0 then return 0
    else
      ask_ .newPlugin
      memory main -- `setPlugin`
      return pluginPtr

/-! ## Audio processing -/

/-- `Plugin::tryCopyInputEvent`. -/
def tryCopyInputEvent (audioThread : Nat) (event : NativeEvent) : Requests Unit :=
  let type := event.header.type
  if event.header.space_id ≠ CLAP_CORE_EVENT_SPACE_ID then pure ()
  else if type ≤ 4 ∨ (type ≥ 7 ∧ type ≤ 10) ∨ type = 12 then do
    reserve
    memory audioThread
  else if type = 5 ∨ type = 6 then copyAcross
  else if type = 11 then do
    reserve
    memory audioThread
    copyAcross
  else pure ()

/-- The first part of `pluginProcess` and of `params_flush`. -/
def openEvents (audioThread : Nat) (eventsIn : ClapInputEvents) : Requests Unit := do
  Program.times 2 copyAcross
  Program.times 2 (memory main) -- `setPlugin`
  (List.range eventsIn.size.toNat).forM fun i => tryCopyInputEvent audioThread (eventsIn.get i)

/-- The transport event. -/
def copyTransport (transport : Option NativeEvent) : Requests Unit :=
  match transport with
  | none => pure ()
  | some _ => copyAcross

/-- The two blocks of `translateBuffer`. -/
def copyChannels (audioThread : Nat) (data : Option (Nat → Nat)) (channel_count : UInt32) :
    Requests Unit :=
  match data with
  | none => pure ()
  | some _ => do
    reserve
    Program.times channel_count.toNat do
      reserve
      Program.times 2 (memory audioThread)

/-- The loops over the input ports and over the output ports. -/
def translatePorts (audioThread : Nat) (ports : Nat → AudioBuffer) (count : UInt32) :
    Requests Unit := do
  reserve
  (List.range count.toNat).forM fun portIndex => do
    let buffer := ports portIndex
    copyChannels audioThread buffer.data32 buffer.channel_count
    copyChannels audioThread buffer.data64 buffer.channel_count
    memory audioThread

/-- The two blocks of the copy-back loop. -/
def copyBackChannels (audioThread : Nat) (data : Option (Nat → Nat)) (channel_count : UInt32) :
    Requests Unit :=
  match data with
  | none => pure ()
  | some _ => Program.times channel_count.toNat (Program.times 2 (memory audioThread))

/-- `Plugin::pluginProcess`. -/
def pluginProcess (audioThread : Nat) (process : ClapProcess) : Requests UInt64 := do
  openEvents audioThread process.in_events
  copyTransport process.transport
  translatePorts audioThread process.audio_inputs process.audio_inputs_count
  translatePorts audioThread process.audio_outputs process.audio_outputs_count
  copyAcross
  let resultCode ← call main
  (List.range process.audio_outputs_count.toNat).forM fun portIndex => do
    let buffer := process.audio_outputs portIndex
    memory audioThread
    copyBackChannels audioThread buffer.data32 buffer.channel_count
    copyBackChannels audioThread buffer.data64 buffer.channel_count
  return resultCode

/-! ## The other methods of a plugin -/

/-- The methods that put values into an arena scope and call the guest. -/
def copyThenCall (copies : Nat) : Requests UInt64 := do
  Program.times copies copyAcross
  call main

/-- The methods that leave room for an answer of the guest, and read it if the
    guest says there is one. -/
def getIfTrue (reads : Nat) : Requests UInt64 := do
  let result ← copyThenCall 1
  if result = 0 then return 0
  else
    Program.times reads (memory main)
    return 1

/-- The methods that leave room for an answer, and read it whatever the guest
    says. -/
def getAnyway (copies reads : Nat) : Requests UInt64 := do
  let result ← copyThenCall copies
  Program.times reads (memory main)
  return result

/-- The same for an array of the host's size. -/
def getArrayAnyway : Requests UInt64 := do
  reserve
  let result ← call main
  memory main
  return result

/-- The methods that pass a stream of the host. -/
def withStream : Requests UInt64 := do
  copyAcross
  memory main -- `setPlugin`
  call main

/-- `configurableAudioPorts_method`: which of the requests have details that are
    copied. -/
def configurableAudioPorts (requests : List Bool) : Requests UInt64 := do
  reserve
  requests.forM fun port_details => do
    if port_details then copyAcross
    memory main
  call main

/-- `Plugin::webview_get_uri`. -/
def webview_get_uri (uriCapacity : UInt32) : Requests UInt64 := do
  reserve
  let result ← call main
  if result = 0 ∨ result > uriCapacity.toUInt64 then return result
  else
    memory main
    return result

/-- `Plugin::webview_get_resource`; `served` is the answer where a file is
    served. -/
def webview_get_resource (wasFileUri : Bool) (served : UInt64) : Requests UInt64 :=
  if wasFileUri then pure served
  else do
    copyAcross
    memory main -- `setPlugin`
    copyAcross
    reserve
    let result ← call main
    memory main
    return result

/-- `Plugin::webview_receive`. -/
def webview_receive : Requests UInt64 := do
  reserve
  memory main
  call main

/-- The methods of the GUI that go on whether the guest does what it is asked or
    not. -/
def guiContinue (guiExt : Bool) (copies : Nat) (helper : UInt64) : Requests UInt64 := do
  if guiExt then
    let _ ← copyThenCall copies
    return helper
  else return helper

/-- The methods of the GUI that ask the guest before the helper. -/
def guiGet (guiExt : Bool) (copies reads : Nat) (helper : UInt64) : Requests UInt64 := do
  if guiExt then
    let result ← copyThenCall copies
    if result = 0 then return helper
    else
      Program.times reads (memory main)
      return 1
  else return helper

end Requests

end WclapBridge.Native
