import Mathlib.Logic.Function.Basic
import WclapBridge.Native.Memory

/-!
# Messages to a webview

`Plugin::webviewSend` copies a message of the guest to a buffer of the plugin, and gives
the buffer to the host. Any number of guest threads may call it, each for any plugin,
while guest code goes on writing to the memory that it copies from. `memcpy` is not
atomic, so it copies one byte in a step.

The host may call the guest again before its `send` returns, so a thread has a stack of
sends. `webviewMessageMutex` is a `std::mutex`: unlike the other mutexes of a plugin it is
not recursive, and a thread that locks it again waits like any other.
-/

namespace WclapBridge.Native

variable {is64 : Bool}

/-- What `hostWebview_send` is called with, and the plugin that it finds. -/
structure WebviewSend (is64 : Bool) where
  plugin : Nat
  buffer : Pointer is64
  size : UInt32

/-- Where a call of `webviewSend` is. -/
inductive SendStage where
  | called
  /-- It has `webviewMessageMutex`. -/
  | locked
  /-- After `webviewMessageBuffer.resize(size)`. -/
  | resized
  /-- `memcpy` has copied so many bytes, from this distance behind the base. -/
  | copying (start copied : Nat)
  /-- `hostWebview->send` runs. -/
  | sending
  deriving DecidableEq

/-- The mutex is held from `locked` on. -/
def SendStage.holds : SendStage → Bool
  | called => false
  | _ => true

/-- `webviewMessageMutex` and `webviewMessageBuffer` of a plugin. -/
structure WebviewBuffer where
  owner : Option Nat
  webviewMessageBuffer : List UInt8

/-- What the host of a plugin is given, and by which thread. -/
structure WebviewMessage where
  thread : Nat
  plugin : Nat
  message : List UInt8
  deriving DecidableEq

/-- The plugins of a module, with the threads that send. -/
structure WebviewTraffic (is64 : Bool) where
  mem : LinearMemory
  plugins : Nat → WebviewBuffer
  /-- The sends of a thread, the innermost first. -/
  threads : Nat → List (WebviewSend is64 × SendStage)
  /-- The calls of `hostWebview->send`, in order. -/
  messages : List WebviewMessage

inductive WebviewStep (is64 : Bool) where
  /-- Guest code writes to its memory, or grows it. -/
  | guest (mem : LinearMemory)
  | call (send : WebviewSend is64)
  | lock
  | resize
  /-- `wasmMemory` finds the place of the message. -/
  | wasmMemory
  | copyByte
  | send
  | return_

namespace WebviewTraffic

/-- Nobody sends. -/
def quiet (mem : LinearMemory) : WebviewTraffic is64 where
  mem := mem
  plugins _ := ⟨none, []⟩
  threads _ := []
  messages := []

/-- The stack of a thread after a step. -/
def goOn (s : WebviewTraffic is64) (t : Nat) (sends : List (WebviewSend is64 × SendStage)) :
    WebviewTraffic is64 :=
  { s with threads := Function.update s.threads t sends }

/-- A plugin after a step. -/
def setPlugin (s : WebviewTraffic is64) (plugin : Nat) (buffer : WebviewBuffer) :
    WebviewTraffic is64 :=
  { s with plugins := Function.update s.plugins plugin buffer }

/-- The host gets a message. -/
def deliver (s : WebviewTraffic is64) (m : WebviewMessage) : WebviewTraffic is64 :=
  { s with messages := s.messages ++ [m] }

/-- `std::vector::resize`: the bytes that were there stay, new ones are zero. -/
def resizeBuffer (buffer : List UInt8) (size : Nat) : List UInt8 :=
  (buffer ++ List.replicate (size - buffer.length) 0).take size

/-- A step of the innermost send of a thread. -/
def proceed (s : WebviewTraffic is64) (t : Nat) (a : WebviewStep is64) (send : WebviewSend is64)
    (stage : SendStage) (rest : List (WebviewSend is64 × SendStage)) :
    Option (WebviewTraffic is64) :=
  let plugin := s.plugins send.plugin
  match a, stage with
  | .lock, .called =>
    if plugin.owner = none then
      some ((s.setPlugin send.plugin { plugin with owner := some t }).goOn t
        ((send, .locked) :: rest))
    else none
  | .resize, .locked =>
    some ((s.setPlugin send.plugin { plugin with
      webviewMessageBuffer :=
        resizeBuffer plugin.webviewMessageBuffer send.size.toNat }).goOn t
          ((send, .resized) :: rest))
  | .wasmMemory, .resized =>
    some (s.goOn t
      ((send, .copying (s.mem.clamp send.buffer.toUInt64 send.size.toUInt64) 0) :: rest))
  | .copyByte, .copying start copied =>
    if copied < send.size.toNat then
      some ((s.setPlugin send.plugin { plugin with
        webviewMessageBuffer :=
          plugin.webviewMessageBuffer.set copied (s.mem.bytes (start + copied)) }).goOn t
            ((send, .copying start (copied + 1)) :: rest))
    else none
  | .send, .copying _ copied =>
    if copied = send.size.toNat then
      let message := plugin.webviewMessageBuffer.take send.size.toNat
      some ((s.deliver ⟨t, send.plugin, message⟩).goOn t ((send, .sending) :: rest))
    else none
  -- the destructor of the lock, after the result of the host
  | .return_, .sending =>
    some ((s.setPlugin send.plugin { plugin with owner := none }).goOn t rest)
  | _, _ => none

/-- A step of a thread. -/
def step (s : WebviewTraffic is64) (a : Nat × WebviewStep is64) : Option (WebviewTraffic is64) :=
  let (t, a) := a
  match a, s.threads t with
  | .guest mem, _ => if s.mem.size ≤ mem.size then some { s with mem := mem } else none
  | .call send, [] => some (s.goOn t [(send, .called)])
  -- the host has called the guest again
  | .call send, (outer, .sending) :: rest =>
    some (s.goOn t ((send, .called) :: (outer, .sending) :: rest))
  | .call _, _ => none
  | a, (send, stage) :: rest => s.proceed t a send stage rest
  | _, [] => none

end WebviewTraffic

end WclapBridge.Native
