import WclapBridge.ForStd.Cells
import WclapBridge.Native.Webview
import WclapBridge.Native.WclapModule

/-!
# The error of a module, for the host

`wclap_get_error` copies the error of the module into a buffer of the host. If the
module has none it looks for one of the group, and takes it over.

The lengths are `size_t`, and wrap around. What is written to the buffer is a list, with
the distance of each write from the start of the buffer; it can be behind its end.
-/

namespace WclapBridge.Native

/-- The errors of a module and of its group, by their messages. -/
structure ErrorState where
  hasError : Bool
  errorMessage : CString
  constantErrorMessage : Option CString
  /-- What `wasmtime_error_message` tells of the error. -/
  wtError : Option CString

/-- `char errorMessage[256]` has room for a message of this length. -/
def maxWtMessage : Nat := 255

/-- Bytes that are written to a buffer. -/
structure BufferWrite where
  start : Nat
  bytes : List UInt8
  deriving DecidableEq

/-- What `getError` returns, writes and leaves behind. -/
structure ErrorRead where
  result : Bool
  writes : List BufferWrite
  state : ErrorState

namespace ErrorState

/-- `InstanceGroup::error`. -/
def groupError (s : ErrorState) : Option CString :=
  match s.constantErrorMessage with
  | some message => some message
  | none => s.wtError.map fun message => message.take maxWtMessage

/-- `WclapModuleBase::setError`. -/
def setError (s : ErrorState) (error : CString) : ErrorState :=
  { s with hasError := true, errorMessage := error }

/-- The first part of `getError`: the module with its error, if there is one. -/
def refresh (s : ErrorState) : Option ErrorState :=
  if s.hasError then some s else s.groupError.map s.setError

/-- The second part of `getError`. -/
def fillBuffer (s : ErrorState) (bufferLength : UInt64) : List BufferWrite :=
  let copied : List BufferWrite :=
    if bufferLength > 0 then [⟨0, strncpy s.errorMessage.chars (bufferLength - 1).toNat⟩] else []
  -- guarantee null-termination
  copied ++ [⟨(bufferLength - 1).toNat, [0]⟩]

/-- `WclapModuleBase::getError`. -/
def getError (s : ErrorState) (bufferLength : UInt64) : ErrorRead :=
  match s.refresh with
  | none => ⟨false, [], s⟩
  | some s => ⟨true, s.fillBuffer bufferLength, s⟩

end ErrorState

/-- `wclap_get_error`. -/
def wclap_get_error (s : ErrorState) (bufferCapacity : UInt32) : ErrorRead :=
  s.getError bufferCapacity.toUInt64

/-- The buffer, and what is behind it, after some writes. -/
def writeAll (buffer : Cells UInt8) (writes : List BufferWrite) : Cells UInt8 :=
  writes.foldl (fun buffer w => buffer.write w.start w.bytes) buffer

namespace ErrorState

/-- The same errors as those of a module, which has them as strings. -/
structure Describes (s : ErrorState) (m : WclapModule) : Prop where
  hasError : s.hasError = m.hasError
  constantErrorMessage :
    s.constantErrorMessage.isSome = m.instanceGroup.constantErrorMessage.isSome
  wtError : s.wtError.isSome = m.instanceGroup.wtError.isSome

theorem groupError_isSome (s : ErrorState) :
    s.groupError.isSome = (s.constantErrorMessage.isSome || s.wtError.isSome) := by
  unfold groupError
  cases s.constantErrorMessage <;> simp

/-- Whether there is an error is seen without its message. -/
theorem getError_result {s : ErrorState} {m : WclapModule} (h : s.Describes m)
    (bufferLength : UInt64) : (s.getError bufferLength).result = m.getError.1 := by
  have hgroup : s.groupError.isSome = m.instanceGroup.error.isSome := by
    rw [groupError_isSome, InstanceGroup.error_isSome, InstanceGroup.hasError,
      h.constantErrorMessage, h.wtError]
  unfold getError refresh WclapModule.getError
  rw [h.hasError]
  by_cases hm : m.hasError = true
  · rw [if_pos hm, if_pos hm]
  · rw [if_neg hm, if_neg hm]
    cases hs : s.groupError with
    | none =>
      rw [hs, Option.isSome_none, eq_comm, Option.isSome_eq_false_iff,
        Option.isNone_iff_eq_none] at hgroup
      rw [hgroup]
      rfl
    | some message =>
      rw [hs] at hgroup
      obtain ⟨instanceError, herror⟩ := Option.isSome_iff_exists.mp hgroup.symm
      rw [herror]
      rfl

end ErrorState

end WclapBridge.Native
