import WclapBridge.ForStd.CString
import WclapBridge.Native.MapPath
import WclapBridge.Native.Webview

/-!
# Resources of a webview

After a `file:` address, `Plugin::webview_get_resource` serves files of the
WCLAP's virtual filesystem to the host itself. The guest sees the same
directories through WASI, where `InstanceImpl::setup` has opened them for it.

A host may accept a file in pieces. `CopyLoop` is the loop over these, which has no
bound of its own.
-/

namespace WclapBridge.Native

/-- The directories that `InstanceImpl::setup` opens for WASI, each with the path
    the guest sees it at. -/
def ConfiguredDirs.wasiPreopens (dirs : ConfiguredDirs) : List (List Char × List Char) :=
  (dirs.wclapDir.map fun dir => (dir, "/plugin.wclap/".toList)).toList ++
    (dirs.presetDir.map fun dir => (dir, "/presets/".toList)).toList ++
    (dirs.cacheDir.map fun dir => (dir, "/cache/".toList)).toList ++
    (dirs.varDir.map fun dir => (dir, "/var/".toList)).toList

/-- The loop that trims the query and the hash of a mapped path. -/
def trimQuery : List Char → List Char
  | [] => []
  | c :: rest => if c = '?' ∨ c = '#' then [] else c :: trimQuery rest

/-- The file that `webview_get_resource` opens after a `file:` address. -/
def ConfiguredDirs.resourceFile (dirs : ConfiguredDirs) (cwd path : List Char) :
    Option (List Char) :=
  (dirs.mapPath cwd path).map trimQuery

/-! ## Serving a file -/

/-- What an `std::ifstream` that was opened finds: the contents of the file, and
    whether reading them succeeds. -/
structure OpenedFile where
  contents : List UInt8
  readable : Bool

/-- A `clap_ostream` of a host in state `σ`. It may accept a part of what it is
    offered, or refuse, but it does not accept more. -/
structure ClapOstream (σ : Type) where
  write : σ → List UInt8 → Int64 × σ
  write_le : ∀ host buffer, (write host buffer).1.toInt ≤ buffer.length

/-- A call of `write`: the bytes that were offered, and the result. -/
structure StreamWrite where
  offered : List UInt8
  result : Int64
  deriving DecidableEq

/-- The bytes which the host accepted. -/
def StreamWrite.accepted (w : StreamWrite) : List UInt8 :=
  w.offered.take w.result.toNatClampNeg

/-- All bytes which the host accepted. -/
def acceptedBytes (writes : List StreamWrite) : List UInt8 :=
  writes.flatMap StreamWrite.accepted

/-- The loop that writes a buffer to the host: its `index`, the host, and the calls
    so far. -/
structure CopyLoop (σ : Type) where
  index : UInt64
  host : σ
  writes : List StreamWrite

/-- `ostream->write(ostream, buffer.data() + index, buffer.size() - index)`. -/
def CopyLoop.write {σ : Type} (s : CopyLoop σ) (ostream : ClapOstream σ) (buffer : List UInt8) :
    Int64 × CopyLoop σ :=
  let offered := buffer.drop s.index.toNat
  let (result, host) := ostream.write s.host offered
  (result, { s with host, writes := s.writes ++ [⟨offered, result⟩] })

/-- `while (index < buffer.size())`, or `none` if it is not done after `fuel`
    iterations. -/
def CopyLoop.run {σ : Type} (ostream : ClapOstream σ) (buffer : List UInt8) :
    Nat → CopyLoop σ → Option (Bool × CopyLoop σ)
  | 0, _ => none
  | fuel + 1, s =>
    if s.index.toNat < buffer.length then
      let (result, s) := s.write ostream buffer
      if result ≤ 0 then some (false, s)
      else run ostream buffer fuel { s with index := s.index + result.toUInt64 }
    else some (true, s)

/-- What the host has of a call of `webview_get_resource`: the result, `mime` where
    it was written, and the calls of its stream. -/
structure ResourceResult (σ : Type) where
  result : Bool
  mime : Option (List UInt8)
  host : σ
  writes : List StreamWrite

/-- 100 MiB. -/
def maxResourceSize : Nat := 100 * 1024 * 1024

/-- The part of `Plugin::webview_get_resource` after a `file:` address. `files` is
    what can be opened; `guessMediaType` is that of the webview library. -/
def serveFile {σ : Type} (fuel : Nat) (dirs : ConfiguredDirs) (cwd : List Char)
    (files : List Char → Option OpenedFile) (guessMediaType : List Char → CString)
    (path : List Char) (mimeCapacity : UInt32) (ostream : ClapOstream σ) (host : σ) :
    Option (ResourceResult σ) :=
  match dirs.resourceFile cwd path with
  | none => some ⟨false, none, host, []⟩
  | some mapped =>
    let mime := strncpy (guessMediaType path).chars mimeCapacity.toNat
    match files mapped with
    | none => some ⟨false, mime, host, []⟩ -- couldn't open file
    | some stream =>
      -- we opened at the end, so `tellg` is the file size
      if stream.contents.length > maxResourceSize then some ⟨false, mime, host, []⟩
      else if stream.readable then
        (CopyLoop.run ostream stream.contents fuel ⟨0, host, []⟩).map fun (result, s) =>
          ⟨result, mime, s.host, s.writes⟩
      else some ⟨false, mime, host, []⟩

end WclapBridge.Native
