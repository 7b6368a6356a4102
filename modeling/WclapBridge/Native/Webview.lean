import WclapBridge.ForStd.CString

/-!
# The address of a webview

`Plugin::webview_get_uri` asks the guest for the address of its user interface,
and makes a path of it if it is a `file:` URI. Strings are C strings: lists of
bytes in a buffer, up to the first NUL.

The buffer of the host is as long as its capacity. An access behind its end, or
anything else that C++ leaves undefined, ends the method with a `UriFault`.
-/

namespace WclapBridge.Native

/-- What goes wrong with the buffer. -/
inductive UriFault where
  | nullDereference
  | outOfBounds (index : Nat)
  /-- A `std::string` of a range that ends before it starts. -/
  | reversedRange
  /-- `++result` for the greatest `int32_t`. -/
  | overflow
  deriving DecidableEq

/-- `'/'`. -/
def slash : UInt8 := '/'.toUInt8

/-- `"file:"`. -/
def fileScheme : List UInt8 := "file:".toList.map Char.toUInt8

/-- `uri[index]`. -/
def charAt (uri : List UInt8) (index : Nat) : Except UriFault UInt8 :=
  match uri[index]? with
  | some c => .ok c
  | none => .error (.outOfBounds index)

/-- `std::string{path, pathEnd}`, by the indices of its ends. -/
def stringOfRange (uri : List UInt8) (path pathEnd : Nat) : Except UriFault (List UInt8) :=
  if pathEnd < path then .error .reversedRange
  else if uri.length < pathEnd then .error (.outOfBounds uri.length)
  else .ok ((uri.drop path).take (pathEnd - path))

/-- `std::string_view(uri, 5) == "file:"`, which compares five characters. -/
def startsWithFile (uri : List UInt8) : Except UriFault Bool :=
  if uri.length < 5 then .error (.outOfBounds uri.length)
  else .ok (uri.take 5 = fileScheme)

/-- `while (path[0] == '/' && path[1] == '/') ++path;`, for what is left of the
    buffer from `path` on. -/
def skipSlashes : List UInt8 → Nat → Except UriFault Nat
  | [], path => .error (.outOfBounds path)
  | c :: rest, path =>
    if c = slash then
      match rest with
      | [] => .error (.outOfBounds (path + 1))
      | d :: _ => if d = slash then skipSlashes rest (path + 1) else .ok path
    else .ok path

/-- `std::strncpy` of a string to a buffer, which it fills with NUL. -/
def strncpy (string : List UInt8) (capacity : Nat) : List UInt8 :=
  (string.takeWhile (· ≠ 0) ++ List.replicate capacity 0).take capacity

theorem strncpy_chars (string : CString) (capacity : Nat) :
    strncpy string.chars capacity = (string.chars ++ List.replicate capacity 0).take capacity := by
  have hchars : string.chars.takeWhile (· ≠ 0) = string.chars :=
    congrArg CString.chars string.scan_chars
  rw [strncpy, hchars]

theorem length_strncpy (string : List UInt8) (capacity : Nat) :
    (strncpy string capacity).length = capacity := by
  simp [strncpy]

/-- What the host finds afterwards. -/
structure UriResult where
  result : Int32
  uri : Option (List UInt8)
  wasFileUri : Bool
  deriving DecidableEq

/-- `if (uri[result] == 0) ++result;`: complain about a length without the
    terminator, but also try to fix it. -/
def fixResult (uri : List UInt8) (result : Int32) : Except UriFault Int32 := do
  if (← charAt uri result.toUInt32.toNat) = 0 then
    if result = Int32.maxValue then .error .overflow else .ok (result + 1)
  else .ok result

/-- The end of `webview_get_uri`, which strips all but one leading `/` of the path
    in a `file:` URI. -/
def stripFileUri (uriCapacity : Nat) (uri : List UInt8) (result : Int32) :
    Except UriFault UriResult := do
  if ← startsWithFile uri then
    let path ← skipSlashes (uri.drop 5) 5
    let pathStr ← stringOfRange uri path (result - 1).toUInt32.toNat
    .ok ⟨Int32.ofNat (pathStr.length + 1), some (strncpy pathStr uriCapacity), true⟩
  else .ok ⟨result, some uri, false⟩

/-- `Plugin::webview_get_uri`, after the guest has left `array` in the array it was
    given and returned `result`. -/
def webview_get_uri {uriCapacity : UInt32} (wasFileUri : Bool)
    (uri : Option (Vector UInt8 uriCapacity.toNat)) (array : Vector UInt8 uriCapacity.toNat)
    (result : Int32) : Except UriFault UriResult :=
  if result ≤ 0 ∨ result.toUInt32 > uriCapacity then
    .ok ⟨result, uri.map Vector.toList, wasFileUri⟩
  else
    match uri with
    | none => .error .nullDereference
    | some _ => do
      let result ← fixResult array.toList result
      stripFileUri uriCapacity.toNat array.toList result

end WclapBridge.Native
