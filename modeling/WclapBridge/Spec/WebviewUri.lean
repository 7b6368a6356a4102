import Mathlib.Algebra.Group.Nat.Defs
import Mathlib.Data.List.TakeWhile
import WclapBridge.Native.Webview

/-!
# The buffer of the webview address

`webview_get_uri` works on a buffer whose contents, and whose reported length,
come from the guest. It looks at the byte after the reported length, at the
first five bytes, and at as many slashes as follow. We characterise when all of
this happens inside the buffer, and when the address comes out right.

## Key results

- `webview_get_uri_eq`: what the method computes, fault by fault
- `uriStaysInBuffer_iff`: exactly when it does not fault
- `uriLaw_iff`: exactly when it returns the address of the guest
-/

namespace WclapBridge.Spec

open WclapBridge.Native

/-! ## Result codes -/

/-- A result code that is not rejected is what its bits say. -/
private theorem toNat_toUInt32 {result : Int32} (h : ¬ result ≤ 0) :
    (result.toUInt32.toNat : Int) = result.toInt := by
  have hpos : ¬ result.toBitVec.toInt ≤ 0 := fun hle => h (Int32.le_iff_toInt_le.mpr hle)
  change (result.toBitVec.toNat : Int) = result.toBitVec.toInt
  rw [BitVec.toInt_eq_toNat_cond] at hpos ⊢
  split at hpos <;> omega

private theorem toNat_pos {result : Int32} (h : ¬ result ≤ 0) : 0 < result.toUInt32.toNat := by
  have hpos : ¬ result.toInt ≤ 0 := fun hle => h (Int32.le_iff_toInt_le.mpr hle)
  have := toNat_toUInt32 h
  omega

private theorem toNat_sub_one {result : Int32} (h : ¬ result ≤ 0) :
    (result - 1).toUInt32.toNat = result.toUInt32.toNat - 1 := by
  have hpos := toNat_pos h
  change (result.toUInt32 - 1).toNat = _
  rw [UInt32.toNat_sub_of_le]
  · rfl
  · rw [UInt32.le_iff_toNat_le]
    exact hpos

private theorem toNat_ofNat_sub_one {length : Nat} (hpos : 0 < length) (hlt : length < 2 ^ 31) :
    (Int32.ofNat length - 1).toUInt32.toNat = length - 1 := by
  have hnot : ¬ Int32.ofNat length ≤ 0 := by
    rw [Int32.le_iff_toInt_le, Int32.toInt_ofNat_of_lt hlt]
    change ¬ (length : Int) ≤ 0
    omega
  rw [toNat_sub_one hnot]
  change (UInt32.ofNat length).toNat - 1 = _
  rw [UInt32.toNat_ofNat_of_lt' (Nat.lt_trans hlt (by decide))]

private theorem eq_maxValue_iff {result : Int32} (h : ¬ result ≤ 0) :
    result = Int32.maxValue ↔ ¬ result.toUInt32.toNat + 1 < 2 ^ 31 := by
  have htoInt := toNat_toUInt32 h
  have hlt := result.toInt_lt
  constructor
  · intro heq
    subst heq
    decide
  · intro hmax
    have hvalue : Int32.maxValue.toInt = 2147483647 := by decide
    apply Int32.toInt_inj.mp
    omega

/-! ## Runs of slashes -/

/-- The slashes at the start. -/
def slashRun (chars : List UInt8) : Nat := (chars.takeWhile (· = slash)).length

theorem slashRun_le (chars : List UInt8) : slashRun chars ≤ chars.length :=
  (List.takeWhile_sublist _).length_le

@[simp] theorem slashRun_cons_slash (rest : List UInt8) :
    slashRun (slash :: rest) = slashRun rest + 1 := by
  simp [slashRun]

theorem slashRun_cons_of_ne {c : UInt8} (h : c ≠ slash) (rest : List UInt8) :
    slashRun (c :: rest) = 0 := by
  simp [slashRun, h]

/-- The loop keeps the last slash of the run, if another character ends the run. -/
theorem skipSlashes_eq (chars : List UInt8) (path : Nat) :
    skipSlashes chars path =
      if slashRun chars < chars.length then .ok (path + (slashRun chars - 1))
      else .error (.outOfBounds (path + chars.length)) := by
  induction chars generalizing path with
  | nil => rfl
  | cons c rest ih =>
    by_cases hc : c = slash
    · subst hc
      cases rest with
      | nil => rfl
      | cons d rest =>
        by_cases hd : d = slash
        · -- two slashes: the loop goes on behind the first
          subst hd
          have hstep : skipSlashes (slash :: slash :: rest) path =
              skipSlashes (slash :: rest) (path + 1) := by
            simp [skipSlashes]
          rw [hstep, ih]
          simp only [slashRun_cons_slash, List.length_cons, Nat.add_lt_add_iff_right,
            Nat.add_sub_cancel]
          split
          next => rw [Nat.add_right_comm, Nat.add_assoc]
          next => rw [Nat.add_right_comm, Nat.add_assoc]
        · -- a slash alone stays
          simp [skipSlashes, hd, slashRun_cons_of_ne hd]
    · simp [skipSlashes, hc, slashRun_cons_of_ne hc]

/-! ## What the method computes -/

section

variable {uriCapacity : UInt32} (array : Vector UInt8 uriCapacity.toNat) (result : Int32)

/-- The length with the terminator: one more if the byte after it is NUL. -/
def terminatedLength : Nat :=
  result.toUInt32.toNat + if array[result.toUInt32.toNat]? = some 0 then 1 else 0

/-- The start of the path: the last of the slashes after the scheme. -/
def pathStart : Nat := 5 + (slashRun (array.toList.drop 5) - 1)

/-- The path in the URI, without the byte that should be the terminator. -/
def strippedPath : List UInt8 :=
  (array.toList.drop (pathStart array)).take
    (terminatedLength array result - 1 - pathStart array)

private theorem stringOfRange_eq (hpos : 0 < terminatedLength array result)
    (hle : terminatedLength array result ≤ uriCapacity.toNat) :
    stringOfRange array.toList (pathStart array) (terminatedLength array result - 1) =
      if pathStart array < terminatedLength array result then .ok (strippedPath array result)
      else .error .reversedRange := by
  have hsize : array.toList.length = uriCapacity.toNat := array.length_toList
  have hnot : ¬ uriCapacity.toNat < terminatedLength array result - 1 := by omega
  rw [stringOfRange, hsize, if_neg hnot]
  by_cases hrange : pathStart array < terminatedLength array result
  · rw [if_neg (by omega), if_pos hrange]
    rfl
  · rw [if_pos (by omega), if_neg hrange]

/-- What the method does once the result is fixed. -/
private theorem stripFileUri_eq {fixed : Int32}
    (hend : (fixed - 1).toUInt32.toNat = terminatedLength array result - 1)
    (hpos : 0 < terminatedLength array result)
    (hle : terminatedLength array result ≤ uriCapacity.toNat) :
    stripFileUri uriCapacity.toNat array.toList fixed =
      if uriCapacity.toNat < 5 then .error (.outOfBounds uriCapacity.toNat)
      else if array.toList.take 5 = fileScheme then
        if slashRun (array.toList.drop 5) < uriCapacity.toNat - 5 then
          if pathStart array < terminatedLength array result then
            .ok ⟨Int32.ofNat ((strippedPath array result).length + 1),
              some (strncpy (strippedPath array result) uriCapacity.toNat), true⟩
          else .error .reversedRange
        else .error (.outOfBounds (5 + (uriCapacity.toNat - 5)))
      else .ok ⟨fixed, some array.toList, false⟩ := by
  have hsize : array.toList.length = uriCapacity.toNat := array.length_toList
  unfold stripFileUri startsWithFile
  rw [hsize]
  split
  next => rfl
  next =>
    by_cases hfile : array.toList.take 5 = fileScheme
    · simp only [hfile, decide_true, if_true, skipSlashes_eq, List.length_drop, hsize]
      -- the slashes end inside the buffer, or the loop leaves it
      split
      next =>
        have hstart : 5 + (slashRun (array.toList.drop 5) - 1) = pathStart array := rfl
        simp only [hstart, hend, bind, Except.bind, stringOfRange_eq array result hpos hle, if_true]
        by_cases hrange : pathStart array < terminatedLength array result
        · rw [if_pos hrange, if_pos hrange]
        · rw [if_neg hrange, if_neg hrange]
      next => rfl
    · simp only [hfile, decide_false, if_false]
      rfl

private theorem fixResult_eq (hpos : ¬ result ≤ 0) :
    fixResult array.toList result =
      if uriCapacity.toNat ≤ result.toUInt32.toNat then
        .error (.outOfBounds result.toUInt32.toNat)
      else if array[result.toUInt32.toNat]? = some 0 ∧ ¬ result.toUInt32.toNat + 1 < 2 ^ 31 then
        .error .overflow
      else .ok (Int32.ofNat (terminatedLength array result)) := by
  have hofNat : Int32.ofNat result.toUInt32.toNat = result := by
    apply Int32.toInt_inj.mp
    have htoInt := toNat_toUInt32 hpos
    have hlt := result.toInt_lt
    rw [Int32.toInt_ofNat_of_lt (by omega), htoInt]
  unfold fixResult charAt terminatedLength
  rw [Vector.getElem?_toList]
  by_cases hlt : result.toUInt32.toNat < uriCapacity.toNat
  · rw [if_neg (Nat.not_le.mpr hlt), Vector.getElem?_eq_getElem hlt]
    simp only [bind, Except.bind, Option.some.injEq]
    by_cases hzero : array[result.toUInt32.toNat] = 0
    · have hsucc : Int32.ofNat (result.toUInt32.toNat + 1) = result + 1 := by
        rw [Int32.ofNat_add, hofNat]
        rfl
      simp only [hzero, eq_maxValue_iff hpos, true_and, if_true, hsucc]
    · simp only [hzero, false_and, if_false, Nat.add_zero, hofNat]
  · rw [if_pos (Nat.not_lt.mp hlt), Vector.getElem?_eq_none (Nat.not_lt.mp hlt)]
    rfl

/-- A result that the method does not reject is fixed, and either it stands or the
    path of a `file:` URI replaces the address. Each step has its own fault. -/
theorem webview_get_uri_eq (wasFileUri : Bool) (uri : Vector UInt8 uriCapacity.toNat)
    (hpos : ¬ result ≤ 0) (hcap : ¬ result.toUInt32 > uriCapacity) :
    webview_get_uri wasFileUri (some uri) array result =
      if uriCapacity.toNat ≤ result.toUInt32.toNat then
        .error (.outOfBounds result.toUInt32.toNat)
      else if array[result.toUInt32.toNat]? = some 0 ∧ ¬ result.toUInt32.toNat + 1 < 2 ^ 31 then
        .error .overflow
      else if uriCapacity.toNat < 5 then .error (.outOfBounds uriCapacity.toNat)
      else if array.toList.take 5 = fileScheme then
        if slashRun (array.toList.drop 5) < uriCapacity.toNat - 5 then
          if pathStart array < terminatedLength array result then
            .ok ⟨Int32.ofNat ((strippedPath array result).length + 1),
              some (strncpy (strippedPath array result) uriCapacity.toNat), true⟩
          else .error .reversedRange
        else .error (.outOfBounds (5 + (uriCapacity.toNat - 5)))
      else .ok ⟨Int32.ofNat (terminatedLength array result), some array.toList, false⟩ := by
  have hguard : ¬ (result ≤ 0 ∨ result.toUInt32 > uriCapacity) :=
    fun h => h.elim hpos hcap
  rw [webview_get_uri, if_neg hguard]
  simp only [fixResult_eq array result hpos]
  by_cases hlt : result.toUInt32.toNat < uriCapacity.toNat
  · rw [if_neg (Nat.not_le.mpr hlt), if_neg (Nat.not_le.mpr hlt)]
    by_cases hoverflow : array[result.toUInt32.toNat]? = some 0 ∧
        ¬ result.toUInt32.toNat + 1 < 2 ^ 31
    · rw [if_pos hoverflow, if_pos hoverflow]
      rfl
    · rw [if_neg hoverflow, if_neg hoverflow]
      have hlength : 0 < terminatedLength array result :=
        Nat.lt_of_lt_of_le (toNat_pos hpos) (Nat.le_add_right _ _)
      have hbounds : terminatedLength array result ≤ uriCapacity.toNat ∧
          terminatedLength array result < 2 ^ 31 := by
        have htoInt := toNat_toUInt32 hpos
        have hmax := result.toInt_lt
        unfold terminatedLength
        split
        next hzero =>
          have hsucc : result.toUInt32.toNat + 1 < 2 ^ 31 :=
            not_not.mp fun h => hoverflow ⟨hzero, h⟩
          omega
        next => omega
      -- what is left is the second half of the method, for the fixed result
      have hend := toNat_ofNat_sub_one hlength hbounds.2
      exact stripFileUri_eq array result hend hlength hbounds.1
  · rw [if_pos (Nat.not_lt.mp hlt), if_pos (Nat.not_lt.mp hlt)]
    rfl

end

/-! ## Accesses to the buffer -/

section

variable {uriCapacity : UInt32}

/-- The method ends without a fault, and all it leaves is a buffer of the same size. -/
def UriStaysInBuffer (wasFileUri : Bool) (uri : Option (Vector UInt8 uriCapacity.toNat))
    (array : Vector UInt8 uriCapacity.toNat) (result : Int32) : Prop :=
  ∃ out, webview_get_uri wasFileUri uri array result = .ok out ∧
    out.uri.map List.length = uri.map fun _ => uriCapacity.toNat

/-- The host's buffer and the guest's answer fit together. -/
structure UriReadable (uri : Option (Vector UInt8 uriCapacity.toNat))
    (array : Vector UInt8 uriCapacity.toNat) (result : Int32) : Prop where
  buffer : uri.isSome = true
  /-- The byte after the reported length is in the buffer. -/
  probe : result.toUInt32.toNat < uriCapacity.toNat
  /-- There is a result code for the fixed length. -/
  fixed : array[result.toUInt32.toNat]? = some 0 → result.toUInt32.toNat + 1 < 2 ^ 31
  /-- `file:` fits into the buffer. -/
  scheme : 5 ≤ uriCapacity.toNat
  /-- The slashes after `file:` end in the buffer. -/
  slashes : array.toList.take 5 = fileScheme →
    slashRun (array.toList.drop 5) < uriCapacity.toNat - 5
  /-- `file:`, and all of these slashes but one, are in the reported length. -/
  path : array.toList.take 5 = fileScheme → pathStart array < terminatedLength array result

theorem uriStaysInBuffer_of_readable {wasFileUri : Bool}
    {uri : Option (Vector UInt8 uriCapacity.toNat)} {array : Vector UInt8 uriCapacity.toNat}
    {result : Int32} (hpos : ¬ result ≤ 0) (hcap : ¬ result.toUInt32 > uriCapacity)
    (h : UriReadable uri array result) : UriStaysInBuffer wasFileUri uri array result := by
  obtain ⟨buffer, hbuffer⟩ := Option.isSome_iff_exists.mp h.buffer
  subst hbuffer
  have hfixed : ¬ (array[result.toUInt32.toNat]? = some 0 ∧
      ¬ result.toUInt32.toNat + 1 < 2 ^ 31) := fun hover => hover.2 (h.fixed hover.1)
  have heq := webview_get_uri_eq array result wasFileUri buffer hpos hcap
  rw [if_neg (Nat.not_le.mpr h.probe), if_neg hfixed, if_neg (Nat.not_lt.mpr h.scheme)] at heq
  by_cases hfile : array.toList.take 5 = fileScheme
  · rw [if_pos hfile, if_pos (h.slashes hfile), if_pos (h.path hfile)] at heq
    exact ⟨_, heq, congrArg some (length_strncpy _ _)⟩
  · rw [if_neg hfile] at heq
    exact ⟨_, heq, congrArg some array.length_toList⟩

theorem uriReadable_of_ok {wasFileUri : Bool}
    {uri : Option (Vector UInt8 uriCapacity.toNat)} {array : Vector UInt8 uriCapacity.toNat}
    {result : Int32} {out : UriResult} (hpos : ¬ result ≤ 0)
    (hcap : ¬ result.toUInt32 > uriCapacity)
    (hout : webview_get_uri wasFileUri uri array result = .ok out) :
    UriReadable uri array result := by
  cases uri with
  | none =>
    have hguard : ¬ (result ≤ 0 ∨ result.toUInt32 > uriCapacity) :=
      fun h => h.elim hpos hcap
    rw [webview_get_uri, if_neg hguard] at hout
    cases hout
  | some buffer =>
    rw [webview_get_uri_eq array result wasFileUri buffer hpos hcap] at hout
    -- every branch but two is a fault
    split at hout
    next => cases hout
    next hprobe =>
    split at hout
    next => cases hout
    next hfixed =>
    split at hout
    next => cases hout
    next hscheme =>
    refine ⟨rfl, Nat.not_le.mp hprobe, fun hzero => ?_, Nat.not_lt.mp hscheme, ?_, ?_⟩
    · exact not_not.mp fun h => hfixed ⟨hzero, h⟩
    · intro hfile
      rw [if_pos hfile] at hout
      split at hout
      next hslashes => exact hslashes
      next => cases hout
    · intro hfile
      rw [if_pos hfile] at hout
      split at hout
      next =>
        split at hout
        next hpath => exact hpath
        next => cases hout
      next => cases hout

/-- The method stays in its buffer if and only if the result is rejected, or fits to
    the buffer. -/
theorem uriStaysInBuffer_iff (wasFileUri : Bool) (uri : Option (Vector UInt8 uriCapacity.toNat))
    (array : Vector UInt8 uriCapacity.toNat) (result : Int32) :
    UriStaysInBuffer wasFileUri uri array result ↔
      result ≤ 0 ∨ result.toUInt32 > uriCapacity ∨ UriReadable uri array result := by
  by_cases hguard : result ≤ 0 ∨ result.toUInt32 > uriCapacity
  · have hbuffer : (uri.map Vector.toList).map List.length =
        uri.map fun _ => uriCapacity.toNat := by
      cases uri with
      | none => rfl
      | some buffer => exact congrArg some buffer.length_toList
    have hstays : UriStaysInBuffer wasFileUri uri array result :=
      ⟨_, if_pos hguard, hbuffer⟩
    exact iff_of_true hstays (hguard.imp_right .inl)
  · obtain ⟨hpos, hcap⟩ := not_or.mp hguard
    constructor
    · rintro ⟨out, hout, -⟩
      exact .inr (.inr (uriReadable_of_ok hpos hcap hout))
    · rintro (hle | hgt | hreadable)
      · exact absurd hle hpos
      · exact absurd hgt hcap
      · exact uriStaysInBuffer_of_readable hpos hcap hreadable

/-- A host without a buffer faults when the guest reports the length of its address. -/
theorem null_uri_read :
    ¬ @UriStaysInBuffer 8 false none (Vector.replicate 8 0) 1 := by
  rintro ⟨out, hout, -⟩
  cases hout

/-! ## The address -/

/-- A leading run of slashes becomes one slash. -/
def collapseSlashes : List UInt8 → List UInt8
  | [] => []
  | c :: rest => if c = slash then slash :: rest.dropWhile (· = slash) else c :: rest

/-- The address the host should get for a URI: the path of a `file:` URI. -/
def hostUri (string : List UInt8) : List UInt8 :=
  if string.take 5 = fileScheme then collapseSlashes (string.drop 5) else string

/-- The method leaves the address in the buffer, with its terminator, and returns the
    length of both. -/
def UriLaw (string : List UInt8) (wasFileUri : Bool) (uri array : Vector UInt8 uriCapacity.toNat)
    (result : Int32) : Prop :=
  ∃ out more, webview_get_uri wasFileUri (some uri) array result = .ok out ∧
    out.result.toInt = (hostUri string).length + 1 ∧
    out.uri = some (hostUri string ++ 0 :: more) ∧
    out.wasFileUri = decide (string.take 5 = fileScheme)

theorem collapseSlashes_eq (path : List UInt8) :
    collapseSlashes path = path.drop (slashRun path - 1) := by
  cases path with
  | nil => rfl
  | cons c rest =>
    by_cases hc : c = slash
    · subst hc
      rw [slashRun_cons_slash, Nat.add_sub_cancel]
      simp only [collapseSlashes, if_true]
      induction rest with
      | nil => rfl
      | cons d rest ih =>
        by_cases hd : d = slash
        · subst hd
          rw [slashRun_cons_slash, List.drop_succ_cons, ← ih]
          simp
        · rw [slashRun_cons_of_ne hd]
          simp [hd]
    · simp [collapseSlashes, hc, slashRun_cons_of_ne hc]

theorem slashRun_append_nul (path rest : List UInt8) :
    slashRun (path ++ 0 :: rest) = slashRun path := by
  induction path with
  | nil => exact slashRun_cons_of_ne (by decide) rest
  | cons c path ih =>
    by_cases hc : c = slash
    · subst hc
      simp [ih]
    · rw [List.cons_append, slashRun_cons_of_ne hc, slashRun_cons_of_ne hc]

private theorem five_le_length {string : List UInt8} (h : string.take 5 = fileScheme) :
    5 ≤ string.length := by
  have hlength := congrArg List.length h
  rw [List.length_take] at hlength
  have hscheme : fileScheme.length = 5 := rfl
  omega

/-- A string starts with the scheme if the buffer does: the scheme has no NUL. -/
theorem take_scheme_append_nul (string rest : List UInt8) :
    (string ++ 0 :: rest).take 5 = fileScheme ↔ string.take 5 = fileScheme := by
  rcases Nat.lt_or_ge string.length 5 with hshort | hlong
  · have hmem : (0 : UInt8) ∈ (string ++ 0 :: rest).take 5 := by
      rw [List.take_append, List.mem_append]
      right
      obtain ⟨n, hn⟩ : ∃ n, 5 - string.length = n + 1 := ⟨4 - string.length, by omega⟩
      rw [hn, List.take_succ_cons]
      exact List.mem_cons_self
    constructor
    · intro h
      rw [h] at hmem
      exact absurd hmem (by decide)
    · intro h
      exact absurd (five_le_length h) (Nat.not_le.mpr hshort)
  · rw [List.take_append_of_le_length hlong]

theorem strncpy_of_length_lt {string : List UInt8} {capacity : Nat} (hnul : 0 ∉ string)
    (h : string.length < capacity) :
    ∃ more, strncpy string capacity = string ++ 0 :: more := by
  have htake : string.takeWhile (· ≠ 0) = string := by
    rw [List.takeWhile_eq_self_iff]
    intro c hc
    have hne : c ≠ 0 := fun h => hnul (h ▸ hc)
    simpa using hne
  obtain ⟨n, hn⟩ : ∃ n, capacity - string.length = n + 1 := ⟨capacity - string.length - 1, by omega⟩
  refine ⟨List.replicate n 0, ?_⟩
  rw [strncpy, htake, List.take_append, List.take_of_length_le (by omega), hn,
    List.take_replicate, Nat.min_eq_left (by omega), List.replicate_succ]

variable {string rest : List UInt8} {wasFileUri : Bool}
  {uri array : Vector UInt8 uriCapacity.toNat} {result : Int32}

/-- In a buffer that starts with a URI, the path is at the same place as in the URI. -/
private theorem hostUri_eq (harray : array.toList = string ++ 0 :: rest) :
    hostUri string =
      string.drop (if string.take 5 = fileScheme then pathStart array else 0) := by
  unfold hostUri
  split
  next hfile =>
    rw [collapseSlashes_eq, List.drop_drop, pathStart, harray,
      List.drop_append_of_le_length (five_le_length hfile), slashRun_append_nul]
  next => rfl

private theorem pathStart_le (harray : array.toList = string ++ 0 :: rest)
    (hfile : string.take 5 = fileScheme) : pathStart array ≤ string.length := by
  have hlong := five_le_length hfile
  have hrun := slashRun_le (string.drop 5)
  rw [List.length_drop] at hrun
  rw [pathStart, harray, List.drop_append_of_le_length hlong, slashRun_append_nul]
  omega

/-- What the method makes of a URI when it takes the terminator to be at `length`. -/
private theorem webview_get_uri_string (harray : array.toList = string ++ 0 :: rest)
    (hcap : string.length + 1 < uriCapacity.toNat)
    (hpos : ¬ result ≤ 0) (hprobe : result.toUInt32.toNat < uriCapacity.toNat)
    (hfixed : array[result.toUInt32.toNat]? = some 0 → result.toUInt32.toNat + 1 < 2 ^ 31)
    (hscheme : 5 ≤ uriCapacity.toNat) (hlength : string.length < terminatedLength array result) :
    webview_get_uri wasFileUri (some uri) array result =
      if string.take 5 = fileScheme then
        .ok ⟨Int32.ofNat ((strippedPath array result).length + 1),
          some (strncpy (strippedPath array result) uriCapacity.toNat), true⟩
      else .ok ⟨Int32.ofNat (terminatedLength array result), some array.toList, false⟩ := by
  have hguard : ¬ result.toUInt32 > uriCapacity := by
    intro h
    have hlt := UInt32.lt_iff_toNat_lt.mp h
    omega
  have hover : ¬ (array[result.toUInt32.toNat]? = some 0 ∧
      ¬ result.toUInt32.toNat + 1 < 2 ^ 31) := fun hover => hover.2 (hfixed hover.1)
  have htake : array.toList.take 5 = fileScheme ↔ string.take 5 = fileScheme := by
    rw [harray, take_scheme_append_nul]
  rw [webview_get_uri_eq array result wasFileUri uri hpos hguard, if_neg (Nat.not_le.mpr hprobe),
    if_neg hover, if_neg (Nat.not_lt.mpr hscheme)]
  simp only [htake]
  by_cases hfile : string.take 5 = fileScheme
  · have hstart := pathStart_le harray hfile
    have hslashes : slashRun (array.toList.drop 5) < uriCapacity.toNat - 5 := by
      rw [pathStart] at hstart
      omega
    rw [if_pos hfile, if_pos hfile, if_pos hslashes,
      if_pos (Nat.lt_of_le_of_lt hstart hlength)]
  · rw [if_neg hfile, if_neg hfile]

/-- The address comes out right if the result is fixed to the length with the
    terminator. -/
private theorem uriLaw_of_terminated (hnul : 0 ∉ string)
    (harray : array.toList = string ++ 0 :: rest)
    (hcap : string.length + 1 < uriCapacity.toNat)
    (hpos : ¬ result ≤ 0) (hprobe : result.toUInt32.toNat < uriCapacity.toNat)
    (hfixed : array[result.toUInt32.toNat]? = some 0 → result.toUInt32.toNat + 1 < 2 ^ 31)
    (hscheme : 5 ≤ uriCapacity.toNat)
    (hlength : terminatedLength array result = string.length + 1)
    (hlt : string.length + 1 < 2 ^ 31) :
    UriLaw string wasFileUri uri array result := by
  have heq : webview_get_uri wasFileUri (some uri) array result = _ :=
    webview_get_uri_string harray hcap hpos hprobe hfixed hscheme (by omega)
  have hhost := hostUri_eq harray
  by_cases hfile : string.take 5 = fileScheme
  · rw [if_pos hfile] at heq hhost
    have hpath : strippedPath array result = hostUri string := by
      rw [hhost, strippedPath, hlength, harray,
        List.drop_append_of_le_length (pathStart_le harray hfile), Nat.add_sub_cancel,
        ← List.length_drop, List.take_left]
    have hshort : (hostUri string).length ≤ string.length := by
      rw [hhost, List.length_drop]
      exact Nat.sub_le _ _
    have hmem : 0 ∉ hostUri string := fun h => hnul (List.mem_of_mem_drop (hhost ▸ h))
    obtain ⟨more, hmore⟩ := strncpy_of_length_lt hmem (by omega : _ < uriCapacity.toNat)
    rw [hpath] at heq
    refine ⟨_, more, heq, ?_, congrArg some hmore, ?_⟩
    · exact Int32.toInt_ofNat_of_lt (by omega)
    · rw [hfile, decide_eq_true rfl]
  · rw [if_neg hfile] at heq hhost
    refine ⟨_, rest, heq, ?_, ?_, ?_⟩
    · rw [hhost, List.drop_zero]
      exact hlength ▸ Int32.toInt_ofNat_of_lt (hlength ▸ hlt)
    · rw [hhost, List.drop_zero, harray]
    · exact (decide_eq_false hfile).symm

/-- It comes out wrong if the result is fixed to one more: the terminator is taken
    for a part of the address. -/
private theorem not_uriLaw_of_longer (harray : array.toList = string ++ 0 :: rest)
    (hcap : string.length + 1 < uriCapacity.toNat)
    (hpos : ¬ result ≤ 0) (hprobe : result.toUInt32.toNat < uriCapacity.toNat)
    (hfixed : array[result.toUInt32.toNat]? = some 0 → result.toUInt32.toNat + 1 < 2 ^ 31)
    (hscheme : 5 ≤ uriCapacity.toNat)
    (hlength : terminatedLength array result = string.length + 2)
    (hlt : string.length + 2 < 2 ^ 31) :
    ¬ UriLaw string wasFileUri uri array result := by
  rintro ⟨out, more, hout, hresult, -⟩
  rw [webview_get_uri_string harray hcap hpos hprobe hfixed hscheme (by omega)] at hout
  have hhost := congrArg List.length (hostUri_eq harray)
  rw [List.length_drop] at hhost
  by_cases hfile : string.take 5 = fileScheme
  · have hstart := pathStart_le harray hfile
    have hsize : array.toList.length = uriCapacity.toNat := array.length_toList
    rw [if_pos hfile] at hout hhost
    cases hout
    have hstripped : (strippedPath array result).length = string.length + 1 - pathStart array := by
      rw [strippedPath, hlength, List.length_take, List.length_drop, hsize]
      omega
    have htoInt := Int32.toInt_ofNat_of_lt
      (by omega : (strippedPath array result).length + 1 < 2 ^ 31)
    dsimp only at hresult
    omega
  · rw [if_neg hfile] at hout hhost
    cases hout
    have htoInt := Int32.toInt_ofNat_of_lt (by omega : terminatedLength array result < 2 ^ 31)
    dsimp only at hresult
    omega

/-- Where the address ends. -/
private theorem getElem?_terminator (harray : array.toList = string ++ 0 :: rest) :
    array[string.length]? = some 0 := by
  rw [← Vector.getElem?_toList, harray, List.getElem?_append_right (Nat.le_refl _), Nat.sub_self]
  rfl

/-- What is behind the address. -/
private theorem getElem?_behind (harray : array.toList = string ++ 0 :: rest) :
    array[string.length + 1]? = rest.head? := by
  rw [← Vector.getElem?_toList, harray, List.getElem?_append_right (Nat.le_succ _),
    Nat.succ_sub (Nat.le_refl _), Nat.sub_self, List.getElem?_cons_succ, List.head?_eq_getElem?]

/-- A result that is rejected is not a length with the terminator. -/
private theorem not_uriLaw_of_rejected (hpos : result ≤ 0) :
    ¬ UriLaw string wasFileUri uri array result := by
  rintro ⟨out, more, hout, hlength, -⟩
  have hle : result.toInt ≤ 0 := Int32.le_iff_toInt_le.mp hpos
  rw [webview_get_uri, if_pos (.inl hpos)] at hout
  cases hout
  dsimp only at hlength
  omega

/-- The address comes out right if and only if the buffer is long enough to look for
    `file:`, a guest that does not count the terminator has a nonempty address whose
    counted length is a result code, and one that counts it has not left another NUL
    behind it. -/
theorem uriLaw_iff (hnul : 0 ∉ string) (harray : array.toList = string ++ 0 :: rest)
    (hcap : string.length + 1 < uriCapacity.toNat)
    (hresult : result.toInt = string.length ∨ result.toInt = string.length + 1) :
    UriLaw string wasFileUri uri array result ↔
      5 ≤ uriCapacity.toNat ∧
      (result.toInt = string.length → string ≠ [] ∧ string.length + 1 < 2 ^ 31) ∧
      (result.toInt = string.length + 1 → rest.head? ≠ some 0) := by
  by_cases hpos : result ≤ 0
  · -- an empty address without its terminator
    have hle : result.toInt ≤ 0 := Int32.le_iff_toInt_le.mp hpos
    have hempty : string.length = 0 := by omega
    have hzero : result.toInt = string.length := by omega
    exact iff_of_false (not_uriLaw_of_rejected hpos) fun h =>
      absurd (List.length_eq_zero_iff.mp hempty) (h.2.1 hzero).1
  · have htoInt := toNat_toUInt32 hpos
    have hlast := getElem?_terminator harray
    have hnext := getElem?_behind harray
    have hguard : ¬ result.toUInt32 > uriCapacity := by
      intro h
      have hlt := UInt32.lt_iff_toNat_lt.mp h
      omega
    have hprobe : result.toUInt32.toNat < uriCapacity.toNat := by omega
    have hmax := result.toInt_lt
    constructor
    · intro h
      obtain ⟨out, more, hout, -⟩ := id h
      have hread := uriReadable_of_ok hpos hguard hout
      refine ⟨hread.scheme, fun heq => ?_, fun heq hzero => ?_⟩
      · -- the terminator is where the method looks, and it counts it
        have hlength : result.toUInt32.toNat = string.length := by omega
        have hpositive := toNat_pos hpos
        have hfixed := hread.fixed
        rw [hlength] at hfixed hpositive
        exact ⟨List.length_pos_iff.mp hpositive, hfixed hlast⟩
      · -- the method takes the terminator for the last character
        have hlength : result.toUInt32.toNat = string.length + 1 := by omega
        have hterminated : terminatedLength array result = string.length + 2 := by
          rw [terminatedLength, hlength, hnext, hzero, if_pos rfl]
        have hfixed := hread.fixed
        rw [hlength, hnext] at hfixed
        exact not_uriLaw_of_longer harray hcap hpos hprobe hread.fixed hread.scheme hterminated
          (hfixed hzero) h
    · rintro ⟨hscheme, hcounted, hbehind⟩
      -- either way the length is fixed to the one with the terminator
      rcases hresult with heq | heq
      · have hlength : result.toUInt32.toNat = string.length := by omega
        have hterminated : terminatedLength array result = string.length + 1 := by
          rw [terminatedLength, hlength, hlast, if_pos rfl]
        have hsucc := (hcounted heq).2
        exact uriLaw_of_terminated hnul harray hcap hpos hprobe (fun _ => hlength ▸ hsucc) hscheme
          hterminated hsucc
      · have hlength : result.toUInt32.toNat = string.length + 1 := by omega
        have hnonzero : ¬ array[result.toUInt32.toNat]? = some 0 := by
          rw [hlength, hnext]
          exact hbehind heq
        have hterminated : terminatedLength array result = string.length + 1 := by
          rw [terminatedLength, if_neg hnonzero, hlength]
        exact uriLaw_of_terminated hnul harray hcap hpos hprobe (fun hzero => absurd hzero hnonzero)
          hscheme hterminated (by omega)

/-- The address `file://u`, reported without its terminator, in a buffer of
    twelve bytes. -/
theorem file_uri_stripped :
    UriLaw (fileScheme ++ [slash, slash, 117]) false (Vector.replicate 12 0)
      (⟨#[102, 105, 108, 101, 58, slash, slash, 117, 0, 0, 0, 0], rfl⟩ :
        Vector UInt8 (12 : UInt32).toNat) 8 :=
  (uriLaw_iff (by decide) rfl (by decide) (.inl (by decide))).mpr
    ⟨by decide, fun _ => ⟨by decide, by decide⟩, fun h => absurd h (by decide)⟩

/-- The address `u`, reported with its terminator, in a buffer of zeros. -/
theorem zero_buffer_uri_longer :
    ¬ UriLaw [117] false (Vector.replicate 8 0)
      (⟨#[117, 0, 0, 0, 0, 0, 0, 0], rfl⟩ : Vector UInt8 (8 : UInt32).toNat) 2 := by
  rintro ⟨out, more, hout, hresult, -⟩
  cases hout
  exact absurd hresult (by decide)

end

end WclapBridge.Spec
