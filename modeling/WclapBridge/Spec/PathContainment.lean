import WclapBridge.Native.MapPath

/-!
# Containment of virtual paths

`mapPath` strips the virtual prefix and joins what remains to the configured
host directory. Nothing removes `..` from the remainder, and a remainder that
starts with a slash replaces the host directory, so the result can lie outside
of it. We characterise the remainders for which it does not.

## Key results

- `mapPath_eq`: `mapPath` joins the host directory of the matched prefix and
  the remainder
- `mapPath_contained_iff`: exactly which remainders stay in the host directory
- `mapPath_escapes`: a virtual path that leaves the bundle directory
-/

namespace WclapBridge.Spec

open WclapBridge.Native LexPath

/-- What is left of a virtual path after one virtual directory. -/
def remainder (virtualPath : List Char) (dir : Option HostDir) (virtualDir : List Char) :
    Option (HostDir × List Char) :=
  match dir with
  | some dir =>
    if virtualPath.take virtualDir.length = virtualDir then
      some (dir, virtualPath.drop virtualDir.length)
    else none
  | none => none

/-- The host directory of the prefix that matches, and the remainder after it. -/
def matchedPrefix (dirs : GroupDirs) (virtualPath : List Char) : Option (HostDir × List Char) :=
  dirs.prefixes.findSome? fun (dir, virtualDir) => remainder virtualPath dir virtualDir

/-- A remainder whose own normal form does not lead out of the host directory:
    a relative one descends again through the directories it climbs out of (in
    particular, it never climbs above its start), and one that starts with a
    slash names a place in that directory. -/
def RemainderStays (dir : HostDir) (rest : List Char) : Prop :=
  if isAbsolute rest then Inside dir.string rest
  else
    let form := Relative.ofSegments (segments rest)
    (normal dir.string).take form.ups <:+ form.names

/-- If `mapPath` returns a path, it lies in the directory of the matched prefix. -/
def PathContained (dirs : GroupDirs) (cwd virtualPath : List Char) : Prop :=
  ∀ path, mapPath dirs cwd virtualPath = some path →
    ∃ dir rest, matchedPrefix dirs virtualPath = some (dir, rest) ∧ Inside dir.string path

/-! ## What `mapPath` computes -/

/-- A path that starts like an absolute one is absolute. -/
private theorem isAbsolute_of_take {path virtualDir : List Char} (hv : isAbsolute virtualDir = true)
    (h : path.take virtualDir.length = virtualDir) : isAbsolute path = true := by
  cases path with
  | nil =>
    rw [List.take_nil] at h
    rwa [← h] at hv
  | cons c path =>
    cases virtualDir with
    | nil => exact nomatch hv
    | cons d virtualDir =>
      rw [List.length_cons, List.take_succ_cons, List.cons.injEq] at h
      rw [isAbsolute, List.head?_cons] at hv ⊢
      rwa [h.1]

/-- `absolute` leaves a path alone whose prefix matches. -/
private theorem testPrefix_eq (cwd virtualPath : List Char) (dir : Option HostDir)
    (virtualDir : List Char) (hv : isAbsolute virtualDir = true) :
    testPrefix virtualPath (absolutePath cwd virtualPath) dir virtualDir =
      (remainder virtualPath dir virtualDir).map fun r => appendPath r.1.string r.2 := by
  cases dir with
  | none => rfl
  | some dir =>
    simp only [testPrefix, remainder]
    split
    next h =>
      rw [absolutePath, if_pos (isAbsolute_of_take hv h), Option.map_some]
    next => rfl

/-- Trying a list of virtual directories in order. -/
private theorem findSome_testPrefix (cwd virtualPath : List Char)
    (l : List (Option HostDir × List Char)) (hl : ∀ p ∈ l, isAbsolute p.2 = true) :
    (l.findSome? fun p => testPrefix virtualPath (absolutePath cwd virtualPath) p.1 p.2) =
      (l.findSome? fun p => remainder virtualPath p.1 p.2).map
        fun r => appendPath r.1.string r.2 := by
  induction l with
  | nil => rfl
  | cons p l ih =>
    -- both searches stop at the same directory
    rw [List.findSome?_cons, List.findSome?_cons, testPrefix_eq _ _ _ _ (hl p List.mem_cons_self)]
    cases remainder virtualPath p.1 p.2 with
    | none => exact ih fun q hq => hl q (List.mem_cons_of_mem p hq)
    | some r => rfl

/-- `mapPath` joins the host directory of the matched prefix and the remainder. -/
theorem mapPath_eq (dirs : GroupDirs) (cwd virtualPath : List Char) :
    mapPath dirs cwd virtualPath =
      (matchedPrefix dirs virtualPath).map fun r => appendPath r.1.string r.2 := by
  apply findSome_testPrefix cwd virtualPath dirs.prefixes
  intro p hp
  simp only [GroupDirs.prefixes, List.mem_cons, List.not_mem_nil, or_false] at hp
  rcases hp with rfl | rfl | rfl | rfl <;> rfl

/-- Joining a relative path to a directory walks on from that directory. -/
private theorem normal_appendPath (dir rest : List Char) (hd : isAbsolute dir = true)
    (hr : isAbsolute rest = false) :
    normal (appendPath dir rest) = walk (normal dir) (segments rest) := by
  rw [appendPath, if_neg (by rw [hr]; decide)]
  split
  · exact normal_append_slash dir rest
  · next hf =>
    -- no separator is added: `dir` already ends in one
    have hne : dir ≠ [] := by
      rintro rfl
      exact nomatch hd
    have hlast : dir.getLast hne = '/' := by
      simpa [hasFilename, hne, List.getLast?_eq_some_getLast hne] using hf
    rw [← List.dropLast_concat_getLast hne, hlast, List.append_assoc, List.singleton_append,
      normal_append_slash, normal_append_trailing]

/-- Where the joined path lies is decided by the remainder. -/
theorem inside_appendPath_iff (dir : HostDir) (rest : List Char) :
    Inside dir.string (appendPath dir.string rest) ↔ RemainderStays dir rest := by
  unfold RemainderStays
  split
  next h => rw [appendPath, if_pos h]
  next h =>
    rw [Inside, normal_appendPath _ _ dir.absolute (by simpa using h)]
    exact suffix_walk_iff _ _

/-- `mapPath` stays in the directory of the matched prefix exactly when the
    remainder of the virtual path does. -/
theorem mapPath_contained_iff (dirs : GroupDirs) (cwd virtualPath : List Char) :
    PathContained dirs cwd virtualPath ↔
      ∀ dir rest, matchedPrefix dirs virtualPath = some (dir, rest) → RemainderStays dir rest := by
  unfold PathContained
  rw [mapPath_eq]
  constructor
  · intro hin dir rest hm
    rw [hm, Option.map_some] at hin
    obtain ⟨dir', rest', hm', hin'⟩ := hin _ rfl
    cases hm'
    exact (inside_appendPath_iff dir rest).mp hin'
  · intro hstays path hp
    obtain ⟨⟨dir, rest⟩, hm, rfl⟩ := Option.map_eq_some_iff.mp hp
    exact ⟨dir, rest, hm, (inside_appendPath_iff dir rest).mpr (hstays dir rest hm)⟩

/-- A relative remainder that never climbs above its start is contained. -/
theorem remainderStays_of_ups_eq_zero (dir : HostDir) (rest : List Char)
    (hr : isAbsolute rest = false)
    (hups : (Relative.ofSegments (segments rest)).ups = 0) : RemainderStays dir rest := by
  rw [← inside_appendPath_iff, Inside, normal_appendPath _ _ dir.absolute hr]
  exact suffix_walk_of_ups_eq_zero _ _ hups

/-- A bundle at `/w`, and no other directories. -/
def bundleOnly : GroupDirs where
  wclapDir := some ⟨"/w".toList, by decide⟩
  presetDir := none
  cacheDir := none
  varDir := none

/-- `..` is not removed: a resource path can climb out of the bundle. -/
theorem mapPath_escapes :
    mapPath bundleOnly [] "/plugin.wclap/../etc/passwd".toList = some "/w/../etc/passwd".toList ∧
      ¬ PathContained bundleOnly [] "/plugin.wclap/../etc/passwd".toList := by
  -- what is returned is `/etc/passwd` in its normal form
  have hpath : mapPath bundleOnly [] "/plugin.wclap/../etc/passwd".toList =
      some "/w/../etc/passwd".toList := by decide
  refine ⟨hpath, fun hcontained => ?_⟩
  obtain ⟨dir, rest, hm, hin⟩ := hcontained _ hpath
  have hm' : matchedPrefix bundleOnly "/plugin.wclap/../etc/passwd".toList =
      some (⟨"/w".toList, by decide⟩, "../etc/passwd".toList) := rfl
  rw [hm', Option.some.injEq, Prod.mk.injEq] at hm
  rw [← hm.1] at hin
  exact absurd hin (by decide)

end WclapBridge.Spec
