import WclapBridge.ForStd.List
import WclapBridge.Native.Resource

/-!
# The file of a resource

The path of a resource request ends with an optional query or fragment. The code
maps the whole request to a host path and trims that, so it also trims a `?` or
`#` in the name of the host directory. We show that such directories are the
only ones whose files are not found.

## Key results

- `trimQuery_append`: trimming leaves a part without `?` and `#` as it is
- `mapPath_preopen`: requests are mapped to the directories opened for WASI
- `resourceFile_iff`: exactly when the requested file is opened
-/

namespace WclapBridge.Spec

open WclapBridge.Native LexPath

/-- A string that `trimQuery` does not shorten. -/
def NoQuery (path : List Char) : Prop := ∀ c ∈ path, ¬ (c = '?' ∨ c = '#')

/-- A plain segment: a name other than `.` and `..`, without `?` and `#`. -/
structure PlainSegment (piece : List Char) : Prop where
  name : piece ≠ [] ∧ piece ≠ ['.'] ∧ piece ≠ ['.', '.']
  noQuery : NoQuery piece

/-- A relative path of plain segments. -/
def PlainPath (path : List Char) : Prop := ∀ piece ∈ path.splitOn '/', PlainSegment piece

/-- A query, a fragment, or nothing. -/
def QuerySuffix (suffix : List Char) : Prop :=
  suffix = [] ∨ suffix.head? = some '?' ∨ suffix.head? = some '#'

/-! ## Trimming -/

theorem trimQuery_append {path : List Char} (h : NoQuery path) (rest : List Char) :
    trimQuery (path ++ rest) = path ++ trimQuery rest := by
  induction path with
  | nil => rfl
  | cons c path ih =>
    have hc : ¬ (c = '?' ∨ c = '#') := h c List.mem_cons_self
    rw [List.cons_append, trimQuery, if_neg hc, ih fun d hd => h d (List.mem_cons_of_mem _ hd)]
    rfl

theorem trimQuery_suffix {suffix : List Char} (h : QuerySuffix suffix) : trimQuery suffix = [] := by
  cases suffix with
  | nil => rfl
  | cons c rest =>
    have hc : c = '?' ∨ c = '#' := by simpa [QuerySuffix] using h
    rw [trimQuery, if_pos hc]

theorem trimQuery_noQuery (path : List Char) : NoQuery (trimQuery path) := by
  induction path with
  | nil => exact fun c hc => nomatch hc
  | cons c path ih =>
    rw [trimQuery]
    split
    next => exact fun c hc => nomatch hc
    next hc =>
      intro d hd
      rcases List.mem_cons.mp hd with rfl | hd
      · exact hc
      · exact ih d hd

/-! ## Plain paths -/

private theorem isAbsolute_append {path : List Char} (h : path ≠ []) (rest : List Char) :
    isAbsolute (path ++ rest) = isAbsolute path := by
  cases path with
  | nil => exact absurd rfl h
  | cons c path => rfl

theorem PlainPath.ne_nil {path : List Char} (h : PlainPath path) : path ≠ [] := by
  intro hnil
  subst hnil
  exact absurd rfl (h [] (List.splitOn_nil '/' ▸ List.mem_singleton_self [])).name.1

theorem PlainPath.relative {path : List Char} (h : PlainPath path) : isAbsolute path = false := by
  cases path with
  | nil => rfl
  | cons c rest =>
    by_cases hc : c = '/'
    · -- the piece before a leading slash is empty
      subst hc
      have hsplit : ([] ++ '/' :: rest).splitOn '/' = [] :: rest.splitOn '/' :=
        List.splitOn_append_cons_self_of_not_mem List.not_mem_nil rest
      have hmem : [] ∈ ('/' :: rest).splitOn '/' := by
        rw [← List.nil_append ('/' :: rest), hsplit]
        exact List.mem_cons_self
      exact absurd rfl (h [] hmem).name.1
    · simp [isAbsolute, hc]

theorem PlainPath.noQuery {path : List Char} (h : PlainPath path) : NoQuery path := by
  intro c hc
  rw [← @List.intercalate_splitOn _ path _ _ '/'] at hc
  rcases List.mem_of_mem_intercalate hc with rfl | ⟨piece, hpiece, hmem⟩
  · decide
  · exact (h piece hpiece).noQuery c hmem

/-! ## The mapped path -/

/-- A virtual directory that is apart from `guestDir` does not match below `guestDir`. -/
private theorem testConfigured_of_apart {guestDir virtualDir : List Char} (rest path : List Char)
    (dir : Option (List Char)) (h : ¬ virtualDir <+: guestDir) (h' : ¬ guestDir <+: virtualDir) :
    testConfigured (guestDir ++ rest) path dir virtualDir = none := by
  cases dir with
  | none => rfl
  | some dir =>
    have hne : ¬ (guestDir ++ rest).take virtualDir.length = virtualDir := by
      intro htake
      have hprefix : virtualDir <+: guestDir ++ rest := htake ▸ List.take_prefix _ _
      exact (List.prefix_or_prefix_of_prefix hprefix (List.prefix_append guestDir rest)).elim h h'
    simp only [testConfigured, if_neg hne]

/-- The directory itself matches, and what remains is joined to the host directory. -/
private theorem testConfigured_self (guestDir rest dir : List Char) :
    testConfigured (guestDir ++ rest) (guestDir ++ rest) (some dir) guestDir =
      some (appendPath dir rest) := by
  rw [testConfigured, List.take_left, List.drop_left, if_pos rfl]

theorem mem_wasiPreopens {dirs : ConfiguredDirs} {dir guestDir : List Char} :
    (dir, guestDir) ∈ dirs.wasiPreopens ↔
      (dirs.wclapDir = some dir ∧ guestDir = "/plugin.wclap/".toList) ∨
      (dirs.presetDir = some dir ∧ guestDir = "/presets/".toList) ∨
      (dirs.cacheDir = some dir ∧ guestDir = "/cache/".toList) ∨
      (dirs.varDir = some dir ∧ guestDir = "/var/".toList) := by
  simp only [ConfiguredDirs.wasiPreopens, List.mem_append, Option.mem_toList,
    Option.map_eq_some_iff, Prod.mk.injEq, or_assoc, ← and_assoc, exists_and_right,
    exists_eq_right, eq_comm (a := guestDir)]

/-- A request below a directory that is open for WASI is mapped into it. -/
theorem mapPath_preopen {dirs : ConfiguredDirs} {dir guestDir : List Char}
    (h : (dir, guestDir) ∈ dirs.wasiPreopens) (cwd rest : List Char) :
    dirs.mapPath cwd (guestDir ++ rest) = some (appendPath dir rest) := by
  have hstart : guestDir ≠ [] ∧ isAbsolute guestDir = true := by
    obtain ⟨-, rfl⟩ | ⟨-, rfl⟩ | ⟨-, rfl⟩ | ⟨-, rfl⟩ := mem_wasiPreopens.mp h <;> decide
  have habsolute : absolutePath cwd (guestDir ++ rest) = guestDir ++ rest := by
    rw [absolutePath, isAbsolute_append hstart.1, hstart.2, if_pos rfl]
  simp only [ConfiguredDirs.mapPath, ConfiguredDirs.prefixes, List.findSome?_cons, habsolute]
  obtain ⟨hdir, rfl⟩ | ⟨hdir, rfl⟩ | ⟨hdir, rfl⟩ | ⟨hdir, rfl⟩ := mem_wasiPreopens.mp h
  · rw [hdir, testConfigured_self]
  · rw [testConfigured_of_apart rest _ dirs.wclapDir (by decide) (by decide), hdir,
      testConfigured_self]
  · rw [testConfigured_of_apart rest _ dirs.wclapDir (by decide) (by decide),
      testConfigured_of_apart rest _ dirs.presetDir (by decide) (by decide), hdir,
      testConfigured_self]
  · rw [testConfigured_of_apart rest _ dirs.wclapDir (by decide) (by decide),
      testConfigured_of_apart rest _ dirs.presetDir (by decide) (by decide),
      testConfigured_of_apart rest _ dirs.cacheDir (by decide) (by decide), hdir,
      testConfigured_self]

theorem noQuery_append {a b : List Char} : NoQuery (a ++ b) ↔ NoQuery a ∧ NoQuery b := by
  simp only [NoQuery, List.mem_append, or_imp, forall_and]

/-- Joining to a relative path keeps the name of the directory. -/
private theorem noQuery_appendPath {dir path : List Char} (hrelative : isAbsolute path = false)
    (hpath : NoQuery path) : NoQuery (appendPath dir path) ↔ NoQuery dir := by
  have hslash : NoQuery ['/'] := by
    intro c hc
    rw [List.mem_singleton.mp hc]
    decide
  unfold appendPath
  rw [if_neg (by simp [hrelative])]
  split
  next =>
    rw [← List.singleton_append, noQuery_append, noQuery_append]
    exact ⟨And.left, fun h => ⟨h, hslash, hpath⟩⟩
  next =>
    rw [noQuery_append]
    exact ⟨And.left, fun h => ⟨h, hpath⟩⟩

/-- A resource is read from the file that was asked for, whatever the query is, if and
    only if the name of the host directory has no `?` and no `#`. -/
theorem resourceFile_iff {dirs : ConfiguredDirs} {dir guestDir path suffix : List Char}
    (hdir : (dir, guestDir) ∈ dirs.wasiPreopens) (hpath : PlainPath path)
    (hsuffix : QuerySuffix suffix) (cwd : List Char) :
    dirs.resourceFile cwd (guestDir ++ path ++ suffix) = some (appendPath dir path) ↔
      NoQuery dir := by
  have hjoin : NoQuery (appendPath dir path) ↔ NoQuery dir :=
    noQuery_appendPath hpath.relative hpath.noQuery
  have hmapped : appendPath dir (path ++ suffix) = appendPath dir path ++ suffix := by
    have hrelative : isAbsolute (path ++ suffix) = false := by
      rw [isAbsolute_append hpath.ne_nil]
      exact hpath.relative
    simp only [appendPath, hrelative, hpath.relative, Bool.false_eq_true, if_false]
    split
    next => rw [List.append_assoc, List.cons_append]
    next => rw [List.append_assoc]
  rw [ConfiguredDirs.resourceFile, List.append_assoc, mapPath_preopen hdir, Option.map_some,
    Option.some_inj, hmapped]
  constructor
  · intro h
    exact hjoin.mp (h ▸ trimQuery_noQuery _)
  · intro h
    rw [trimQuery_append (hjoin.mpr h), trimQuery_suffix hsuffix, List.append_nil]

/-- A check of a concrete path. -/
theorem noQuery_of_all {path : List Char} (h : path.all (fun c => ¬ (c = '?' ∨ c = '#')) = true) :
    NoQuery path :=
  fun c hc => of_decide_eq_true (List.all_eq_true.mp h c hc)

/-- Directories with a bundle only. -/
def bundleDirs (wclapDir : String) : ConfiguredDirs := ⟨some wclapDir.toList, none, none, none⟩

/-- A resource of a bundle in a directory with a plain name. -/
theorem resource_with_query :
    (bundleDirs "/music/synth.wclap").resourceFile [] "/plugin.wclap/ui?dark".toList =
      some "/music/synth.wclap/ui".toList := by
  have hpiece : PlainSegment "ui".toList :=
    ⟨by decide, noQuery_of_all (by decide)⟩
  have hpath : PlainPath "ui".toList := by
    intro piece hmem
    rw [List.splitOn_eq_singleton (by decide)] at hmem
    exact List.mem_singleton.mp hmem ▸ hpiece
  have hdir : ("/music/synth.wclap".toList, "/plugin.wclap/".toList) ∈
      (bundleDirs "/music/synth.wclap").wasiPreopens := mem_wasiPreopens.mpr (.inl ⟨rfl, rfl⟩)
  have hsuffix : QuerySuffix "?dark".toList := .inr (.inl (by decide))
  have hname : NoQuery "/music/synth.wclap".toList := noQuery_of_all (by decide)
  exact (resourceFile_iff hdir hpath hsuffix []).mpr hname

/-- The file is not found if a directory above the bundle has a `#` in its name. -/
theorem sharp_directory_cut :
    (bundleDirs "/music/C#/synth.wclap").resourceFile [] "/plugin.wclap/ui".toList =
      some "/music/C".toList ∧
    some "/music/C".toList ≠ some (appendPath "/music/C#/synth.wclap".toList "ui".toList) := by
  decide

end WclapBridge.Spec
