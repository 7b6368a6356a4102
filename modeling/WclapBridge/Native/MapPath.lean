import WclapBridge.ForStd.LexPath

/-!
# Virtual paths

`InstanceGroup::mapPath`, which translates a path of the WCLAP's virtual
filesystem to a host path, with the `std::filesystem` operations it uses on a
POSIX system. Paths are `std::string`s, here lists of characters.
-/

namespace WclapBridge.Native

open LexPath

/-- `std::filesystem::path::has_filename` on POSIX. -/
def hasFilename (path : List Char) : Bool := path ≠ [] && path.getLast? != some '/'

/-- `std::filesystem::path::operator/` on POSIX: an absolute right operand
    replaces the left one. -/
def appendPath (a b : List Char) : List Char :=
  if isAbsolute b then b
  else if hasFilename a then a ++ '/' :: b
  else a ++ b

/-- `std::filesystem::absolute` on POSIX. It does not remove `..`. -/
def absolutePath (cwd path : List Char) : List Char :=
  if isAbsolute path then path else appendPath cwd path

/-- A configured host directory. -/
structure HostDir where
  string : List Char
  absolute : isAbsolute string = true

/-- The directories an `InstanceGroup` was opened with. -/
structure GroupDirs where
  wclapDir : Option HostDir
  presetDir : Option HostDir
  cacheDir : Option HostDir
  varDir : Option HostDir

/-- The virtual directories, in the order in which `mapPath` tries them. -/
def GroupDirs.prefixes (dirs : GroupDirs) : List (Option HostDir × List Char) :=
  [(dirs.wclapDir, "/plugin.wclap/".toList), (dirs.presetDir, "/presets/".toList),
    (dirs.cacheDir, "/cache/".toList), (dirs.varDir, "/var/".toList)]

/-- The lambda `testPrefix` of `mapPath`, which assigns to `path` on success. -/
def testPrefix (virtualPath path : List Char) (dir : Option HostDir) (virtualDir : List Char) :
    Option (List Char) :=
  match dir with
  | some dir =>
    if virtualPath.take virtualDir.length = virtualDir then
      some (appendPath dir.string (path.drop virtualDir.length))
    else none
  | none => none

/-- `InstanceGroup::mapPath`. On POSIX `make_preferred` changes nothing. -/
def mapPath (dirs : GroupDirs) (cwd virtualPath : List Char) : Option (List Char) :=
  let path := absolutePath cwd virtualPath
  dirs.prefixes.findSome? fun (dir, virtualDir) => testPrefix virtualPath path dir virtualDir

/-! ## Arbitrary directory strings -/

/-- The four `std::optional<std::string>` of an `InstanceGroup`, which can hold any
    string. -/
structure ConfiguredDirs where
  wclapDir : Option (List Char)
  presetDir : Option (List Char)
  cacheDir : Option (List Char)
  varDir : Option (List Char)

/-- The virtual directories, in the order in which `mapPath` tries them. -/
def ConfiguredDirs.prefixes (dirs : ConfiguredDirs) : List (Option (List Char) × List Char) :=
  [(dirs.wclapDir, "/plugin.wclap/".toList), (dirs.presetDir, "/presets/".toList),
    (dirs.cacheDir, "/cache/".toList), (dirs.varDir, "/var/".toList)]

/-- `testPrefix` for any directory string. -/
def testConfigured (virtualPath path : List Char) (dir : Option (List Char))
    (virtualDir : List Char) : Option (List Char) :=
  match dir with
  | some dir =>
    if virtualPath.take virtualDir.length = virtualDir then
      some (appendPath dir (path.drop virtualDir.length))
    else none
  | none => none

/-- `InstanceGroup::mapPath` for any directory strings. -/
def ConfiguredDirs.mapPath (dirs : ConfiguredDirs) (cwd virtualPath : List Char) :
    Option (List Char) :=
  let path := absolutePath cwd virtualPath
  dirs.prefixes.findSome? fun (dir, virtualDir) => testConfigured virtualPath path dir virtualDir

/-- The strings of absolute directories. -/
def GroupDirs.configured (dirs : GroupDirs) : ConfiguredDirs :=
  ⟨dirs.wclapDir.map HostDir.string, dirs.presetDir.map HostDir.string,
    dirs.cacheDir.map HostDir.string, dirs.varDir.map HostDir.string⟩

private theorem testConfigured_map (virtualPath path : List Char) (dir : Option HostDir)
    (virtualDir : List Char) :
    testConfigured virtualPath path (dir.map HostDir.string) virtualDir =
      testPrefix virtualPath path dir virtualDir := by
  cases dir with
  | none => rfl
  | some dir => rfl

theorem configured_mapPath (dirs : GroupDirs) (cwd virtualPath : List Char) :
    dirs.configured.mapPath cwd virtualPath = mapPath dirs cwd virtualPath := by
  simp only [ConfiguredDirs.mapPath, mapPath, ConfiguredDirs.prefixes, GroupDirs.prefixes,
    GroupDirs.configured, List.findSome?_cons, List.findSome?_nil, testConfigured_map]

end WclapBridge.Native
