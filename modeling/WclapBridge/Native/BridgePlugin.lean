import WclapBridge.Native.GlobalInit

/-!
# The bridge plugin

The plugin opens all WCLAPs that it finds when a host calls `clap_init` for the
first time, and closes them when the host has called `clap_deinit` as often.
What the file system has, and what comes of opening a WCLAP, are parameters.
-/

namespace WclapBridge.Native

/-- What `scanWclapPlugins` reads of a `clap_plugin_descriptor`. -/
structure PluginDescriptor where
  id : String
  version : Option String
  deriving DecidableEq

/-- The descriptors of a `clap_plugin_factory`; some may be null. -/
abbrev DescriptorList := List (Option PluginDescriptor)

/-- An open WCLAP. -/
structure Wclap where
  handle : Nat
  pluginFactory : Option DescriptorList

/-- What `wclap_open` and then `wclap_get_error` return. -/
inductive WclapOpened where
  | null
  | error (handle : Nat)
  | opened (handle : Nat) (pluginFactory : Option DescriptorList)

/-- A directory that is scanned, with the files in it if it exists. -/
structure WclapDirectory where
  path : String
  entries : Option (List (String × WclapOpened))

/-- `clap_plugin_invalidation_source`. -/
structure InvalidationSource where
  directory : String
  filename_glob : String
  recursive_scan : Bool

/-- An entry of `pluginList`. -/
structure ListedPlugin where
  desc : PluginDescriptor
  wclapIndex : Nat
  deriving DecidableEq

/-- The static variables of the plugin, and those of the bridge. -/
structure BridgePlugin where
  initCounter : Int32
  wclapDirs : List String
  wclapList : List Wclap
  /-- `makeInvalidations`, which would fill it, is not called. -/
  invalidations : List InvalidationSource
  pluginList : List ListedPlugin
  globals : BridgeGlobals

namespace BridgePlugin

def new : BridgePlugin where
  initCounter := 0
  wclapDirs := []
  wclapList := []
  invalidations := []
  pluginList := []
  globals := .new

/-! ## Scanning -/

/-- The body of the loop in `scanWclapDirectory`, or `none` where it passes a null
    pointer to `wclap_get_error`. -/
def scanEntry (p : BridgePlugin) (entry : String × WclapOpened) : Option BridgePlugin :=
  if entry.1.endsWith ".wclap" then
    match entry.2 with
    | .null => none
    | .error _ => some p -- opened and closed
    | .opened handle pluginFactory =>
      some
        { p with
          wclapList := p.wclapList ++ [⟨handle, pluginFactory⟩]
          globals.activeWclapCount := p.globals.activeWclapCount + 1 }
  else some p

def scanWclapDirectory (p : BridgePlugin) (directory : WclapDirectory) : Option BridgePlugin :=
  let p := { p with wclapDirs := p.wclapDirs ++ [directory.path] }
  match directory.entries with
  | none => some p
  | some entries => entries.foldlM scanEntry p

/-- The directories depend on the platform. -/
def scanWclapDirectories (p : BridgePlugin) (directories : List WclapDirectory) :
    Option BridgePlugin :=
  directories.foldlM scanWclapDirectory p

variable (newer : String → String → Bool)

/-- Whether a descriptor takes the place of one with the same id. `newer` compares
    two versions. -/
def isNewer (desc existing : PluginDescriptor) : Bool :=
  match existing.version with
  | none => true
  | some existingVersion => desc.version.any fun version => newer version existingVersion

/-- Look for the id in the plugin list: `none` if it is not there, otherwise the
    list with the newer descriptor. -/
def replaceExisting (plugin : ListedPlugin) : List ListedPlugin → Option (List ListedPlugin)
  | [] => none
  | existing :: rest =>
    if plugin.desc.id = existing.desc.id then
      some ((if isNewer newer plugin.desc existing.desc then plugin else existing) :: rest)
    else (replaceExisting plugin rest).map (existing :: ·)

/-- The inner loop of `scanWclapPlugins`, and whether it returns. -/
def scanDescriptors (wclapIndex : Nat) :
    DescriptorList → List ListedPlugin → Bool × List ListedPlugin
  | [], pluginList => (false, pluginList)
  | none :: descs, pluginList => scanDescriptors wclapIndex descs pluginList
  | some desc :: descs, pluginList =>
    match replaceExisting newer ⟨desc, wclapIndex⟩ pluginList with
    | some pluginList => (true, pluginList) -- a duplicate
    | none => scanDescriptors wclapIndex descs (pluginList ++ [⟨desc, wclapIndex⟩])

/-- The outer loop of `scanWclapPlugins`. -/
def scanWclaps : Nat → List Wclap → List ListedPlugin → List ListedPlugin
  | _, [], pluginList => pluginList
  | wclapIndex, wclap :: wclaps, pluginList =>
    match wclap.pluginFactory with
    | none => scanWclaps (wclapIndex + 1) wclaps pluginList
    | some descs =>
      match scanDescriptors newer wclapIndex descs pluginList with
      | (true, pluginList) => pluginList
      | (false, pluginList) => scanWclaps (wclapIndex + 1) wclaps pluginList

def scanWclapPlugins (p : BridgePlugin) : BridgePlugin :=
  { p with pluginList := scanWclaps newer 0 p.wclapList p.pluginList }

/-! ## Init and deinit -/

/-- `clap_init`, or `none` where the process ends. -/
def clap_init (p : BridgePlugin) (outcome : GlobalInitOutcome)
    (directories : List WclapDirectory) : Option (Bool × BridgePlugin) :=
  let counted := { p with initCounter := p.initCounter + 1 }
  if p.initCounter ≠ 0 then some (true, counted)
  else
    match p.globals.wclap_global_init 250 outcome with
    | none => none
    | some (false, globals) => some (false, { counted with globals })
    | some (true, globals) =>
      ({ counted with globals }.scanWclapDirectories directories).map fun p =>
        (true, scanWclapPlugins newer p)

/-- `clap_deinit`, or `none` where the process ends. Clearing `wclapList` closes its
    WCLAPs. -/
def clap_deinit (p : BridgePlugin) : Option BridgePlugin :=
  let p := { p with initCounter := p.initCounter - 1 }
  if p.initCounter ≠ 0 then some p
  else
    let closed :=
      { p with
        globals.activeWclapCount := p.globals.activeWclapCount - p.wclapList.length
        wclapList := []
        invalidations := []
        pluginList := [] }
    closed.globals.wclap_global_deinit.map fun globals => { closed with globals }

end BridgePlugin

/-! ## Runs -/

inductive PluginEntryAction where
  | clap_init (outcome : GlobalInitOutcome) (directories : List WclapDirectory)
  | clap_deinit

/-- The plugin as a host uses it: how many times it has got `true` from `clap_init`
    without a `clap_deinit` for it, and whether a scan has come to its end since the
    lists were empty. -/
structure PluginSession where
  plugin : BridgePlugin
  held : Nat
  scanned : Bool

namespace PluginSession

def new : PluginSession := ⟨.new, 0, false⟩

/-- `clap_deinit` is called only for a `clap_init` that returned `true`. -/
def step (newer : String → String → Bool) (s : PluginSession) :
    PluginEntryAction → Option PluginSession
  | .clap_init outcome directories =>
    (BridgePlugin.clap_init newer s.plugin outcome directories).map fun (result, plugin) =>
      { plugin
        held := if result then s.held + 1 else s.held
        scanned := s.scanned || (result && decide (s.plugin.initCounter = 0)) }
  | .clap_deinit =>
    if s.held = 0 then none
    else
      s.plugin.clap_deinit.map fun plugin =>
        { plugin, held := s.held - 1, scanned := s.scanned && decide (plugin.initCounter ≠ 0) }

end PluginSession

end WclapBridge.Native
