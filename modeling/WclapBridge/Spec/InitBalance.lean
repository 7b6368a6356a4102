import Mathlib.Algebra.Group.Nat.Defs
import WclapBridge.ForStd.Transition
import WclapBridge.Native.BridgePlugin

/-!
# Balanced calls of `clap_init` and `clap_deinit`

## Key results

- `sessionOk_step`: as long as no first `clap_init` fails and no last
  `clap_deinit` finds scanned directories, the counter has the calls and the
  plugin is initialised between the first and the last of them
- `initDeinitOk_iff`: these two are all that goes wrong
- `wclapDirs_eq_nil_iff`: which calls lead to scanned directories
- `retried_init`: after a failure, `clap_init` says that all is well
-/

namespace WclapBridge.Spec

open WclapBridge.Native
open PluginSession (step)

variable {newer : String → String → Bool}

/-! ## The effect of a call -/

/-- The counter and the lists are the same. -/
structure SameState (p q : BridgePlugin) : Prop where
  initCounter : p.initCounter = q.initCounter
  wclapDirs : p.wclapDirs = q.wclapDirs
  wclapList : p.wclapList = q.wclapList
  invalidations : p.invalidations = q.invalidations
  pluginList : p.pluginList = q.pluginList

/-- `true` is only said of a plugin that is initialised, `false` is without effect, and a last
    `clap_deinit` undoes what the first `clap_init` has done. -/
structure InitDeinitOk (newer : String → String → Bool) (s : PluginSession)
    (a : PluginEntryAction) : Prop where
  /-- The plugin is initialised and has been scanned when `clap_init` returns `true`. -/
  initTrue : ∀ outcome directories t, a = .clap_init outcome directories →
    step newer s a = some t → s.held < t.held →
    t.plugin.globals.globalInitOK = true ∧ t.scanned = true
  /-- A `clap_init` that returns `false` changes nothing. -/
  initFalse : ∀ outcome directories plugin, a = .clap_init outcome directories →
    s.plugin.clap_init newer outcome directories = some (false, plugin) →
    SameState plugin s.plugin
  /-- When all is balanced, it is as in the beginning. -/
  balanced : ∀ t, step newer s a = some t → t.held = 0 → SameState t.plugin .new

/-- The first `clap_init` gets an engine, and there is no directory to forget at the
    last `clap_deinit`. -/
def Undoes (s : PluginSession) : PluginEntryAction → Prop
  | .clap_init outcome _ => s.plugin.initCounter = 0 → outcome = .engine
  | .clap_deinit => s.plugin.initCounter = 1 → s.plugin.wclapDirs = []

/-- The counter has 32 bits. -/
def CounterFits (s : PluginSession) (_ : PluginEntryAction) : Prop :=
  s.held + 1 < 2 ^ 32

/-! ## Scanning -/

/-- What a scan that began at `p` keeps. -/
structure ScannedFrom (p q : BridgePlugin) : Prop where
  initCounter : q.initCounter = p.initCounter
  invalidations : q.invalidations = p.invalidations
  globalInitOK : q.globals.globalInitOK = p.globals.globalInitOK
  count : q.globals.activeWclapCount + p.wclapList.length =
    p.globals.activeWclapCount + q.wclapList.length

theorem ScannedFrom.refl (p : BridgePlugin) : ScannedFrom p p :=
  ⟨rfl, rfl, rfl, rfl⟩

theorem scanEntry_from (p : BridgePlugin) {q r : BridgePlugin} {entry : String × WclapOpened}
    (hq : ScannedFrom p q) (h : q.scanEntry entry = some r) : ScannedFrom p r := by
  unfold BridgePlugin.scanEntry at h
  split at h
  next =>
    split at h
    next => cases h
    next => cases h; exact hq
    next handle pluginFactory heq =>
      cases h
      refine ⟨hq.initCounter, hq.invalidations, hq.globalInitOK, ?_⟩
      have hcount := hq.count
      simp only [List.length_append, List.length_singleton]
      omega
  next => cases h; exact hq

theorem scanWclapDirectory_from (p : BridgePlugin) {q r : BridgePlugin}
    {directory : WclapDirectory} (hq : ScannedFrom p q)
    (h : q.scanWclapDirectory directory = some r) : ScannedFrom p r := by
  have hpushed : ScannedFrom p { q with wclapDirs := q.wclapDirs ++ [directory.path] } :=
    ⟨hq.initCounter, hq.invalidations, hq.globalInitOK, hq.count⟩
  unfold BridgePlugin.scanWclapDirectory at h
  dsimp only at h
  split at h
  next => cases h; exact hpushed
  next => exact foldlM_inv (ScannedFrom p) (fun _ _ _ => scanEntry_from p) hpushed h

theorem scanWclapDirectories_from {p q : BridgePlugin} {directories : List WclapDirectory}
    (h : p.scanWclapDirectories directories = some q) : ScannedFrom p q :=
  foldlM_inv (ScannedFrom p) (fun _ _ _ => scanWclapDirectory_from p) (.refl p) h

theorem scanWclapPlugins_from {p q : BridgePlugin} (h : ScannedFrom p q) :
    ScannedFrom p (q.scanWclapPlugins newer) :=
  ⟨h.initCounter, h.invalidations, h.globalInitOK, h.count⟩

/-! ## The counter -/

theorem ofNat_inj {m n : Nat} (hm : m < 2 ^ 32) (hn : n < 2 ^ 32) :
    Int32.ofNat m = Int32.ofNat n ↔ m = n := by
  rw [← Int32.toBitVec_inj, Int32.toBitVec_ofNat', Int32.toBitVec_ofNat', ← BitVec.toNat_inj,
    BitVec.toNat_ofNat, BitVec.toNat_ofNat, Nat.mod_eq_of_lt hm, Nat.mod_eq_of_lt hn]

/-- What holds after every call, as long as the calls undo each other. -/
structure SessionOk (s : PluginSession) : Prop where
  fits : s.held < 2 ^ 32
  counter : s.plugin.initCounter = Int32.ofNat s.held
  count : s.plugin.globals.activeWclapCount = s.plugin.wclapList.length
  invalidations : s.plugin.invalidations = []
  idle : s.held = 0 → SameState s.plugin .new ∧ s.plugin.globals.globalInitOK = false
  busy : 0 < s.held → s.plugin.globals.globalInitOK = true ∧ s.scanned = true

theorem sessionOk_new : SessionOk .new :=
  ⟨by decide, rfl, rfl, rfl, fun _ => ⟨⟨rfl, rfl, rfl, rfl, rfl⟩, rfl⟩, (nomatch ·)⟩

theorem SessionOk.counter_eq_zero {s : PluginSession} (hs : SessionOk s) :
    s.plugin.initCounter = 0 ↔ s.held = 0 := by
  rw [hs.counter]
  exact ofNat_inj hs.fits (by decide)

theorem SessionOk.counter_eq_one {s : PluginSession} (hs : SessionOk s) :
    s.plugin.initCounter = 1 ↔ s.held = 1 := by
  rw [hs.counter]
  exact ofNat_inj hs.fits (by decide)

theorem SessionOk.counter_sub_one {s : PluginSession} (hs : SessionOk s) (h : s.held ≠ 0) :
    s.plugin.initCounter - 1 = Int32.ofNat (s.held - 1) := by
  rw [hs.counter]
  exact (Int32.ofNat_sub s.held 1 (Nat.pos_of_ne_zero h)).symm

theorem SessionOk.counter_sub_one_eq_zero {s : PluginSession} (hs : SessionOk s)
    (h : s.held ≠ 0) : s.plugin.initCounter - 1 = 0 ↔ s.held = 1 := by
  have hfits := hs.fits
  rw [hs.counter_sub_one h]
  refine (ofNat_inj (n := 0) (by omega) (by decide)).trans ?_
  omega

/-! ## The calls -/

/-- A `clap_init` after the first. -/
theorem clap_init_again {p : BridgePlugin} (h : p.initCounter ≠ 0) (outcome : GlobalInitOutcome)
    (directories : List WclapDirectory) :
    p.clap_init newer outcome directories =
      some (true, { p with initCounter := p.initCounter + 1 }) := by
  unfold BridgePlugin.clap_init
  exact if_pos h

/-- The first `clap_init`, when there is no engine: the counter stays incremented. -/
theorem clap_init_failed {p : BridgePlugin} (h : p.initCounter = 0)
    (hok : p.globals.globalInitOK = false) {outcome : GlobalInitOutcome}
    (houtcome : outcome ≠ .engine) (directories : List WclapDirectory) :
    ∃ globals, p.clap_init newer outcome directories =
      some (false, { p with initCounter := p.initCounter + 1, globals }) := by
  cases outcome <;>
    simp_all [BridgePlugin.clap_init, BridgeGlobals.wclap_global_init,
      BridgeGlobals.setGlobalInit, BridgeGlobals.instanceGlobalInit]

/-- The first `clap_init`, when there is an engine. -/
theorem clap_init_first {p q : BridgePlugin} (h : p.initCounter = 0)
    (hok : p.globals.globalInitOK = false) {directories : List WclapDirectory} {result : Bool}
    (hq : p.clap_init newer .engine directories = some (result, q)) :
    result = true ∧ ∃ globals : BridgeGlobals, globals.globalInitOK = true ∧
      globals.activeWclapCount = p.globals.activeWclapCount ∧
      ScannedFrom { p with initCounter := p.initCounter + 1, globals } q := by
  unfold BridgePlugin.clap_init BridgeGlobals.wclap_global_init at hq
  rw [if_neg (not_not_intro h), hok] at hq
  obtain ⟨scanned, hscan, heq⟩ := Option.map_eq_some_iff.mp hq
  cases heq
  exact ⟨rfl, (p.globals.setGlobalInit 250 .engine).2, rfl, rfl,
    scanWclapPlugins_from (scanWclapDirectories_from hscan)⟩

/-- A `clap_deinit` before the last. -/
theorem clap_deinit_early {p : BridgePlugin} (h : p.initCounter - 1 ≠ 0) :
    p.clap_deinit = some { p with initCounter := p.initCounter - 1 } := by
  unfold BridgePlugin.clap_deinit
  exact if_pos h

/-- The last `clap_deinit` closes all WCLAPs, so that the bridge does not abort, but
    it does not clear `wclapDirs`. -/
theorem clap_deinit_last {p : BridgePlugin} (h : p.initCounter - 1 = 0)
    (hcount : p.globals.activeWclapCount = p.wclapList.length) :
    ∃ globals : BridgeGlobals, globals.globalInitOK = false ∧ globals.activeWclapCount = 0 ∧
      p.clap_deinit = some ⟨0, p.wclapDirs, [], [], [], globals⟩ := by
  have hzero : p.globals.activeWclapCount - p.wclapList.length = 0 := by omega
  unfold BridgePlugin.clap_deinit BridgeGlobals.wclap_global_deinit
  dsimp only
  rw [if_neg (not_not_intro h), hzero, h]
  split
  next => exact ⟨_, rfl, rfl, rfl⟩
  next hok =>
    exact ⟨{ p.globals with activeWclapCount := 0 }, Bool.eq_false_iff.mpr hok, rfl, rfl⟩

/-! ## Runs -/

theorem sessionOk_step {s t : PluginSession} {a : PluginEntryAction} (hs : SessionOk s)
    (hfits : CounterFits s a) (hundoes : Undoes s a) (h : step newer s a = some t) :
    SessionOk t := by
  cases a with
  | clap_init outcome directories =>
    obtain ⟨⟨result, plugin⟩, hinit, rfl⟩ := Option.map_eq_some_iff.mp h
    have hnext : s.plugin.initCounter + 1 = Int32.ofNat (s.held + 1) := by
      rw [hs.counter, Int32.ofNat_add]
      rfl
    by_cases hfirst : s.plugin.initCounter = 0
    · -- the first call starts the bridge and scans, on a plugin that is idle
      obtain rfl : outcome = .engine := hundoes hfirst
      have hidle := hs.idle (hs.counter_eq_zero.mp hfirst)
      obtain ⟨rfl, globals, hok, hcount, hscan⟩ := clap_init_first hfirst hidle.2 hinit
      refine ⟨hfits, hscan.initCounter.trans hnext, ?_, hscan.invalidations.trans hs.invalidations,
        (nomatch ·), fun _ => ⟨hscan.globalInitOK.trans hok, ?_⟩⟩
      · have hscanned := hscan.count
        have hbefore := hs.count
        dsimp only at hscanned ⊢
        omega
      · simp [hfirst]
    · -- the plugin has been initialised by the first call
      have hbusy := hs.busy (Nat.pos_of_ne_zero fun h0 => hfirst (hs.counter_eq_zero.mpr h0))
      rw [clap_init_again hfirst] at hinit
      cases hinit
      refine ⟨hfits, hnext, hs.count, hs.invalidations, (nomatch ·), fun _ => ⟨hbusy.1, ?_⟩⟩
      simp [hbusy.2]
  | clap_deinit =>
    simp only [step] at h
    split at h
    next => cases h
    next hheld =>
      obtain ⟨plugin, hdeinit, rfl⟩ := Option.map_eq_some_iff.mp h
      have hbusy := hs.busy (Nat.pos_of_ne_zero hheld)
      have hless := hs.fits
      by_cases hlast : s.plugin.initCounter - 1 = 0
      · -- the last call undoes what the first has done
        have hone := (hs.counter_sub_one_eq_zero hheld).mp hlast
        have hdirs : s.plugin.wclapDirs = [] := hundoes (hs.counter_eq_one.mpr hone)
        obtain ⟨globals, hok, hcount, heq⟩ := clap_deinit_last hlast hs.count
        cases heq.symm.trans hdeinit
        refine ⟨by dsimp only; omega, by rw [hone]; rfl, hcount, rfl,
          fun _ => ⟨⟨rfl, hdirs, rfl, rfl, rfl⟩, hok⟩, fun hpos => ?_⟩
        dsimp only at hpos
        omega
      · -- only the counter changes, and there is another call to come
        cases (clap_deinit_early hlast).symm.trans hdeinit
        refine ⟨by dsimp only; omega, hs.counter_sub_one hheld, hs.count, hs.invalidations,
          fun h0 => ?_, fun _ => ⟨hbusy.1, ?_⟩⟩
        · have := (hs.counter_sub_one_eq_zero hheld).not.mp hlast
          dsimp only at h0
          omega
        · simp [hbusy.2, hlast]

theorem initDeinitOk_of_undoes {s : PluginSession} {a : PluginEntryAction} (hs : SessionOk s)
    (hfits : CounterFits s a) (hundoes : Undoes s a) : InitDeinitOk newer s a where
  initTrue _ _ _ _ h hheld :=
    (sessionOk_step hs hfits hundoes h).busy (Nat.zero_lt_of_lt hheld)
  initFalse outcome directories plugin ha hinit := by
    subst ha
    by_cases hfirst : s.plugin.initCounter = 0
    · obtain rfl : outcome = .engine := hundoes hfirst
      have hidle := hs.idle (hs.counter_eq_zero.mp hfirst)
      cases (clap_init_first hfirst hidle.2 hinit).1
    · rw [clap_init_again hfirst] at hinit
      cases hinit
  balanced _ h hheld := ((sessionOk_step hs hfits hundoes h).idle hheld).1

theorem undoes_of_initDeinitOk {s : PluginSession} {a : PluginEntryAction} (hs : SessionOk s)
    (h : InitDeinitOk newer s a) : Undoes s a := by
  cases a with
  | clap_init outcome directories =>
    intro hfirst
    by_contra houtcome
    have hidle := hs.idle (hs.counter_eq_zero.mp hfirst)
    obtain ⟨globals, hinit⟩ :=
      @clap_init_failed newer _ hfirst hidle.2 _ houtcome directories
    -- it returned `false`, but the counter is 1
    have hcounter := (h.initFalse _ _ _ rfl hinit).initCounter
    rw [hfirst] at hcounter
    exact absurd hcounter (show ¬ (0 + 1 : Int32) = 0 by decide)
  | clap_deinit =>
    intro hone
    have hheld := hs.counter_eq_one.mp hone
    have hlast : s.plugin.initCounter - 1 = 0 := by
      rw [hone]
      rfl
    obtain ⟨globals, -, -, hdeinit⟩ := clap_deinit_last hlast hs.count
    have hstep : step newer s .clap_deinit =
        some ⟨⟨0, s.plugin.wclapDirs, [], [], [], globals⟩, 0, false⟩ := by
      simp [step, hheld, hdeinit]
    -- all is balanced now, and the directories are as before the call
    exact (h.balanced _ hstep rfl).wclapDirs

/-- A call is held once at most. -/
theorem held_le {s t : PluginSession} {a : PluginEntryAction} (h : step newer s a = some t) :
    t.held ≤ s.held + 1 := by
  cases a with
  | clap_init outcome directories =>
    obtain ⟨⟨result, plugin⟩, -, rfl⟩ := Option.map_eq_some_iff.mp h
    dsimp only
    split <;> omega
  | clap_deinit =>
    simp only [step] at h
    split at h
    next => cases h
    next =>
      obtain ⟨plugin, -, rfl⟩ := Option.map_eq_some_iff.mp h
      dsimp only
      omega

/-- The counter has enough bits for all runs of a smaller length. -/
theorem counterFits_of_length {s : PluginSession} {run : List PluginEntryAction}
    (h : s.held + run.length < 2 ^ 32) : Steps (step newer) CounterFits s run := by
  induction run generalizing s with
  | nil => exact trivial
  | cons a run ih =>
    rw [List.length_cons] at h
    refine ⟨by unfold CounterFits; omega, fun t ht => ih ?_⟩
    have := held_le ht
    omega

/-- In a run with fewer than 2^32 calls of `clap_init` at once to be undone, all calls have
    the effect that they should if and only if no first `clap_init` fails and no last
    `clap_deinit` finds scanned directories. -/
theorem initDeinitOk_iff (newer : String → String → Bool) (run : List PluginEntryAction)
    (hfits : Steps (step newer) CounterFits .new run) :
    Steps (step newer) (InitDeinitOk newer) .new run ↔ Steps (step newer) Undoes .new run := by
  constructor
  · intro h
    refine Steps.of_invariant SessionOk ?_ ?_ sessionOk_new (hfits.and h)
    · exact fun s a t hs ha => sessionOk_step hs ha.1 (undoes_of_initDeinitOk hs ha.2)
    · exact fun s a hs ha => undoes_of_initDeinitOk hs ha.2
  · intro h
    refine Steps.of_invariant SessionOk ?_ ?_ sessionOk_new (hfits.and h)
    · exact fun s a t hs ha => sessionOk_step hs ha.1 ha.2
    · exact fun s a hs ha => initDeinitOk_of_undoes hs ha.1 ha.2

/-- What a first `clap_init` scans, once it has an engine. -/
def initPaths (p : BridgePlugin) (outcome : GlobalInitOutcome)
    (directories : List WclapDirectory) : List String :=
  if p.initCounter = 0 ∧ (p.globals.wclap_global_init 250 outcome).any (·.1) = true then
    directories.map (·.path)
  else []

/-- What a call adds to `wclapDirs`. -/
def scannedPaths (s : PluginSession) : PluginEntryAction → List String
  | .clap_init outcome directories => initPaths s.plugin outcome directories
  | .clap_deinit => []

theorem scanWclapDirectory_wclapDirs {p q : BridgePlugin} {directory : WclapDirectory}
    (h : p.scanWclapDirectory directory = some q) :
    q.wclapDirs = p.wclapDirs ++ [directory.path] := by
  unfold BridgePlugin.scanWclapDirectory at h
  dsimp only at h
  split at h
  next =>
    cases h
    rfl
  next =>
    refine foldlM_inv (fun r : BridgePlugin => r.wclapDirs = p.wclapDirs ++ [directory.path])
      (fun r entry r' hr hentry => ?_) rfl h
    unfold BridgePlugin.scanEntry at hentry
    split at hentry
    next => split at hentry <;> cases hentry <;> exact hr
    next =>
      cases hentry
      exact hr

theorem scanWclapDirectories_wclapDirs {p q : BridgePlugin} {directories : List WclapDirectory}
    (h : p.scanWclapDirectories directories = some q) :
    q.wclapDirs = p.wclapDirs ++ directories.map (·.path) := by
  induction directories generalizing p with
  | nil =>
    cases h
    exact (List.append_nil _).symm
  | cons directory directories ih =>
    obtain ⟨scanned, hscanned, hrest⟩ := Option.bind_eq_some_iff.mp h
    rw [ih hrest, scanWclapDirectory_wclapDirs hscanned, List.append_assoc, List.map_cons,
      List.singleton_append]

theorem clap_init_wclapDirs {p q : BridgePlugin} {outcome : GlobalInitOutcome}
    {directories : List WclapDirectory} {result : Bool}
    (h : p.clap_init newer outcome directories = some (result, q)) :
    q.wclapDirs = p.wclapDirs ++ initPaths p outcome directories := by
  unfold BridgePlugin.clap_init at h
  unfold initPaths
  dsimp only at h
  split at h
  next hagain =>
    cases h
    rw [if_neg fun hfirst => hagain hfirst.1, List.append_nil]
  next hfirst =>
    have hfirst := not_not.mp hfirst
    split at h
    next => cases h
    next globals hfailed =>
      cases h
      rw [hfailed, if_neg fun hok => Bool.false_ne_true hok.2, List.append_nil]
    next globals hok =>
      obtain ⟨scanned, hscan, heq⟩ := Option.map_eq_some_iff.mp h
      cases heq
      have hdirs := scanWclapDirectories_wclapDirs hscan
      rw [hok, if_pos ⟨hfirst, rfl⟩]
      exact hdirs

theorem clap_deinit_wclapDirs {p q : BridgePlugin} (h : p.clap_deinit = some q) :
    q.wclapDirs = p.wclapDirs := by
  unfold BridgePlugin.clap_deinit at h
  dsimp only at h
  split at h
  next =>
    cases h
    rfl
  next =>
    obtain ⟨globals, -, rfl⟩ := Option.map_eq_some_iff.mp h
    rfl

/-- No call takes a directory from the list. -/
theorem step_wclapDirs {s t : PluginSession} {a : PluginEntryAction}
    (h : step newer s a = some t) :
    t.plugin.wclapDirs = s.plugin.wclapDirs ++ scannedPaths s a := by
  cases a with
  | clap_init outcome directories =>
    obtain ⟨⟨result, plugin⟩, hinit, rfl⟩ := Option.map_eq_some_iff.mp h
    exact clap_init_wclapDirs hinit
  | clap_deinit =>
    rw [scannedPaths, List.append_nil]
    simp only [step] at h
    split at h
    next => cases h
    next =>
      obtain ⟨plugin, hdeinit, rfl⟩ := Option.map_eq_some_iff.mp h
      exact clap_deinit_wclapDirs hdeinit

/-- There is a directory to forget if and only if an earlier first `clap_init` was given one. -/
theorem wclapDirs_eq_nil_iff {s t : PluginSession} {run : List PluginEntryAction}
    (h : run.foldlM (step newer) s = some t) :
    t.plugin.wclapDirs = [] ↔
      s.plugin.wclapDirs = [] ∧ Steps (step newer) (fun s a => scannedPaths s a = []) s run := by
  induction run generalizing s with
  | nil =>
    cases h
    exact (and_iff_left trivial).symm
  | cons a run ih =>
    obtain ⟨next, hnext, hrest⟩ := Option.bind_eq_some_iff.mp h
    rw [ih hrest, step_wclapDirs hnext, List.append_eq_nil_iff, and_assoc, Steps.iff_cons hnext]

/-- The plugin with an engine and no WCLAPs. -/
private def initialised (initCounter : Int32) (held : Nat) : PluginSession :=
  ⟨⟨initCounter, [], [], [], [], ⟨250, 0, true, some ⟨0, 250⟩, 1⟩⟩, held, true⟩

/-- A host calls `clap_init` and `clap_deinit` twice, and there are no directories. -/
theorem initDeinitOk_nested :
    Steps (step fun _ _ => false) (InitDeinitOk fun _ _ => false) .new
      [.clap_init .engine [], .clap_init .noEngine [], .clap_deinit, .clap_deinit] := by
  refine (initDeinitOk_iff _ _ (counterFits_of_length (by decide))).mpr ?_
  refine .cons (t := initialised 1 1) (fun _ => rfl) rfl ?_
  refine .cons (t := initialised 2 2) (fun h => absurd h (by decide)) rfl ?_
  refine .cons (t := initialised 1 1) (fun _ => rfl) rfl ?_
  exact ⟨fun _ => rfl, fun _ _ => trivial⟩

/-- The first `clap_init` fails and leaves the counter at 1, so that the second one
    returns `true` without a scan or an engine. -/
theorem retried_init :
    ¬ Steps (step fun _ _ => false) (InitDeinitOk fun _ _ => false) .new
      ([.clap_init .noEngine []] ++ [.clap_init .engine []]) := by
  intro h
  have hsecond := (h.last rfl).initTrue _ _ _ rfl rfl (by decide)
  exact absurd hsecond.1 (by decide)

end WclapBridge.Spec
