import WclapBridge.ForStd.Transition
import WclapBridge.Native.WclapList

/-!
# What becomes of the handles

Each WCLAP that is opened is closed at once if it has an error, and otherwise
belongs to one element of `wclapList` until the last `clap_deinit`. The scan does
not test for a null handle before it asks for the error: a file that is not a
module ends the process.

## Key results

- `scanEntry_accounted`, `clear_accounted`: no handle is lost or closed twice
- `scanStepsOk_iff`: exactly when a run has nothing wrong
- `scanWclapDirectory_refines`: the record agrees with the bridge plugin
-/

namespace WclapBridge.Spec

open WclapBridge.Native

/-- How often a handle has been closed. -/
def closes (handle : Nat) (calls : List BridgeCall) : Nat :=
  calls.count (.wclap_close (some handle))

/-- How many elements own a handle. -/
def wclapOwners (handle : Nat) (wclapList : List WclapOwner) : Nat :=
  (wclapList.map (·.handle)).count (some handle)

/-- Each handle has been closed once or has one owner, never both. -/
def HandlesAccounted (s : WclapScan) : Prop :=
  ∀ handle, closes handle s.calls + wclapOwners handle s.wclapList =
    if handle < s.opened then 1 else 0

/-- The bridge has not been given a null handle. -/
def NoNullHandle (s : WclapScan) : Prop := ∀ call ∈ s.calls, call.argument ≠ some none

/-- The paths that have been opened. -/
def openedPaths (calls : List BridgeCall) : List String :=
  calls.filterMap fun
    | .wclap_open path _ => some path
    | _ => none

/-- The entries of a directory that should be opened. -/
def wclapEntries : ScanAction → List (String × WclapOpened)
  | .scanWclapDirectory directory =>
    (directory.entries.getD []).filter fun entry => entry.1.endsWith ".wclap"
  | .clap_deinit => []

/-- A step opens all WCLAPs it should, passes no null handle, loses no handle and closes
    none twice; and the last `clap_deinit` leaves all handles closed. -/
structure ScanStepOk (growth : Nat → Nat) (s : WclapScan) (a : ScanAction) : Prop where
  goesOn : openedPaths (s.perform growth a).calls =
    openedPaths s.calls ++ (wclapEntries a).map Prod.fst
  noNull : NoNullHandle (s.perform growth a)
  accounted : HandlesAccounted (s.perform growth a)
  closed : a = .clap_deinit → ∀ handle, handle < s.opened →
    closes handle (s.perform growth a).calls = 1

/-- All WCLAPs of a directory can be read and compiled. -/
def AllOpen (a : ScanAction) : Prop :=
  ∀ entry ∈ wclapEntries a, entry.2 ≠ .null

/-! ## Counting -/

theorem closes_append (handle : Nat) (calls calls' : List BridgeCall) :
    closes handle (calls ++ calls') = closes handle calls + closes handle calls' :=
  List.count_append

theorem wclapOwners_append (handle : Nat) (wclapList wclapList' : List WclapOwner) :
    wclapOwners handle (wclapList ++ wclapList') =
      wclapOwners handle wclapList + wclapOwners handle wclapList' := by
  rw [wclapOwners, List.map_append, List.count_append]
  rfl

theorem openedPaths_append (calls calls' : List BridgeCall) :
    openedPaths (calls ++ calls') = openedPaths calls ++ openedPaths calls' :=
  List.filterMap_append

/-- Elements that are destroyed close the handles they own. -/
theorem closes_destroy (handle : Nat) (wclapList : List WclapOwner) :
    closes handle (wclapList.flatMap (·.destroy)) = wclapOwners handle wclapList := by
  induction wclapList with
  | nil => rfl
  | cons w wclapList ih =>
    have hw : closes handle w.destroy = wclapOwners handle [w] := by
      obtain ⟨_ | other, pluginFactory⟩ := w
      · rfl
      · simp [closes, wclapOwners, WclapOwner.destroy, List.count_singleton]
    rw [List.flatMap_cons, closes_append, ih, hw, ← wclapOwners_append]
    rfl

theorem openedPaths_destroy (wclapList : List WclapOwner) :
    openedPaths (wclapList.flatMap (·.destroy)) = [] := by
  rw [openedPaths, List.filterMap_flatMap, List.flatMap_eq_nil_iff]
  intro w _
  obtain ⟨_ | handle, pluginFactory⟩ := w <;> rfl

/-- What is left of an element that has been moved does not close the handle. -/
theorem destroy_moved (wclapList : List WclapOwner) :
    wclapList.flatMap (·.moved.2.destroy) = [] :=
  List.flatMap_eq_nil_iff.mpr fun _ _ => rfl

/-- A vector keeps its handles when it grows. -/
theorem wclapOwners_moved (handle : Nat) (wclapList : List WclapOwner) :
    wclapOwners handle (wclapList.map (·.moved.1)) = wclapOwners handle wclapList := by
  rw [wclapOwners, List.map_map]
  rfl

/-! ## One entry -/

/-- A process that is still there, and in order. -/
structure ScanInv (s : WclapScan) : Prop where
  running : s.crashed = false
  noNull : NoNullHandle s
  accounted : HandlesAccounted s

theorem ScanInv.new : ScanInv .new := ⟨rfl, fun _ h => (nomatch h), fun _ => rfl⟩

section

variable {growth : Nat → Nat} {s : WclapScan}

@[simp] theorem emplace_back_calls (w : WclapOwner) :
    (s.emplace_back growth w).calls = s.calls := by
  unfold WclapScan.emplace_back
  split
  next => rfl
  next => simp [destroy_moved]

@[simp] theorem emplace_back_opened (w : WclapOwner) :
    (s.emplace_back growth w).opened = s.opened := by
  unfold WclapScan.emplace_back
  split <;> rfl

@[simp] theorem emplace_back_crashed (w : WclapOwner) :
    (s.emplace_back growth w).crashed = s.crashed := by
  unfold WclapScan.emplace_back
  split <;> rfl

theorem emplace_back_factories (w : WclapOwner) :
    (s.emplace_back growth w).wclapList.map (·.pluginFactory) =
      s.wclapList.map (·.pluginFactory) ++ [w.pluginFactory] := by
  unfold WclapScan.emplace_back
  split
  next => exact List.map_append
  next =>
    rw [List.map_append, List.map_map]
    rfl

/-- The new element is one owner more, also if the vector grows. -/
theorem wclapOwners_emplace_back (handle : Nat) (w : WclapOwner) :
    wclapOwners handle (s.emplace_back growth w).wclapList =
      wclapOwners handle s.wclapList + wclapOwners handle [w] := by
  unfold WclapScan.emplace_back
  split
  next => exact wclapOwners_append ..
  next => rw [wclapOwners_append, wclapOwners_moved]

/-- One more module, whose calls close it, or add an owner of it. -/
private theorem accounted_opened {t : WclapScan} (h : HandlesAccounted s)
    (hopened : t.opened = s.opened + 1)
    (hcount : ∀ handle, closes handle t.calls + wclapOwners handle t.wclapList =
      closes handle s.calls + wclapOwners handle s.wclapList + if handle = s.opened then 1 else 0) :
    HandlesAccounted t := by
  intro handle
  rw [hcount, h, hopened]
  by_cases hlast : handle = s.opened
  · rw [if_pos hlast, if_neg (by omega), if_pos (by omega)]
  · rw [if_neg hlast]
    by_cases hlt : handle < s.opened
    · rw [if_pos hlt, if_pos (by omega)]
    · rw [if_neg hlt, if_neg (by omega)]

private theorem noNull_append {calls : List BridgeCall} {t : WclapScan} (h : NoNullHandle s)
    (hcalls : t.calls = s.calls ++ calls) (hnew : ∀ call ∈ calls, call.argument ≠ some none) :
    NoNullHandle t := by
  intro call hcall
  rw [hcalls, List.mem_append] at hcall
  exact hcall.elim (h call) (hnew call)

/-- An entry that is no WCLAP, or can be opened, leaves everything in order. -/
theorem scanEntry_accounted (growth : Nat → Nat) {entry : String × WclapOpened} (h : ScanInv s)
    (hopen : entry.1.endsWith ".wclap" = true → entry.2 ≠ .null) :
    ScanInv (s.scanEntry growth entry) ∧
      openedPaths (s.scanEntry growth entry).calls =
        openedPaths s.calls ++ if entry.1.endsWith ".wclap" then [entry.1] else [] := by
  obtain ⟨path, outcome⟩ := entry
  unfold WclapScan.scanEntry
  rw [h.running]
  by_cases hwclap : path.endsWith ".wclap" = true
  · simp only [Bool.false_eq_true, if_false, hwclap, if_true]
    cases outcome with
    | null => exact absurd rfl (hopen hwclap)
    | error address =>
      refine ⟨⟨rfl, ?_, ?_⟩, ?_⟩
      · exact noNull_append h.noNull rfl (by simp [BridgeCall.argument])
      · refine accounted_opened h.accounted rfl fun handle => ?_
        -- closed at once
        rw [closes_append, Nat.add_right_comm]
        refine congrArg _ ?_
        by_cases hlast : handle = s.opened
        · simp [closes, hlast]
        · simp [closes, hlast, Ne.symm hlast]
      · exact openedPaths_append ..
    | opened address pluginFactory =>
      refine ⟨⟨?_, ?_, ?_⟩, ?_⟩
      · exact emplace_back_crashed _
      · exact noNull_append h.noNull (emplace_back_calls _) (by simp [BridgeCall.argument])
      · refine accounted_opened h.accounted (emplace_back_opened _) fun handle => ?_
        -- owned by the new element
        rw [emplace_back_calls, wclapOwners_emplace_back, closes_append, Nat.add_assoc,
          Nat.add_assoc]
        refine congrArg _ ?_
        by_cases hlast : handle = s.opened
        · simp [closes, wclapOwners, hlast]
        · simp [closes, wclapOwners, hlast, Ne.symm hlast]
      · rw [emplace_back_calls]
        exact openedPaths_append ..
  · simp only [Bool.false_eq_true, if_false, hwclap, List.append_nil]
    exact ⟨h, trivial⟩

/-- An entry whose module cannot be opened ends the process. -/
theorem scanEntry_null (growth : Nat → Nat) {entry : String × WclapOpened} (h : s.crashed = false)
    (hwclap : entry.1.endsWith ".wclap" = true) (hnull : entry.2 = .null) :
    (s.scanEntry growth entry).crashed = true ∧ ¬ NoNullHandle (s.scanEntry growth entry) := by
  obtain ⟨path, outcome⟩ := entry
  simp only at hwclap hnull
  subst hnull
  unfold WclapScan.scanEntry
  simp only [h, Bool.false_eq_true, if_false, hwclap, if_true, true_and]
  intro hnoNull
  exact hnoNull (.wclap_get_error none) (List.mem_append_right _ (by simp)) rfl

/-- After that, nothing happens. -/
theorem foldl_crashed (entries : List (String × WclapOpened)) (h : s.crashed = true) :
    entries.foldl (WclapScan.scanEntry growth) s = s := by
  induction entries with
  | nil => rfl
  | cons entry entries ih =>
    rw [List.foldl_cons, WclapScan.scanEntry, if_pos h]
    exact ih

/-! ## Directories -/

/-- The loop over the entries, if all of them can be opened. -/
theorem foldl_accounted (growth : Nat → Nat) {entries : List (String × WclapOpened)} (h : ScanInv s)
    (hopen : ∀ entry ∈ entries.filter fun entry => entry.1.endsWith ".wclap", entry.2 ≠ .null) :
    ScanInv (entries.foldl (WclapScan.scanEntry growth) s) ∧
      openedPaths (entries.foldl (WclapScan.scanEntry growth) s).calls =
        openedPaths s.calls ++
          (entries.filter fun entry => entry.1.endsWith ".wclap").map Prod.fst := by
  induction entries generalizing s with
  | nil => exact ⟨h, (List.append_nil _).symm⟩
  | cons entry entries ih =>
    have hentry : entry.1.endsWith ".wclap" = true → entry.2 ≠ .null := fun hwclap =>
      hopen entry (List.mem_filter.mpr ⟨List.mem_cons_self, hwclap⟩)
    have hrest : ∀ other ∈ entries.filter fun entry => entry.1.endsWith ".wclap",
        other.2 ≠ .null := by
      intro other hother
      obtain ⟨hmem, hwclap⟩ := List.mem_filter.mp hother
      exact hopen other (List.mem_filter.mpr ⟨List.mem_cons_of_mem _ hmem, hwclap⟩)
    obtain ⟨hinv, hpaths⟩ := scanEntry_accounted growth h hentry
    obtain ⟨hfold, hrestPaths⟩ := ih hinv hrest
    refine ⟨hfold, ?_⟩
    rw [List.foldl_cons, hrestPaths, hpaths, List.append_assoc, List.filter_cons]
    split
    next => rfl
    next => rfl

/-- The loop over the entries, if one of them cannot be opened. -/
theorem foldl_null {entries : List (String × WclapOpened)} (h : ScanInv s)
    (hnull : ∃ entry ∈ entries.filter fun entry => entry.1.endsWith ".wclap", entry.2 = .null) :
    (entries.foldl (WclapScan.scanEntry growth) s).crashed = true ∧
      ¬ NoNullHandle (entries.foldl (WclapScan.scanEntry growth) s) := by
  induction entries generalizing s with
  | nil =>
    obtain ⟨entry, hentry, -⟩ := hnull
    cases hentry
  | cons entry entries ih =>
    rw [List.foldl_cons]
    by_cases hfirst : entry.1.endsWith ".wclap" = true ∧ entry.2 = .null
    · have hcrashed := scanEntry_null growth h.running hfirst.1 hfirst.2
      rw [foldl_crashed entries hcrashed.1]
      exact hcrashed
    · have hentry : entry.1.endsWith ".wclap" = true → entry.2 ≠ .null :=
        fun hwclap heq => hfirst ⟨hwclap, heq⟩
      refine ih (scanEntry_accounted growth h hentry).1 ?_
      obtain ⟨other, hother, heq⟩ := hnull
      obtain ⟨hmem, hwclap⟩ := List.mem_filter.mp hother
      rcases List.mem_cons.mp hmem with hsame | hmem
      · subst hsame
        exact absurd heq (hentry hwclap)
      · exact ⟨other, List.mem_filter.mpr ⟨hmem, hwclap⟩, heq⟩

/-- Clearing the vector closes the handles that are left. -/
theorem clear_accounted (h : ScanInv s) :
    ScanInv s.clear ∧ openedPaths s.clear.calls = openedPaths s.calls ∧
      ∀ handle, handle < s.opened → closes handle s.clear.calls = 1 := by
  have hcloses : ∀ handle, closes handle s.clear.calls =
      closes handle s.calls + wclapOwners handle s.wclapList := by
    intro handle
    rw [WclapScan.clear, closes_append, closes_destroy]
  refine ⟨⟨h.running, ?_, ?_⟩, ?_, ?_⟩
  · refine noNull_append h.noNull rfl fun call hcall => ?_
    obtain ⟨⟨_ | handle, pluginFactory⟩, -, hdestroy⟩ := List.mem_flatMap.mp hcall
    · cases hdestroy
    · cases List.mem_singleton.mp hdestroy
      exact fun heq => nomatch heq
  · intro handle
    rw [hcloses]
    exact h.accounted handle
  · rw [WclapScan.clear, openedPaths_append, openedPaths_destroy, List.append_nil]
  · intro handle hlt
    rw [hcloses, h.accounted, if_pos hlt]

end

/-! ## Runs -/

theorem perform_ok (growth : Nat → Nat) {s : WclapScan} {a : ScanAction} (h : ScanInv s)
    (hopen : AllOpen a) : ScanInv (s.perform growth a) ∧ ScanStepOk growth s a := by
  cases a with
  | clap_deinit =>
    obtain ⟨hinv, hpaths, hclosed⟩ := clear_accounted h
    exact ⟨hinv, hpaths.trans (List.append_nil _).symm, hinv.noNull, hinv.accounted,
      fun _ => hclosed⟩
  | scanWclapDirectory directory =>
    obtain ⟨path, _ | entries⟩ := directory
    · exact ⟨h, (List.append_nil _).symm, h.noNull, h.accounted, fun heq => nomatch heq⟩
    · obtain ⟨hinv, hpaths⟩ := foldl_accounted growth h hopen
      exact ⟨hinv, hpaths, hinv.noNull, hinv.accounted, fun heq => nomatch heq⟩

theorem perform_null {growth : Nat → Nat} {s : WclapScan} {a : ScanAction} (h : ScanInv s)
    (hnull : ¬ AllOpen a) :
    (s.perform growth a).crashed = true ∧ ¬ NoNullHandle (s.perform growth a) := by
  cases a with
  | clap_deinit => exact absurd (fun entry hentry => nomatch hentry) hnull
  | scanWclapDirectory directory =>
    obtain ⟨path, _ | entries⟩ := directory
    · exact absurd (fun entry hentry => nomatch hentry) hnull
    · refine foldl_null h ?_
      by_contra hnone
      exact hnull fun entry hentry heq => hnone ⟨entry, hentry, heq⟩

/-- A run has nothing wrong if and only if all the WCLAPs in the directories it scans
    can be read and compiled. -/
theorem scanStepsOk_iff (growth : Nat → Nat) (as : List ScanAction) :
    Steps (WclapScan.step growth) (ScanStepOk growth) .new as ↔
      Steps (WclapScan.step growth) (fun _ a => AllOpen a) .new as := by
  refine (Steps.iff_of_invariant ScanInv ?_ ?_ ScanInv.new).symm
  · intro s a t h hstep
    rw [WclapScan.step] at hstep
    by_cases hopen : AllOpen a
    · have hinv := (perform_ok growth h hopen).1
      rw [if_neg (by simp [hinv.running])] at hstep
      cases hstep
      exact hinv
    · rw [if_pos (perform_null h hopen).1] at hstep
      cases hstep
  · intro s a h
    constructor
    · intro hopen
      exact (perform_ok growth h hopen).2
    · intro hok
      by_contra hopen
      exact (perform_null h hopen).2 hok.noNull

/-! ## The bridge plugin -/

/-- The record is about the same WCLAPs as the bridge plugin. -/
def SameWclaps (s : WclapScan) (p : BridgePlugin) : Prop :=
  s.wclapList.map (·.pluginFactory) = p.wclapList.map (·.pluginFactory)

/-- The record and the bridge plugin go on in the same way, or the process ends for
    both. -/
def Refines (s : WclapScan) (p : Option BridgePlugin) : Prop :=
  match p with
  | some p => SameWclaps s p ∧ s.crashed = false
  | none => s.crashed = true

theorem scanEntry_refines {growth : Nat → Nat} {s : WclapScan} {p : BridgePlugin}
    (h : SameWclaps s p) (hrunning : s.crashed = false) (entry : String × WclapOpened) :
    Refines (s.scanEntry growth entry) (p.scanEntry entry) := by
  obtain ⟨path, outcome⟩ := entry
  unfold WclapScan.scanEntry BridgePlugin.scanEntry
  rw [hrunning]
  by_cases hwclap : path.endsWith ".wclap" = true
  · simp only [hwclap, if_true, Bool.false_eq_true, if_false]
    cases outcome with
    | null => rfl
    | error address => exact ⟨h, rfl⟩
    | opened address pluginFactory =>
      refine ⟨?_, emplace_back_crashed _⟩
      rw [SameWclaps, emplace_back_factories, h, List.map_append]
      rfl
  · simp only [hwclap, Bool.false_eq_true, if_false]
    exact ⟨h, hrunning⟩

theorem scanWclapDirectory_refines {growth : Nat → Nat} {s : WclapScan} {p : BridgePlugin}
    (h : SameWclaps s p) (hrunning : s.crashed = false) (directory : WclapDirectory) :
    Refines (s.scanWclapDirectory growth directory) (p.scanWclapDirectory directory) := by
  obtain ⟨path, _ | entries⟩ := directory
  · exact ⟨h, hrunning⟩
  · -- for any bridge plugin with these WCLAPs
    suffices ∀ p : BridgePlugin, SameWclaps s p →
        Refines (entries.foldl (WclapScan.scanEntry growth) s)
          (entries.foldlM BridgePlugin.scanEntry p) from
      this { p with wclapDirs := p.wclapDirs ++ [path] } h
    clear h p
    induction entries generalizing s with
    | nil => exact fun p h => ⟨h, hrunning⟩
    | cons entry entries ih =>
      intro p h
      have hentry : Refines (s.scanEntry growth entry) (p.scanEntry entry) :=
        scanEntry_refines h hrunning entry
      rw [List.foldl_cons, List.foldlM_cons]
      cases hscan : p.scanEntry entry with
      | none =>
        rw [hscan] at hentry
        rw [foldl_crashed entries hentry]
        exact hentry
      | some next =>
        rw [hscan] at hentry
        exact ih hentry.2 next hentry.1

/-- A file that is no module ends the process. -/
theorem broken_file_crashes :
    ¬ Steps (WclapScan.step (2 * · + 1)) (ScanStepOk (2 * · + 1)) .new
      [.scanWclapDirectory ⟨"/wclap", some [("/wclap/a.wclap", .null)]⟩] := by
  intro h
  have hwclap : "/wclap/a.wclap".endsWith ".wclap" = true := by decide +kernel
  have hnull : ¬ AllOpen (.scanWclapDirectory ⟨"/wclap", some [("/wclap/a.wclap", .null)]⟩) :=
    fun hopen => hopen _ (List.mem_filter.mpr ⟨List.mem_cons_self, hwclap⟩) rfl
  exact (perform_null .new hnull).2 h.1.noNull

end WclapBridge.Spec
