import WclapBridge.Native.Extensions
import Mathlib.Data.List.Induction
import Mathlib.Tactic.ByContra

/-!
# Extension pointers

Whether each kept extension pointer is the guest's answer for that extension
depends on the queries for the GUI: they keep their answer for the webview as
well, as long as there is none, and they are answered for the GUI of the guest
rather than for its webview.

## Key results

- `extensions_faithful_iff`: the sequences of queries in which all pointers and
  all answers for the GUI are right
- `gui_kept_as_webview`: a sequence in which they are not
-/

namespace WclapBridge.Spec

open WclapBridge.Native

variable {is64 : Bool}

/-- The guest's answers. -/
abbrev GuestExtensions (is64 : Bool) := ExtensionId → Pointer is64

/-- A query of the host. -/
def query (ans : GuestExtensions is64) (p : PluginExts is64) (id : ExtensionId) :
    Option PluginExtension × PluginExts is64 :=
  pluginGetExtension id (ans id) p

/-- The fields after a sequence of queries. -/
def after (ans : GuestExtensions is64) (queries : List ExtensionId) : PluginExts is64 :=
  queries.foldl (fun p id => (query ans p id).2) PluginExts.new

/-- Each pointer which is not null is the guest's answer for this extension. -/
def Faithful (ans : GuestExtensions is64) (p : PluginExts is64) : Prop :=
  ∀ e, p.ext e ≠ Pointer.null → p.ext e = ans (.known e)

/-- After the query all pointers are faithful, and if it was for the GUI, it was
    answered exactly if the guest has the webview extension. -/
def RightAnswer (ans : GuestExtensions is64) (p : PluginExts is64) (id : ExtensionId) : Prop :=
  Faithful ans (query ans p id).2 ∧
    (id = .known .gui →
      ((query ans p id).1 ≠ none ↔ ans (.known .webview) ≠ Pointer.null))

/-- A query for the GUI comes to a guest that offers the GUI exactly if it offers
    the webview, and has been asked for the webview before, unless the two
    addresses are the same. -/
def GuiInOrder (ans : GuestExtensions is64) (earlier : List ExtensionId) (id : ExtensionId) :
    Prop :=
  id = .known .gui →
    (ans (.known .gui) ≠ Pointer.null ↔ ans (.known .webview) ≠ Pointer.null) ∧
    (ans (.known .gui) ≠ Pointer.null →
      .known .webview ∈ earlier ∨ ans (.known .gui) = ans (.known .webview))

/-! ## One query -/

theorem after_append (ans : GuestExtensions is64) (earlier : List ExtensionId)
    (id : ExtensionId) :
    after ans (earlier ++ [id]) = (query ans (after ans earlier) id).2 := by
  rw [after, List.foldl_append]
  rfl

/-- A query for the GUI of a guest that has one. -/
theorem query_gui {ans : GuestExtensions is64} (hne : ans (.known .gui) ≠ Pointer.null)
    (p : PluginExts is64) :
    query ans p (.known .gui) = (some .gui, if p.ext .webview = Pointer.null
      then (p.set .gui (ans (.known .gui))).set .webview (ans (.known .gui))
      else p.set .gui (ans (.known .gui))) := by
  rw [query, pluginGetExtension_gui hne, keepGui_eq hne]

/-- What a query can do to the fields. -/
theorem query_cases (ans : GuestExtensions is64) (p : PluginExts is64) (id : ExtensionId) :
    (query ans p id).2 = p ∨
      (∃ e, id = .known e ∧ e ≠ .gui ∧ ans id ≠ Pointer.null ∧
        (query ans p id).2 = p.set e (ans id)) ∨
      (id = .known .gui ∧ ans id ≠ Pointer.null) := by
  by_cases hnull : ans id = Pointer.null
  · left
    rw [query, hnull, pluginGetExtension_null]
  · cases id with
    | other id =>
      left
      rw [query, pluginGetExtension_other]
    | known e =>
      right
      by_cases hgui : e = .gui
      · exact Or.inr ⟨by rw [hgui], hnull⟩
      · exact Or.inl ⟨e, rfl, hgui, hnull,
          congrArg Prod.snd (pluginGetExtension_known hnull hgui p)⟩

/-- The GUI is answered for the guest's GUI. -/
theorem query_gui_ne_none (ans : GuestExtensions is64) (p : PluginExts is64) :
    (query ans p (.known .gui)).1 ≠ none ↔ ans (.known .gui) ≠ Pointer.null := by
  by_cases hnull : ans (.known .gui) = Pointer.null
  · rw [query, hnull, pluginGetExtension_null]
    simp
  · rw [query_gui hnull]
    simp [hnull]

/-- Setting a field to the guest's answer keeps the pointers faithful. -/
theorem Faithful.set {ans : GuestExtensions is64} {p : PluginExts is64} (h : Faithful ans p)
    (e : PluginExtension) {ptr : Pointer is64} (hptr : ptr = ans (.known e)) :
    Faithful ans (p.set e ptr) := by
  intro e' hne
  simp only [PluginExts.set] at hne ⊢
  split
  next he => rw [he, hptr]
  next he =>
    rw [if_neg he] at hne
    exact h e' hne

/-- A query keeps the pointers faithful, unless it puts a wrong address into
    `webviewExt`. -/
theorem query_faithful {ans : GuestExtensions is64} {p : PluginExts is64} {id : ExtensionId}
    (h : Faithful ans p)
    (hgui : id = .known .gui → ans id ≠ Pointer.null → p.ext .webview = Pointer.null →
      ans id = ans (.known .webview)) : Faithful ans (query ans p id).2 := by
  rcases query_cases ans p id with heq | ⟨e, rfl, -, -, heq⟩ | ⟨rfl, hne⟩
  · rw [heq]
    exact h
  · rw [heq]
    exact h.set e rfl
  · rw [query_gui hne]
    simp only
    split
    next hnull => exact (h.set .gui rfl).set .webview (hgui rfl hne hnull)
    next => exact h.set .gui rfl

/-! ## Sequences of queries -/

/-- A webview that was asked for and found is kept. -/
theorem webviewExt_ne_null {ans : GuestExtensions is64} {earlier : List ExtensionId}
    (hmem : .known .webview ∈ earlier) (hne : ans (.known .webview) ≠ Pointer.null) :
    (after ans earlier).ext .webview ≠ Pointer.null := by
  induction earlier using List.reverseRecOn with
  | nil => exact nomatch hmem
  | append_singleton earlier id ih =>
    rw [after_append]
    by_cases hid : id = .known .webview
    · subst hid
      rw [query, pluginGetExtension_known hne (by decide)]
      exact hne
    · have hmem' : .known .webview ∈ earlier := by
        rcases List.mem_append.mp hmem with h | h
        · exact h
        · exact absurd (List.mem_singleton.mp h).symm hid
      rcases query_cases ans (after ans earlier) id with heq | ⟨e, rfl, -, -, heq⟩ |
        ⟨rfl, hgui⟩
      · rw [heq]
        exact ih hmem'
      · have he : PluginExtension.webview ≠ e := fun h => hid (by rw [← h])
        rw [heq, PluginExts.set]
        simp only [if_neg he]
        exact ih hmem'
      · -- the GUI is kept as the webview only where there is none
        rw [query_gui hgui]
        simp only [if_neg (ih hmem')]
        exact ih hmem'

/-- A webview that was never asked for is null, or the address of the GUI. -/
theorem webviewExt_eq {ans : GuestExtensions is64} {earlier : List ExtensionId}
    (hmem : .known .webview ∉ earlier) :
    (after ans earlier).ext .webview = Pointer.null ∨
      (after ans earlier).ext .webview = ans (.known .gui) := by
  induction earlier using List.reverseRecOn with
  | nil => exact Or.inl rfl
  | append_singleton earlier id ih =>
    have hold := ih fun h => hmem (List.mem_append_left _ h)
    rw [after_append]
    rcases query_cases ans (after ans earlier) id with heq | ⟨e, rfl, -, -, heq⟩ |
      ⟨rfl, hgui⟩
    · rw [heq]
      exact hold
    · have he : PluginExtension.webview ≠ e := fun h =>
        hmem (List.mem_append_right _ (by rw [h]; exact List.mem_singleton_self _))
      rw [heq, PluginExts.set]
      simp only [if_neg he]
      exact hold
    · rw [query_gui hgui]
      simp only
      split
      next => exact Or.inr rfl
      next => exact hold

/-- The pointers are faithful after queries that are in order. -/
theorem after_faithful {ans : GuestExtensions is64} {queries : List ExtensionId}
    (h : ∀ earlier id rest, queries = earlier ++ id :: rest → GuiInOrder ans earlier id) :
    Faithful ans (after ans queries) := by
  induction queries using List.reverseRecOn with
  | nil => exact fun e hne => absurd rfl hne
  | append_singleton queries id ih =>
    rw [after_append]
    refine query_faithful (ih fun earlier id' rest hq => ?_) fun hgui hne hnull => ?_
    · exact h earlier id' (rest ++ [id]) (by rw [hq, List.append_assoc, List.cons_append])
    · subst hgui
      obtain ⟨hiff, hor⟩ := h queries _ [] rfl rfl
      rcases hor hne with hmem | heq
      · -- asked for and offered, the webview is there already
        exact absurd hnull (webviewExt_ne_null hmem (hiff.mp hne))
      · exact heq

/-- **Every query of a sequence leaves faithful pointers, and answers for the GUI
    as the webview requires, if and only if every query for the GUI is in
    order.** -/
theorem extensions_faithful_iff (ans : GuestExtensions is64) (queries : List ExtensionId) :
    (∀ earlier id rest, queries = earlier ++ id :: rest →
      RightAnswer ans (after ans earlier) id) ↔
    ∀ earlier id rest, queries = earlier ++ id :: rest → GuiInOrder ans earlier id := by
  constructor
  · rintro h earlier id rest hq rfl
    obtain ⟨hfaithful, hanswer⟩ := h earlier _ rest hq
    have hiff := (query_gui_ne_none ans (after ans earlier)).symm.trans (hanswer rfl)
    refine ⟨hiff, fun hne => ?_⟩
    by_contra hnot
    have hmem : .known .webview ∉ earlier := fun h => hnot (Or.inl h)
    -- the pointer for the webview is now the address of the GUI
    have hwebview : (query ans (after ans earlier) (.known .gui)).2.ext .webview =
        ans (.known .gui) := by
      rw [query_gui hne]
      simp only
      split
      next => rfl
      next hkept => exact (webviewExt_eq hmem).resolve_left hkept
    have hright := hfaithful .webview (by rw [hwebview]; exact hne)
    exact hnot (Or.inr (hwebview.symm.trans hright))
  · intro h earlier id rest hq
    constructor
    · rw [← after_append]
      refine after_faithful fun earlier' id' rest' hq' => ?_
      exact h earlier' id' (rest' ++ rest) (by
        rw [hq, List.append_cons, hq', List.append_assoc, List.cons_append])
    · rintro rfl
      rw [query_gui_ne_none]
      exact (h earlier _ rest hq rfl).1

/-! ## Counterexample -/

/-- A guest with a GUI at address 16 and a webview at address 32. -/
private def guiAndWebview : GuestExtensions false
  | .known .gui => Pointer.ofNat 16
  | .known .webview => Pointer.ofNat 32
  | _ => Pointer.null

/-- A host that asks for the GUI first gets the address of the GUI as that of the
    webview: the methods of the webview read their functions from it. -/
theorem gui_kept_as_webview :
    (after guiAndWebview [.known .gui]).ext .webview = Pointer.ofNat 16 ∧
      ¬ RightAnswer guiAndWebview PluginExts.new (.known .gui) := by
  refine ⟨rfl, fun h => ?_⟩
  exact absurd (h.1 .webview (by decide)) (by decide)

end WclapBridge.Spec
