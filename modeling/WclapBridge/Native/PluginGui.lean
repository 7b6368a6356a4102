import WclapBridge.ForStd.Responder
import WclapBridge.Native.GetterCalls

/-!
# The GUI of a plugin

The window belongs to the `webview-gui` helper, which has the same methods as the GUI
extension of a plugin. If the guest has the extension too, the methods of `Plugin` tell it
what happens to its GUI, or ask it before the helper. The helper is a parameter.
-/

namespace WclapBridge.Native

variable {is64 : Bool} {ω η : Type}

/-! ## Calls of a GUI -/

/-- `clap_gui_resize_hints`, and `wclap_gui_resize_hints`. -/
structure GuiResizeHints where
  can_resize_horizontally : Bool
  can_resize_vertically : Bool
  preserve_aspect_ratio : Bool
  aspect_ratio_width : UInt32
  aspect_ratio_height : UInt32
  deriving DecidableEq

/-- 12 bytes. -/
def guiResizeHintsCodec : Codec GuiResizeHints :=
  (Codec.bool.prod (Codec.bool.prod ((Codec.bool.pad 1).prod (Codec.u32.prod Codec.u32)))).imap
    (fun (can_resize_horizontally, can_resize_vertically, preserve_aspect_ratio,
        aspect_ratio_width, aspect_ratio_height) =>
      ⟨can_resize_horizontally, can_resize_vertically, preserve_aspect_ratio,
        aspect_ratio_width, aspect_ratio_height⟩)
    (fun h => (h.can_resize_horizontally, h.can_resize_vertically, h.preserve_aspect_ratio,
      h.aspect_ratio_width, h.aspect_ratio_height)) fun _ => rfl

/-- The methods of a GUI, with what the caller gives them: those of `clap_plugin_gui`, of the
    guest's `wclap_plugin_gui`, and of `webview_gui::ClapWebviewGui`. A window of the host's is
    a value of `ω`. -/
inductive GuiCall (ω : Type) where
  | is_api_supported (api : CString) (isFloating : Bool)
  | get_preferred_api
  | create (api : CString) (isFloating : Bool)
  | destroy
  | set_scale (scale : UInt64)
  | get_size
  | can_resize
  | get_resize_hints
  | adjust_size (w h : UInt32)
  | set_size (w h : UInt32)
  | set_parent (window : ω)
  | set_transient (window : ω)
  | suggest_title (title : CString)
  | show_
  | hide

namespace GuiCall

/-- The result, and the variables of the caller where they are assigned to. -/
abbrev Reply : GuiCall ω → Type
  | get_preferred_api => Bool × Option (CString × Bool)
  | get_size | adjust_size _ _ => Bool × Option (UInt32 × UInt32)
  | get_resize_hints => Bool × Option GuiResizeHints
  | destroy | suggest_title _ => Unit
  | is_api_supported _ _ | create _ _ | set_scale _ | can_resize | set_size _ _
  | set_parent _ | set_transient _ | show_ | hide => Bool

/-- The result of a call, if it has one. -/
def result : (call : GuiCall ω) → call.Reply → Bool
  | get_preferred_api, reply => reply.1
  | get_size, reply => reply.1
  | adjust_size _ _, reply => reply.1
  | get_resize_hints, reply => reply.1
  | destroy, _ => true
  | suggest_title _, _ => true
  | is_api_supported _ _, reply => reply
  | create _ _, reply => reply
  | set_scale _, reply => reply
  | can_resize, reply => reply
  | set_size _ _, reply => reply
  | set_parent _, reply => reply
  | set_transient _, reply => reply
  | show_, reply => reply
  | hide, reply => reply

end GuiCall

/-! ## The state -/

/-- Who is called. -/
inductive GuiParty where
  /-- `Plugin`, by the host. -/
  | bridge
  | helper
  | guest
  deriving DecidableEq

/-- A call that has returned, and its result. -/
structure GuiEvent (ω : Type) where
  party : GuiParty
  call : GuiCall ω
  result : Bool

/-- What the methods of the GUI work with. -/
structure GuiContext (is64 : Bool) (ω η : Type) where
  view : PluginView is64
  arena : Arena is64
  /-- The blocks that are in use in a memory: an arena gives out others. -/
  keeps : LinearMemory → List Block
  stack : ValRaw
  resizeHints : Codec GuiResizeHints
  /-- `CLAP_WINDOW_API_WEBVIEW`. -/
  webviewApi : CString
  helper : Responder (GuiCall.Reply : GuiCall ω → Type) η

/-- What they change, and the calls in the order in which they have returned. -/
structure GuiState (ω η : Type) where
  helper : η
  mem : LinearMemory
  group : InstanceGroup
  events : List (GuiEvent ω)

namespace GuiContext

variable (c : GuiContext is64 ω η)

/-- `if (guiExt)`. -/
def guiExt : Bool := c.view.exts.ext .gui ≠ Pointer.null

/-- The memory before a call. -/
def guest (s : GuiState ω η) : GuestState := ⟨s.mem, c.keeps s.mem⟩

/-- `webviewGui.…`. -/
def askHelper (call : GuiCall ω) (s : GuiState ω η) : call.Reply × GuiState ω η :=
  let (reply, helper) := c.helper call s.helper
  (reply, { s with helper, events := s.events ++ [⟨.helper, call, call.result reply⟩] })

/-- A result which says yes or no, or none at all. -/
def returnedTrue : (ret : ReturnType) → ReturnType.Value ret → Bool
  | some .bool, result => result
  | _, _ => true

/-- `mainThread->call(guiExt[&function], ptr, args...)`, which is the call `call` for the guest
    if it gets there. -/
def callGuest (call : GuiCall ω) (function : PluginFunction) (ret : ReturnType) (args : List Arg)
    (g : GuestState) (s : GuiState ω η) : ReturnType.Value ret × GuiState ω η :=
  let (r, mem) := GetterView.call ⟨c.view, s.group, c.stack⟩ function ret
    (⟨.pointer is64, c.view.ptr⟩ :: args) g.mem
  let events := match r.slotCount with
    | some _ => s.events ++ [⟨.guest, call, returnedTrue ret r.result⟩]
    | none => s.events
  (r.result, { s with mem, group := r.group, events })

/-- The same, for a function that returns a `bool`. -/
def askGuest (call : GuiCall ω) (function : PluginFunction) (args : List Arg) (g : GuestState)
    (s : GuiState ω η) : Bool × GuiState ω η :=
  c.callGuest call function (some .bool) args g s

/-! ## The methods -/

/-- `Plugin::gui_create`. -/
def gui_create (api : CString) (isFloating : Bool) (s : GuiState ω η) : Bool × GuiState ω η :=
  let (created, s) := c.askHelper (.create api isFloating) s
  if !created then (false, s)
  else if c.guiExt then
    -- Create a webview GUI in the WCLAP, but continue whether it succeeds or not
    let (str, g) := (c.guest s).writeString c.arena c.webviewApi
    let (_, s) := c.askGuest (.create c.webviewApi isFloating) .gui_create
      [⟨.pointer is64, str⟩, ⟨.bool, isFloating⟩] g s
    (true, s)
  else (true, s)

/-- `Plugin::gui_destroy`. -/
def gui_destroy (s : GuiState ω η) : Unit × GuiState ω η :=
  let s := if c.guiExt then (c.callGuest .destroy .gui_destroy none [] (c.guest s) s).2 else s
  c.askHelper .destroy s

/-- `Plugin::gui_get_size`. -/
def gui_get_size (s : GuiState ω η) : (Bool × Option (UInt32 × UInt32)) × GuiState ω η :=
  if c.guiExt then
    let (wPtr, g) := (c.guest s).copyAcross c.arena Codec.u32 0
    let (hPtr, g) := g.copyAcross c.arena Codec.u32 0
    let (result, s) := c.askGuest .get_size .gui_get_size
      [⟨.pointer is64, wPtr⟩, ⟨.pointer is64, hPtr⟩] g s
    if result then
      let w := s.mem.get Codec.u32 wPtr 0
      let h := s.mem.get Codec.u32 hPtr 0
      ((true, some (w, h)), (c.askHelper (.set_size w h) s).2)
    else c.askHelper .get_size s
  else c.askHelper .get_size s

/-- `Plugin::gui_can_resize`. -/
def gui_can_resize (s : GuiState ω η) : Bool × GuiState ω η :=
  if c.guiExt then c.askGuest .can_resize .gui_can_resize [] (c.guest s) s
  else c.askHelper .can_resize s

/-- `Plugin::gui_get_resize_hints`. -/
def gui_get_resize_hints (s : GuiState ω η) : (Bool × Option GuiResizeHints) × GuiState ω η :=
  if c.guiExt then
    let (hintsPtr, g) := (c.guest s).copyAcross c.arena c.resizeHints ⟨false, false, false, 0, 0⟩
    let (result, s) := c.askGuest .get_resize_hints .gui_get_resize_hints
      [⟨.pointer is64, hintsPtr⟩] g s
    -- struct translates directly
    if result then ((true, some (s.mem.get c.resizeHints hintsPtr 0)), s)
    else c.askHelper .get_resize_hints s
  else c.askHelper .get_resize_hints s

/-- `Plugin::gui_adjust_size`. -/
def gui_adjust_size (w h : UInt32) (s : GuiState ω η) :
    (Bool × Option (UInt32 × UInt32)) × GuiState ω η :=
  if c.guiExt then
    let (wPtr, g) := (c.guest s).copyAcross c.arena Codec.u32 w
    let (hPtr, g) := g.copyAcross c.arena Codec.u32 h
    let (result, s) := c.askGuest (.adjust_size w h) .gui_adjust_size
      [⟨.pointer is64, wPtr⟩, ⟨.pointer is64, hPtr⟩] g s
    if result then
      ((true, some (s.mem.get Codec.u32 wPtr 0, s.mem.get Codec.u32 hPtr 0)), s)
    else c.askHelper (.adjust_size w h) s
  else c.askHelper (.adjust_size w h) s

/-- `Plugin::gui_set_size`. -/
def gui_set_size (w h : UInt32) (s : GuiState ω η) : Bool × GuiState ω η :=
  let s :=
    if c.guiExt then (c.askGuest (.set_size w h) .gui_set_size
      [⟨.uint32, w⟩, ⟨.uint32, h⟩] (c.guest s) s).2
    else s
  c.askHelper (.set_size w h) s

/-- `Plugin::gui_suggest_title`. -/
def gui_suggest_title (title : CString) (s : GuiState ω η) : Unit × GuiState ω η :=
  let s :=
    if c.guiExt then
      let (titlePtr, g) := (c.guest s).writeString c.arena title
      (c.callGuest (.suggest_title title) .gui_suggest_title none [⟨.pointer is64, titlePtr⟩] g s).2
    else s
  c.askHelper (.suggest_title title) s

/-- `Plugin::gui_show`. -/
def gui_show (s : GuiState ω η) : Bool × GuiState ω η :=
  let s :=
    if c.guiExt then (c.askGuest .show_ .gui_show [] (c.guest s) s).2 else s
  c.askHelper .show_ s

/-- `Plugin::gui_hide`. -/
def gui_hide (s : GuiState ω η) : Bool × GuiState ω η :=
  let s :=
    if c.guiExt then (c.askGuest .hide .gui_hide [] (c.guest s) s).2 else s
  c.askHelper .hide s

/-- The methods of `clap_plugin_gui`. Those that are not above are the helper's. -/
def method : (call : GuiCall ω) → GuiState ω η → call.Reply × GuiState ω η
  | .create api isFloating => c.gui_create api isFloating
  | .destroy => c.gui_destroy
  | .get_size => c.gui_get_size
  | .can_resize => c.gui_can_resize
  | .get_resize_hints => c.gui_get_resize_hints
  | .adjust_size w h => c.gui_adjust_size w h
  | .set_size w h => c.gui_set_size w h
  | .suggest_title title => c.gui_suggest_title title
  | .show_ => c.gui_show
  | .hide => c.gui_hide
  | .is_api_supported api isFloating => c.askHelper (.is_api_supported api isFloating)
  | .get_preferred_api => c.askHelper .get_preferred_api
  | .set_scale scale => c.askHelper (.set_scale scale)
  | .set_parent window => c.askHelper (.set_parent window)
  | .set_transient window => c.askHelper (.set_transient window)

end GuiContext

/-! ## What happens to a plugin with a GUI -/

/-- The host calls a method of the GUI; or else something happens to the helper and to the
    guest's memory, and there may be an error. -/
inductive GuiAction (ω η : Type) where
  | call (call : GuiCall ω)
  | other (helper : η) (mem : LinearMemory) (error : Option String)

namespace GuiContext

variable (c : GuiContext is64 ω η)

/-- The state after an action. -/
def act (s : GuiState ω η) : GuiAction ω η → GuiState ω η
  | .call call =>
    let (reply, s) := c.method call s
    { s with events := s.events ++ [⟨.bridge, call, call.result reply⟩] }
  | .other helper mem error =>
    { s with helper, mem, group := error.elim s.group s.group.setError }

/-- The state after these actions. -/
def run (s : GuiState ω η) (actions : List (GuiAction ω η)) : GuiState ω η :=
  actions.foldl c.act s

end GuiContext

end WclapBridge.Native
