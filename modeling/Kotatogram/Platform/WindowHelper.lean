/-
# Platform.WindowHelper — one window's native messages, as a state machine

`WindowHelper::handleNativeEvent` receives every message Windows sends to the window (the
native filter routes it by window handle, `Platform.NativeFilter`). The helper keeps
`_marginsDelta`, how far a maximized window's rectangle reaches past the monitor's work area,
the guard `_updatingMargins`, and `_menu`, the window's system menu. A message runs one case
of the switch; what the case asks of Windows and Qt (shadow changes, `SetWindowPos`, the
popup, `close`, `setWindowState`) goes to the log, and what Windows and Qt answer comes from
a `Native` record, read when the message is handled. `Input` adds the `windowStateChanged`
signals Qt emits by itself, which reach `updateSystemMenu` through the connection `init()`
makes.

`SetWindowPos` in `updateMargins` sends messages of its own (`Native.sentBySetWindowPos`),
which reach `handleNativeEvent` before it returns; the guard makes their `updateMargins`
return at once.

* `nesting_stops_at_one_level`: following those messages deeper changes nothing, so
  `handleNativeEvent` follows them one level.

What the margins and the system menu do along runs is in `Platform.Margins` and
`Platform.Popup`.
-/
import Kotatogram.Platform.SystemMenu

namespace Kotatogram.Ui

/-- `QMargins::isNull()`. -/
def QMargins.isNull (m : QMargins) : Bool := m.left == 0 && m.top == 0 && m.right == 0 && m.bottom == 0

theorem QMargins.eq_zero_of_isNull {m : QMargins} (null : m.isNull = true) : m = ⟨0, 0, 0, 0⟩ := by
  cases m
  simp_all [QMargins.isNull]

end Kotatogram.Ui

namespace Kotatogram.Ui.Platform

set_option autoImplicit false

/-! ## Windows types and constants -/

/-- `WA_INACTIVE`. -/
def waInactive : Nat := 0
/-- `WA_CLICKACTIVE`. -/
def waClickActive : Nat := 2
/-- `SIZE_RESTORED`. -/
def sizeRestored : Nat := 0
/-- `SIZE_MINIMIZED`. -/
def sizeMinimized : Nat := 1
/-- `SIZE_MAXIMIZED`. -/
def sizeMaximized : Nat := 2
/-- `SW_SHOWMINIMIZED`. -/
def swShowMinimized : Nat := 2
/-- `SW_SHOWMAXIMIZED`. -/
def swShowMaximized : Nat := 3
/-- `WS_MAXIMIZE`. -/
def wsMaximize : BitVec 32 := 0x01000000#32
/-- `WS_MINIMIZE`. -/
def wsMinimize : BitVec 32 := 0x20000000#32

/-- `HTTRANSPARENT`. -/
def htTransparent : Int := -1
/-- `HTCLIENT`. -/
def htClient : Int := 1
/-- `HTCAPTION`. -/
def htCaption : Int := 2
/-- `HTLEFT`. -/
def htLeft : Int := 10
/-- `HTRIGHT`. -/
def htRight : Int := 11
/-- `HTTOP`. -/
def htTop : Int := 12
/-- `HTTOPLEFT`. -/
def htTopLeft : Int := 13
/-- `HTTOPRIGHT`. -/
def htTopRight : Int := 14
/-- `HTBOTTOM`. -/
def htBottom : Int := 15
/-- `HTBOTTOMLEFT`. -/
def htBottomLeft : Int := 16
/-- `HTBOTTOMRIGHT`. -/
def htBottomRight : Int := 17

/-- `LOWORD`: `l & 0xffff`. -/
def loword (l : BitVec 64) : Nat := l.toNat % 0x10000

/-- `HIWORD`: `(l >> 16) & 0xffff`. -/
def hiword (l : BitVec 64) : Nat := l.toNat / 0x10000 % 0x10000

theorem loword_ofNat {v : Nat} (small : v < 0x10000) : loword (.ofNat 64 v) = v := by
  simp only [loword, BitVec.toNat_ofNat]
  omega

theorem hiword_ofNat {v : Nat} (small : v < 0x10000) : hiword (.ofNat 64 v) = 0 := by
  simp only [hiword, BitVec.toNat_ofNat]
  omega

/-- `MAKEPOINTS`: the two low words of `lParam` as signed coordinates. -/
def makePoints (l : BitVec 64) : QPoint := ⟨(l.extractLsb' 0 16).toInt, (l.extractLsb' 16 16).toInt⟩

/-- A `RECT`. -/
structure Rect where
  left : Int
  top : Int
  right : Int
  bottom : Int

/-- `HitTestResult`, what the title widget reports for a point. -/
inductive HitTestResult where
  | none
  | client
  | sysButton
  | caption
  | top
  | topRight
  | right
  | bottomRight
  | bottom
  | bottomLeft
  | left
  | topLeft
  deriving DecidableEq, Repr

/-- `WindowShadow::Change`; a combination is the list of its flags. -/
inductive ShadowChange where
  | moved
  | resized
  | shown
  | hidden
  | activate
  | deactivate
  deriving DecidableEq, Repr

/-- The messages `handleNativeEvent` has a case for, with the parameters the case reads. -/
inductive Message where
  | activate (wParam : BitVec 64)
  | ncPaint
  /-- The rectangle `lParam` points at: `rgrc[0]` when `wParam` is `TRUE`, which starts the
  parameters. -/
  | ncCalcSize (rect : Rect)
  | ncActivate
  | windowPosChanging
  | windowPosChanged
  | size (wParam : BitVec 64)
  | showWindow (wParam : BitVec 64)
  | move
  | ncHitTest (lParam : BitVec 64)
  | ncRButtonUp (lParam : BitVec 64)
  | sysCommand (wParam lParam : BitVec 64)
  | command (wParam : BitVec 64)
  | other

/-- What Windows and Qt answer while a message is handled. -/
structure Native where
  /-- `::Platform::IsWindows8OrGreater()`. -/
  windows8OrGreater : Bool
  /-- `IsCompositionEnabled()`. -/
  compositionEnabled : Bool
  /-- `DefWindowProc(_handle, msg, wParam, -1)` for `WM_NCACTIVATE`. -/
  defWindowProc : Int
  /-- `GetWindowPlacement`'s `showCmd`, `none` when the call fails. -/
  showCmd : Option Nat
  /-- `MonitorFromPoint(p, MONITOR_DEFAULTTONEAREST)` and `GetMonitorInfo`: the work area,
  `none` when either fails. -/
  workAreaAt : QPoint → Option Rect
  /-- `MonitorFromRect(&w, MONITOR_DEFAULTTONEAREST)`: `none` for a null monitor, otherwise
  `mi.rcWork` as `GetMonitorInfo` leaves it. -/
  workAreaNear : Rect → Option Rect
  /-- `GetWindowLong(_handle, GWL_STYLE)`. -/
  style : BitVec 32
  /-- `GetWindowRect`. -/
  windowRect : Rect
  /-- `GetClientRect`. -/
  clientRect : Rect
  /-- `AdjustWindowRectEx` with the window's style and extended style. -/
  adjustWindowRectEx : Rect → Rect
  /-- `_window->windowHandle()->windowState()`, also read for `_window->windowState()`. -/
  windowState : WindowState
  /-- `_window->rect()`. -/
  rect : QRect
  /-- `_title->geometry()`; its corner is `_title->pos()`. -/
  titleGeometry : QRect
  /-- `_title->hitTest`. -/
  titleHitTest : QPoint → HitTestResult
  /-- `QGuiApplication::platformNativeInterface()` is not null. -/
  nativeInterface : Bool
  /-- Which `GetMenuItemInfo` and `SetMenuItemInfo` calls fail. -/
  menuApi : MenuApi
  /-- The messages Windows sends the window, which it handles at once, while `SetWindowPos`
  runs (`WM_WINDOWPOSCHANGED` and the `WM_SIZE` and `WM_MOVE` it brings), each with whether it
  has a result pointer. -/
  sentBySetWindowPos : List (Message × Bool)

/-- What the helper asks of Windows, of Qt and of the window's shadow. -/
inductive Effect where
  | markInactivePress
  | shadow (changes : List ShadowChange)
  /-- `_window->update()`. -/
  | update
  /-- `emit windowStateChanged(state)`. -/
  | windowStateChanged (state : WindowState)
  /-- The rectangle `WM_NCCALCSIZE` writes back: the client area it proposes. -/
  | clientArea (rect : Rect)
  | setWindowPos (width height : Int)
  /-- `setWindowProperty(..., "WindowsCustomMargins", margins)`. -/
  | windowsCustomMargins (margins : QMargins)
  | trackPopupMenu (menu : Option (List MenuItemInfo)) (x y : Int)
  | close
  | setWindowState (state : WindowState)

/-- The helper's state: `_marginsDelta`, `_updatingMargins`, `_menu`, and what it has asked
for. -/
structure WindowHelper where
  marginsDelta : QMargins
  updatingMargins : Bool
  menu : Option (List MenuItemInfo)
  log : List Effect

/-- What `handleNativeEvent` returns, what it wrote through `result`, and the helper after. -/
structure Outcome where
  handled : Bool
  result : Option Int
  helper : WindowHelper

/-- `if (result) *result = value;` -/
def written (result : Bool) (value : Int) : Option Int := if result then some value else none

namespace WindowHelper

def emit (h : WindowHelper) (e : Effect) : WindowHelper := { h with log := h.log ++ [e] }

/-- `updateSystemMenu(state)`. -/
def updateSystemMenu (h : WindowHelper) (state : WindowState) (api : MenuApi) : WindowHelper :=
  { h with menu := Platform.updateSystemMenu h.menu state api }

/-- `emit windowStateChanged(state)`; the slot `init()` connected updates the system menu. -/
def stateChanged (h : WindowHelper) (n : Native) (state : WindowState) : WindowHelper :=
  (h.emit (.windowStateChanged state)).updateSystemMenu state n.menuApi

/-! ## `updateMargins` -/

/-- The frame `AdjustWindowRectEx` adds around the client rectangle. -/
def frameMargins (n : Native) : QMargins :=
  let r := n.clientRect
  let a := n.adjustWindowRectEx r
  ⟨a.left - r.left, a.top - r.top, r.right - a.right, r.bottom - a.bottom⟩

/-- `_marginsDelta` of a window with rectangle `w` maximized on work area `m`. -/
def marginsDeltaOf (w m : Rect) : QMargins :=
  ⟨w.left - m.left, w.top - m.top, m.right - w.right, m.bottom - w.bottom⟩

def setCustomMargins (h : WindowHelper) (n : Native) (margins : QMargins) : WindowHelper :=
  if n.nativeInterface then h.emit (.windowsCustomMargins margins) else h

/-- `updateMargins()`; `deliver` handles the messages `SetWindowPos` sends while it runs. The
guard `_updatingMargins` is set for the whole call and cleared at its end. -/
def updateMargins (deliver : WindowHelper → WindowHelper) (h : WindowHelper) (n : Native) :
    WindowHelper :=
  if h.updatingMargins then h
  else
    let h := { h with updatingMargins := true }
    let margins := frameMargins n
    let w := n.windowRect
    let h := if n.style &&& wsMaximize ≠ 0 then
        let delta := marginsDeltaOf w ((n.workAreaNear w).getD w)
        { h with marginsDelta := delta }.setCustomMargins n
          ⟨margins.left - delta.left, margins.top - delta.top, margins.right - delta.right,
            margins.bottom - delta.bottom⟩
      else if !h.marginsDelta.isNull then
        let d := h.marginsDelta
        let h := deliver (h.emit (.setWindowPos (w.right - w.left - d.left - d.right)
          (w.bottom - w.top - d.top - d.bottom)))
        { h with marginsDelta := ⟨0, 0, 0, 0⟩ }.setCustomMargins n margins
      else h.setCustomMargins n margins
    { h with updatingMargins := false }

/-! ## The cases of `handleNativeEvent` -/

/-- `WM_NCHITTEST`'s `mapped`: the screen point in window coordinates. -/
def mapToWindow (h : WindowHelper) (n : Native) (p : QPoint) : QPoint :=
  ⟨p.x - n.windowRect.left + h.marginsDelta.left, p.y - n.windowRect.top + h.marginsDelta.top⟩

/-- The `HT` code of the title's answer. -/
def hitTestCode : HitTestResult → Int
  | .client | .sysButton => htClient
  | .caption => htCaption
  | .top => htTop
  | .topRight => htTopRight
  | .right => htRight
  | .bottomRight => htBottomRight
  | .bottom => htBottom
  | .bottomLeft => htBottomLeft
  | .left => htLeft
  | .topLeft => htTopLeft
  | .none => htTransparent

/-- What `WM_NCHITTEST` writes for a point already in window coordinates. -/
def hitTestAt (n : Native) (mapped : QPoint) : Int :=
  if !n.rect.contains mapped then htTransparent
  else if !n.titleGeometry.contains mapped then htClient
  else hitTestCode (n.titleHitTest ⟨n.titleGeometry.x + mapped.x, n.titleGeometry.y + mapped.y⟩)

/-- The `WM_SIZE` case. -/
def size (deliver : WindowHelper → WindowHelper) (h : WindowHelper) (n : Native)
    (wParam : BitVec 64) : WindowHelper :=
  let w := wParam.toNat
  if w = sizeMaximized ∨ w = sizeRestored ∨ w = sizeMinimized then
    let h := if w ≠ sizeRestored ∨ n.windowState ≠ .noState then
        h.stateChanged n (if w = sizeMaximized then .maximized
          else if w = sizeMinimized then .minimized else .noState)
      else h
    (h.updateMargins deliver n).emit (.shadow (if w = sizeMinimized ∨ w = sizeMaximized then [.hidden]
      else [.resized, .shown]))
  else h

/-- The `WM_SYSCOMMAND` case. -/
def sysCommand (h : WindowHelper) (n : Native) (wParam lParam : BitVec 64) : WindowHelper :=
  if wParam.toNat = scMouseMenu then
    let p := makePoints lParam
    let h := h.updateSystemMenu n.windowState n.menuApi
    h.emit (.trackPopupMenu h.menu p.x p.y)
  else h

/-- The `WM_COMMAND` case. -/
def command (h : WindowHelper) (wParam : BitVec 64) : Bool × WindowHelper :=
  if hiword wParam ≠ 0 then (false, h)
  else
    let command := loword wParam
    if command = scClose then (true, h.emit .close)
    else if command = scMinimize then (true, h.emit (.setWindowState .minimized))
    else if command = scMaximize then (true, h.emit (.setWindowState .maximized))
    else if command = scRestore then (true, h.emit (.setWindowState .noState))
    else (true, h)

/-- The switch of `WindowHelper::handleNativeEvent`; `result` says whether the result pointer
is not null, and `deliver` handles the messages `SetWindowPos` sends. `WM_NCRBUTTONUP` sends
`WM_SYSCOMMAND` with `SC_MOUSEMENU` to the window, which handles it at once in the
`WM_SYSCOMMAND` case. -/
def handleNativeEventWith (deliver : WindowHelper → WindowHelper) (h : WindowHelper) (n : Native)
    (result : Bool) : Message → Outcome
  | .activate wParam =>
    let h := if loword wParam = waClickActive then h.emit .markInactivePress else h
    let h := h.emit (.shadow [if loword wParam ≠ waInactive then .activate else .deactivate])
    ⟨false, none, h.emit .update⟩
  | .ncPaint => if n.windows8OrGreater then ⟨false, none, h⟩ else ⟨true, written result 0, h⟩
  | .ncCalcSize r =>
    let work := if n.showCmd = some swShowMaximized then
        n.workAreaAt ⟨(r.left + r.right).tdiv 2, (r.top + r.bottom).tdiv 2⟩ else none
    ⟨true, written result 0, match work with
      | some m => h.emit (.clientArea m)
      | none => h⟩
  | .ncActivate =>
    ⟨true, written result (if n.compositionEnabled then n.defWindowProc else 1), h⟩
  | .windowPosChanging | .windowPosChanged =>
    ⟨false, none, h.emit (.shadow (if n.showCmd = some swShowMaximized
      ∨ n.showCmd = some swShowMinimized then [.hidden] else [.moved, .resized]))⟩
  | .size wParam => ⟨false, none, h.size deliver n wParam⟩
  | .showWindow wParam =>
    ⟨false, none, h.emit (.shadow [.resized,
      if wParam ≠ 0 ∧ n.style &&& (wsMaximize ||| wsMinimize) = 0 then .shown else .hidden])⟩
  | .move => ⟨false, none, h.emit (.shadow [.moved])⟩
  | .ncHitTest lParam =>
    if result then ⟨true, some (hitTestAt n (h.mapToWindow n (makePoints lParam))), h⟩
    else ⟨false, none, h⟩
  | .ncRButtonUp lParam => ⟨true, none, h.sysCommand n (.ofNat 64 scMouseMenu) lParam⟩
  | .sysCommand wParam lParam => ⟨false, none, h.sysCommand n wParam lParam⟩
  | .command wParam => ⟨(h.command wParam).1, none, (h.command wParam).2⟩
  | .other => ⟨false, none, h⟩

/-- `handleNativeEvent`, following the messages `SetWindowPos` sends `depth` levels deep. -/
def handleNativeEventAt : Nat → WindowHelper → Native → Bool → Message → Outcome
  | 0, h, n, result, m => h.handleNativeEventWith id n result m
  | depth + 1, h, n, result, m =>
    h.handleNativeEventWith (fun h => n.sentBySetWindowPos.foldl
      (fun h sent => (handleNativeEventAt depth h n sent.2 sent.1).helper) h) n result m

/-- The messages `SetWindowPos` sends, each handled `depth` levels deep, one after another. -/
def deliverAt (depth : Nat) (n : Native) (h : WindowHelper) : WindowHelper :=
  n.sentBySetWindowPos.foldl (fun h sent => (handleNativeEventAt depth h n sent.2 sent.1).helper) h

/-- `WindowHelper::handleNativeEvent`. The messages `SetWindowPos` sends are handled with the
guard set, so their own `updateMargins` returns at once: one level is all there is
(`nesting_stops_at_one_level`). -/
def handleNativeEvent (h : WindowHelper) (n : Native) (result : Bool) (m : Message) : Outcome :=
  handleNativeEventAt 1 h n result m

/-- The helper `WindowHelper(window)` builds: `_marginsDelta` null, `_updatingMargins` false
and, after `init()`, the system menu `GetSystemMenu` returned, updated for the window's
state. -/
def init (n : Native) (systemMenu : Option (List MenuItemInfo)) : WindowHelper :=
  let h := (⟨⟨0, 0, 0, 0⟩, false, none, []⟩ : WindowHelper).updateMargins (deliverAt 0 n) n
  { h with menu := systemMenu }.updateSystemMenu n.windowState n.menuApi

end WindowHelper

namespace MenuItemInfo

/-- The `WM_COMMAND` Windows sends when the user chooses `item` from the popup: the item's id
in the low word. -/
def chosen (item : MenuItemInfo) : Message := .command (.ofNat 64 (item.wID.toNat % 0x10000))

end MenuItemInfo

/-! ## Runs -/

/-- What reaches the helper: a message with what Windows and Qt answer while it is handled,
or a `windowStateChanged` signal Qt emits by itself. -/
inductive Input where
  | native (message : Message) (n : Native) (result : Bool)
  | windowStateChanged (state : WindowState) (api : MenuApi)

namespace WindowHelper

def step (h : WindowHelper) : Input → WindowHelper
  | .native message n result => (h.handleNativeEvent n result message).helper
  | .windowStateChanged state api => h.updateSystemMenu state api

end WindowHelper

/-- The helpers of a window whose system menu was `systemMenu` when `init()` ran. -/
inductive Reachable (systemMenu : Option (List MenuItemInfo)) : WindowHelper → Prop
  | init (n : Native) : Reachable systemMenu (WindowHelper.init n systemMenu)
  | step {h : WindowHelper} (input : Input) : Reachable systemMenu h →
      Reachable systemMenu (h.step input)

/-! ## What one call does to the helper -/

namespace WindowHelper

variable (h : WindowHelper) (n : Native) (deliver : WindowHelper → WindowHelper)

@[simp] theorem emit_menu (e : Effect) : (h.emit e).menu = h.menu := rfl
@[simp] theorem emit_marginsDelta (e : Effect) : (h.emit e).marginsDelta = h.marginsDelta := rfl
@[simp] theorem emit_updatingMargins (e : Effect) :
    (h.emit e).updatingMargins = h.updatingMargins := rfl

@[simp] theorem mapToWindow_emit (e : Effect) (p : QPoint) :
    (h.emit e).mapToWindow n p = h.mapToWindow n p := rfl

@[simp] theorem updateSystemMenu_menu (state : WindowState) (api : MenuApi) :
    (h.updateSystemMenu state api).menu = Platform.updateSystemMenu h.menu state api := rfl

@[simp] theorem updateSystemMenu_marginsDelta (state : WindowState) (api : MenuApi) :
    (h.updateSystemMenu state api).marginsDelta = h.marginsDelta := rfl

@[simp] theorem updateSystemMenu_updatingMargins (state : WindowState) (api : MenuApi) :
    (h.updateSystemMenu state api).updatingMargins = h.updatingMargins := rfl

@[simp] theorem stateChanged_updatingMargins (state : WindowState) :
    (h.stateChanged n state).updatingMargins = h.updatingMargins := rfl

@[simp] theorem stateChanged_marginsDelta (state : WindowState) :
    (h.stateChanged n state).marginsDelta = h.marginsDelta := rfl

@[simp] theorem setCustomMargins_menu (margins : QMargins) :
    (h.setCustomMargins n margins).menu = h.menu := by
  unfold setCustomMargins; split <;> rfl

@[simp] theorem setCustomMargins_marginsDelta (margins : QMargins) :
    (h.setCustomMargins n margins).marginsDelta = h.marginsDelta := by
  unfold setCustomMargins; split <;> rfl

@[simp] theorem setCustomMargins_updatingMargins (margins : QMargins) :
    (h.setCustomMargins n margins).updatingMargins = h.updatingMargins := by
  unfold setCustomMargins; split <;> rfl

@[simp] theorem sysCommand_updatingMargins (wParam lParam : BitVec 64) :
    (h.sysCommand n wParam lParam).updatingMargins = h.updatingMargins := by
  unfold sysCommand; split <;> rfl

@[simp] theorem sysCommand_marginsDelta (wParam lParam : BitVec 64) :
    (h.sysCommand n wParam lParam).marginsDelta = h.marginsDelta := by
  unfold sysCommand; split <;> rfl

@[simp] theorem command_updatingMargins (wParam : BitVec 64) :
    (h.command wParam).2.updatingMargins = h.updatingMargins := by
  simp only [command, apply_ite Prod.snd, apply_ite updatingMargins, emit_updatingMargins, ite_self]

@[simp] theorem command_menu (wParam : BitVec 64) : (h.command wParam).2.menu = h.menu := by
  simp only [command, apply_ite Prod.snd, apply_ite menu, emit_menu, ite_self]

@[simp] theorem command_marginsDelta (wParam : BitVec 64) :
    (h.command wParam).2.marginsDelta = h.marginsDelta := by
  simp only [command, apply_ite Prod.snd, apply_ite marginsDelta, emit_marginsDelta, ite_self]

/-- The messages `SetWindowPos` sends are delivered by `deliverAt`, one level less deep. -/
theorem handleNativeEvent_eq (result : Bool) (m : Message) :
    h.handleNativeEvent n result m = h.handleNativeEventWith (deliverAt 0 n) n result m := rfl

/-- While the guard is set, `updateMargins` returns at once. -/
theorem updateMargins_of_updating (busy : h.updatingMargins = true) :
    h.updateMargins deliver n = h := by
  simp [updateMargins, busy]

/-- `updateMargins` leaves the guard as it found it: it clears what it set. -/
@[simp] theorem updateMargins_updatingMargins :
    (h.updateMargins deliver n).updatingMargins = h.updatingMargins := by
  unfold updateMargins
  split
  · rfl
  · next idle => simp [idle]

/-- `updateMargins` reads the messages `SetWindowPos` sends only with its guard set. -/
theorem updateMargins_congr {deliver deliver' : WindowHelper → WindowHelper}
    (same : ∀ h', h'.updatingMargins = true → deliver h' = deliver' h') :
    h.updateMargins deliver n = h.updateMargins deliver' n := by
  simp only [updateMargins, same, emit_updatingMargins]

/-- After `updateMargins` from an idle helper the delta depends on the window alone: the
overhang over the work area when it is maximized, null when it is not. -/
theorem updateMargins_marginsDelta (idle : h.updatingMargins = false) :
    (h.updateMargins deliver n).marginsDelta =
      if n.style &&& wsMaximize ≠ 0 then
        marginsDeltaOf n.windowRect ((n.workAreaNear n.windowRect).getD n.windowRect)
      else ⟨0, 0, 0, 0⟩ := by
  simp only [updateMargins, idle, Bool.false_eq_true, if_false]
  split
  · simp
  · split
    · simp
    · next null => simpa using QMargins.eq_zero_of_isNull (by simpa using null)

/-- `WM_COMMAND` with a 16-bit command in the low word. -/
theorem command_ofNat {v : Nat} (small : v < 0x10000) : h.command (.ofNat 64 v) =
    if v = scClose then (true, h.emit .close)
    else if v = scMinimize then (true, h.emit (.setWindowState .minimized))
    else if v = scMaximize then (true, h.emit (.setWindowState .maximized))
    else if v = scRestore then (true, h.emit (.setWindowState .noState))
    else (true, h) := by
  simp only [command, hiword_ofNat small, loword_ofNat small, ne_eq, not_true_eq_false,
    if_false]

end WindowHelper

/-! ## The guard: one level of nested messages -/

namespace WindowHelper

variable (h : WindowHelper) (n : Native) (deliver : WindowHelper → WindowHelper)

/-- A message leaves the guard as it found it. -/
@[simp] theorem handleNativeEventWith_updatingMargins (result : Bool) (m : Message) :
    (h.handleNativeEventWith deliver n result m).helper.updatingMargins = h.updatingMargins := by
  cases m
  case size wParam =>
    simp only [handleNativeEventWith, size, apply_ite updatingMargins, emit_updatingMargins,
      updateMargins_updatingMargins, stateChanged_updatingMargins, ite_self]
  case command wParam => exact h.command_updatingMargins wParam
  case ncCalcSize r =>
    simp only [handleNativeEventWith]
    split <;> rfl
  all_goals simp only [handleNativeEventWith, apply_ite Outcome.helper, apply_ite updatingMargins,
    emit_updatingMargins, sysCommand_updatingMargins, ite_self]

@[simp] theorem handleNativeEventAt_updatingMargins (depth : Nat) (result : Bool) (m : Message) :
    (handleNativeEventAt depth h n result m).helper.updatingMargins = h.updatingMargins := by
  cases depth <;> exact handleNativeEventWith_updatingMargins _ _ _ _ _

@[simp] theorem step_updatingMargins (input : Input) :
    (h.step input).updatingMargins = h.updatingMargins := by
  cases input <;> simp [step, handleNativeEvent]

/-- With the guard set, a message does not reach the messages `SetWindowPos` sends. -/
theorem handleNativeEventWith_of_updating (busy : h.updatingMargins = true)
    (deliver' : WindowHelper → WindowHelper) (result : Bool) (m : Message) :
    h.handleNativeEventWith deliver n result m = h.handleNativeEventWith deliver' n result m := by
  cases m
  case size wParam =>
    simp only [handleNativeEventWith, size]
    rw [updateMargins_of_updating _ _ _ ?_, updateMargins_of_updating _ _ _ ?_] <;>
      simp only [apply_ite updatingMargins, stateChanged_updatingMargins, busy, ite_self]
  all_goals rfl

/-- `handleNativeEventWith` reads `deliver` only on helpers with the guard set. -/
theorem handleNativeEventWith_congr {deliver deliver' : WindowHelper → WindowHelper}
    (same : ∀ h', h'.updatingMargins = true → deliver h' = deliver' h') (result : Bool)
    (m : Message) :
    h.handleNativeEventWith deliver n result m = h.handleNativeEventWith deliver' n result m := by
  cases m
  case size wParam =>
    simp only [handleNativeEventWith, size, updateMargins_congr _ _ same]
  all_goals rfl

theorem deliverAt_of_updating (depth : Nat) : ∀ (sent : List (Message × Bool)) (h : WindowHelper),
    h.updatingMargins = true →
      sent.foldl (fun h s => (handleNativeEventAt depth h n s.2 s.1).helper) h =
        sent.foldl (fun h s => (handleNativeEventAt 0 h n s.2 s.1).helper) h
  | [], _, _ => rfl
  | s :: sent, h, busy => by
    have same : handleNativeEventAt depth h n s.2 s.1 = handleNativeEventAt 0 h n s.2 s.1 := by
      cases depth
      · rfl
      · exact handleNativeEventWith_of_updating _ _ _ busy _ _ _
    simp only [List.foldl_cons, same]
    exact deliverAt_of_updating depth sent _ (by simpa using busy)

end WindowHelper

/-- **One level of nested messages is all there is.** The messages `SetWindowPos` sends
while `updateMargins` runs are handled with the guard set, so none of them reaches
`SetWindowPos` again: following them any number of levels deep gives what following them
one level gives. -/
theorem nesting_stops_at_one_level (h : WindowHelper) (n : Native) (depth : Nat) (result : Bool)
    (m : Message) :
    WindowHelper.handleNativeEventAt (depth + 1) h n result m = h.handleNativeEvent n result m :=
  WindowHelper.handleNativeEventWith_congr h n
    (fun h' busy => WindowHelper.deliverAt_of_updating n depth _ h' busy) result m

/-! ## A maximized window -/

/-- A maximized window whose rectangle reaches 8 pixels past a 1920 by 1040 work area on every
side, with a 32 pixel title. -/
def maximizedNative : Native where
  windows8OrGreater := true
  compositionEnabled := true
  defWindowProc := 0
  showCmd := some swShowMaximized
  workAreaAt := fun _ => some ⟨0, 0, 1920, 1040⟩
  workAreaNear := fun _ => some ⟨0, 0, 1920, 1040⟩
  style := wsMaximize
  windowRect := ⟨-8, -8, 1928, 1048⟩
  clientRect := ⟨0, 0, 1936, 1056⟩
  adjustWindowRectEx := fun r => ⟨r.left - 8, r.top - 8, r.right + 8, r.bottom + 8⟩
  windowState := .maximized
  rect := ⟨0, 0, 1920, 1040⟩
  titleGeometry := ⟨0, 0, 1920, 32⟩
  titleHitTest := fun _ => .caption
  nativeInterface := true
  menuApi := MenuApi.succeeding
  sentBySetWindowPos := []

end Kotatogram.Ui.Platform
