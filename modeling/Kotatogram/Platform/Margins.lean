/-
# Platform.Margins — how `updateMargins` resizes the window and places its client area

A maximized window's rectangle reaches past the monitor's work area by its invisible frame;
`updateMargins` records that overhang as `_marginsDelta`, takes it off the margins Qt is
given, and when the window is restored shrinks it by the delta with `SetWindowPos` and
clears the delta. `WM_NCHITTEST` maps a screen point into the window through the delta.

* `resizes_at_most_once`: whatever Windows sends back while `SetWindowPos` runs, one message
  calls `SetWindowPos` at most once.
* `restored_window_shrinks_once`: over any run while the window is not maximized, the
  helper calls `SetWindowPos` at most once, and not at all when it holds no delta.
* `hit_test_origin_after_size`: after `WM_SIZE`, while the window keeps its rectangle,
  `WM_NCHITTEST` maps a screen point relative to the monitor's work area when the window is
  maximized and relative to the window's rectangle when it is not.
-/
import Kotatogram.Platform.WindowHelper

namespace Kotatogram.Ui.Platform

set_option autoImplicit false

/-! ## How often one message resizes the window -/

/-- The effect `SetWindowPos`. -/
def Effect.isSetWindowPos : Effect → Bool
  | .setWindowPos .. => true
  | _ => false

namespace WindowHelper

/-- How often the helper has asked for `SetWindowPos`. -/
def resizes (h : WindowHelper) : Nat := h.log.countP Effect.isSetWindowPos

variable (h : WindowHelper) (n : Native) (deliver : WindowHelper → WindowHelper)

@[simp] theorem emit_resizes (e : Effect) :
    (h.emit e).resizes = h.resizes + if e.isSetWindowPos then 1 else 0 := by
  simp [resizes, emit, List.countP_append, List.countP_cons]

@[simp] theorem resizes_mk (d : QMargins) (busy : Bool) (menu : Option (List MenuItemInfo))
    (log : List Effect) : (⟨d, busy, menu, log⟩ : WindowHelper).resizes = log.countP Effect.isSetWindowPos :=
  rfl

@[simp] theorem updateSystemMenu_resizes (state : WindowState) (api : MenuApi) :
    (h.updateSystemMenu state api).resizes = h.resizes := rfl

@[simp] theorem setCustomMargins_resizes (margins : QMargins) :
    (h.setCustomMargins n margins).resizes = h.resizes := by
  unfold setCustomMargins; split <;> simp [Effect.isSetWindowPos]

@[simp] theorem stateChanged_resizes (state : WindowState) :
    (h.stateChanged n state).resizes = h.resizes := by
  simp [stateChanged, Effect.isSetWindowPos]

@[simp] theorem sysCommand_resizes (wParam lParam : BitVec 64) :
    (h.sysCommand n wParam lParam).resizes = h.resizes := by
  unfold sysCommand; split <;> simp [Effect.isSetWindowPos]

@[simp] theorem command_resizes (wParam : BitVec 64) : (h.command wParam).2.resizes = h.resizes := by
  simp only [command, apply_ite Prod.snd, apply_ite resizes, emit_resizes, Effect.isSetWindowPos,
    Bool.false_eq_true, if_false, Nat.add_zero, ite_self]

/-- `updateMargins` calls `SetWindowPos` at most once, when the messages it sends do not. -/
theorem updateMargins_resizes
    (nested : ∀ h', h'.updatingMargins = true → (deliver h').resizes ≤ h'.resizes) :
    (h.updateMargins deliver n).resizes ≤ h.resizes + 1 := by
  unfold updateMargins
  split
  · omega
  · dsimp only
    split_ifs
    · exact (setCustomMargins_resizes _ _ _).trans_le (Nat.le_succ _)
    · refine (setCustomMargins_resizes _ _ _).trans_le ((nested _ rfl).trans ?_)
      simp only [emit_resizes, resizes_mk]
      simp [Effect.isSetWindowPos, resizes]
    · exact (setCustomMargins_resizes _ _ _).trans_le (Nat.le_succ _)

/-- `h'` differs from `h` in nothing `updateMargins` reads or counts: the delta, the guard and
the calls to `SetWindowPos` are the same. -/
structure Quiet (h h' : WindowHelper) : Prop where
  marginsDelta : h'.marginsDelta = h.marginsDelta
  updatingMargins : h'.updatingMargins = h.updatingMargins
  resizes : h'.resizes = h.resizes

theorem Quiet.refl (h : WindowHelper) : Quiet h h := ⟨rfl, rfl, rfl⟩

omit n deliver in
theorem quiet_emit {e : Effect} (other : e.isSetWindowPos = false) : Quiet h (h.emit e) :=
  ⟨rfl, rfl, by simp [other]⟩

/-- What a message does to the delta and the resizes: nothing, or one `updateMargins` from a
helper that differs in neither. -/
theorem handleNativeEventWith_quiet (result : Bool) (m : Message) :
    Quiet h (h.handleNativeEventWith deliver n result m).helper ∨
      ∃ h₀, Quiet h h₀ ∧
        Quiet (h₀.updateMargins deliver n) (h.handleNativeEventWith deliver n result m).helper := by
  cases m
  case size wParam =>
    dsimp only [handleNativeEventWith, size]
    by_cases sized : wParam.toNat = sizeMaximized ∨ wParam.toNat = sizeRestored ∨
      wParam.toNat = sizeMinimized
    · rw [if_pos sized]
      refine .inr ⟨_, ⟨?_, ?_, ?_⟩, quiet_emit _ rfl⟩ <;>
        simp only [apply_ite marginsDelta, apply_ite updatingMargins, apply_ite resizes,
          stateChanged_marginsDelta, stateChanged_updatingMargins, stateChanged_resizes, ite_self]
    · rw [if_neg sized]
      exact .inl (.refl h)
  case command wParam => exact .inl ⟨by simp [handleNativeEventWith], by simp [handleNativeEventWith],
    by simp [handleNativeEventWith]⟩
  all_goals
    left
    simp only [handleNativeEventWith]
    repeat' split
  all_goals exact ⟨by simp, by simp, by simp [Effect.isSetWindowPos]⟩

/-- A message calls `SetWindowPos` at most as often as `updateMargins` does. -/
theorem handleNativeEventWith_resizes {k : Nat}
    (margins : ∀ h' : WindowHelper, h'.updatingMargins = h.updatingMargins →
      (h'.updateMargins deliver n).resizes ≤ h'.resizes + k) (result : Bool) (m : Message) :
    (h.handleNativeEventWith deliver n result m).helper.resizes ≤ h.resizes + k := by
  rcases handleNativeEventWith_quiet h n deliver result m with q | ⟨h₀, q₀, q⟩
  · rw [q.resizes]
    omega
  · rw [q.resizes, ← q₀.resizes]
    exact margins h₀ q₀.updatingMargins

theorem handleNativeEventAt_resizes_of_updating (busy : h.updatingMargins = true)
    (depth : Nat) (result : Bool) (m : Message) :
    (handleNativeEventAt depth h n result m).helper.resizes ≤ h.resizes := by
  cases depth <;> exact handleNativeEventWith_resizes (k := 0) _ _ _
    (fun h' same => by rw [updateMargins_of_updating _ _ _ (same.trans busy)]; omega) _ _

theorem deliverAt_resizes (depth : Nat) : ∀ (sent : List (Message × Bool)) (h : WindowHelper),
    h.updatingMargins = true →
      (sent.foldl (fun h s => (handleNativeEventAt depth h n s.2 s.1).helper) h).resizes ≤
        h.resizes
  | [], _, _ => le_rfl
  | s :: sent, h, busy =>
    (deliverAt_resizes depth sent _ (by simpa using busy)).trans
      (handleNativeEventAt_resizes_of_updating h n busy depth s.2 s.1)

end WindowHelper

/-- **No message resizes the window twice.** Whatever messages Windows sends back while
`SetWindowPos` runs, handling one message asks for `SetWindowPos` at most once: the messages
sent during the resize find the guard set, and their `updateMargins` returns at once. -/
theorem resizes_at_most_once (h : WindowHelper) (n : Native) (result : Bool) (m : Message) :
    (h.handleNativeEvent n result m).helper.resizes ≤ h.resizes + 1 :=
  WindowHelper.handleNativeEventWith_resizes h n _
    (fun h' _ => WindowHelper.updateMargins_resizes h' n _
      (fun h'' busy => WindowHelper.deliverAt_resizes n 0 _ h'' busy)) result m

/-! ## Hit testing after a resize -/

/-- Where the client area starts on the screen: at the corner of the monitor's work area when
the window is maximized (of the window's rectangle when no monitor is found), and at the
corner of the window's rectangle when it is not. -/
def clientOrigin (n : Native) : QPoint :=
  let w := n.windowRect
  let corner := if n.style &&& wsMaximize ≠ 0 then (n.workAreaNear w).getD w else w
  ⟨corner.left, corner.top⟩

theorem WindowHelper.mapToWindow_updateMargins (h : WindowHelper) (idle : h.updatingMargins = false)
    (deliver : WindowHelper → WindowHelper) {n n' : Native} (same : n'.windowRect = n.windowRect)
    (p : QPoint) : (h.updateMargins deliver n).mapToWindow n' p =
      ⟨p.x - (clientOrigin n).x, p.y - (clientOrigin n).y⟩ := by
  simp only [mapToWindow, updateMargins_marginsDelta _ _ _ idle, same, clientOrigin]
  split <;> (simp only [marginsDeltaOf, QPoint.mk.injEq]; omega)

/-- After `WM_SIZE` between messages, while the window keeps its rectangle, `WM_NCHITTEST`
classifies a screen point by where it lies from the client area's corner. -/
theorem hit_test_origin_after_size (h : WindowHelper) (idle : h.updatingMargins = false)
    (n : Native) (result : Bool)
    {wParam : BitVec 64} (sized : wParam.toNat = sizeMaximized ∨ wParam.toNat = sizeRestored ∨
      wParam.toNat = sizeMinimized)
    {n' : Native} (same : n'.windowRect = n.windowRect) (lParam : BitVec 64) :
    ((h.handleNativeEvent n result (.size wParam)).helper.handleNativeEvent n' true
        (.ncHitTest lParam)).result =
      some (WindowHelper.hitTestAt n' ⟨(makePoints lParam).x - (clientOrigin n).x,
        (makePoints lParam).y - (clientOrigin n).y⟩) := by
  simp only [WindowHelper.handleNativeEvent_eq,
    WindowHelper.handleNativeEventWith, WindowHelper.size, if_pos sized, if_true,
    WindowHelper.mapToWindow_emit]
  split
  all_goals
    rw [WindowHelper.mapToWindow_updateMargins _ ?_ _ same]
    simpa using idle

theorem hit_test_origin_after_size_maximized :
    (((WindowHelper.init maximizedNative (some standardSystemMenu)).handleNativeEvent
        maximizedNative true (.size (.ofNat 64 sizeMaximized))).helper.handleNativeEvent
        maximizedNative true (.ncHitTest 0x000A000A#64)).result =
      some (WindowHelper.hitTestAt maximizedNative
        ⟨(makePoints 0x000A000A#64).x - (clientOrigin maximizedNative).x,
          (makePoints 0x000A000A#64).y - (clientOrigin maximizedNative).y⟩) :=
  hit_test_origin_after_size _ rfl _ true
    (.inl (rfl : (BitVec.ofNat 64 sizeMaximized).toNat = sizeMaximized)) rfl _

/-! ## A window that stays restored is shrunk once -/

/-- An input that finds the window not maximized: a message while it has no `WS_MAXIMIZE`, or
a signal. -/
def Input.Restored : Input → Prop
  | .native _ n _ => n.style &&& wsMaximize = 0
  | .windowStateChanged .. => True

namespace WindowHelper

variable (h : WindowHelper) (n : Native) (deliver : WindowHelper → WindowHelper)

/-- The calls to `SetWindowPos` so far, and one more while a delta is held. -/
def shrinkBound : Nat := h.resizes + if h.marginsDelta.isNull then 0 else 1

omit n deliver in
theorem Quiet.shrinkBound_eq {h' : WindowHelper} (q : Quiet h h') : h'.shrinkBound = h.shrinkBound := by
  simp only [shrinkBound, q.marginsDelta, q.resizes]

/-- On a window that is not maximized `updateMargins` shrinks the window only by a delta it
holds, and clears it as it does. -/
theorem updateMargins_shrinkBound (idle : h.updatingMargins = false)
    (restored : n.style &&& wsMaximize = 0)
    (nested : ∀ h', h'.updatingMargins = true → (deliver h').resizes ≤ h'.resizes) :
    (h.updateMargins deliver n).shrinkBound ≤ h.shrinkBound := by
  have cleared : (h.updateMargins deliver n).marginsDelta.isNull = true := by
    rw [updateMargins_marginsDelta _ _ _ idle, if_neg (by simpa using restored)]
    rfl
  simp only [shrinkBound, cleared, if_true, Nat.add_zero]
  cases null : h.marginsDelta.isNull
  · simpa using updateMargins_resizes h n deliver nested
  · have none_added : (h.updateMargins deliver n).resizes ≤ h.resizes := by
      unfold updateMargins
      split
      · exact le_rfl
      · dsimp only
        split_ifs with maximized delta
        · exact absurd restored maximized
        · simp [null] at delta
        · exact (setCustomMargins_resizes _ _ _).le
    simpa using none_added

theorem step_shrinkBound (idle : h.updatingMargins = false) {input : Input}
    (restored : input.Restored) : (h.step input).shrinkBound ≤ h.shrinkBound := by
  cases input with
  | windowStateChanged state api => exact le_of_eq (Quiet.shrinkBound_eq h ⟨rfl, rfl, rfl⟩)
  | native m n result =>
    rcases handleNativeEventWith_quiet h n (deliverAt 0 n) result m with q | ⟨h₀, q₀, q⟩
    · exact le_of_eq (Quiet.shrinkBound_eq h q)
    · calc (h.step (.native m n result)).shrinkBound
          = (h₀.updateMargins (deliverAt 0 n) n).shrinkBound := Quiet.shrinkBound_eq _ q
        _ ≤ h₀.shrinkBound := updateMargins_shrinkBound h₀ n _ (q₀.updatingMargins.trans idle)
            restored (fun h' busy => deliverAt_resizes n 0 _ h' busy)
        _ = h.shrinkBound := Quiet.shrinkBound_eq h q₀

theorem foldl_step_shrinkBound : ∀ (inputs : List Input) (h : WindowHelper),
    h.updatingMargins = false → (∀ input ∈ inputs, input.Restored) →
      (inputs.foldl step h).shrinkBound ≤ h.shrinkBound
  | [], _, _, _ => le_rfl
  | input :: inputs, h, idle, restored =>
    (foldl_step_shrinkBound inputs _ (by simpa using idle)
      (fun i mem => restored i (.tail _ mem))).trans
      (step_shrinkBound h idle (restored input (.head _)))

end WindowHelper

/-- **A restored window is shrunk once.** Over any run of messages and signals while the
window is not maximized, whatever messages `SetWindowPos` sends back, the helper calls
`SetWindowPos` at most once, and not at all when it holds no delta: the delta it shrinks the
window by is cleared as it does, so no later `WM_SIZE` shrinks it again. -/
theorem restored_window_shrinks_once (h : WindowHelper) (idle : h.updatingMargins = false)
    (inputs : List Input) (restored : ∀ input ∈ inputs, input.Restored) :
    (inputs.foldl WindowHelper.step h).resizes ≤
      h.resizes + if h.marginsDelta.isNull then 0 else 1 :=
  (Nat.le_add_right _ _).trans (WindowHelper.foldl_step_shrinkBound inputs h idle restored)

/-- The window of `maximizedNative` restored: no `WS_MAXIMIZE`, shown normally
(`SW_SHOWNORMAL`), with the rectangle it had. -/
def restoredNative : Native :=
  { maximizedNative with showCmd := some 1, style := 0, windowState := .noState }

theorem restored_window_shrinks_once_after_maximize :
    let h := (WindowHelper.init maximizedNative (some standardSystemMenu)).step
      (.native (.size (.ofNat 64 sizeMaximized)) maximizedNative true)
    let restore := Input.native (.size (.ofNat 64 sizeRestored)) restoredNative true
    h.updatingMargins = false ∧ (∀ input ∈ [restore, restore, restore], input.Restored) ∧
      ([restore, restore, restore].foldl WindowHelper.step h).resizes ≤
        h.resizes + if h.marginsDelta.isNull then 0 else 1 := by
  intro h restore
  have restored : ∀ input ∈ [restore, restore, restore], input.Restored := by
    intro input mem
    simp only [List.mem_cons, List.not_mem_nil, or_false, or_self] at mem
    subst mem
    rfl
  exact ⟨rfl, restored, restored_window_shrinks_once h rfl _ restored⟩

end Kotatogram.Ui.Platform
