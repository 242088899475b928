/-
# Platform.Popup — the system menu along a run, and what choosing from it does

`updateSystemMenu` disables the command for the window's current state in the system menu,
and a right click on the frame opens that menu as a popup. Along a run the menu is updated
again and again, by `WM_SIZE`, `WM_SYSCOMMAND`, the messages `SetWindowPos` sends and the
`windowStateChanged` signal, and some of those passes may stop at a failing menu call.

* `Reachable.menuAgrees`: along every run, with any messages, any answers from Windows and
  any failing menu calls, a complete `updateSystemMenu` gives the same menu as on the system
  menu `init()` found; `popup_shows_initial_menu_for_state` is what the popup of a right
  click then shows.
* `popup_never_requests_current_state`: every item the user can choose from that popup makes
  `WM_COMMAND` close the window, do nothing, or ask for a state other than the one the menu
  was updated for.
-/
import Mathlib.Logic.Relation
import Kotatogram.Platform.WindowHelper

namespace Kotatogram.Ui.Platform

set_option autoImplicit false

/-! ## The system menu along a run -/

/-- A call that runs `updateSystemMenu` on the system menu once. -/
def MenuStep (menu menu' : Option (List MenuItemInfo)) : Prop :=
  ∃ state api, menu' = updateSystemMenu menu state api

/-- What one message does to the system menu: `updateSystemMenu` any number of times, once for
a `WM_SIZE` or `WM_SYSCOMMAND` and again for each one `SetWindowPos` sends while it runs. -/
abbrev MenuSteps := Relation.ReflTransGen MenuStep

namespace WindowHelper

variable (h : WindowHelper) (n : Native) (deliver : WindowHelper → WindowHelper)

theorem updateSystemMenu_menuSteps (state : WindowState) (api : MenuApi) :
    MenuSteps h.menu (h.updateSystemMenu state api).menu :=
  .single ⟨state, api, rfl⟩

theorem stateChanged_menuSteps (state : WindowState) :
    MenuSteps h.menu (h.stateChanged n state).menu :=
  updateSystemMenu_menuSteps (h.emit _) state n.menuApi

theorem sysCommand_menuSteps (wParam lParam : BitVec 64) :
    MenuSteps h.menu (h.sysCommand n wParam lParam).menu := by
  unfold sysCommand
  split
  · exact updateSystemMenu_menuSteps h _ _
  · exact .refl

section
variable (nested : ∀ h', MenuSteps h'.menu (deliver h').menu)
include nested

omit h in
/-- `nested` for a helper whose menu is the one `h` had. -/
theorem deliver_menuSteps {h h' : WindowHelper} (same : h'.menu = h.menu) :
    MenuSteps h.menu (deliver h').menu :=
  same ▸ nested h'

theorem updateMargins_menuSteps : MenuSteps h.menu (h.updateMargins deliver n).menu := by
  unfold updateMargins
  split
  · exact .refl
  · dsimp only
    split_ifs
    · simpa using Relation.ReflTransGen.refl
    · simp only [setCustomMargins_menu]
      exact deliver_menuSteps deliver nested rfl
    · simpa using Relation.ReflTransGen.refl

theorem size_menuSteps (wParam : BitVec 64) : MenuSteps h.menu (h.size deliver n wParam).menu := by
  dsimp only [size]
  split
  · refine Relation.ReflTransGen.trans ?_ (updateMargins_menuSteps _ n deliver nested)
    split
    · exact stateChanged_menuSteps h n _
    · exact .refl
  · exact .refl

theorem handleNativeEventWith_menuSteps (result : Bool) (m : Message) :
    MenuSteps h.menu (h.handleNativeEventWith deliver n result m).helper.menu := by
  cases m
  case size wParam => exact size_menuSteps h n deliver nested wParam
  case ncRButtonUp lParam => exact sysCommand_menuSteps h n _ lParam
  case sysCommand wParam lParam => exact sysCommand_menuSteps h n wParam lParam
  case command wParam => simpa [handleNativeEventWith] using Relation.ReflTransGen.refl
  all_goals
    simp only [handleNativeEventWith]
    repeat' split
  all_goals exact .refl

end

theorem foldl_menuSteps {α : Type} (f : WindowHelper → α → WindowHelper)
    (each : ∀ h a, MenuSteps h.menu (f h a).menu) :
    ∀ (l : List α) (h : WindowHelper), MenuSteps h.menu (l.foldl f h).menu
  | [], _ => .refl
  | a :: l, h => (each h a).trans (foldl_menuSteps f each l _)

theorem handleNativeEventAt_menuSteps : ∀ (depth : Nat) (h : WindowHelper) (result : Bool)
    (m : Message), MenuSteps h.menu (handleNativeEventAt depth h n result m).helper.menu
  | 0, h, result, m => handleNativeEventWith_menuSteps h n id (fun _ => .refl) result m
  | depth + 1, h, result, m => handleNativeEventWith_menuSteps h n (deliverAt depth n)
      (foldl_menuSteps _ (fun h (sent : Message × Bool) =>
        handleNativeEventAt_menuSteps depth h sent.2 sent.1) n.sentBySetWindowPos) result m

theorem step_menuSteps (input : Input) : MenuSteps h.menu (h.step input).menu := by
  cases input with
  | native message n result => exact handleNativeEventAt_menuSteps n 1 h result message
  | windowStateChanged state api => exact updateSystemMenu_menuSteps h state api

end WindowHelper

/-- A complete `updateSystemMenu` gives the same menu from `menu` as from `systemMenu`. -/
def MenuAgrees (systemMenu menu : Option (List MenuItemInfo)) : Prop :=
  ∀ toDisable, menu.map (List.map (MenuItemInfo.update toDisable)) =
    systemMenu.map (List.map (MenuItemInfo.update toDisable))

namespace MenuAgrees

variable {systemMenu menu menu' : Option (List MenuItemInfo)}

theorem updateSystemMenu (agree : MenuAgrees systemMenu menu) (state : WindowState)
    (api : MenuApi) : MenuAgrees systemMenu (Platform.updateSystemMenu menu state api) := by
  intro toDisable
  rw [← agree toDisable]
  cases menu <;> simp [Platform.updateSystemMenu, map_update_updateItems]

theorem of_menuSteps (agree : MenuAgrees systemMenu menu) (steps : MenuSteps menu menu') :
    MenuAgrees systemMenu menu' := by
  induction steps with
  | refl => exact agree
  | tail _ step agree' =>
    obtain ⟨state, api, rfl⟩ := step
    exact agree'.updateSystemMenu state api

/-- On agreeing menus a pass in which no call fails gives the same menu. -/
theorem complete (agree : MenuAgrees systemMenu menu) {api : MenuApi} (reliable : api.Reliable)
    (state : WindowState) :
    Platform.updateSystemMenu menu state api = Platform.updateSystemMenu systemMenu state api := by
  have whole := funext (updateItems_of_reliable (menuToDisable state) api reliable 0)
  simp only [Platform.updateSystemMenu, whole]
  exact agree _

end MenuAgrees

/-- Every reachable helper's menu agrees with the system menu `init()` found. -/
theorem Reachable.menuAgrees {systemMenu : Option (List MenuItemInfo)} {h : WindowHelper}
    (reach : Reachable systemMenu h) : MenuAgrees systemMenu h.menu := by
  induction reach with
  | init n => exact MenuAgrees.updateSystemMenu (fun _ => rfl) _ _
  | step input _ agree => exact agree.of_menuSteps (WindowHelper.step_menuSteps _ input)

/-- Along every run, the popup a right click on the frame opens shows the system menu `init()`
found, updated for the window's state of that moment, when no menu call fails. -/
theorem popup_shows_initial_menu_for_state {systemMenu : Option (List MenuItemInfo)}
    {h : WindowHelper} (reach : Reachable systemMenu h) (n : Native) (reliable : n.menuApi.Reliable)
    (result : Bool) (lParam : BitVec 64) :
    h.handleNativeEvent n result (.ncRButtonUp lParam) =
      ⟨true, none, { h with
        menu := updateSystemMenu systemMenu n.windowState n.menuApi,
        log := h.log ++ [.trackPopupMenu (updateSystemMenu systemMenu n.windowState n.menuApi)
          (makePoints lParam).x (makePoints lParam).y] }⟩ := by
  have mouseMenu : (BitVec.ofNat 64 scMouseMenu).toNat = scMouseMenu := rfl
  simp only [WindowHelper.handleNativeEvent_eq,
    WindowHelper.handleNativeEventWith, WindowHelper.sysCommand, mouseMenu, if_true,
    WindowHelper.emit, WindowHelper.updateSystemMenu, reach.menuAgrees.complete reliable]

theorem popup_shows_initial_menu_for_state_maximized :
    ∃ h, Reachable (some standardSystemMenu) h ∧
      h.handleNativeEvent maximizedNative true (.ncRButtonUp 0#64) =
        ⟨true, none, { h with
          menu := updateSystemMenu (some standardSystemMenu) .maximized MenuApi.succeeding,
          log := h.log ++ [.trackPopupMenu
            (updateSystemMenu (some standardSystemMenu) .maximized MenuApi.succeeding)
            (makePoints 0#64).x (makePoints 0#64).y] }⟩ :=
  ⟨_, .init maximizedNative, popup_shows_initial_menu_for_state (.init maximizedNative)
    maximizedNative MenuApi.succeeding_reliable true 0#64⟩

/-! ## Choosing from the popup -/

/-- Every item the user can choose from a popup updated for `state` without a failing call
makes `WM_COMMAND` close the window, do nothing, or ask for a state other than `state`. -/
theorem popup_never_requests_current_state (menu : Option (List MenuItemInfo))
    (state : WindowState) {api : MenuApi} (reliable : api.Reliable) {items : List MenuItemInfo}
    (shown : updateSystemMenu menu state api = some items) {item : MenuItemInfo}
    (mem : item ∈ items) (choosable : item.choosable = true) (h : WindowHelper) (n : Native)
    (result : Bool) :
    (h.handleNativeEvent n result item.chosen).handled = true ∧
      (h.handleNativeEvent n result item.chosen).result = none ∧
      ((h.handleNativeEvent n result item.chosen).helper = h ∨
        (h.handleNativeEvent n result item.chosen).helper = h.emit .close ∨
        ∃ target, target ≠ state ∧
          (h.handleNativeEvent n result item.chosen).helper = h.emit (.setWindowState target)) := by
  obtain ⟨entry, rfl⟩ := mem_updateSystemMenu reliable shown mem
  have ids := MenuItemInfo.choosable_update choosable
  have small : entry.wID.toNat % 0x10000 = entry.wID.toNat := by
    rcases ids with id | id | ⟨id | id | id, -⟩ <;> rw [id] <;> rfl
  simp only [MenuItemInfo.chosen, MenuItemInfo.update_wID, WindowHelper.handleNativeEvent_eq,
    WindowHelper.handleNativeEventWith, small,
    h.command_ofNat (small ▸ Nat.mod_lt _ (by decide))]
  rcases ids with id | id | ⟨id | id | id, other⟩ <;>
    simp only [id, scClose, scMinimize, scMaximize, scRestore, Nat.reduceEqDiff, ↓reduceIte,
      true_and]
  · exact .inl trivial
  · exact .inr (.inl trivial)
  · exact .inr (.inr ⟨.minimized, fun same => other (by rw [id, ← same]; rfl), rfl⟩)
  · exact .inr (.inr ⟨.maximized, fun same => other (by rw [id, ← same]; rfl), rfl⟩)
  · exact .inr (.inr ⟨.noState, fun same => other (by rw [id, ← same]; rfl), rfl⟩)

theorem popup_never_requests_current_state_maximized :
    ∃ items, updateSystemMenu (some standardSystemMenu) .maximized MenuApi.succeeding = some items ∧
      ∃ item ∈ items, item.choosable = true ∧
        let h := WindowHelper.init maximizedNative (some standardSystemMenu)
        (h.handleNativeEvent maximizedNative true item.chosen).handled = true ∧
          (h.handleNativeEvent maximizedNative true item.chosen).result = none ∧
          ((h.handleNativeEvent maximizedNative true item.chosen).helper = h ∨
            (h.handleNativeEvent maximizedNative true item.chosen).helper = h.emit .close ∨
            ∃ target, target ≠ .maximized ∧ (h.handleNativeEvent maximizedNative true
              item.chosen).helper = h.emit (.setWindowState target)) := by
  refine ⟨_, rfl, ⟨0#32, 0#32, 0xF020#32⟩, by decide, by decide, ?_⟩
  exact popup_never_requests_current_state (some standardSystemMenu) .maximized
    MenuApi.succeeding_reliable rfl (by decide) (by decide) _ maximizedNative true

end Kotatogram.Ui.Platform
