/-
# Platform.SystemMenu — the window's system menu offers only the other states

`WindowHelper::updateSystemMenu(state)` walks the items of the native system menu. For each
item it asks `GetMenuItemInfo` for the type, state and id; it skips separators, items with
id 0 and `SC_CLOSE`; it clears `MFS_DISABLED` and `MFS_DEFAULT` and sets `MFS_DISABLED` again
when the item's id is the command of the current state (`menuToDisable`) or none of
`SC_MINIMIZE`, `SC_MAXIMIZE`, `SC_RESTORE`; `SetMenuItemInfo` writes the new state. A failing
call of either ends the loop (`break`).

* `updateItems_prefix`: whatever calls fail, a pass has updated a prefix of the items, each as
  `MenuItemInfo.update` says, and left the others as they were.
* `map_update_updateItems`: a complete pass gives the same menu whatever passes, complete or
  broken, ran before it.
* `update_enabled`: after a complete pass a state command can be chosen exactly when it is not
  the current state's; every other item but separators, id 0 and Close is disabled.
* `update_outside_mask`: the pass changes no flag of an item's state but `MFS_DISABLED` and
  `MFS_DEFAULT`, and never its type or id.
-/
import Mathlib.Data.List.Forall2
import Kotatogram.Menu.Basic

namespace Kotatogram.Ui.Platform

set_option autoImplicit false

/-! ## The Windows constants the code reads -/

/-- `SC_MINIMIZE`. -/
def scMinimize : Nat := 0xF020
/-- `SC_MAXIMIZE`. -/
def scMaximize : Nat := 0xF030
/-- `SC_CLOSE`. -/
def scClose : Nat := 0xF060
/-- `SC_MOUSEMENU`. -/
def scMouseMenu : Nat := 0xF090
/-- `SC_RESTORE`. -/
def scRestore : Nat := 0xF120

/-- `MFT_SEPARATOR`. -/
def mftSeparator : BitVec 32 := 0x800#32
/-- `MFS_DISABLED`, which is `MFS_GRAYED`: both bits that keep an item from being chosen. -/
def mfsDisabled : BitVec 32 := 0x3#32
/-- `MFS_DEFAULT`. -/
def mfsDefault : BitVec 32 := 0x1000#32

/-- The two flags the loop rewrites. -/
def stateMask : BitVec 32 := mfsDisabled ||| mfsDefault

/-- `Qt::WindowState`, as `QWindow::windowStateChanged` and `windowState()` give it. -/
inductive WindowState where
  | noState
  | minimized
  | maximized
  | fullScreen
  | active
  deriving DecidableEq, Repr

/-- The members of `MENUITEMINFO` the loop asks for (`MIIM_TYPE | MIIM_STATE | MIIM_ID`). -/
structure MenuItemInfo where
  fType : BitVec 32
  fState : BitVec 32
  wID : BitVec 32
  deriving DecidableEq, Repr

/-- The command whose item `updateSystemMenu(state)` disables. -/
def menuToDisable : WindowState → Nat
  | .maximized => scMaximize
  | .minimized => scMinimize
  | _ => scRestore

namespace MenuItemInfo

/-- The two `continue` tests: a separator, an item without id, or `SC_CLOSE`. -/
def skipped (item : MenuItemInfo) : Bool :=
  item.fType &&& mftSeparator != 0 || item.wID.toNat == 0 || item.wID.toNat == scClose

/-- Whether the loop sets `MFS_DISABLED` again. -/
def disables (toDisable : Nat) (item : MenuItemInfo) : Bool :=
  item.wID.toNat == toDisable ||
    (item.wID.toNat != scMinimize && item.wID.toNat != scMaximize && item.wID.toNat != scRestore)

/-- `fState`, as the loop computes it before `SetMenuItemInfo`. -/
def newState (toDisable : Nat) (item : MenuItemInfo) : BitVec 32 :=
  let fState := item.fState &&& ~~~(mfsDisabled ||| mfsDefault)
  if item.disables toDisable then fState ||| mfsDisabled else fState

/-- The item after one turn of the loop in which no call fails. -/
def update (toDisable : Nat) (item : MenuItemInfo) : MenuItemInfo :=
  if item.skipped then item else { item with fState := item.newState toDisable }

/-- Windows lets the user choose an item only when neither `MFS_DISABLED` bit is set. -/
def enabled (item : MenuItemInfo) : Bool := item.fState &&& mfsDisabled == 0

/-- The user can choose the item from the popup: it is no separator and not disabled. -/
def choosable (item : MenuItemInfo) : Bool := item.fType &&& mftSeparator == 0 && item.enabled

end MenuItemInfo

/-- Which calls fail: `GetMenuItemInfo` and `SetMenuItemInfo` at each position. -/
structure MenuApi where
  getFails : Nat → Bool
  setFails : Nat → Bool

/-- No call fails. -/
def MenuApi.Reliable (api : MenuApi) : Prop := ∀ i, api.getFails i = false ∧ api.setFails i = false

/-- The calls of a menu that is not destroyed while it is updated: none fails. -/
def MenuApi.succeeding : MenuApi := ⟨fun _ => false, fun _ => false⟩

theorem MenuApi.succeeding_reliable : MenuApi.succeeding.Reliable := fun _ => ⟨rfl, rfl⟩

/-- The loop of `updateSystemMenu` from position `i`; a failing call is a `break`. -/
def updateItems (toDisable : Nat) (api : MenuApi) : Nat → List MenuItemInfo → List MenuItemInfo
  | _, [] => []
  | i, item :: rest =>
    if api.getFails i then item :: rest
    else if item.skipped then item :: updateItems toDisable api (i + 1) rest
    else if api.setFails i then item :: rest
    else { item with fState := item.newState toDisable } :: updateItems toDisable api (i + 1) rest

/-- `WindowHelper::updateSystemMenu(state)`; `none` is a null `_menu`. -/
def updateSystemMenu (menu : Option (List MenuItemInfo)) (state : WindowState) (api : MenuApi) :
    Option (List MenuItemInfo) :=
  menu.map (updateItems (menuToDisable state) api 0)

/-! ## Masks -/

section Masks

variable {w : Nat} {x d f m : BitVec w}

theorem or_and_not_of_inside (inside : d &&& ~~~m = 0#w) :
    (x &&& ~~~m ||| d) &&& ~~~m = x &&& ~~~m := by
  ext i
  have bit := congrArg (BitVec.getLsbD · i) inside
  simp only [BitVec.getLsbD_and, BitVec.getLsbD_or, BitVec.getLsbD_not, BitVec.getLsbD_zero,
    i.isLt, decide_True, Bool.true_and] at bit ⊢
  revert bit
  cases x.getLsbD i <;> cases d.getLsbD i <;> cases m.getLsbD i <;> simp

theorem and_not_and_of_inside (inside : d &&& ~~~m = 0#w) : x &&& ~~~m &&& d = 0#w := by
  rw [BitVec.and_assoc, BitVec.and_comm (~~~m), inside, BitVec.and_zero]

theorem or_and_self : (x ||| d) &&& d = d := by
  ext i
  simp only [BitVec.getLsbD_and, BitVec.getLsbD_or]
  cases x.getLsbD i <;> cases d.getLsbD i <;> rfl

theorem or_and_of_disjoint (cleared : f &&& ~~~m = 0#w) (disjoint : d &&& f = 0#w) :
    (x &&& ~~~m ||| d) &&& f = 0#w := by
  ext i
  have bit := congrArg (BitVec.getLsbD · i) cleared
  have apart := congrArg (BitVec.getLsbD · i) disjoint
  simp only [BitVec.getLsbD_and, BitVec.getLsbD_or, BitVec.getLsbD_not, BitVec.getLsbD_zero,
    i.isLt, decide_True, Bool.true_and] at bit apart ⊢
  revert bit apart
  cases x.getLsbD i <;> cases d.getLsbD i <;> cases f.getLsbD i <;> cases m.getLsbD i <;> simp

end Masks

theorem mfsDisabled_inside : mfsDisabled &&& ~~~stateMask = 0#32 := by decide
theorem zero_inside : 0#32 &&& ~~~stateMask = 0#32 := by decide
theorem mfsDefault_inside : mfsDefault &&& ~~~stateMask = 0#32 := by decide
theorem mfsDisabled_apart : mfsDisabled &&& mfsDefault = 0#32 := by decide

/-! ## One item -/

namespace MenuItemInfo

variable (toDisable toDisable' : Nat) (item : MenuItemInfo)

/-- The new state, as the old one without both flags and with the disabling bits or none. -/
theorem newState_eq : item.newState toDisable =
    (item.fState &&& ~~~stateMask ||| if item.disables toDisable then mfsDisabled else 0#32) := by
  unfold newState stateMask
  split <;> simp

@[simp] theorem update_fType : (item.update toDisable).fType = item.fType := by
  unfold update; split <;> rfl

@[simp] theorem update_wID : (item.update toDisable).wID = item.wID := by
  unfold update; split <;> rfl

@[simp] theorem update_skipped : (item.update toDisable).skipped = item.skipped := by
  simp [skipped]

@[simp] theorem update_disables : (item.update toDisable).disables toDisable' =
    item.disables toDisable' := by
  simp [disables]

theorem update_of_skipped (skip : item.skipped = true) : item.update toDisable = item := by
  simp [update, skip]

theorem update_of_not_skipped (skip : item.skipped = false) :
    item.update toDisable = { item with fState := item.newState toDisable } := by
  simp [update, skip]

/-- The new state does not depend on the two flags the loop rewrites. -/
theorem newState_outside_mask : item.newState toDisable &&& ~~~stateMask =
    item.fState &&& ~~~stateMask := by
  rw [newState_eq]
  split
  · exact or_and_not_of_inside mfsDisabled_inside
  · exact or_and_not_of_inside zero_inside

/-- The pass keeps every flag of an item's state but `MFS_DISABLED` and `MFS_DEFAULT`. -/
theorem update_outside_mask : (item.update toDisable).fState &&& ~~~stateMask =
    item.fState &&& ~~~stateMask := by
  unfold update
  split
  · rfl
  · exact newState_outside_mask toDisable item

/-- A later turn of the loop forgets what an earlier one wrote. -/
theorem update_update : (item.update toDisable).update toDisable' = item.update toDisable' := by
  cases skip : item.skipped
  · rw [update_of_not_skipped toDisable' _ (by rw [update_skipped, skip]),
      update_of_not_skipped toDisable' _ skip]
    simp only [update_fType, update_wID, newState_eq, update_disables, update_outside_mask]
  · rw [update_of_skipped _ _ skip]

/-- An item the loop reaches can be chosen exactly when the loop does not disable it. -/
theorem update_enabled (skip : item.skipped = false) :
    (item.update toDisable).enabled = !item.disables toDisable := by
  rw [update_of_not_skipped _ _ skip]
  simp only [enabled, newState_eq]
  split
  · next disabled => simp [or_and_self, mfsDisabled, disabled]
  · next kept => simp [and_not_and_of_inside mfsDisabled_inside, kept]

/-- An item the loop reaches is no longer the default item. -/
theorem update_not_default (skip : item.skipped = false) :
    (item.update toDisable).fState &&& mfsDefault = 0#32 := by
  rw [update_of_not_skipped _ _ skip]
  simp only [newState_eq]
  split
  · exact or_and_of_disjoint mfsDefault_inside mfsDisabled_apart
  · exact or_and_of_disjoint mfsDefault_inside (BitVec.zero_and)

end MenuItemInfo

/-! ## The loop -/

section Loop

variable (toDisable : Nat) (api : MenuApi)

/-- Whatever calls fail, a pass has updated a prefix of the items and left the others. -/
theorem updateItems_prefix : ∀ (i : Nat) (items : List MenuItemInfo),
    ∃ k ≤ items.length, updateItems toDisable api i items =
      (items.take k).map (·.update toDisable) ++ items.drop k ∧
      (api.Reliable → k = items.length)
  | _, [] => ⟨0, le_rfl, rfl, fun _ => rfl⟩
  | i, item :: rest => by
    obtain ⟨k, bound, eq, whole⟩ := updateItems_prefix (i + 1) rest
    have next : ∀ item' : MenuItemInfo, item' = item.update toDisable →
        ∃ k ≤ (item :: rest).length, item' :: updateItems toDisable api (i + 1) rest =
          ((item :: rest).take k).map (·.update toDisable) ++ (item :: rest).drop k ∧
          (api.Reliable → k = (item :: rest).length) :=
      fun _ same => ⟨k + 1, Nat.succ_le_succ bound, by simp [eq, same],
        fun reliable => by simp [whole reliable]⟩
    unfold updateItems
    split
    · next fails => exact ⟨0, by simp, by simp, fun reliable => by simp [(reliable i).1] at fails⟩
    split
    · next skip => exact next item (MenuItemInfo.update_of_skipped _ _ skip).symm
    split
    · next skip fails => exact ⟨0, by simp, by simp, fun reliable => by simp [(reliable i).2] at fails⟩
    · next skip _ =>
      exact next _ (MenuItemInfo.update_of_not_skipped _ _ (by simpa using skip)).symm

/-- A pass in which no call fails updates every item. -/
theorem updateItems_of_reliable (reliable : api.Reliable) (i : Nat) (items : List MenuItemInfo) :
    updateItems toDisable api i items = items.map (·.update toDisable) := by
  obtain ⟨k, -, eq, whole⟩ := updateItems_prefix toDisable api i items
  rw [eq, whole reliable, List.take_length, List.drop_length, List.append_nil]

/-- A complete pass gives the same menu whatever pass, complete or broken, ran before it. -/
theorem map_update_updateItems (toDisable' : Nat) (i : Nat) (items : List MenuItemInfo) :
    (updateItems toDisable api i items).map (·.update toDisable') =
      items.map (·.update toDisable') := by
  obtain ⟨k, -, eq, -⟩ := updateItems_prefix toDisable api i items
  have forget : MenuItemInfo.update toDisable' ∘ MenuItemInfo.update toDisable =
      MenuItemInfo.update toDisable' :=
    funext (MenuItemInfo.update_update toDisable toDisable')
  rw [eq, List.map_append, List.map_map, forget, ← List.map_append, List.take_append_drop]

theorem forall₂_take_map_append_drop {α : Type} {R : α → α → Prop} {g : α → α}
    (refl : ∀ a, R a a) (changed : ∀ a, R a (g a)) :
    ∀ (k : Nat) (l : List α), List.Forall₂ R l ((l.take k).map g ++ l.drop k)
  | 0, l => by simpa using List.forall₂_same.mpr fun a _ => refl a
  | _ + 1, [] => .nil
  | k + 1, a :: l => .cons (changed a) (forall₂_take_map_append_drop refl changed k l)

end Loop

/-! ## The pass as `updateSystemMenu` makes it -/

/-- An item a pass in which no call fails has produced from the menu. -/
theorem mem_updateSystemMenu {menu : Option (List MenuItemInfo)} {state : WindowState}
    {api : MenuApi} (reliable : api.Reliable) {items : List MenuItemInfo}
    (shown : updateSystemMenu menu state api = some items) {item : MenuItemInfo}
    (mem : item ∈ items) : ∃ entry : MenuItemInfo, item = entry.update (menuToDisable state) := by
  cases menu <;> simp only [updateSystemMenu, Option.map_none', Option.map_some',
    Option.some.injEq, reduceCtorEq] at shown
  subst shown
  rw [updateItems_of_reliable _ _ reliable] at mem
  obtain ⟨entry, -, rfl⟩ := List.mem_map.mp mem
  exact ⟨entry, rfl⟩

/-- Whatever `GetMenuItemInfo` and `SetMenuItemInfo` calls fail, `updateSystemMenu` has updated
a prefix of the items and left the others as they were, and all of them when none fails. -/
theorem system_menu_pass_updates_a_prefix (items : List MenuItemInfo) (state : WindowState)
    (api : MenuApi) :
    ∃ k ≤ items.length, updateSystemMenu (some items) state api =
      some ((items.take k).map (·.update (menuToDisable state)) ++ items.drop k) ∧
      (api.Reliable → k = items.length) := by
  obtain ⟨k, bound, eq, whole⟩ := updateItems_prefix (menuToDisable state) api 0 items
  exact ⟨k, bound, by rw [updateSystemMenu, Option.map_some', eq], whole⟩

/-- `updateSystemMenu` changes no item's type or id and no flag of its state but `MFS_DISABLED`
and `MFS_DEFAULT`, whatever calls fail; after a pass in which none fails, only separators,
items without id and Close can still be the default item. -/
theorem system_menu_pass_keeps_other_flags (items : List MenuItemInfo) (state : WindowState)
    (api : MenuApi) :
    ∃ items', updateSystemMenu (some items) state api = some items' ∧
      List.Forall₂ (fun a b => b.fType = a.fType ∧ b.wID = a.wID ∧
        b.fState &&& ~~~stateMask = a.fState &&& ~~~stateMask) items items' ∧
      (api.Reliable → ∀ b ∈ items', b.skipped = false → b.fState &&& mfsDefault = 0#32) := by
  obtain ⟨k, -, eq, whole⟩ := updateItems_prefix (menuToDisable state) api 0 items
  refine ⟨_, rfl, ?_, fun reliable b mem reached => ?_⟩
  · rw [eq]
    exact forall₂_take_map_append_drop (fun _ => ⟨rfl, rfl, rfl⟩)
      (fun a => ⟨a.update_fType _, a.update_wID _, a.update_outside_mask _⟩) k items
  · obtain ⟨a, rfl⟩ := mem_updateSystemMenu reliable
      (rfl : updateSystemMenu (some items) state api = _) mem
    exact a.update_not_default _ (by simpa using reached)

/-- The ids of the items a complete pass leaves choosable: no id, `SC_CLOSE`, or a state
command other than the one it disables. -/
theorem MenuItemInfo.choosable_update {toDisable : Nat} {item : MenuItemInfo}
    (picked : (item.update toDisable).choosable = true) :
    item.wID.toNat = 0 ∨ item.wID.toNat = scClose ∨
      ((item.wID.toNat = scMinimize ∨ item.wID.toNat = scMaximize ∨
        item.wID.toNat = scRestore) ∧ item.wID.toNat ≠ toDisable) := by
  simp only [MenuItemInfo.choosable, Bool.and_eq_true, beq_iff_eq, update_fType] at picked
  cases skip : item.skipped
  · have kept : item.disables toDisable = false := by
      simpa [picked.2] using (update_enabled toDisable item skip).symm
    simp only [disables, Bool.or_eq_false_iff, beq_eq_false_iff_ne, Bool.and_eq_false_iff,
      bne_eq_false_iff_eq] at kept
    omega
  · rw [update_of_skipped _ _ skip] at picked
    simp only [skipped, picked.1, bne_self_eq_false, Bool.false_or, Bool.or_eq_true,
      beq_iff_eq] at skip
    omega

/-- After `updateSystemMenu(state)` without a failing call, a minimize, maximize or restore item
can be chosen exactly when its command is not the one of `state`. -/
theorem popup_offers_other_state_commands (menu : Option (List MenuItemInfo))
    (state : WindowState) {api : MenuApi} (reliable : api.Reliable) {items : List MenuItemInfo}
    (shown : updateSystemMenu menu state api = some items) {item : MenuItemInfo}
    (mem : item ∈ items) (notSeparator : item.fType &&& mftSeparator = 0#32)
    (stateCommand : item.wID.toNat = scMinimize ∨ item.wID.toNat = scMaximize ∨
      item.wID.toNat = scRestore) :
    item.choosable = true ↔ item.wID.toNat ≠ menuToDisable state := by
  obtain ⟨entry, rfl⟩ := mem_updateSystemMenu reliable shown mem
  simp only [MenuItemInfo.update_fType, MenuItemInfo.update_wID, scMinimize, scMaximize,
    scRestore] at notSeparator stateCommand ⊢
  have reached : entry.skipped = false := by
    simp [MenuItemInfo.skipped, notSeparator, scClose]
    omega
  simp [MenuItemInfo.choosable, notSeparator, entry.update_enabled _ reached,
    MenuItemInfo.disables, scMinimize, scMaximize, scRestore]
  omega

/-- The system menu Windows gives a window: Restore, Move, Size, Minimize, Maximize, a
separator, and Close as the default item. -/
def standardSystemMenu : List MenuItemInfo :=
  [⟨0#32, 0#32, 0xF120#32⟩, ⟨0#32, 0#32, 0xF010#32⟩, ⟨0#32, 0#32, 0xF000#32⟩,
    ⟨0#32, 0#32, 0xF020#32⟩, ⟨0#32, 0#32, 0xF030#32⟩, ⟨0x800#32, 0#32, 0#32⟩,
    ⟨0#32, 0x1000#32, 0xF060#32⟩]

theorem popup_offers_other_state_commands_maximized :
    ∃ items, updateSystemMenu (some standardSystemMenu) .maximized MenuApi.succeeding = some items ∧
      ∃ item ∈ items, item.wID.toNat = scMinimize ∧ item.choosable = true := by
  refine ⟨_, rfl, ⟨0#32, 0#32, 0xF020#32⟩, by decide, rfl, ?_⟩
  exact (popup_offers_other_state_commands (some standardSystemMenu) .maximized
    MenuApi.succeeding_reliable rfl (by decide) (by decide)
    (.inl (rfl : (⟨0#32, 0#32, 0xF020#32⟩ : MenuItemInfo).wID.toNat = scMinimize))).mpr (by decide)

end Kotatogram.Ui.Platform
