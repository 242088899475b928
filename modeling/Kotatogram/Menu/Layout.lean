/-
# Menu.Layout — appending, clearing and measuring entries

`processAction` measures one entry into `_actionsData[index]`: a separator or an entry
without text keeps no label or shortcut; any other entry gets its parsed label, its
shortcut (the second tab-separated part), a toggle when checkable, and a required width
`goodw` that the running menu width is clamped towards (`std::clamp(goodw, width,
_st.widthMax)`). Two paths use it:

* `addAction` pushes the action and fresh data, and processes the new entry alone,
  starting from `qMax(width(), _st.widthMin)`;
* `actionChanged` reprocesses every entry from `_st.widthMin` (`processActions`).

`clearActions` drops every entry after resetting both indices; `setForceWidth` overrides
the width every later resize asks for.
-/
import Kotatogram.Menu.Selection

namespace Kotatogram.Ui

set_option autoImplicit false

/-- `std::clamp(v, lo, hi)`; the standard leaves `hi < lo` undefined. -/
def stdClamp (v lo hi : Int) : Except Fault Int :=
  if hi < lo then .error .clampBounds else .ok (if v < lo then lo else if hi < v then hi else v)

/-- The toggle `processAction` leaves on a checkable action: the existing one after
`setChecked`, or a new `ToggleView(_st.itemToggle, checked)`. -/
def checkedToggle (toggle : Option ToggleView) (checked : Bool) : ToggleView :=
  match toggle with
  | some t => { t with checked }
  | none => { over := false, checked }

/-- An entry `processAction` measures: neither a separator nor without text. -/
def Action.hasLabel (a : Action) : Bool := !a.isSeparator && !a.text.isEmpty

theorem stdClamp_eq_ok {v lo hi r : Int} :
    stdClamp v lo hi = .ok r ↔ lo ≤ hi ∧ r = max lo (min v hi) := by
  unfold stdClamp
  by_cases bad : hi < lo
  · simp only [bad, if_true, reduceCtorEq, false_iff]
    omega
  · simp only [bad, if_false, Except.ok.injEq]
    constructor
    · intro eq
      subst eq
      split <;> (try split) <;> omega
    · rintro ⟨-, rfl⟩
      split <;> (try split) <;> omega

theorem checkedToggle_checkedToggle (toggle : Option ToggleView) (checked : Bool) :
    checkedToggle (some (checkedToggle toggle checked)) checked = checkedToggle toggle checked := by
  cases toggle <;> rfl

namespace Menu

variable (st : MenuStyle)

/-- `goodw` of `processAction`, for a label of natural width `textw`: the paddings, then a
submenu arrow, else a non-empty shortcut, and a toggle's extent when there is one. -/
def requiredWidth (textw : Int) (hasSubmenu : Bool) (shortcut : QString)
    (toggle : Option ToggleView) : Int :=
  let goodw := st.itemPadding.left + textw + st.itemPadding.right
  let goodw :=
    if hasSubmenu then goodw + st.itemPadding.right + st.arrowWidth
    else if shortcut ≠ [] then goodw + st.itemPadding.right + st.itemStyle.font.width shortcut
    else goodw
  match toggle with
  | some t => goodw + st.itemPadding.right + toggleWidth st t - st.itemToggleShift
  | none => goodw

/-- `actionTextParts[0]`: the label, up to the first tab. -/
def actionText (action : Action) : QString := (split tab action.text).headD []

/-- `actionTextParts[1]` when there is one: the shortcut hint after the first tab. -/
def actionShortcut (action : Action) : QString := (split tab action.text).getD 1 []

/-- The toggle `processAction` leaves on a labelled entry: updated or created when the
action is checkable, reset otherwise. -/
def actionToggle (action : Action) (data : ActionData) : Option ToggleView :=
  if action.isCheckable then some (checkedToggle data.toggle action.isChecked) else none

/-- `goodw` as `processAction` computes it for `action` over its entry's `data`. -/
def goodWidth (action : Action) (data : ActionData) : Int :=
  requiredWidth st (st.itemStyle.maxWidth (parseMenuItem (actionText action))) data.hasSubmenu
    (actionShortcut action) (actionToggle action data)

/-- The body of `processAction` on the entry's data: the data it stores and the width it
returns. -/
def processData (action : Action) (data : ActionData) (width : Int) :
    Except Fault (ActionData × Int) :=
  if action.isSeparator || action.text.isEmpty then
    pure ({ data with shortcut := [], text := {} }, width)
  else
    let text := parseMenuItem (actionText action)
    let textw := st.itemStyle.maxWidth text
    let goodw := goodWidth st action data
    (fun width => ({ data with
        text, toggle := actionToggle action data, textWidth := width - (goodw - textw),
        shortcut := actionShortcut action }, width))
      <$> stdClamp goodw width st.widthMax

/-- `processAction(action, index, width)`: the menu with `_actionsData[index]` measured, and
the width grown to fit the entry. -/
def processAction (m : Menu) (action : Action) (index : Int) (width : Int) :
    Except Fault (Menu × Int) := do
  let data ← vectorAt m.actionsData index
  let r ← processData st action data width
  pure (m.setData index r.1, r.2)

/-- The loop of `actionChanged`: `processAction` on each action from `index` on, threading
the width. -/
def processActions (m : Menu) : List Action → Nat → Int → Except Fault (Menu × Int)
  | [], _, width => pure (m, width)
  | action :: rest, index, width =>
      processAction st m action index width >>= fun r => processActions r.1 rest (index + 1) r.2

/-- `_actions.emplace_back(action)` and `_actionsData.push_back(...)` of `addAction`. -/
def pushAction (m : Menu) (action : Action) : Menu :=
  { m with actions := m.actions ++ [action], actionsData := m.actionsData ++ [ActionData.fresh action] }

/-- `addAction(action, icon, iconOver)`, with the cursor at `cursor`. -/
def addAction (m : Menu) (action : Action) (cursor : QPoint) : Except Fault Menu := do
  let m := m.pushAction action
  let newWidth := max m.width st.widthMin
  let r ← processAction st m action ((m.actions.length : Int) - 1) newWidth
  let m := r.1
  let newHeight := m.height + actionHeight st action
  let m := (m.resize (if m.forceWidth ≠ 0 then m.forceWidth else r.2) newHeight).emit .resized
  m.updateSelected st cursor

/-- `addSeparator()`. -/
def addSeparator (m : Menu) (cursor : QPoint) : Except Fault Menu :=
  addAction st m separatorAction cursor

/-- `clearActions()`. -/
def clearActions (m : Menu) : Except Fault Menu := do
  let m ← m.setSelected st (-1)
  let m ← m.setPressed (-1)
  let m := { m with actionsData := [], actions := [] }
  pure ((m.resize (if m.forceWidth ≠ 0 then m.forceWidth else st.widthMin) (2 * st.skip)).emit
    .resized)

/-- `setForceWidth(forceWidth)`. -/
def setForceWidth (m : Menu) (forceWidth : Int) : Menu :=
  ({ m with forceWidth }).resize forceWidth m.height

/-- `actionChanged()`. -/
def actionChanged (m : Menu) : Except Fault Menu := do
  let r ← processActions st m m.actions 0 st.widthMin
  let m := r.1
  pure (if r.2 ≠ m.width ∧ m.forceWidth = 0 then (m.resize r.2 m.height).emit .resized else m)

/-- The index `addAction` processes, the last one, is within the grown data vector. -/
theorem pushAction_last {m : Menu} (lengths : m.actionsData.length = m.actions.length) (a : Action) :
    0 ≤ ((m.pushAction a).actions.length : Int) - 1 ∧
      ((m.pushAction a).actions.length : Int) - 1 < (m.pushAction a).actionsData.length := by
  simp only [pushAction, List.length_append, List.length_singleton, lengths]
  omega

/-! ## What `processAction` stores -/

theorem processData_unlabelled {a : Action} (d : ActionData) (w : Int) (h : a.hasLabel = false) :
    processData st a d w = .ok ({ d with shortcut := [], text := {} }, w) := by
  have : (a.isSeparator || a.text.isEmpty) = true := by
    revert h; unfold Action.hasLabel; cases a.isSeparator <;> cases a.text.isEmpty <;> decide
  rw [processData, if_pos this]; rfl

/-- A labelled entry gets its parsed label, shortcut and toggle, and the running width grows
to `goodw`, capped at `widthMax`; `std::clamp` needs the running width within the cap. -/
theorem processData_labelled {a : Action} {d : ActionData} {w : Int} {r : ActionData × Int}
    (h : a.hasLabel = true) :
    processData st a d w = .ok r ↔ w ≤ st.widthMax ∧
      r.2 = max w (min (goodWidth st a d) st.widthMax) ∧
      r.1 = { d with
        text := parseMenuItem (actionText a), toggle := actionToggle a d,
        textWidth := r.2 - (goodWidth st a d - st.itemStyle.maxWidth (parseMenuItem (actionText a))),
        shortcut := actionShortcut a } := by
  have : (a.isSeparator || a.text.isEmpty) = false := by
    revert h; unfold Action.hasLabel; cases a.isSeparator <;> cases a.text.isEmpty <;> decide
  simp only [processData, this, Bool.false_eq_true, if_false]
  cases clamp : stdClamp (goodWidth st a d) w st.widthMax with
  | error e =>
      simp only [Functor.map, Except.map, reduceCtorEq, false_iff, not_and]
      intro le eq
      exact absurd (stdClamp_eq_ok.mpr ⟨le, rfl⟩) (by rw [clamp]; exact fun h => nomatch h)
  | ok c =>
      obtain ⟨le, rfl⟩ := stdClamp_eq_ok.mp clamp
      obtain ⟨d', w'⟩ := r
      simp only [Functor.map, Except.map, Except.ok.injEq, Prod.mk.injEq]
      constructor
      · rintro ⟨rfl, rfl⟩; exact ⟨le, rfl, rfl⟩
      · rintro ⟨-, rfl, rfl⟩; exact ⟨rfl, rfl⟩

/-- Within `widthMax`, measuring does not fault, and the width it returns stays within it. -/
theorem processData_ok {a : Action} (d : ActionData) {w : Int} (le : w ≤ st.widthMax) :
    ∃ r, processData st a d w = .ok r ∧ r.2 ≤ st.widthMax := by
  unfold processData
  split
  · exact ⟨_, rfl, le⟩
  · have clamp : stdClamp (goodWidth st a d) w st.widthMax =
        .ok (max w (min (goodWidth st a d) st.widthMax)) := stdClamp_eq_ok.mpr ⟨le, rfl⟩
    simp only [clamp]
    exact ⟨_, rfl, show max w _ ≤ _ by omega⟩

/-- The toggle `processAction` leaves is the one it would leave again. -/
theorem actionToggle_of_toggle (a : Action) {d d' : ActionData}
    (h : d'.toggle = actionToggle a d) : actionToggle a d' = actionToggle a d := by
  simp only [actionToggle, h]
  split <;> simp_all [checkedToggle_checkedToggle]

/-- Measuring an entry again asks for the same width: `processAction` keeps the submenu
flag, and the toggle it leaves is the one it would leave again. -/
theorem goodWidth_processData {a : Action} {d : ActionData} {w : Int} {r : ActionData × Int}
    (h : processData st a d w = .ok r) : goodWidth st a r.1 = goodWidth st a d := by
  cases label : a.hasLabel
  · rw [processData_unlabelled st d w label] at h
    cases h; rfl
  · obtain ⟨-, -, eq⟩ := (processData_labelled st label).mp h
    simp only [goodWidth]
    rw [actionToggle_of_toggle a (show r.1.toggle = actionToggle a d by rw [eq]), eq]

end Menu

end Kotatogram.Ui
