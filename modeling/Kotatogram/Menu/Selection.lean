/-
# Menu.Selection — `_selected`, `_pressed` and the pointer scan

`setSelected` and `setPressed` normalise their argument (an index at or above the size, or
a negative one, becomes `-1`), restore the old index's toggle to `itemToggle` unless the
other variable still holds it, and give the new index's toggle `itemToggleOver` when its
action is enabled. `setSelected` then calls the owner's `activated` callback.
`updateSelected` maps a pointer position to the entry whose band holds it
(`scanSelected`, the C++ `while` loop) and selects it when it is enabled and not a
separator.

The spec lemmas (`setSelected_ok`, `setPressed_ok`, `updateSelected_ok`) say once what
each of these can do to the record, so that later modules never unfold them:

* they succeed whenever `_actionsData` is as long as `_actions` and the index they restore
  is `-1` or in range;
* they leave the actions, the sizes and the flags alone, keep the length of
  `_actionsData`, and append to the log only `activated` calls.
-/
import Kotatogram.Menu.Basic

namespace Kotatogram.Ui

set_option autoImplicit false

/-- `-1`, or an index into a vector of size `n`. -/
def ValidIndex (n : Nat) (i : Int) : Prop := i = -1 ∨ (0 ≤ i ∧ i < n)

/-- The index `setSelected` and `setPressed` store for the argument `i`. -/
def normalizeIndex (n : Nat) (i : Int) : Int := if sizeLe n i then -1 else i

theorem validIndex_normalizeIndex (n : Nat) (i : Int) : ValidIndex n (normalizeIndex n i) := by
  unfold normalizeIndex ValidIndex
  split
  · exact .inl rfl
  · next inside => rw [sizeLe_iff] at inside; omega

theorem normalizeIndex_of_validIndex {n : Nat} {i : Int} (valid : ValidIndex n i) :
    normalizeIndex n i = i := by
  unfold normalizeIndex
  split
  · next outside => rw [sizeLe_iff] at outside; unfold ValidIndex at valid; omega
  · rfl

/-- The calls that are neither a ghost press nor a trigger. -/
def Event.Quiet : Event → Prop
  | .pressed _ => False
  | .triggered .. => False
  | _ => True

/-- An entry's data with its toggle at rest: what a change of toggle style cannot see. -/
def ActionData.unstyled (d : ActionData) : ActionData :=
  { d with toggle := d.toggle.map fun t => { t with over := false } }

/-- What the selection functions may change: the styles of toggles, the two indices, and
the log, by quiet calls. -/
structure SelectionFrame (m m' : Menu) : Prop where
  actions : m'.actions = m.actions
  styles : m'.actionsData.map ActionData.unstyled = m.actionsData.map ActionData.unstyled
  width : m'.width = m.width
  height : m'.height = m.height
  forceWidth : m'.forceWidth = m.forceWidth
  mouseSelection : m'.mouseSelection = m.mouseSelection
  childShown : m'.childShown = m.childShown
  log : ∃ es, m'.log = m.log ++ es ∧ ∀ e ∈ es, e.Quiet

namespace SelectionFrame

theorem refl (m : Menu) : SelectionFrame m m :=
  ⟨rfl, rfl, rfl, rfl, rfl, rfl, rfl, [], by simp, by simp⟩

theorem trans {m₁ m₂ m₃ : Menu} (a : SelectionFrame m₁ m₂) (b : SelectionFrame m₂ m₃) :
    SelectionFrame m₁ m₃ := by
  obtain ⟨es₁, log₁, quiet₁⟩ := a.log
  obtain ⟨es₂, log₂, quiet₂⟩ := b.log
  refine ⟨b.actions.trans a.actions, b.styles.trans a.styles, b.width.trans a.width,
    b.height.trans a.height, b.forceWidth.trans a.forceWidth,
    b.mouseSelection.trans a.mouseSelection, b.childShown.trans a.childShown,
    es₁ ++ es₂, by simp [log₁, log₂], ?_⟩
  intro e mem
  rcases List.mem_append.mp mem with h | h
  · exact quiet₁ e h
  · exact quiet₂ e h

theorem data_length {m m' : Menu} (frame : SelectionFrame m m') :
    m'.actionsData.length = m.actionsData.length := by
  simpa using congrArg List.length frame.styles

/-- Changing only the indices is within the frame. -/
theorem indices (m : Menu) (selected pressed : Int) :
    SelectionFrame m { m with selected, pressed } :=
  ⟨rfl, rfl, rfl, rfl, rfl, rfl, rfl, [], by simp, by simp⟩

end SelectionFrame

namespace Menu

variable (st : MenuStyle)

/-- The summed heights of a run of entries. -/
def heightSum : List Action → Int
  | [] => 0
  | a :: rest => actionHeight st a + heightSum rest

/-- `itemTop(index)`. The index is compared with the size as `size_t`, so a negative one
counts every entry, as one above the size does. -/
def itemTop (m : Menu) (index : Int) : Int :=
  let count := if index < 0 ∨ (m.actions.length : Int) < index then m.actions.length
    else index.toNat
  st.skip + heightSum st (m.actions.take count)

/-- `if (i >= 0 && i != other && _actionsData[i].toggle)
_actionsData[i].toggle->setStyle(_st.itemToggle)`: the toggle of the index being left comes
to rest, unless the other index variable still holds it. -/
def restoreToggle (m : Menu) (i other : Int) : Except Fault Menu :=
  if 0 ≤ i ∧ i ≠ other then do
    let data ← vectorAt m.actionsData i
    match data.toggle with
    | some toggle => pure (m.setData i { data with toggle := some { toggle with over := false } })
    | none => pure m
  else pure m

/-- `if (i >= 0 && _actionsData[i].toggle && _actions[i]->isEnabled())
_actionsData[i].toggle->setStyle(_st.itemToggleOver)`. -/
def hoverToggle (m : Menu) (i : Int) : Except Fault Menu :=
  if 0 ≤ i then do
    let data ← vectorAt m.actionsData i
    match data.toggle with
    | some toggle => do
        let action ← vectorAt m.actions i
        pure (if action.isEnabled then
          m.setData i { data with toggle := some { toggle with over := true } } else m)
    | none => pure m
  else pure m

/-- `(i >= 0) ? _actions[i].get() : nullptr`. -/
def actionOrNull (m : Menu) (i : Int) : Except Fault (Option Action) :=
  if 0 ≤ i then some <$> vectorAt m.actions i else pure none

/-- `setSelected(selected)`. -/
def setSelected (m : Menu) (selected : Int) : Except Fault Menu :=
  let selected := normalizeIndex m.actions.length selected
  if m.selected = selected then pure m else do
    let m ← m.restoreToggle m.selected m.pressed
    let m ← { m with selected }.hoverToggle selected
    let action ← m.actionOrNull selected
    pure (m.emit (.activated action (itemTop st m selected)
      (if m.mouseSelection then .mouse else .keyboard)))

/-- `setPressed(pressed)`. -/
def setPressed (m : Menu) (pressed : Int) : Except Fault Menu :=
  let pressed := normalizeIndex m.actions.length pressed
  if m.pressed = pressed then pure m else do
    let m ← m.restoreToggle m.pressed m.selected
    { m with pressed }.hoverToggle pressed

/-- The loop `while (top <= p.y() && ++selected < _actions.size()) top += height`, run on
the entries after `selected`: it stops at the first entry whose band starts below `y`
(answering the one before it), or past the last entry. -/
def scanSelected (y : Int) : List Action → Int → Int → Int
  | [], selected, top => if top ≤ y then selected + 1 else selected
  | a :: rest, selected, top =>
      if top ≤ y then scanSelected y rest (selected + 1) (top + actionHeight st a) else selected

/-- `selected >= 0 && selected < _actions.size() && _actions[selected]->isEnabled() &&
!_actions[selected]->isSeparator()`. -/
def selectableAt (m : Menu) (i : Int) : Bool :=
  decide (0 ≤ i) && (m.actions[i.toNat]?.any Action.selectable)

/-- `updateSelected(globalPosition)`. -/
def updateSelected (m : Menu) (globalPosition : QPoint) : Except Fault Menu :=
  if m.mouseSelection then
    let selected := scanSelected st (globalPosition.y - st.skip) m.actions (-1) 0
    setSelected st m (if m.selectableAt selected then selected else -1)
  else pure m

/-- `clearSelection()`. -/
def clearSelection (m : Menu) : Except Fault Menu :=
  setSelected st { m with mouseSelection := false } (-1)

/-- `clearMouseSelection()`. -/
def clearMouseSelection (m : Menu) : Except Fault Menu :=
  if m.mouseSelection && !m.childShown then clearSelection st m else pure m

theorem setData_restyle_frame (m : Menu) {i : Int} {d : ActionData}
    (found : m.actionsData[i.toNat]? = some d) (t : ToggleView) (over : Bool)
    (toggle : d.toggle = some t) :
    SelectionFrame m (m.setData i { d with toggle := some { t with over } }) := by
  refine ⟨rfl, ?_, rfl, rfl, rfl, rfl, rfl, [], by simp, by simp⟩
  have : ({ d with toggle := some { t with over } } : ActionData).unstyled = d.unstyled := by
    simp [ActionData.unstyled, toggle]
  have lt := (List.getElem?_eq_some_iff.mp found).1
  rw [setData_actionsData, List.map_set, this]
  refine List.ext_getElem? fun j => ?_
  rw [List.getElem?_set]
  split <;> simp_all

/-- What restyling one toggle leaves of the menu. -/
def Restyles (m m' : Menu) : Prop :=
  SelectionFrame m m' ∧ m'.selected = m.selected ∧ m'.pressed = m.pressed

theorem restoreToggle_ok {m : Menu} {i : Int} (other : Int)
    (valid : ValidIndex m.actionsData.length i) :
    ∃ m', m.restoreToggle i other = .ok m' ∧ Restyles m m' := by
  unfold restoreToggle
  split
  · next cond =>
      obtain ⟨d, found⟩ := vectorAt_ok_of_lt m.actionsData cond.1 (by unfold ValidIndex at valid; omega)
      have at_i := (vectorAt_eq_ok.mp found).2
      rw [bind_of_ok found]
      cases toggle : d.toggle with
      | none => exact ⟨m, rfl, .refl m, rfl, rfl⟩
      | some t => exact ⟨_, rfl, setData_restyle_frame m at_i t false toggle, rfl, rfl⟩
  · exact ⟨m, rfl, .refl m, rfl, rfl⟩

theorem hoverToggle_ok {m : Menu} {i : Int} (lengths : m.actionsData.length = m.actions.length)
    (valid : ValidIndex m.actions.length i) :
    ∃ m', m.hoverToggle i = .ok m' ∧ Restyles m m' := by
  unfold hoverToggle
  split
  · next nonneg =>
      have lt : i < m.actions.length := by unfold ValidIndex at valid; omega
      obtain ⟨d, found⟩ := vectorAt_ok_of_lt m.actionsData nonneg (lengths ▸ lt)
      obtain ⟨a, foundAction⟩ := vectorAt_ok_of_lt m.actions nonneg lt
      have at_i := (vectorAt_eq_ok.mp found).2
      rw [bind_of_ok found]
      cases toggle : d.toggle with
      | none => exact ⟨m, rfl, .refl m, rfl, rfl⟩
      | some t =>
          simp only [bind_of_ok foundAction]
          split
          · exact ⟨_, rfl, setData_restyle_frame m at_i t true toggle, rfl, rfl⟩
          · exact ⟨m, rfl, .refl m, rfl, rfl⟩
  · exact ⟨m, rfl, .refl m, rfl, rfl⟩

theorem actionOrNull_ok (m : Menu) {i : Int} (valid : ValidIndex m.actions.length i) :
    ∃ a, m.actionOrNull i = .ok a := by
  unfold actionOrNull
  split
  · next nonneg =>
      obtain ⟨a, found⟩ := vectorAt_ok_of_lt m.actions nonneg (by unfold ValidIndex at valid; omega)
      exact ⟨some a, by rw [found]; rfl⟩
  · exact ⟨none, rfl⟩

theorem setSelected_ok {m : Menu} (sel : Int) (lengths : m.actionsData.length = m.actions.length)
    (valid : ValidIndex m.actions.length m.selected) :
    ∃ m', m.setSelected st sel = .ok m' ∧ SelectionFrame m m' ∧
      m'.selected = normalizeIndex m.actions.length sel ∧ m'.pressed = m.pressed := by
  have newValid := validIndex_normalizeIndex m.actions.length sel
  simp only [setSelected]
  generalize normalizeIndex m.actions.length sel = s at newValid ⊢
  split
  · next same => exact ⟨m, rfl, .refl m, same, rfl⟩
  obtain ⟨m₁, rest, frame₁, -, pressed₁⟩ := restoreToggle_ok (m := m) m.pressed (lengths ▸ valid)
  rw [bind_of_ok rest]
  obtain ⟨m₂, hover, frame₂, selected₂, pressed₂⟩ :=
    hoverToggle_ok (m := { m₁ with selected := s }) (i := s)
      (by simp only [frame₁.data_length, frame₁.actions, lengths]) (by simpa [frame₁.actions])
  rw [bind_of_ok hover]
  obtain ⟨a, found⟩ := actionOrNull_ok m₂ (i := s) (by simpa [frame₂.actions, frame₁.actions])
  rw [bind_of_ok found]
  refine ⟨_, rfl, frame₁.trans (SelectionFrame.trans ?_ (frame₂.trans ?_)), selected₂, ?_⟩
  · exact ⟨rfl, rfl, rfl, rfl, rfl, rfl, rfl, [], by simp, by simp⟩
  · exact ⟨rfl, rfl, rfl, rfl, rfl, rfl, rfl, _, rfl, by simp [Event.Quiet]⟩
  · simpa [pressed₂] using pressed₁

theorem setPressed_ok {m : Menu} (pre : Int) (lengths : m.actionsData.length = m.actions.length)
    (valid : ValidIndex m.actions.length m.pressed) :
    ∃ m', m.setPressed pre = .ok m' ∧ SelectionFrame m m' ∧
      m'.pressed = normalizeIndex m.actions.length pre ∧ m'.selected = m.selected := by
  have newValid := validIndex_normalizeIndex m.actions.length pre
  simp only [setPressed]
  generalize normalizeIndex m.actions.length pre = p at newValid ⊢
  split
  · next same => exact ⟨m, rfl, .refl m, same, rfl⟩
  obtain ⟨m₁, rest, frame₁, selected₁, -⟩ := restoreToggle_ok (m := m) m.selected (lengths ▸ valid)
  rw [bind_of_ok rest]
  obtain ⟨m₂, hover, frame₂, selected₂, pressed₂⟩ :=
    hoverToggle_ok (m := { m₁ with pressed := p }) (i := p)
      (by simp only [frame₁.data_length, frame₁.actions, lengths]) (by simpa [frame₁.actions])
  refine ⟨m₂, hover, frame₁.trans (SelectionFrame.trans ?_ frame₂), pressed₂, ?_⟩
  · exact ⟨rfl, rfl, rfl, rfl, rfl, rfl, rfl, [], by simp, by simp⟩
  · simpa [selected₂] using selected₁

theorem updateSelected_ok {m : Menu} (p : QPoint) (lengths : m.actionsData.length = m.actions.length)
    (valid : ValidIndex m.actions.length m.selected) :
    ∃ m', m.updateSelected st p = .ok m' ∧ SelectionFrame m m' ∧
      ValidIndex m.actions.length m'.selected ∧ m'.pressed = m.pressed := by
  unfold updateSelected
  split
  · obtain ⟨m', ok, frame, selected, pressed⟩ := setSelected_ok st (m := m)
      (if m.selectableAt (scanSelected st (p.y - st.skip) m.actions (-1) 0) then
        scanSelected st (p.y - st.skip) m.actions (-1) 0 else -1) lengths valid
    exact ⟨m', ok, frame, selected ▸ validIndex_normalizeIndex _ _, pressed⟩
  · exact ⟨m, rfl, .refl m, valid, rfl⟩

theorem clearSelection_ok {m : Menu} (lengths : m.actionsData.length = m.actions.length)
    (valid : ValidIndex m.actions.length m.selected) :
    ∃ m', m.clearSelection st = .ok m' ∧ SelectionFrame { m with mouseSelection := false } m' ∧
      m'.selected = -1 ∧ m'.pressed = m.pressed :=
  setSelected_ok st (m := { m with mouseSelection := false }) (-1) lengths valid

theorem clearMouseSelection_ok {m : Menu} (lengths : m.actionsData.length = m.actions.length)
    (valid : ValidIndex m.actions.length m.selected) :
    ∃ m', m.clearMouseSelection st = .ok m' ∧
      (SelectionFrame m m' ∨ SelectionFrame { m with mouseSelection := false } m') ∧
      ValidIndex m.actions.length m'.selected ∧ m'.pressed = m.pressed := by
  unfold clearMouseSelection
  split
  · obtain ⟨m', ok, frame, selected, pressed⟩ := clearSelection_ok st lengths valid
    exact ⟨m', ok, .inr frame, .inl selected, pressed⟩
  · exact ⟨m, rfl, .inl (.refl m), valid, rfl⟩

end Menu

end Kotatogram.Ui
