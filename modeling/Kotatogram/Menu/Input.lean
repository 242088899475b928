/-
# Menu.Input — keys, pointer events and the trigger

`itemPressed` presses the selected entry when it is in range and enabled (from the mouse
only while the selection is mouse-driven); a keyboard press is released at once.
`itemReleased` clears `_pressed` and, when the pressed entry is still the selected one,
calls the owner's `triggered` callback with it. `handleKeyPress` presses on Enter/Return,
opens a submenu or selects the first entry on Right (Left under right-to-left), and moves
the selection with Up/Down by a wrapping scan that skips disabled entries and separators
(`scanFrom`, the C++ `do`/`while` loop, given one iteration per entry). The pointer
handlers select from the position inside the padded inner rectangle, and hand positions
outside it to the owner's delegates.
-/
import Kotatogram.Menu.Layout

namespace Kotatogram.Ui

set_option autoImplicit false

/-- The keys `handleKeyPress` compares with (`Qt::Key_Enter`, ...); `other` is every other
key code. -/
inductive Key where
  | keyEnter
  | keyReturn
  | keyLeft
  | keyRight
  | keyUp
  | keyDown
  | other (code : Int)
  deriving Repr, DecidableEq

/-- `newSelected += delta`, brought back into `[0, n)` by one addition or subtraction of
`n`. -/
def wrapIndex (n : Nat) (i : Int) : Int :=
  if i < 0 then i + n else if (n : Int) ≤ i then i - n else i

namespace Menu

variable (st : MenuStyle)

/-- `i >= 0 && i < _actions.size() && _actions[i]->isEnabled()`. -/
def enabledAt (m : Menu) (i : Int) : Bool :=
  decide (0 ≤ i) && (m.actions[i.toNat]?.any Action.isEnabled)

/-- `source == TriggeredSource::Mouse && _actionsData[i].ripple`: the ripple is read on a
mouse release only. -/
def rippleAt (m : Menu) (source : TriggeredSource) (i : Int) : Except Fault Unit :=
  if source = .mouse then (fun _ => ()) <$> vectorAt m.actionsData i else pure ()

/-- `if (pressed == _selected) _triggeredCallback(_actions[_selected], itemTop(_selected),
source)`. -/
def triggerIfSelected (m : Menu) (pressed : Int) (source : TriggeredSource) :
    Except Fault Menu :=
  if pressed = m.selected then do
    let action ← vectorAt m.actions m.selected
    pure (m.emit (.triggered m.selected action (itemTop st m m.selected) source))
  else pure m

/-- `itemReleased(source)`. -/
def itemReleased (m : Menu) (source : TriggeredSource) : Except Fault Menu :=
  if 0 ≤ m.pressed ∧ m.pressed < m.actions.length then do
    let pressed := m.pressed
    let m ← m.setPressed (-1)
    m.rippleAt source pressed
    m.triggerIfSelected st pressed source
  else pure m

/-- `itemPressed(source)`; the ghost `pressed` entry marks the press. -/
def itemPressed (m : Menu) (source : TriggeredSource) : Except Fault Menu :=
  if source = .mouse ∧ m.mouseSelection = false then pure m
  else if m.enabledAt m.selected then do
    let m ← m.setPressed m.selected
    let m := m.emit (.pressed m.pressed)
    if source = .mouse then
      (fun _ => m) <$> vectorAt m.actionsData m.pressed
    else m.itemReleased st source
  else pure m

/-- The `do`/`while` loop of `handleKeyPress`, from `newSelected`, with at most `fuel` more
iterations: step by `delta` with wrap-around until back at `start` or at an enabled
non-separator entry. -/
def scanFrom (m : Menu) (delta start : Int) : Nat → Int → Except Fault Int
  | 0, _ => .error .scanExhausted
  | fuel + 1, newSelected =>
      let newSelected := wrapIndex m.actions.length (newSelected + delta)
      if newSelected ≠ start then do
        let action ← vectorAt m.actions newSelected
        if action.selectable then pure newSelected else m.scanFrom delta start fuel newSelected
      else pure newSelected

/-- Where the Up/Down scan starts: `_selected` when it is an index, else the last entry
going down and the first going up. -/
def scanStart (m : Menu) (delta : Int) : Int :=
  if m.selected < 0 ∨ (m.actions.length : Int) ≤ m.selected then
    (if delta > 0 then (m.actions.length : Int) - 1 else 0)
  else m.selected

/-- The Up/Down part of `handleKeyPress`, on a non-empty menu. -/
def moveSelection (m : Menu) (delta : Int) : Except Fault Menu := do
  let start := m.scanStart delta
  let newSelected ← m.scanFrom delta start m.actions.length start
  let action ← vectorAt m.actions newSelected
  if action.selectable then setSelected st { m with mouseSelection := false } newSelected
  else pure m

/-- `handleKeyPress(key)`, with `rightToLeft` the value of `style::RightToLeft()`. A Right
(Left) key that neither opens a submenu nor selects returns at the Up/Down test. -/
def handleKeyPress (m : Menu) (key : Key) (rightToLeft : Bool) : Except Fault Menu :=
  if key = .keyEnter ∨ key = .keyReturn then m.itemPressed st .keyboard
  else if key = (if rightToLeft then .keyLeft else .keyRight) then
    if 0 ≤ m.selected then do
      let data ← vectorAt m.actionsData m.selected
      if data.hasSubmenu then m.itemPressed st .keyboard else pure m
    else if m.actions ≠ [] then setSelected st { m with mouseSelection := false } 0
    else pure m
  else if (key = .keyUp ∨ key = .keyDown) ∧ m.actions ≠ [] then
    m.moveSelection st (if key = .keyDown then 1 else -1)
  else pure m

/-- `setShowSource(source)`. -/
def setShowSource (m : Menu) (source : TriggeredSource) : Except Fault Menu :=
  setSelected st { m with mouseSelection := source = .mouse }
    (if source = .mouse ∨ m.actions = [] then -1 else 0)

/-- Modelled from the spec: `setChildShown`, declared in `menu.h` (absent from `src/`),
records whether a submenu is shown as a child. -/
def setChildShown (m : Menu) (shown : Bool) : Menu := { m with childShown := shown }

/-- `rect()`. -/
def rect (m : Menu) : QRect := ⟨0, 0, m.width, m.height⟩

/-- `rect().marginsRemoved(QMargins(0, _st.skip, 0, _st.skip))`. -/
def inner (m : Menu) : QRect := ⟨0, st.skip, m.width, m.height - 2 * st.skip⟩

/-- `handleMouseMove(globalPosition)`. -/
def handleMouseMove (m : Menu) (globalPosition : QPoint) : Except Fault Menu :=
  if (m.inner st).contains globalPosition then
    updateSelected st { m with mouseSelection := true } globalPosition
  else (fun m => m.emit (.mouseMoveDelegated globalPosition)) <$> m.clearMouseSelection st

/-- `handleMousePress(globalPosition)`. -/
def handleMousePress (m : Menu) (globalPosition : QPoint) : Except Fault Menu := do
  let m ← m.handleMouseMove st globalPosition
  if m.rect.contains globalPosition then m.itemPressed st .mouse
  else pure (m.emit (.mousePressDelegated globalPosition))

/-- `handleMouseRelease(globalPosition)`. -/
def handleMouseRelease (m : Menu) (globalPosition : QPoint) : Except Fault Menu := do
  let m ← m.handleMouseMove st globalPosition
  let m ← m.itemReleased st .mouse
  pure (if m.rect.contains globalPosition then m
    else m.emit (.mouseReleaseDelegated globalPosition))

/-- `enterEventHook`, with the cursor at `cursor`. -/
def enterEventHook (m : Menu) (cursor : QPoint) : Except Fault Menu :=
  if (m.inner st).contains cursor then pure m else m.clearMouseSelection st

/-- `leaveEventHook`. -/
def leaveEventHook (m : Menu) : Except Fault Menu := m.clearMouseSelection st

end Menu

end Kotatogram.Ui
