/-
# Menu.Basic — the state of a `Ui::Menu` and what it reads

The menu keeps two parallel vectors, `_actions` (the `QAction`s it shows) and
`_actionsData` (what it measured for each), the hover and press indices `_selected` and
`_pressed`, and the widget size it last asked for. Everything it does is a function of
this record, of its style `_st`, and of the events it receives.

Modelling decisions, each one place of the C++:

* `QAction` is the value of the properties the menu reads (`Action`); a property change is
  an edit of these values (`Menu.Machine`), so one action added twice is two entries that an
  edit may change together.
* A vector element read outside the vector is undefined behaviour in C++; here it is the
  fault `outOfRange` (`vectorAt`), and `std::clamp` with `lo > hi` is `clampBounds`.
* The calls the menu makes to its owner's callbacks are appended to `log`, oldest first;
  the owner (`PopupMenu`) installs all of them, so every call the code makes is logged.
  `pressed` entries are ghost: they mark an `itemPressed` that passed its check.
* Positions are in the menu's own coordinates: `mapFromGlobal` is the identity.
* `resize(w, h)` sets `width()` and `height()` to `w` and `h`.

Icons, colours, ripples and repaint requests change nothing the menu later reads, and are
left out.
-/
import Kotatogram.Menu.Text

namespace Kotatogram.Ui

set_option autoImplicit false

/-! ## Geometry -/

/-- A `QPoint`. -/
structure QPoint where
  x : Int
  y : Int
  deriving Repr, DecidableEq

/-- A `QRect` given by its corner and size, as `QRect(x, y, w, h)` builds it. -/
structure QRect where
  x : Int
  y : Int
  width : Int
  height : Int
  deriving Repr, DecidableEq

/-- `QRect::contains(p)`: Qt keeps the right and bottom edges `x2 = x + w - 1`,
`y2 = y + h - 1` and swaps an edge pair when the rectangle is inverted. -/
def QRect.contains (r : QRect) (p : QPoint) : Bool :=
  let x2 := r.x + r.width - 1
  let y2 := r.y + r.height - 1
  let l := if x2 < r.x - 1 then x2 else r.x
  let rr := if x2 < r.x - 1 then r.x else x2
  let t := if y2 < r.y - 1 then y2 else r.y
  let b := if y2 < r.y - 1 then r.y else y2
  decide (l ≤ p.x ∧ p.x ≤ rr ∧ t ≤ p.y ∧ p.y ≤ b)

/-! ## Style -/

/-- `style::margins`. -/
structure QMargins where
  left : Int
  top : Int
  right : Int
  bottom : Int

/-- `style::font`: its height and `width(QString)`. -/
structure Font where
  height : Int
  width : QString → Int

/-- `style::TextStyle`: its font, and `Text::String::maxWidth()` of a string given this
marked text with this style. -/
structure TextStyle where
  font : Font
  maxWidth : TextWithEntities → Int

/-- `style::Toggle`, through the size `ToggleView::getSize()` reports when drawn with it. -/
structure ToggleStyle where
  width : Int
  height : Int

/-- The fields of `style::Menu` the menu's logic reads. -/
structure MenuStyle where
  skip : Int
  widthMin : Int
  widthMax : Int
  itemPadding : QMargins
  itemStyle : TextStyle
  separatorPadding : QMargins
  separatorWidth : Int
  arrowWidth : Int
  arrowHeight : Int
  itemToggle : ToggleStyle
  itemToggleOver : ToggleStyle
  itemToggleShift : Int

namespace MenuStyle

variable (st : MenuStyle)

/-- `_itemHeight`, fixed by the constructor. -/
def itemHeight : Int := st.itemPadding.top + st.itemStyle.font.height + st.itemPadding.bottom

/-- `_separatorHeight`, fixed by the constructor. -/
def separatorHeight : Int :=
  st.separatorPadding.top + st.separatorWidth + st.separatorPadding.bottom

end MenuStyle

/-! ## Actions and what the menu keeps for them -/

/-- The properties of a `QAction` the menu reads; `hasMenu` is `menu() != nullptr`. -/
structure Action where
  text : QString
  isSeparator : Bool
  isEnabled : Bool
  isCheckable : Bool
  isChecked : Bool
  hasMenu : Bool
  deriving Repr, DecidableEq

/-- `addSeparator()`'s action: `new QAction(this)` with `setSeparator(true)`. -/
def separatorAction : Action :=
  { text := [], isSeparator := true, isEnabled := true, isCheckable := false,
    isChecked := false, hasMenu := false }

/-- An entry the mouse scan and the arrow keys may select. -/
def Action.selectable (a : Action) : Bool := a.isEnabled && !a.isSeparator

/-- The height an entry takes: `isSeparator() ? _separatorHeight : _itemHeight`. -/
def actionHeight (st : MenuStyle) (a : Action) : Int :=
  if a.isSeparator then st.separatorHeight else st.itemHeight

/-- A `ToggleView`: drawn with `itemToggleOver` when `over`, else `itemToggle`. -/
structure ToggleView where
  over : Bool
  checked : Bool
  deriving Repr, DecidableEq

/-- `data.toggle->getSize().width()`. -/
def toggleWidth (st : MenuStyle) (t : ToggleView) : Int :=
  if t.over then st.itemToggleOver.width else st.itemToggle.width

/-- `Menu::ActionData` without its icons and ripple. -/
structure ActionData where
  text : TextWithEntities
  shortcut : QString
  toggle : Option ToggleView
  textWidth : Int
  hasSubmenu : Bool
  deriving Repr, DecidableEq

/-- The `ActionData` `addAction` pushes for `action`, before `processAction` fills it. -/
def ActionData.fresh (action : Action) : ActionData :=
  { text := {}, shortcut := [], toggle := none, textWidth := 0, hasSubmenu := action.hasMenu }

/-! ## Callbacks, faults and the menu -/

/-- `TriggeredSource`. -/
inductive TriggeredSource where
  | mouse
  | keyboard
  deriving Repr, DecidableEq

/-- The calls the menu makes to its owner, and the ghost `pressed` marks. A triggered or
pressed entry carries the index of the action the pointer passed designates. -/
inductive Event where
  | resized
  | activated (action : Option Action) (top : Int) (source : TriggeredSource)
  | pressed (index : Int)
  | triggered (index : Int) (action : Action) (top : Int) (source : TriggeredSource)
  | mouseMoveDelegated (p : QPoint)
  | mousePressDelegated (p : QPoint)
  | mouseReleaseDelegated (p : QPoint)
  deriving Repr, DecidableEq

/-- The undefined behaviours the code can reach, and the Up/Down scan running past its
bound. -/
inductive Fault where
  | outOfRange
  | clampBounds
  | scanExhausted
  deriving Repr, DecidableEq

/-- The state of a `Ui::Menu`. -/
structure Menu where
  actions : List Action
  actionsData : List ActionData
  width : Int
  height : Int
  forceWidth : Int
  selected : Int
  pressed : Int
  mouseSelection : Bool
  childShown : Bool
  log : List Event

/-- Modelled from the spec: the member initialisers of `menu.h`, absent from `src/`
(`_forceWidth = 0`, no index selected or pressed, selection not mouse-driven, no child
shown); then `Menu(parent, st)` runs `init()`, which resizes to `widthMin × 2·skip`. -/
def Menu.create (st : MenuStyle) : Menu :=
  { actions := [], actionsData := [], width := st.widthMin, height := 2 * st.skip,
    forceWidth := 0, selected := -1, pressed := -1, mouseSelection := false,
    childShown := false, log := [] }

/-- `v[i]` for a signed index: outside the vector it is the fault `outOfRange`. -/
def vectorAt {α : Type} (v : List α) (i : Int) : Except Fault α :=
  if 0 ≤ i then
    match v[i.toNat]? with
    | some a => .ok a
    | none => .error .outOfRange
  else .error .outOfRange

/-- The C++ test `i >= v.size()` of a signed index against an unsigned size: the index is
converted to `size_t`, so a negative one compares above every size. -/
def sizeLe (n : Nat) (i : Int) : Bool := decide (i < 0 ∨ (n : Int) ≤ i)

namespace Menu

/-- `resize(w, h)`. -/
def resize (m : Menu) (w h : Int) : Menu := { m with width := w, height := h }

/-- A call to one of the owner's callbacks. -/
def emit (m : Menu) (e : Event) : Menu := { m with log := m.log ++ [e] }

/-- Overwrite `_actionsData[i]`, after it was read at `i`. -/
def setData (m : Menu) (i : Int) (d : ActionData) : Menu :=
  { m with actionsData := m.actionsData.set i.toNat d }

@[simp] theorem resize_actions (m : Menu) (w h : Int) : (m.resize w h).actions = m.actions := rfl
@[simp] theorem resize_actionsData (m : Menu) (w h : Int) :
    (m.resize w h).actionsData = m.actionsData := rfl
@[simp] theorem resize_width (m : Menu) (w h : Int) : (m.resize w h).width = w := rfl
@[simp] theorem resize_height (m : Menu) (w h : Int) : (m.resize w h).height = h := rfl
@[simp] theorem resize_forceWidth (m : Menu) (w h : Int) :
    (m.resize w h).forceWidth = m.forceWidth := rfl
@[simp] theorem resize_selected (m : Menu) (w h : Int) : (m.resize w h).selected = m.selected :=
  rfl
@[simp] theorem resize_pressed (m : Menu) (w h : Int) : (m.resize w h).pressed = m.pressed := rfl
@[simp] theorem resize_mouseSelection (m : Menu) (w h : Int) :
    (m.resize w h).mouseSelection = m.mouseSelection := rfl
@[simp] theorem resize_childShown (m : Menu) (w h : Int) :
    (m.resize w h).childShown = m.childShown := rfl
@[simp] theorem resize_log (m : Menu) (w h : Int) : (m.resize w h).log = m.log := rfl

@[simp] theorem emit_actions (m : Menu) (e : Event) : (m.emit e).actions = m.actions := rfl
@[simp] theorem emit_actionsData (m : Menu) (e : Event) :
    (m.emit e).actionsData = m.actionsData := rfl
@[simp] theorem emit_width (m : Menu) (e : Event) : (m.emit e).width = m.width := rfl
@[simp] theorem emit_height (m : Menu) (e : Event) : (m.emit e).height = m.height := rfl
@[simp] theorem emit_forceWidth (m : Menu) (e : Event) : (m.emit e).forceWidth = m.forceWidth :=
  rfl
@[simp] theorem emit_selected (m : Menu) (e : Event) : (m.emit e).selected = m.selected := rfl
@[simp] theorem emit_pressed (m : Menu) (e : Event) : (m.emit e).pressed = m.pressed := rfl
@[simp] theorem emit_mouseSelection (m : Menu) (e : Event) :
    (m.emit e).mouseSelection = m.mouseSelection := rfl
@[simp] theorem emit_childShown (m : Menu) (e : Event) : (m.emit e).childShown = m.childShown :=
  rfl
@[simp] theorem emit_log (m : Menu) (e : Event) : (m.emit e).log = m.log ++ [e] := rfl

@[simp] theorem setData_actions (m : Menu) (i : Int) (d : ActionData) :
    (m.setData i d).actions = m.actions := rfl
@[simp] theorem setData_actionsData (m : Menu) (i : Int) (d : ActionData) :
    (m.setData i d).actionsData = m.actionsData.set i.toNat d := rfl
@[simp] theorem setData_width (m : Menu) (i : Int) (d : ActionData) :
    (m.setData i d).width = m.width := rfl
@[simp] theorem setData_height (m : Menu) (i : Int) (d : ActionData) :
    (m.setData i d).height = m.height := rfl
@[simp] theorem setData_forceWidth (m : Menu) (i : Int) (d : ActionData) :
    (m.setData i d).forceWidth = m.forceWidth := rfl
@[simp] theorem setData_selected (m : Menu) (i : Int) (d : ActionData) :
    (m.setData i d).selected = m.selected := rfl
@[simp] theorem setData_pressed (m : Menu) (i : Int) (d : ActionData) :
    (m.setData i d).pressed = m.pressed := rfl
@[simp] theorem setData_mouseSelection (m : Menu) (i : Int) (d : ActionData) :
    (m.setData i d).mouseSelection = m.mouseSelection := rfl
@[simp] theorem setData_childShown (m : Menu) (i : Int) (d : ActionData) :
    (m.setData i d).childShown = m.childShown := rfl
@[simp] theorem setData_log (m : Menu) (i : Int) (d : ActionData) :
    (m.setData i d).log = m.log := rfl

end Menu

/-! ## Reading the vectors -/

theorem vectorAt_eq_ok {α : Type} {v : List α} {i : Int} {a : α} :
    vectorAt v i = .ok a ↔ 0 ≤ i ∧ v[i.toNat]? = some a := by
  unfold vectorAt
  by_cases nonneg : 0 ≤ i
  · cases found : v[i.toNat]? <;> simp [nonneg, found]
  · simp [nonneg]

theorem vectorAt_ok_of_lt {α : Type} (v : List α) {i : Int} (nonneg : 0 ≤ i)
    (lt : i < v.length) : ∃ a, vectorAt v i = .ok a := by
  have : i.toNat < v.length := by omega
  exact ⟨v[i.toNat], vectorAt_eq_ok.mpr ⟨nonneg, List.getElem?_eq_getElem this⟩⟩

theorem bind_of_ok {ε α β : Type} {x : Except ε α} {a : α} (h : x = .ok a) (f : α → Except ε β) :
    x >>= f = f a := by
  rw [h]; rfl

theorem bind_eq_ok {ε α β : Type} {x : Except ε α} {f : α → Except ε β} {b : β}
    (h : x >>= f = .ok b) : ∃ a, x = .ok a ∧ f a = .ok b := by
  cases x with
  | error e => cases h
  | ok a => exact ⟨a, rfl, h⟩

@[simp] theorem sizeLe_iff (n : Nat) (i : Int) : sizeLe n i = true ↔ i < 0 ∨ (n : Int) ≤ i := by
  simp [sizeLe]

end Kotatogram.Ui
