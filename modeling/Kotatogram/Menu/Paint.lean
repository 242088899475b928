/-
# Menu.Paint — the bands and boxes `paintEvent` draws

`paintEvent` walks the entries with a running `top` that starts at `_st.skip`. For each
entry it stops if the band would start at or below the clip's bottom, adds the entry's
height to `top`, draws the entry if the clip's top is above that new `top`, and moves the
painter down by the height, so the entry is drawn in the band that starts at the old `top`.

Only the geometry is kept here: the band of each entry drawn and, for an item, the text
box `[itemPadding.left, itemPadding.left + textWidth]` and the left edge of what is
right-aligned after it (the submenu arrow, else a non-empty shortcut, else the toggle).
Colours, icons, ripples and right-to-left mirroring are left out; the loop reads the
entry's data beside its action, which `IndexInv` keeps in step.

* `paintEvent_entry`: every entry drawn is the `i`-th action with the data kept at `i`,
  in the band `[itemTop(i), itemTop(i) + h(aᵢ))`.
-/
import Kotatogram.Menu.Selection

namespace Kotatogram.Ui

set_option autoImplicit false

/-- What `paintEvent` draws of an item besides its background: the text box and the left
edge of the element right-aligned after it, if any. -/
structure ItemDrawing where
  textLeft : Int
  textWidth : Int
  trailingLeft : Option Int
  deriving Repr, DecidableEq

/-- One entry as drawn: its index, its band, and the item drawing (none for a separator's
line). -/
structure Painted where
  index : Nat
  top : Int
  height : Int
  item : Option ItemDrawing
  deriving Repr, DecidableEq

namespace Menu

variable (st : MenuStyle)

/-- The left edge of what `paintEvent` right-aligns after an item's text in a menu of
`width`: the arrow at `width - itemPadding.right - arrow.width()`, else the shortcut by
`drawTextRight(itemPadding.right, ..)`, else the toggle, moved right by `itemToggleShift`. -/
def trailingLeft (width : Int) (data : ActionData) : Option Int :=
  if data.hasSubmenu then some (width - st.itemPadding.right - st.arrowWidth)
  else if data.shortcut ≠ [] then
    some (width - st.itemPadding.right - st.itemStyle.font.width data.shortcut)
  else (fun t => width - st.itemPadding.right - toggleWidth st t + st.itemToggleShift) <$>
    data.toggle

/-- The drawing of entry `index`, in the band from `top`. -/
def paintEntry (width : Int) (action : Action) (data : ActionData) (index : Nat) (top : Int) :
    Painted :=
  { index, top, height := actionHeight st action,
    item := if action.isSeparator then none
      else some ⟨st.itemPadding.left, data.textWidth, trailingLeft st width data⟩ }

/-- The item loop of `paintEvent` for `clip`, from entry `index` with the running `top`. -/
def paintFrom (width : Int) (clip : QRect) :
    List Action → List ActionData → Nat → Int → List Painted
  | action :: actions, data :: datas, index, top =>
      if clip.y + clip.height ≤ top then []
      else
        let next := top + actionHeight st action
        let rest := paintFrom width clip actions datas (index + 1) next
        if clip.y < next then paintEntry st width action data index top :: rest else rest
  | _, _, _, _ => []

/-- `paintEvent(e)` with `e->rect()` = `clip`: the entries it draws. -/
def paintEvent (m : Menu) (clip : QRect) : List Painted :=
  paintFrom st m.width clip m.actions m.actionsData 0 st.skip

/-! ## Running tops -/

@[simp] theorem heightSum_nil : heightSum st [] = 0 := rfl

@[simp] theorem heightSum_cons (a : Action) (rest : List Action) :
    heightSum st (a :: rest) = actionHeight st a + heightSum st rest := rfl

theorem heightSum_append (l₁ l₂ : List Action) :
    heightSum st (l₁ ++ l₂) = heightSum st l₁ + heightSum st l₂ := by
  induction l₁ with
  | nil => simp
  | cons a l₁ ih => simp [ih]; omega

/-- `itemTop(i)` of an index within the list: the skip and the heights before `i`. -/
theorem itemTop_of_le (m : Menu) {i : Nat} (le : i ≤ m.actions.length) :
    itemTop st m i = st.skip + heightSum st (m.actions.take i) := by
  simp only [itemTop]
  rw [if_neg (by omega)]
  rfl

/-- Every entry drawn from `top` on is the `j`-th of the lists, in the band after the
heights of the entries before it. -/
theorem paintFrom_entry (width : Int) (clip : QRect) :
    ∀ (actions : List Action) (datas : List ActionData) (index : Nat) (top : Int) (p : Painted),
      p ∈ paintFrom st width clip actions datas index top →
      ∃ j a d, actions[j]? = some a ∧ datas[j]? = some d ∧
        p = paintEntry st width a d (index + j) (top + heightSum st (actions.take j))
  | [], _, _, _, _, mem => by simp [paintFrom] at mem
  | _ :: _, [], _, _, _, mem => by simp [paintFrom] at mem
  | a :: actions, d :: datas, index, top, p, mem => by
      have later : ∀ p, p ∈ paintFrom st width clip actions datas (index + 1)
          (top + actionHeight st a) → ∃ j a' d', (a :: actions)[j]? = some a' ∧
            (d :: datas)[j]? = some d' ∧ p = paintEntry st width a' d' (index + j)
              (top + heightSum st ((a :: actions).take j)) := by
        intro p mem
        obtain ⟨j, a', d', found, foundData, rfl⟩ := paintFrom_entry width clip actions datas _ _ p mem
        refine ⟨j + 1, a', d', by simpa using found, by simpa using foundData, ?_⟩
        simp only [List.take_succ_cons, heightSum_cons]
        congr 1 <;> omega
      simp only [paintFrom] at mem
      split at mem
      · simp at mem
      · split at mem
        · rcases List.mem_cons.mp mem with rfl | mem
          · exact ⟨0, a, d, by simp, by simp, by simp⟩
          · exact later p mem
        · exact later p mem

/-- **Where each entry is drawn.** An entry `paintEvent` draws is the `i`-th action with the
data kept at `i`, in the band that starts at `itemTop(i)` and is `h(aᵢ)` high. -/
theorem paintEvent_entry (m : Menu) (clip : QRect) {p : Painted} (mem : p ∈ m.paintEvent st clip) :
    ∃ a d, m.actions[p.index]? = some a ∧ m.actionsData[p.index]? = some d ∧
      p = paintEntry st m.width a d p.index (itemTop st m p.index) := by
  obtain ⟨j, a, d, found, foundData, rfl⟩ :=
    paintFrom_entry st m.width clip m.actions m.actionsData 0 st.skip p mem
  have le : j ≤ m.actions.length := Nat.le_of_lt (List.getElem?_eq_some_iff.mp found).1
  refine ⟨a, d, by simpa using found, by simpa using foundData, ?_⟩
  simp [paintEntry, itemTop_of_le st m le]

end Menu

end Kotatogram.Ui
