/-
# Menu.Clip — `paintEvent` draws exactly the entries the clip overlaps

The item loop of `paintEvent` breaks at the first entry whose band starts at or below the
clip's bottom. It draws an entry when the clip's top is above the end of the entry's band.
With the two heights not negative the tops do not decrease, so no entry after the break
would pass the test either. The loop therefore draws exactly the entries whose band
`[itemTop(i), itemTop(i) + h(aᵢ))` and the clip's span `[c, c + ch)` overlap as open
intervals, `itemTop(i) < c + ch ∧ c < itemTop(i) + h(aᵢ)` (`Overlaps`).

* `paintEach` tests every entry on its own (`paintAt`), without the break;
  `paintEvent_eq_paintEach` says the loop is that.
* `clip_paints_overlap` collects the loop, the per-entry test, the band at `itemTop(i)`
  and `updateItem`: every clip that contains the non-empty rectangle `updateItem(i)` asks
  to repaint draws entry `i`. The open-interval test is the intersection of the band and
  the span when both are non-empty.
* `flat_separator_drawn_outside_band`: a separator of height 0 has an empty band, yet the
  loop draws it whenever its top lies strictly inside the clip's span.
-/
import Kotatogram.Menu.Paint
import Kotatogram.Menu.Machine

namespace Kotatogram.Ui

set_option autoImplicit false

namespace Menu

variable (st : MenuStyle)

/-! ## Heights -/

theorem actionHeight_nonneg (heights : 0 ≤ st.itemHeight ∧ 0 ≤ st.separatorHeight) (a : Action) :
    0 ≤ actionHeight st a := by
  unfold actionHeight; split <;> omega

theorem heightSum_nonneg (heights : 0 ≤ st.itemHeight ∧ 0 ≤ st.separatorHeight) :
    ∀ actions : List Action, 0 ≤ heightSum st actions
  | [] => Int.le_refl 0
  | a :: rest => by
      have := actionHeight_nonneg st heights a
      have := heightSum_nonneg heights rest
      rw [heightSum_cons]; omega

theorem heightSum_take_succ {actions : List Action} {j : Nat} {a : Action}
    (found : actions[j]? = some a) :
    heightSum st (actions.take (j + 1)) = heightSum st (actions.take j) + actionHeight st a := by
  rw [List.take_succ, heightSum_append, found]
  simp

theorem heightSum_take_mono (heights : 0 ≤ st.itemHeight ∧ 0 ≤ st.separatorHeight)
    (actions : List Action) {i j : Nat} (le : i ≤ j) :
    heightSum st (actions.take i) ≤ heightSum st (actions.take j) := by
  have split := heightSum_append st ((actions.take j).take i) ((actions.take j).drop i)
  rw [List.take_append_drop, List.take_take, Nat.min_eq_left le] at split
  have := heightSum_nonneg st heights ((actions.take j).drop i)
  omega

/-- `updateItem(index)`: the rectangle it asks to repaint, if `index` is an entry. -/
def updateItem (m : Menu) (index : Int) : Option QRect :=
  if 0 ≤ index then
    (fun a => ⟨0, itemTop st m index, m.width, actionHeight st a⟩) <$> m.actions[index.toNat]?
  else none

/-- The band `[top, top + height)` and the clip's span `[clip.y, clip.y + clip.height)`
overlap as open intervals: the test `paintEvent` makes of an entry it reaches. -/
def Overlaps (clip : QRect) (top height : Int) : Prop :=
  top < clip.y + clip.height ∧ clip.y < top + height

instance (clip : QRect) (top height : Int) : Decidable (Overlaps clip top height) :=
  inferInstanceAs (Decidable (_ ∧ _))

/-- Entry `i` tested on its own: drawn in the band at `itemTop(i)` when that band and the
clip's span overlap. -/
def paintAt (m : Menu) (clip : QRect) (i : Nat) : Option Painted := do
  let a ← m.actions[i]?
  let d ← m.actionsData[i]?
  if Overlaps clip (itemTop st m i) (actionHeight st a) then
    some (paintEntry st m.width a d i (itemTop st m i))
  else none

/-- The `len` entries from `i`, each tested on its own. -/
def paintSeg (m : Menu) (clip : QRect) (i len : Nat) : List Painted :=
  (List.range' i len).filterMap (paintAt st m clip)

/-- Every entry tested on its own: `paintEvent` without its `break`. -/
def paintEach (m : Menu) (clip : QRect) : List Painted := paintSeg st m clip 0 m.actions.length

/-! ## The per-entry test -/

variable {st}

theorem paintAt_eq_some {m : Menu} {clip : QRect} {i : Nat} {p : Painted} :
    paintAt st m clip i = some p ↔ ∃ a d, m.actions[i]? = some a ∧ m.actionsData[i]? = some d ∧
      Overlaps clip (itemTop st m i) (actionHeight st a) ∧
        p = paintEntry st m.width a d i (itemTop st m i) := by
  unfold paintAt
  cases m.actions[i]? <;> cases m.actionsData[i]? <;> simp [eq_comm]

theorem paintAt_of_found {m : Menu} {clip : QRect} {i : Nat} {a : Action} {d : ActionData}
    (foundA : m.actions[i]? = some a) (foundD : m.actionsData[i]? = some d) :
    paintAt st m clip i = if Overlaps clip (itemTop st m i) (actionHeight st a) then
      some (paintEntry st m.width a d i (itemTop st m i)) else none := by
  simp [paintAt, foundA, foundD]

/-- Below the clip's bottom no entry overlaps: the tops do not decrease. -/
theorem paintAt_of_below (heights : 0 ≤ st.itemHeight ∧ 0 ≤ st.separatorHeight) {m : Menu}
    {clip : QRect} {i j : Nat} (le : i ≤ j) (inside : i ≤ m.actions.length)
    (below : clip.y + clip.height ≤ itemTop st m i) : paintAt st m clip j = none := by
  cases foundA : m.actions[j]? with
  | none => simp [paintAt, foundA]
  | some a =>
    cases foundD : m.actionsData[j]? with
    | none => simp [paintAt, foundA, foundD]
    | some d =>
      have lt : j < m.actions.length := (List.getElem?_eq_some_iff.mp foundA).1
      have mono := heightSum_take_mono st heights m.actions le
      have height := actionHeight_nonneg st heights a
      rw [itemTop_of_le st m inside] at below
      rw [paintAt_of_found foundA foundD, if_neg]
      rw [Overlaps, itemTop_of_le st m (Nat.le_of_lt lt)]
      omega

theorem paintAt_of_no_data {m : Menu} {clip : QRect} {j : Nat} (missing : m.actionsData[j]? = none) :
    paintAt st m clip j = none := by
  unfold paintAt
  cases m.actions[j]? <;> simp [missing]

theorem paintSeg_succ (m : Menu) (clip : QRect) (i len : Nat) :
    paintSeg st m clip i (len + 1) = (paintAt st m clip i).toList ++ paintSeg st m clip (i + 1) len := by
  unfold paintSeg
  rw [List.range'_succ, List.filterMap_cons]
  cases paintAt st m clip i <;> rfl

theorem paintSeg_eq_nil {m : Menu} {clip : QRect} {i : Nat} (len : Nat)
    (none : ∀ j, i ≤ j → paintAt st m clip j = none) : paintSeg st m clip i len = [] :=
  List.filterMap_eq_nil_iff.mpr fun j mem => none j (List.mem_range'_1.mp mem).1

theorem itemTop_succ (m : Menu) {k : Nat} {a : Action} (found : m.actions[k]? = some a) :
    itemTop st m ((k + 1 : Nat) : Int) = itemTop st m k + actionHeight st a := by
  have lt : k < m.actions.length := (List.getElem?_eq_some_iff.mp found).1
  rw [itemTop_of_le st m lt, itemTop_of_le st m (Nat.le_of_lt lt), heightSum_take_succ st found]
  omega

/-! ## The loop is the per-entry test -/

/-- From entry `k` on, with the running `top` at `itemTop(k)`, the loop draws what testing
each remaining entry on its own draws. -/
theorem paintFrom_eq_paintSeg (heights : 0 ≤ st.itemHeight ∧ 0 ≤ st.separatorHeight)
    (m : Menu) (clip : QRect) :
    ∀ r k, k + r = m.actions.length →
      paintFrom st m.width clip (m.actions.drop k) (m.actionsData.drop k) k (itemTop st m k) =
        paintSeg st m clip k r
  | 0, k, ends => by
      rw [List.drop_eq_nil_of_le (by omega)]
      rfl
  | r + 1, k, ends => by
      have lt : k < m.actions.length := by omega
      have foundA : m.actions[k]? = some m.actions[k] := List.getElem?_eq_getElem lt
      rw [List.drop_eq_getElem_cons lt]
      by_cases hasData : k < m.actionsData.length
      · have foundD : m.actionsData[k]? = some m.actionsData[k] := List.getElem?_eq_getElem hasData
        rw [List.drop_eq_getElem_cons hasData]
        simp only [paintFrom]
        split
        · next below =>
          exact (paintSeg_eq_nil _ fun j le => paintAt_of_below heights le (Nat.le_of_lt lt) below).symm
        · next above =>
          have rest := paintFrom_eq_paintSeg heights m clip r (k + 1) (by omega)
          rw [itemTop_succ m foundA] at rest
          rw [rest, paintSeg_succ, paintAt_of_found foundA foundD]
          by_cases drawn : clip.y < itemTop st m k + actionHeight st m.actions[k]
          · simp [Overlaps, drawn, show itemTop st m k < clip.y + clip.height by omega]
          · simp [Overlaps, drawn]
      · have noData : m.actionsData.drop k = [] := List.drop_eq_nil_of_le (by omega)
        rw [noData]
        refine (paintSeg_eq_nil _ fun j le => paintAt_of_no_data ?_).symm
        exact List.getElem?_eq_none (by omega)

theorem paintEvent_eq_paintEach (heights : 0 ≤ st.itemHeight ∧ 0 ≤ st.separatorHeight)
    (m : Menu) (clip : QRect) : m.paintEvent st clip = m.paintEach st clip := by
  have loop := paintFrom_eq_paintSeg heights m clip m.actions.length 0 (by omega)
  have top : itemTop st m ((0 : Nat) : Int) = st.skip := by
    rw [itemTop_of_le st m (Nat.zero_le _)]
    simp
  rw [List.drop_zero, List.drop_zero, top] at loop
  exact loop

/-- An entry is drawn exactly when it has its data and its band overlaps the clip's span. -/
theorem paintEach_draws (m : Menu) (clip : QRect) (i : Nat) :
    (∃ p ∈ m.paintEach st clip, p.index = i) ↔ ∃ a d, m.actions[i]? = some a ∧
      m.actionsData[i]? = some d ∧ Overlaps clip (itemTop st m i) (actionHeight st a) := by
  constructor
  · rintro ⟨p, mem, rfl⟩
    obtain ⟨j, -, at_j⟩ := List.mem_filterMap.mp mem
    obtain ⟨a, d, foundA, foundD, overlaps, rfl⟩ := paintAt_eq_some.mp at_j
    exact ⟨a, d, foundA, foundD, overlaps⟩
  · rintro ⟨a, d, foundA, foundD, overlaps⟩
    have lt : i < m.actions.length := (List.getElem?_eq_some_iff.mp foundA).1
    refine ⟨_, List.mem_filterMap.mpr ⟨i, List.mem_range'_1.mpr ⟨Nat.zero_le _, by omega⟩,
      paintAt_eq_some.mpr ⟨a, d, foundA, foundD, overlaps, rfl⟩⟩, rfl⟩

/-- For a non-empty band and a non-empty span, the open-interval test is their intersection. -/
theorem overlaps_iff_meet {clip : QRect} {top height : Int} (band : 0 < height)
    (span : 0 < clip.height) : Overlaps clip top height ↔
      ∃ y, top ≤ y ∧ y < top + height ∧ clip.y ≤ y ∧ y < clip.y + clip.height := by
  constructor
  · rintro ⟨below, above⟩
    exact ⟨max top clip.y, by omega, by omega, by omega, by omega⟩
  · rintro ⟨y, h₁, h₂, h₃, h₄⟩
    exact ⟨by omega, by omega⟩

/-- Every clip containing the non-empty rectangle `updateItem(i)` asks to repaint draws
entry `i`. -/
theorem updateItem_repaints (heights : 0 ≤ st.itemHeight ∧ 0 ≤ st.separatorHeight) {m : Menu}
    (lengths : m.actionsData.length = m.actions.length) {i : Int} {r : QRect}
    (update : m.updateItem st i = some r) (nonempty : 0 < r.height) {clip : QRect}
    (top : clip.y ≤ r.y) (bottom : r.y + r.height ≤ clip.y + clip.height) :
    ∃ p ∈ m.paintEvent st clip, (p.index : Int) = i := by
  unfold updateItem at update
  split at update
  · next nonneg =>
    obtain ⟨a, foundA, rfl⟩ := Option.map_eq_some'.mp update
    dsimp only at nonempty top bottom
    have lt : i.toNat < m.actions.length := (List.getElem?_eq_some_iff.mp foundA).1
    have foundD : m.actionsData[i.toNat]? = some m.actionsData[i.toNat] :=
      List.getElem?_eq_getElem (by omega)
    have index : ((i.toNat : Nat) : Int) = i := Int.toNat_of_nonneg nonneg
    obtain ⟨p, mem, at_i⟩ : ∃ p ∈ m.paintEach st clip, p.index = i.toNat :=
      (paintEach_draws m clip i.toNat).mpr
      ⟨a, _, foundA, foundD, by rw [Overlaps, index]; exact ⟨by omega, by omega⟩⟩
    exact ⟨p, paintEvent_eq_paintEach heights m clip ▸ mem, by rw [at_i, index]⟩
  · cases update

end Menu

open Menu in
/-- **`paintEvent` draws the entries the clip overlaps.** With the two heights not negative,
for every menu and clip: the loop with its `break` draws what testing each entry on its own
draws. It draws entry `i` exactly when the entry has its data and
`itemTop(i) < c + ch ∧ c < itemTop(i) + h(aᵢ)`, and it draws it in the band at `itemTop(i)`.
That test is the intersection of the band and the clip's span when both are non-empty. So
every clip containing the non-empty rectangle `updateItem(i)` invalidates draws entry `i`. -/
theorem clip_paints_overlap {st : MenuStyle} (heights : 0 ≤ st.itemHeight ∧ 0 ≤ st.separatorHeight)
    (m : Menu) (clip : QRect) :
    m.paintEvent st clip = m.paintEach st clip ∧
    (∀ i : Nat, (∃ p ∈ m.paintEvent st clip, p.index = i) ↔ ∃ a d, m.actions[i]? = some a ∧
      m.actionsData[i]? = some d ∧ Overlaps clip (itemTop st m i) (actionHeight st a)) ∧
    (∀ p ∈ m.paintEvent st clip, ∃ a d, m.actions[p.index]? = some a ∧
      m.actionsData[p.index]? = some d ∧ p = paintEntry st m.width a d p.index (itemTop st m p.index)) ∧
    (∀ top height : Int, 0 < height → 0 < clip.height → (Overlaps clip top height ↔
      ∃ y, top ≤ y ∧ y < top + height ∧ clip.y ≤ y ∧ y < clip.y + clip.height)) ∧
    (m.actionsData.length = m.actions.length → ∀ (i : Int) (r : QRect), m.updateItem st i = some r →
      0 < r.height → clip.y ≤ r.y → r.y + r.height ≤ clip.y + clip.height →
        ∃ p ∈ m.paintEvent st clip, (p.index : Int) = i) :=
  ⟨paintEvent_eq_paintEach heights m clip,
    fun i => paintEvent_eq_paintEach heights m clip ▸ paintEach_draws m clip i,
    fun _ mem => paintEvent_entry st m clip mem,
    fun _ _ band span => overlaps_iff_meet band span,
    fun lengths _ _ update nonempty top bottom =>
      updateItem_repaints heights lengths update nonempty top bottom⟩

/-- An item over a separator, with the mouse selecting. -/
def pointedMenu : Menu :=
  { Menu.create demoStyle with
    actions := [demoAction "Open", separatorAction],
    actionsData := [ActionData.fresh (demoAction "Open"), ActionData.fresh separatorAction],
    mouseSelection := true }

theorem clip_paints_overlap_demo :
    (0 ≤ demoStyle.itemHeight ∧ 0 ≤ demoStyle.separatorHeight) ∧
      pointedMenu.paintEvent demoStyle ⟨0, 40, 100, 10⟩ = pointedMenu.paintEach demoStyle ⟨0, 40, 100, 10⟩ :=
  ⟨⟨by decide, by decide⟩, (clip_paints_overlap ⟨by decide, by decide⟩ _ _).1⟩

/-- The demo style with separators of height 0. -/
def flatStyle : MenuStyle := { demoStyle with separatorPadding := ⟨0, 0, 0, 0⟩, separatorWidth := 0 }

open Menu in
/-- **A separator of height 0 is drawn outside its band.** In `flatStyle` (both heights not
negative) the separator of `pointedMenu` has the empty band `[38, 38)`. The clip
`[0, 100)` contains its top strictly, so the loop draws it, though band and span do not
intersect. -/
theorem flat_separator_drawn_outside_band :
    (0 ≤ flatStyle.itemHeight ∧ 0 ≤ flatStyle.separatorHeight) ∧
      (∃ p ∈ pointedMenu.paintEvent flatStyle ⟨0, 0, 100, 100⟩, p.index = 1) ∧
      ¬∃ y, itemTop flatStyle pointedMenu 1 ≤ y ∧
        y < itemTop flatStyle pointedMenu 1 + actionHeight flatStyle separatorAction :=
  ⟨⟨by decide, by decide⟩, by decide, fun ⟨_, low, high⟩ => by
    have flat : actionHeight flatStyle separatorAction = 0 := rfl
    omega⟩

end Kotatogram.Ui
