/-
# Menu.HitTest — which entry the pointer is over

Three loops of `menu.cpp` walk the entry heights: `updateSelected` finds the entry under the
pointer (`while (top <= p.y() && ++selected < _actions.size())`), `itemTop` places an entry,
and `paintEvent` draws each entry from a running `top`. With the two heights not negative
the bands `[itemTop(i) - skip, itemTop(i) - skip + h(aᵢ))` tile `[0, Σ h)` without overlap,
and the three agree at every edge.

* `scanSelected_spec`: the loop from any start, by where the offset lies.
* `inBand_unique`: at most one band holds an offset.
* `paintEvent_draws_inBand`: a clip covering the pointer's row draws the entry under it.
* `hit_test`: the loop answers -1 above the entries, `n` below them, and otherwise the one
  entry whose band holds the pointer, which is where `paintEvent` draws it, and every clip
  covering that row draws it; and `updateSelected` selects that entry exactly when it is
  enabled and not a separator.
-/
import Kotatogram.Menu.Clip
import Kotatogram.Menu.IndexSafety

namespace Kotatogram.Ui

set_option autoImplicit false

namespace Menu

variable (st : MenuStyle)

/-! ## The loop of `updateSelected` -/

/-- **The scan.** From entry `selected` with the running `top`, the loop stays put if `y` is
above `top`, runs past every entry if `y` is below them all, and otherwise stops on the one
entry `j` whose band holds `y`. -/
theorem scanSelected_spec (heights : 0 ≤ st.itemHeight ∧ 0 ≤ st.separatorHeight) (y : Int) :
    ∀ (actions : List Action) (selected top : Int),
      (y < top → scanSelected st y actions selected top = selected) ∧
      (top + heightSum st actions ≤ y →
        scanSelected st y actions selected top = selected + 1 + actions.length) ∧
      (top ≤ y → y < top + heightSum st actions → ∃ j, j < actions.length ∧
        scanSelected st y actions selected top = selected + 1 + j ∧
        top + heightSum st (actions.take j) ≤ y ∧ y < top + heightSum st (actions.take (j + 1)))
  | [], selected, top => by
      simp only [scanSelected, heightSum_nil, List.length_nil]
      refine ⟨fun above => if_neg (by omega), fun below => ?_, fun _ _ => by omega⟩
      rw [if_pos (by omega)]; omega
  | a :: rest, selected, top => by
      obtain ⟨above, below, within⟩ :=
        scanSelected_spec heights y rest (selected + 1) (top + actionHeight st a)
      have height := actionHeight_nonneg st heights a
      have restHeight := heightSum_nonneg st heights rest
      simp only [scanSelected, heightSum_cons, List.length_cons]
      refine ⟨fun lt => if_neg (by omega), fun le => ?_, fun le lt => ?_⟩
      · rw [if_pos (by omega), below (by omega)]; omega
      · rw [if_pos le]
        by_cases first : y < top + actionHeight st a
        · exact ⟨0, by omega, by rw [above first]; omega, by simp; omega, by simp; omega⟩
        · obtain ⟨j, bound, scan, low, high⟩ := within (by omega) (by omega)
          refine ⟨j + 1, by omega, by rw [scan]; omega, ?_, ?_⟩ <;>
            simp only [List.take_succ_cons, heightSum_cons] <;> omega

/-! ## Bands -/

/-- Entry `j`'s band, as `itemTop` places it, holds the local offset `y`. -/
def InBand (m : Menu) (j : Nat) (y : Int) : Prop :=
  ∃ a, m.actions[j]? = some a ∧ itemTop st m j - st.skip ≤ y ∧
    y < itemTop st m j - st.skip + actionHeight st a

theorem inBand_iff {m : Menu} {j : Nat} {a : Action} (found : m.actions[j]? = some a) (y : Int) :
    InBand st m j y ↔ heightSum st (m.actions.take j) ≤ y ∧
      y < heightSum st (m.actions.take (j + 1)) := by
  have le : j ≤ m.actions.length := Nat.le_of_lt (List.getElem?_eq_some_iff.mp found).1
  rw [heightSum_take_succ st found]
  constructor
  · rintro ⟨b, foundB, low, high⟩
    cases found.symm.trans foundB
    rw [itemTop_of_le st m le] at low high
    omega
  · rintro ⟨low, high⟩
    exact ⟨a, found, by rw [itemTop_of_le st m le]; omega, by rw [itemTop_of_le st m le]; omega⟩

/-- With heights not negative, at most one band holds an offset. -/
theorem inBand_unique (heights : 0 ≤ st.itemHeight ∧ 0 ≤ st.separatorHeight) {m : Menu}
    {j k : Nat} {y : Int} (inJ : InBand st m j y) (inK : InBand st m k y) : j = k := by
  obtain ⟨a, foundA, -⟩ := id inJ
  obtain ⟨b, foundB, -⟩ := id inK
  obtain ⟨lowJ, highJ⟩ := (inBand_iff st foundA y).mp inJ
  obtain ⟨lowK, highK⟩ := (inBand_iff st foundB y).mp inK
  have monoJK := heightSum_take_mono st heights m.actions (i := j + 1) (j := k)
  have monoKJ := heightSum_take_mono st heights m.actions (i := k + 1) (j := j)
  by_cases order : j + 1 ≤ k
  · have := monoJK order; omega
  · by_cases order' : k + 1 ≤ j
    · have := monoKJ order'; omega
    · omega

theorem selectableAt_iff (m : Menu) (i : Int) :
    m.selectableAt i = true ↔ 0 ≤ i ∧
      ∃ a, m.actions[i.toNat]? = some a ∧ a.isEnabled = true ∧ a.isSeparator = false := by
  unfold selectableAt Action.selectable
  cases found : m.actions[i.toNat]? <;> simp [found]

/-- Where the offset lies decides the scan's answer: above the entries, below them, or in
the band of one entry. -/
theorem scanSelected_cases (heights : 0 ≤ st.itemHeight ∧ 0 ≤ st.separatorHeight) (m : Menu)
    {y i : Int} (scan : scanSelected st y m.actions (-1) 0 = i) :
    (y < 0 ∧ i = -1) ∨ (heightSum st m.actions ≤ y ∧ i = m.actions.length) ∨
      (0 ≤ y ∧ y < heightSum st m.actions ∧ ∃ j : Nat, j < m.actions.length ∧ i = j ∧
        InBand st m j y) := by
  obtain ⟨above, below, within⟩ := scanSelected_spec st heights y m.actions (-1) 0
  have total := heightSum_nonneg st heights m.actions
  by_cases neg : y < 0
  · exact .inl ⟨neg, scan ▸ above neg⟩
  by_cases high : heightSum st m.actions ≤ y
  · exact .inr (.inl ⟨high, by rw [← scan, below (by omega)]; omega⟩)
  obtain ⟨j, bound, found, low, up⟩ := within (by omega) (by omega)
  have found' : m.actions[j]? = some m.actions[j] := List.getElem?_eq_getElem bound
  refine .inr (.inr ⟨by omega, by omega, j, bound, by omega,
    (inBand_iff st found' y).mpr ⟨by omega, by omega⟩⟩)

/-- A painted entry is one of the entries, drawn in its own band. -/
theorem paintEvent_inBand {m : Menu} {clip : QRect} {q : Painted} (mem : q ∈ m.paintEvent st clip)
    (y : Int) : q.index < m.actions.length ∧
      (InBand st m q.index y ↔ q.top - st.skip ≤ y ∧ y < q.top - st.skip + q.height) := by
  obtain ⟨a, d, found, -, eq⟩ := paintEvent_entry st m clip mem
  have top : q.top = itemTop st m q.index := congrArg Painted.top eq
  have height : q.height = actionHeight st a := congrArg Painted.height eq
  refine ⟨(List.getElem?_eq_some_iff.mp found).1, top ▸ height ▸ ⟨?_, fun band => ⟨a, found, band⟩⟩⟩
  rintro ⟨b, foundB, band⟩
  cases found.symm.trans foundB
  exact band

/-- A clip that covers the pointer's row draws the entry whose band holds the pointer. -/
theorem paintEvent_draws_inBand (heights : 0 ≤ st.itemHeight ∧ 0 ≤ st.separatorHeight) {m : Menu}
    (lengths : m.actionsData.length = m.actions.length) {j : Nat} {y : Int} (inJ : InBand st m j y)
    (clip : QRect) (top : clip.y ≤ y + st.skip) (bottom : y + st.skip < clip.y + clip.height) :
    ∃ q ∈ m.paintEvent st clip, q.index = j := by
  obtain ⟨a, foundA, low, high⟩ := inJ
  have lt := (List.getElem?_eq_some_iff.mp foundA).1
  have foundD : m.actionsData[j]? = some m.actionsData[j] := List.getElem?_eq_getElem (by omega)
  rw [paintEvent_eq_paintEach heights]
  exact (paintEach_draws m clip j).mpr ⟨a, _, foundA, foundD, by unfold Overlaps; omega⟩

/-- With the mouse selecting, `updateSelected` selects the scan's answer when its entry is
enabled and not a separator, and -1 otherwise. -/
theorem updateSelected_scan {m : Menu} (inv : IndexInv m) (mouse : m.mouseSelection = true)
    {p : QPoint} {i : Int} (scan : scanSelected st (p.y - st.skip) m.actions (-1) 0 = i) :
    ∃ m', m.updateSelected st p = .ok m' ∧
      (m.selectableAt i = true ∧ m'.selected = i ∨ m.selectableAt i = false ∧ m'.selected = -1) := by
  obtain ⟨m', ok, -, selected, -⟩ :=
    setSelected_ok st (if m.selectableAt i then i else -1) inv.data_length inv.selected_valid
  refine ⟨m', by simp only [updateSelected, mouse, if_true, scan]; exact ok, ?_⟩
  cases chosen : m.selectableAt i
  · rw [chosen, if_neg Bool.false_ne_true,
      normalizeIndex_of_validIndex (validIndex_neg_one _)] at selected
    exact .inr ⟨rfl, selected⟩
  · obtain ⟨nonneg, a, found, -⟩ := (selectableAt_iff m i).mp chosen
    have bound := (List.getElem?_eq_some_iff.mp found).1
    rw [chosen, if_pos rfl, normalizeIndex_of_validIndex (.inr ⟨nonneg, by omega⟩)] at selected
    exact .inl ⟨rfl, selected⟩

end Menu

open Menu in
/-- **Hit test.** For the pointer at local offset `y` (after the top skip), the scan of
`updateSelected` answers -1 exactly above the entries, `n` exactly below them, and otherwise
the one entry whose band `[itemTop(i) - skip, itemTop(i) - skip + h(aᵢ))` holds `y`. That is
the band `paintEvent` draws it in, and every clip covering the pointer's row draws it;
`updateSelected` then selects that entry exactly when it is enabled and not a separator, and
-1 otherwise. -/
theorem hit_test {st : MenuStyle} (heights : 0 ≤ st.itemHeight ∧ 0 ≤ st.separatorHeight)
    {m : Menu} (inv : IndexInv m) (mouse : m.mouseSelection = true) (p : QPoint) (clip : QRect)
    {y i : Int} (offset : p.y - st.skip = y) (scan : scanSelected st y m.actions (-1) 0 = i) :
    (i = -1 ↔ y < 0) ∧ (i = m.actions.length ↔ heightSum st m.actions ≤ y) ∧
    (0 ≤ y → y < heightSum st m.actions →
      ∃ j : Nat, i = j ∧ InBand st m j y ∧ ∀ k, InBand st m k y → k = j) ∧
    (∀ q ∈ m.paintEvent st clip, (q.index : Int) = i →
      q.top - st.skip ≤ y ∧ y < q.top - st.skip + q.height) ∧
    (0 ≤ y → y < heightSum st m.actions → clip.y ≤ p.y → p.y < clip.y + clip.height →
      ∃ q ∈ m.paintEvent st clip, (q.index : Int) = i) ∧
    ∃ m', m.updateSelected st p = .ok m' ∧
      ((0 ≤ i ∧ ∃ a, m.actions[i.toNat]? = some a ∧ a.isEnabled = true ∧ a.isSeparator = false) ∧
          m'.selected = i ∨
        ¬(0 ≤ i ∧ ∃ a, m.actions[i.toNat]? = some a ∧ a.isEnabled = true ∧
          a.isSeparator = false) ∧ m'.selected = -1) := by
  have total := heightSum_nonneg st heights m.actions
  obtain ⟨m', ok, selected⟩ := updateSelected_scan st inv mouse (i := i) (by rw [offset]; exact scan)
  obtain ⟨above, below, entry, within⟩ :
      (i = -1 ↔ y < 0) ∧ (i = m.actions.length ↔ heightSum st m.actions ≤ y) ∧
      (0 ≤ i → i < m.actions.length → 0 ≤ y ∧ y < heightSum st m.actions) ∧
      (0 ≤ y → y < heightSum st m.actions → ∃ j : Nat, i = j ∧ InBand st m j y) := by
    rcases scanSelected_cases st heights m scan with ⟨_, _⟩ | ⟨_, _⟩ | ⟨_, _, j, _, ij, inJ⟩
    · exact ⟨by omega, by omega, by omega, by omega⟩
    · exact ⟨by omega, by omega, by omega, by omega⟩
    · exact ⟨by omega, by omega, by omega, fun _ _ => ⟨j, ij, inJ⟩⟩
  refine ⟨above, below, fun low high => ?_, fun q mem index => ?_, fun low high top bottom => ?_,
    m', ok, ?_⟩
  · obtain ⟨j, ij, inJ⟩ := within low high
    exact ⟨j, ij, inJ, fun k inK => inBand_unique st heights inK inJ⟩
  · obtain ⟨bound, band⟩ := paintEvent_inBand st mem y
    obtain ⟨low, high⟩ := entry (by omega) (by omega)
    obtain ⟨j, ij, inJ⟩ := within low high
    obtain rfl : j = q.index := by omega
    exact band.mp inJ
  · obtain ⟨j, rfl, inJ⟩ := within low high
    obtain ⟨q, mem, index⟩ :=
      paintEvent_draws_inBand st heights inv.data_length inJ clip (by omega) (by omega)
    exact ⟨q, mem, by rw [index]⟩
  · rcases selected with ⟨chosen, selected⟩ | ⟨notChosen, selected⟩
    · exact .inl ⟨(selectableAt_iff m i).mp chosen, selected⟩
    · exact .inr ⟨fun h => Bool.false_ne_true (notChosen.symm.trans ((selectableAt_iff m i).mpr h)),
        selected⟩

/-- The pointer 13 pixels down `pointedMenu`, 5 into its first item: the item is drawn and
selected. -/
theorem hit_test_demo :
    (∃ q ∈ pointedMenu.paintEvent demoStyle ⟨0, 0, 100, 100⟩, (q.index : Int) = 0) ∧
      ∃ m', pointedMenu.updateSelected demoStyle ⟨0, 13⟩ = .ok m' ∧ m'.selected = 0 := by
  obtain ⟨-, -, -, -, drawn, m', ok, chosen⟩ :=
    hit_test (y := 5) (i := 0) (show 0 ≤ demoStyle.itemHeight ∧ 0 ≤ demoStyle.separatorHeight
      by decide) (m := pointedMenu) ⟨rfl, .inl rfl, .inl rfl⟩ rfl ⟨0, 13⟩ ⟨0, 0, 100, 100⟩
      (by decide) (by decide)
  refine ⟨drawn (by decide) (by decide) (by decide) (by decide), m', ok, ?_⟩
  rcases chosen with ⟨-, chosen⟩ | ⟨notChosen, -⟩
  · exact chosen
  · exact absurd ⟨Int.le_refl 0, _, rfl, rfl, rfl⟩ notChosen

end Kotatogram.Ui
