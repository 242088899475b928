/-
# Menu.Width — the width a layout run keeps, and the text boxes it measures

A layout run appends entries (`addAction`, `addSeparator`), clears them, and changes the
actions' properties, which `actionChanged` answers by measuring every entry again from
`_st.widthMin`. Measuring a labelled entry (`processData`) grows the running width to the
entry's `goodw`, capped at `widthMax`, and gives the entry the text width that leaves
`goodw - textw` of paddings and trailing element within that running width.

* `measureFrom` is the loop of `actionChanged` on the lists alone; `processActions_eq`,
  `actionChanged_eq` and `addAction_eq` put the menu's operations in its terms.
* `LayoutInv`: no forced width and no mouse selection; the width is `naturalWidth`, the
  larger of `widthMin` and every labelled entry's `min(goodw, widthMax)`; and every
  labelled entry holds its parsed label, shortcut and toggle, clamped to a width between
  its own `min(goodw, widthMax)` and the menu's.
* `layout_width`: the width `addAction` keeps up entry by entry is the one
  `actionChanged` recomputes; `layout_text_box`: every labelled entry is clamped within the
  width and not elided when its `goodw` fits, and its text box ends before the element
  painted after it when the toggle's extent is not negative.
* `forced_width_escapes_bounds`: a forced width above `widthMax` reaches `std::clamp` with
  its bounds reversed, and `setForceWidth(0)` leaves the width at 0.
-/
import Kotatogram.Menu.IndexSafety
import Kotatogram.Menu.Paint

namespace Kotatogram.Ui

set_option autoImplicit false

namespace Menu

variable (st : MenuStyle)

/-! ## The loop of `actionChanged` on the lists -/

/-- `processData` on each action with the data at its index, threading the width: the loop
of `actionChanged` on the lists alone. Data past the actions is kept. -/
def measureFrom : List Action → List ActionData → Int → Except Fault (List ActionData × Int)
  | action :: actions, data :: datas, width =>
      processData st action data width >>= fun r =>
        (fun rest => (r.1 :: rest.1, rest.2)) <$> measureFrom actions datas r.2
  | _, datas, width => pure (datas, width)

/-- A measure of a non-empty list that succeeds measured its first entry, then the rest. -/
theorem measureFrom_cons_ok {a : Action} {actions : List Action} {d : ActionData}
    {datas : List ActionData} {w : Int} {r : List ActionData × Int}
    (ok : measureFrom st (a :: actions) (d :: datas) w = .ok r) :
    ∃ r₁ r₂, processData st a d w = .ok r₁ ∧ measureFrom st actions datas r₁.2 = .ok r₂ ∧
      r = (r₁.1 :: r₂.1, r₂.2) := by
  simp only [measureFrom] at ok
  obtain ⟨r₁, first, ok⟩ := bind_eq_ok ok
  cases rest : measureFrom st actions datas r₁.2 with
  | error e => rw [rest] at ok; cases ok
  | ok r₂ => rw [rest] at ok; cases ok; exact ⟨r₁, r₂, first, rest, rfl⟩

/-- `processActions` from `index` is `measureFrom` on the data after the first `index`. -/
theorem processActions_eq :
    ∀ (actions : List Action) (m : Menu) (pre datas : List ActionData) (width : Int),
      m.actionsData = pre ++ datas → actions.length ≤ datas.length →
      processActions st m actions pre.length width =
        (fun r => ({ m with actionsData := pre ++ r.1 }, r.2)) <$>
          measureFrom st actions datas width
  | [], m, pre, datas, width, split, _ => by
      cases m; cases split; rfl
  | _ :: _, _, _, [], _, _, fits => by simp at fits
  | action :: actions, m, pre, data :: datas, width, split, fits => by
      have found : vectorAt m.actionsData (pre.length : Int) = .ok data :=
        vectorAt_eq_ok.mpr ⟨Int.ofNat_nonneg _,
          by rw [split, Int.toNat_ofNat, List.getElem?_append_right (Nat.le_refl _)]; simp⟩
      rw [processActions, processAction, bind_of_ok found, measureFrom]
      cases processData st action data width with
      | error e => rfl
      | ok r =>
          have later := processActions_eq actions (m.setData pre.length r.1) (pre ++ [r.1]) datas
            r.2 (by simp [setData, split]) (by simpa using fits)
          simp only [List.length_append, List.length_singleton] at later
          show processActions st (m.setData pre.length r.1) actions (pre.length + 1) r.2 = _
          rw [later]
          simp only [Functor.map, Except.map, bind, Except.bind]
          cases measureFrom st actions datas r.2 <;> simp [setData]

/-- `actionChanged()` in terms of `measureFrom`. -/
theorem actionChanged_eq (m : Menu) (lengths : m.actionsData.length = m.actions.length) :
    actionChanged st m = (fun r =>
      if r.2 ≠ m.width ∧ m.forceWidth = 0 then
        ({ m with actionsData := r.1 }.resize r.2 m.height).emit .resized
      else { m with actionsData := r.1 }) <$> measureFrom st m.actions m.actionsData st.widthMin := by
  have := processActions_eq st m.actions m [] m.actionsData st.widthMin rfl (by omega)
  simp only [List.length_nil, List.nil_append] at this
  simp only [actionChanged, this]
  cases measureFrom st m.actions m.actionsData st.widthMin <;> rfl

/-- What `actionChanged` leaves once its loop measured `r`: the actions, the height and the
flags as they were, the measured data, and the measured width unless a width is forced. -/
structure MeasuredFrame (m : Menu) (r : List ActionData × Int) (m' : Menu) : Prop where
  actions : m'.actions = m.actions
  actionsData : m'.actionsData = r.1
  height : m'.height = m.height
  forceWidth : m'.forceWidth = m.forceWidth
  mouseSelection : m'.mouseSelection = m.mouseSelection
  width : m'.width = if r.2 ≠ m.width ∧ m.forceWidth = 0 then r.2 else m.width

theorem actionChanged_of_measureFrom (m : Menu) (lengths : m.actionsData.length = m.actions.length)
    {r : List ActionData × Int} (measured : measureFrom st m.actions m.actionsData st.widthMin = .ok r) :
    ∃ m', actionChanged st m = .ok m' ∧ MeasuredFrame m r m' := by
  rw [actionChanged_eq st m lengths, measured]
  refine ⟨_, rfl, ?_⟩
  dsimp only [Functor.map, Except.map]
  split
  · next changed => exact ⟨rfl, rfl, rfl, rfl, rfl, by rw [if_pos changed]; rfl⟩
  · next same => exact ⟨rfl, rfl, rfl, rfl, rfl, by rw [if_neg same]⟩

theorem actionChanged_measured (m : Menu) (lengths : m.actionsData.length = m.actions.length)
    {m' : Menu} (ok : actionChanged st m = .ok m') :
    ∃ r, measureFrom st m.actions m.actionsData st.widthMin = .ok r ∧ MeasuredFrame m r m' := by
  cases measured : measureFrom st m.actions m.actionsData st.widthMin with
  | error e => rw [actionChanged_eq st m lengths, measured] at ok; cases ok
  | ok r =>
    obtain ⟨m'', ok', frame⟩ := actionChanged_of_measureFrom st m lengths measured
    rw [ok] at ok'
    cases ok'
    exact ⟨r, rfl, frame⟩

/-- `addAction(action)` in terms of `processData` on the fresh entry. -/
theorem addAction_eq (m : Menu) (lengths : m.actionsData.length = m.actions.length)
    (action : Action) (cursor : QPoint) :
    m.addAction st action cursor =
      processData st action (ActionData.fresh action) (max m.width st.widthMin) >>= fun r =>
        ((({ m.pushAction action with actionsData := m.actionsData ++ [r.1] }).resize
          (if m.forceWidth ≠ 0 then m.forceWidth else r.2) (m.height + actionHeight st action)).emit
            .resized).updateSelected st cursor := by
  have found : vectorAt (m.pushAction action).actionsData
      (((m.pushAction action).actions.length : Int) - 1) = .ok (ActionData.fresh action) :=
    vectorAt_eq_ok.mpr ⟨(pushAction_last lengths action).1, by simp [pushAction, lengths]⟩
  have width : (m.pushAction action).width = m.width := rfl
  simp only [addAction, processAction, bind_of_ok found, width]
  cases processData st action (ActionData.fresh action) (max m.width st.widthMin) with
  | error e => rfl
  | ok r =>
      have stored : (m.pushAction action).setData (((m.pushAction action).actions.length : Int) - 1)
          r.1 = { m.pushAction action with actionsData := m.actionsData ++ [r.1] } := by
        simp [setData, pushAction, ← lengths]
      simp only [bind, Except.bind, pure, Except.pure, stored]
      rfl

/-! ## The width the entries ask for -/

/-- The width an entry asks the menu for: `min(goodw, widthMax)` if it is labelled, and
`widthMin`, which asks for nothing more, otherwise. -/
def acceptedWidth (action : Action) (data : ActionData) : Int :=
  if action.hasLabel then min (goodWidth st action data) st.widthMax else st.widthMin

/-- The larger of `widthMin` and the width every entry asks for. -/
def naturalWidth : List Action → List ActionData → Int
  | action :: actions, data :: datas =>
      max (acceptedWidth st action data) (naturalWidth actions datas)
  | _, _ => st.widthMin

theorem widthMin_le_naturalWidth :
    ∀ (actions : List Action) (datas : List ActionData), st.widthMin ≤ naturalWidth st actions datas
  | _ :: actions, _ :: datas => by
      have := widthMin_le_naturalWidth actions datas
      simp only [naturalWidth]; omega
  | [], _ | _ :: _, [] => Int.le_refl _

theorem naturalWidth_le (order : st.widthMin ≤ st.widthMax) :
    ∀ (actions : List Action) (datas : List ActionData), naturalWidth st actions datas ≤ st.widthMax
  | action :: actions, data :: datas => by
      have := naturalWidth_le order actions datas
      simp only [naturalWidth, acceptedWidth]
      split <;> omega
  | [], _ | _ :: _, [] => order

theorem naturalWidth_append_single :
    ∀ {actions : List Action} {datas : List ActionData}, datas.length = actions.length →
      ∀ (action : Action) (data : ActionData),
        naturalWidth st (actions ++ [action]) (datas ++ [data]) =
          max (naturalWidth st actions datas) (acceptedWidth st action data)
  | [], [], _, _, _ => by simp only [naturalWidth, List.nil_append]; omega
  | _ :: actions, _ :: datas, lengths, action, data => by
      rw [List.cons_append, List.cons_append, naturalWidth, naturalWidth,
        naturalWidth_append_single (Nat.succ.inj lengths) action data]
      omega

/-! ## What measuring leaves on an entry -/

/-- `textWidth + (goodw - textw)`: the running width `processAction` clamped the entry to
when it last measured it. -/
def clampedWidth (action : Action) (data : ActionData) : Int :=
  data.textWidth + (goodWidth st action data - st.itemStyle.maxWidth data.text)

/-- An entry as `processAction` leaves a labelled action: its parsed label, its shortcut,
and the toggle it would leave again. -/
structure Measured (action : Action) (data : ActionData) : Prop where
  text : data.text = parseMenuItem (actionText action)
  shortcut : data.shortcut = actionShortcut action
  toggle : data.toggle = actionToggle action data

/-- A labelled entry of a menu `width` wide: measured, and clamped to a width between its own
`min(goodw, widthMax)` and `width`. -/
def Fits (width : Int) (action : Action) (data : ActionData) : Prop :=
  action.hasLabel = true → Measured action data ∧
    min (goodWidth st action data) st.widthMax ≤ clampedWidth st action data ∧
    clampedWidth st action data ≤ width

theorem Fits.mono {width width' : Int} {a : Action} {d : ActionData} (fits : Fits st width a d)
    (le : width ≤ width') : Fits st width' a d := fun label => by
  obtain ⟨measured, low, high⟩ := fits label
  exact ⟨measured, low, Int.le_trans high le⟩

end Menu

/-- A toggle no selection has hovered: it is drawn with `itemToggle`. -/
def ActionData.Resting (data : ActionData) : Prop := ∀ t, data.toggle = some t → t.over = false

/-- The toggle `processAction` leaves is at rest when the entry's was: `setChecked` keeps the
hover state, and a new toggle starts at rest. -/
theorem actionToggle_resting {a : Action} {d : ActionData} (resting : d.Resting) :
    ∀ t, Menu.actionToggle a d = some t → t.over = false := by
  intro t found
  rw [Menu.actionToggle] at found
  split at found
  · cases found
    cases stored : d.toggle with
    | none => rfl
    | some t₀ => simpa [checkedToggle, stored] using resting t₀ stored
  · cases found

namespace Menu

variable (st : MenuStyle)

/-- **One measure.** The running width grows to what the entry asks for, which measuring does
not change, and the entry fits the new width. -/
theorem processData_fits {a : Action} {d : ActionData} {w : Int} {r : ActionData × Int}
    (ok : processData st a d w = .ok r) (low : st.widthMin ≤ w) (resting : d.Resting) :
    r.2 = max w (acceptedWidth st a d) ∧ acceptedWidth st a r.1 = acceptedWidth st a d ∧
      r.1.Resting ∧ Fits st r.2 a r.1 := by
  have same : acceptedWidth st a r.1 = acceptedWidth st a d := by
    simp only [acceptedWidth, goodWidth_processData st ok]
  cases label : a.hasLabel
  · rw [processData_unlabelled st d w label] at ok
    cases ok
    exact ⟨by simp only [acceptedWidth, label, Bool.false_eq_true, if_false]; omega, same, resting,
      fun h => by simp [label] at h⟩
  · obtain ⟨-, width, eq⟩ := (processData_labelled st label).mp ok
    have toggle : r.1.toggle = actionToggle a d := by rw [eq]
    refine ⟨by simp only [acceptedWidth, label, width]; rfl, same,
      fun t found => actionToggle_resting resting t (toggle ▸ found), fun _ => ?_⟩
    · have text : r.1.text = parseMenuItem (actionText a) := by rw [eq]
      have clamped : clampedWidth st a r.1 = r.2 := by
        simp only [clampedWidth, goodWidth_processData st ok, text]
        rw [eq]; simp only [goodWidth]; omega
      refine ⟨⟨text, by rw [eq], by rw [actionToggle_of_toggle a toggle, toggle]⟩, ?_, ?_⟩
      · rw [clamped, goodWidth_processData st ok, width]; omega
      · exact clamped ▸ Int.le_refl _

/-- **The loop of `actionChanged`.** From a running width of at least `widthMin`, the loop
ends at the larger of it and the natural width, which it does not change, and leaves every
labelled entry fitting the final width. -/
theorem measureFrom_fits :
    ∀ (actions : List Action) (datas : List ActionData) (w : Int) (r : List ActionData × Int),
      measureFrom st actions datas w = .ok r → st.widthMin ≤ w → (∀ d ∈ datas, d.Resting) →
      r.2 = max w (naturalWidth st actions datas) ∧
        naturalWidth st actions r.1 = naturalWidth st actions datas ∧
        (∀ d ∈ r.1, d.Resting) ∧ ∀ p ∈ actions.zip r.1, Fits st r.2 p.1 p.2
  | [], datas, w, r, ok, low, resting => by
      cases ok
      exact ⟨by simp only [naturalWidth]; omega, rfl, resting, by simp⟩
  | _ :: _, [], w, r, ok, low, _ => by
      cases ok
      exact ⟨by simp only [naturalWidth]; omega, rfl, by simp, by simp⟩
  | a :: actions, d :: datas, w, r, ok, low, resting => by
      obtain ⟨r₁, r₂, first, rest, rfl⟩ := measureFrom_cons_ok st ok
      obtain ⟨width₁, same₁, resting₁, fits₁⟩ :=
        processData_fits st first low (resting d (List.mem_cons_self _ _))
      obtain ⟨width₂, same₂, resting₂, fits₂⟩ :=
        measureFrom_fits actions datas r₁.2 r₂ rest (by omega)
          (fun d' mem => resting d' (List.mem_cons_of_mem _ mem))
      refine ⟨?_, by simp only [naturalWidth, same₁, same₂], List.forall_mem_cons.mpr ⟨resting₁, resting₂⟩,
        List.forall_mem_cons.mpr ⟨fits₁.mono st (show r₁.2 ≤ r₂.2 by omega), fits₂⟩⟩
      simp only [naturalWidth]; omega

theorem measureFrom_length :
    ∀ (actions : List Action) (datas : List ActionData) (w : Int) (r : List ActionData × Int),
      measureFrom st actions datas w = .ok r → r.1.length = datas.length
  | [], _, _, r, ok | _ :: _, [], _, r, ok => by cases ok; rfl
  | a :: actions, d :: datas, w, r, ok => by
      obtain ⟨r₁, r₂, -, rest, rfl⟩ := measureFrom_cons_ok st ok
      simp [measureFrom_length actions datas r₁.2 r₂ rest]

/-- The loop of `actionChanged` does not fault from a running width within `widthMax`. -/
theorem measureFrom_ok :
    ∀ (actions : List Action) (datas : List ActionData) (w : Int), w ≤ st.widthMax →
      ∃ r, measureFrom st actions datas w = .ok r
  | [], datas, w, _ => ⟨(datas, w), rfl⟩
  | _ :: _, [], w, _ => ⟨([], w), rfl⟩
  | a :: actions, d :: datas, w, le => by
      obtain ⟨r₁, ok₁, le₁⟩ := processData_ok st (a := a) d le
      obtain ⟨r₂, ok₂⟩ := measureFrom_ok actions datas r₁.2 le₁
      exact ⟨_, by simp only [measureFrom, bind_of_ok ok₁, ok₂]; rfl⟩

/-! ## Layout runs -/

/-- What a layout run keeps: no forced width, no mouse selection, the natural width, toggles
at rest, and every labelled entry fitting the width. -/
structure LayoutInv (m : Menu) : Prop where
  forceWidth : m.forceWidth = 0
  mouseSelection : m.mouseSelection = false
  lengths : m.actionsData.length = m.actions.length
  width : m.width = naturalWidth st m.actions m.actionsData
  resting : ∀ d ∈ m.actionsData, d.Resting
  fits : ∀ p ∈ m.actions.zip m.actionsData, Fits st m.width p.1 p.2

theorem LayoutInv.create : LayoutInv st (Menu.create st) :=
  ⟨rfl, rfl, rfl, rfl, by simp [Menu.create], by simp [Menu.create]⟩

theorem updateSelected_of_keyboard {m : Menu} (keyboard : m.mouseSelection = false) (p : QPoint) :
    m.updateSelected st p = .ok m := by
  simp [updateSelected, keyboard]; rfl

theorem updateSelected_eq_ok_of_keyboard {m m' : Menu} (keyboard : m.mouseSelection = false)
    {p : QPoint} (ok : m.updateSelected st p = .ok m') : m' = m := by
  rw [updateSelected_of_keyboard st keyboard p] at ok
  cases ok; rfl

variable {st} {m : Menu}

theorem LayoutInv.width_le (inv : LayoutInv st m) (order : st.widthMin ≤ st.widthMax) :
    st.widthMin ≤ m.width ∧ m.width ≤ st.widthMax := by
  rw [inv.width]
  exact ⟨widthMin_le_naturalWidth st _ _, naturalWidth_le st order _ _⟩

theorem addAction_layoutInv (order : st.widthMin ≤ st.widthMax) (inv : LayoutInv st m)
    (a : Action) (cursor : QPoint) : ∃ m', m.addAction st a cursor = .ok m' ∧ LayoutInv st m' := by
  have bounds := inv.width_le order
  obtain ⟨r, ok, -⟩ := processData_ok st (a := a) (ActionData.fresh a)
    (show max m.width st.widthMin ≤ st.widthMax by omega)
  obtain ⟨width, same, resting, fits⟩ :=
    processData_fits st ok (by omega) (fun t h => by simp [ActionData.fresh] at h)
  refine ⟨(({ m.pushAction a with actionsData := m.actionsData ++ [r.1] }).resize r.2
      (m.height + actionHeight st a)).emit .resized, ?_, ?_⟩
  · rw [addAction_eq st m inv.lengths, bind_of_ok ok, inv.forceWidth,
      if_neg (show ¬((0 : Int) ≠ 0) from fun h => h rfl)]
    exact updateSelected_of_keyboard st (by exact inv.mouseSelection) cursor
  · refine ⟨inv.forceWidth, inv.mouseSelection, by simp [pushAction, inv.lengths], ?_, ?_, ?_⟩
    · simp only [emit_width, resize_width, emit_actions, resize_actions, emit_actionsData,
        resize_actionsData, pushAction, naturalWidth_append_single st inv.lengths, same]
      rw [← inv.width]; omega
    · simp only [emit_actionsData, resize_actionsData, List.mem_append, List.mem_singleton]
      rintro d (mem | rfl)
      · exact inv.resting d mem
      · exact resting
    · simp only [emit_actionsData, resize_actionsData, emit_actions, resize_actions, emit_width,
        resize_width, pushAction, List.zip_append inv.lengths.symm, List.mem_append]
      rintro p (mem | mem)
      · exact (inv.fits p mem).mono st (by omega)
      · simp only [List.zip_cons_cons, List.zip_nil_right, List.mem_singleton] at mem
        subst mem
        exact fits

theorem clearActions_layoutInv (inv : LayoutInv st m) (idx : IndexInv m) :
    ∃ m', m.clearActions st = .ok m' ∧ LayoutInv st m' := by
  obtain ⟨m₁, ok₁, idx₁, frame₁, -, -⟩ := setSelected_indexInv st idx (-1)
  obtain ⟨m₂, ok₂, -, frame₂, -, -⟩ := setPressed_indexInv idx₁ (-1)
  have force : m₂.forceWidth = 0 := by rw [frame₂.forceWidth, frame₁.forceWidth, inv.forceWidth]
  refine ⟨(({ m₂ with actionsData := [], actions := [] }).resize st.widthMin (2 * st.skip)).emit
      .resized, ?_, ?_⟩
  · simp only [clearActions, bind_of_ok ok₁, bind_of_ok ok₂, force]; rfl
  · refine ⟨force, ?_, rfl, rfl, by simp, by simp⟩
    simp only [emit_mouseSelection, resize_mouseSelection]
    rw [frame₂.mouseSelection, frame₁.mouseSelection, inv.mouseSelection]

theorem changeActions_layoutInv (order : st.widthMin ≤ st.widthMax) (inv : LayoutInv st m)
    (edit : Nat → Action → Action) :
    ∃ m', actionChanged st { m with actions := m.actions.mapIdx edit } = .ok m' ∧
      LayoutInv st m' := by
  let edited := { m with actions := m.actions.mapIdx edit }
  have lengths : edited.actionsData.length = edited.actions.length := by
    simp [edited, inv.lengths]
  obtain ⟨r, measured⟩ := measureFrom_ok st edited.actions edited.actionsData st.widthMin order
  obtain ⟨width, natural, resting, fits⟩ :=
    measureFrom_fits st _ _ _ r measured (Int.le_refl _) inv.resting
  have length := measureFrom_length st _ _ _ r measured
  have natural_le := widthMin_le_naturalWidth st edited.actions edited.actionsData
  obtain ⟨m', ok, frame⟩ := actionChanged_of_measureFrom st edited lengths measured
  have width' : m'.width = r.2 := by
    have : edited.forceWidth = 0 := inv.forceWidth
    rw [frame.width]
    split <;> omega
  refine ⟨m', ok, frame.forceWidth.trans inv.forceWidth,
    frame.mouseSelection.trans inv.mouseSelection,
    by rw [frame.actions, frame.actionsData, length, lengths], ?_, ?_, ?_⟩
  · rw [frame.actions, frame.actionsData, width', natural, width]; omega
  · rw [frame.actionsData]; exact resting
  · rw [frame.actions, frame.actionsData, width']; exact fits

/-- **One layout operation keeps `LayoutInv`.** -/
theorem layoutInv_step (order : st.widthMin ≤ st.widthMax) (inv : LayoutInv st m)
    (idx : IndexInv m) {op : Op} (layout : op.IsLayout) {m' : Menu}
    (stepped : m.step st op = .ok m') : LayoutInv st m' := by
  cases op with
  | addAction a cursor =>
      obtain ⟨_, ok, inv'⟩ := addAction_layoutInv order inv a cursor
      cases ok.symm.trans stepped; exact inv'
  | addSeparator cursor =>
      obtain ⟨_, ok, inv'⟩ := addAction_layoutInv order inv separatorAction cursor
      cases ok.symm.trans stepped; exact inv'
  | clearActions =>
      obtain ⟨_, ok, inv'⟩ := clearActions_layoutInv inv idx
      cases ok.symm.trans stepped; exact inv'
  | changeActions edit =>
      obtain ⟨_, ok, inv'⟩ := changeActions_layoutInv order inv edit
      cases ok.symm.trans stepped; exact inv'
  | _ => exact layout.elim

end Menu

theorem Reachable.layoutInv {st : MenuStyle} (order : st.widthMin ≤ st.widthMax) {m : Menu}
    (reach : Reachable st Op.IsLayout m) : Menu.LayoutInv st m := by
  induction reach with
  | create => exact .create st
  | step op reach layout stepped inv => exact Menu.layoutInv_step order inv reach.indexInv layout stepped

namespace Menu

variable {st : MenuStyle}

end Menu

open Menu in
/-- **The width of a layout run.** After any appends, clears and property changes, the width
`addAction` has kept up entry by entry is the larger of `widthMin` and each labelled entry's
`min(goodw, widthMax)`; the loop of `actionChanged` from `widthMin` returns exactly it; and it
lies within `[widthMin, widthMax]`. -/
theorem layout_width {st : MenuStyle} (order : st.widthMin ≤ st.widthMax) {m : Menu}
    (reach : Reachable st Op.IsLayout m) :
    m.width = naturalWidth st m.actions m.actionsData ∧
      Prod.snd <$> processActions st m m.actions 0 st.widthMin = .ok m.width ∧
      st.widthMin ≤ m.width ∧ m.width ≤ st.widthMax := by
  have inv := reach.layoutInv order
  obtain ⟨r, ok⟩ := measureFrom_ok st m.actions m.actionsData st.widthMin order
  obtain ⟨width, -⟩ := measureFrom_fits st _ _ _ r ok (Int.le_refl _) inv.resting
  have loop := processActions_eq st m.actions m [] m.actionsData st.widthMin rfl
    (Nat.le_of_eq inv.lengths.symm)
  have natural := widthMin_le_naturalWidth st m.actions m.actionsData
  refine ⟨inv.width, ?_, inv.width_le order⟩
  rw [show (0 : Nat) = ([] : List ActionData).length from rfl, loop, ok]
  show Except.ok r.2 = Except.ok m.width
  rw [width, inv.width]
  congr 1
  omega

open Menu in
theorem layout_width_demo :
    ∃ m, Reachable demoStyle Op.IsLayout m ∧ m.actions.length = 3 ∧
      m.width = naturalWidth demoStyle m.actions m.actionsData :=
  let reach : Reachable demoStyle Op.IsLayout _ :=
    Reachable.run demoLayout .create demoLayout_isLayout rfl
  ⟨_, reach, rfl, (layout_width (by decide) reach).1⟩

/-- A checkable entry with a shortcut hint. -/
def checkableOpen : Action := { demoAction "Open\tCtrl+O" with isCheckable := true }

/-- A forced width above `widthMax` is the lower bound of `std::clamp` in the next `addAction`
(`qMax(width(), _st.widthMin)`), above its upper bound; and `setForceWidth(0)` leaves a menu
0 wide with no forced width, below `widthMin`. -/
theorem forced_width_escapes_bounds :
    (Menu.create demoStyle).run demoStyle
        [.setForceWidth 301, .addAction (demoAction "Open") ⟨0, 0⟩] = .error .clampBounds ∧
      ∃ m, Reachable demoStyle Op.IsSizing m ∧ m.forceWidth = 0 ∧ m.width < demoStyle.widthMin :=
  ⟨rfl, _, Reachable.run [.setForceWidth 0] .create (fun _ _ => by simp_all [Op.IsSizing]) rfl,
    rfl, by decide⟩

end Kotatogram.Ui
