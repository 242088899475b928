/-
# Menu.Faults — what an operation can fail with

`IndexSafety` shows that no reachable menu reads a vector out of range, and that every
handler other than the layout operations succeeds; `Scan` that the Up/Down scan never runs
out of its `n` iterations. What remains is `std::clamp(goodw, width, _st.widthMax)` in
`processAction`, whose bounds are reversed once the running width is above `widthMax`. The
running width never passes `widthMax` by measuring alone, so only a start above it faults:
the menu's width for `addAction`, `widthMin` for `actionChanged`. The width gets above
`widthMax` only through a forced width, or with `widthMin` itself above it.

* `faults_only_at_clamp`: every fault on a reachable menu is that clamp, from such a start;
* `input_keeps_layout`: the other handlers succeed and leave the entries and sizes alone;
* `bounded_forced_width_total`: in runs whose forced widths stay within `widthMax`
  (`Bounded` is the invariant), every operation succeeds.
-/
import Kotatogram.Menu.Width

namespace Kotatogram.Ui

set_option autoImplicit false

namespace Menu

variable (st : MenuStyle) {m : Menu}

/-! ## Measuring: where the clamp faults -/

/-- The width `processAction` returns grows at most to `widthMax`, or stays where it was. -/
theorem processData_width_le {a : Action} {d : ActionData} {w : Int} {r : ActionData × Int}
    (ok : processData st a d w = .ok r) : r.2 ≤ max w st.widthMax := by
  cases label : a.hasLabel
  · rw [processData_unlabelled st d w label] at ok
    cases ok; exact Int.le_max_left _ _
  · obtain ⟨-, width, -⟩ := (processData_labelled st label).mp ok
    omega

/-- `processAction` faults only at the clamp, and only from a width above `widthMax`. -/
theorem processData_fault {a : Action} {d : ActionData} {w : Int} {e : Fault}
    (fault : processData st a d w = .error e) : e = .clampBounds ∧ st.widthMax < w := by
  unfold processData at fault
  split at fault
  · cases fault
  · revert fault
    unfold stdClamp
    split
    · next above => intro fault; cases fault; exact ⟨rfl, above⟩
    · exact nofun

theorem measureFrom_width_le :
    ∀ (actions : List Action) (datas : List ActionData) (w : Int) (r : List ActionData × Int),
      measureFrom st actions datas w = .ok r → r.2 ≤ max w st.widthMax
  | [], _, _, r, ok | _ :: _, [], _, r, ok => by cases ok; exact Int.le_max_left _ _
  | a :: actions, d :: datas, w, r, ok => by
      obtain ⟨r₁, r₂, first, rest, rfl⟩ := measureFrom_cons_ok st ok
      have := processData_width_le st first
      have := measureFrom_width_le actions datas r₁.2 r₂ rest
      exact show r₂.2 ≤ max w st.widthMax by omega

/-- The loop of `actionChanged` faults only at the clamp, and only from a start above
`widthMax`: the running width never passes `widthMax` on its own. -/
theorem measureFrom_fault :
    ∀ (actions : List Action) (datas : List ActionData) (w : Int) (e : Fault),
      measureFrom st actions datas w = .error e → e = .clampBounds ∧ st.widthMax < w
  | [], _, _, _, fault | _ :: _, [], _, _, fault => by cases fault
  | a :: actions, d :: datas, w, e, fault => by
      simp only [measureFrom] at fault
      cases first : processData st a d w with
      | error e' => rw [first] at fault; cases fault; exact processData_fault st first
      | ok r₁ =>
        rw [bind_of_ok first] at fault
        cases rest : measureFrom st actions datas r₁.2 with
        | ok r₂ => rw [rest] at fault; cases fault
        | error e' =>
          rw [rest] at fault
          cases fault
          obtain ⟨clamp, above⟩ := measureFrom_fault actions datas r₁.2 _ rest
          have := processData_width_le st first
          exact ⟨clamp, by omega⟩

/-! ## Layout operations -/

/-- Once the new entry is measured, `addAction` succeeds: its width is the forced one, else
the measured one. -/
theorem addAction_of_processData (inv : IndexInv m) {a : Action} {r : ActionData × Int}
    (cursor : QPoint) (first : processData st a (ActionData.fresh a) (max m.width st.widthMin) = .ok r) :
    ∃ m', m.addAction st a cursor = .ok m' ∧ IndexInv m' ∧ m'.forceWidth = m.forceWidth ∧
      m'.width = if m.forceWidth ≠ 0 then m.forceWidth else r.2 := by
  obtain ⟨m', ok, frame, -, -⟩ := updateSelected_ok st cursor
    (m := ((({ m.pushAction a with actionsData := m.actionsData ++ [r.1] }).resize
      (if m.forceWidth ≠ 0 then m.forceWidth else r.2) (m.height + actionHeight st a)).emit .resized))
    (by simp [pushAction, inv.data_length]) (inv.pushAction a).selected_valid
  have added : m.addAction st a cursor = .ok m' := by
    rw [addAction_eq st m inv.data_length, bind_of_ok first, ok]
  exact ⟨m', added, (addAction_inBounds st inv a cursor).post added, frame.forceWidth,
    frame.width⟩

theorem addAction_fault (inv : IndexInv m) {a : Action} {cursor : QPoint} {e : Fault}
    (fault : m.addAction st a cursor = .error e) :
    e = .clampBounds ∧ st.widthMax < max m.width st.widthMin := by
  cases first : processData st a (ActionData.fresh a) (max m.width st.widthMin) with
  | error e' =>
    rw [addAction_eq st m inv.data_length, first] at fault
    cases fault; exact processData_fault st first
  | ok r =>
    obtain ⟨m', ok, -⟩ := addAction_of_processData st inv cursor first
    rw [ok] at fault; cases fault

theorem changeActions_fault (inv : IndexInv m) {edit : Nat → Action → Action} {e : Fault}
    (fault : actionChanged st { m with actions := m.actions.mapIdx edit } = .error e) :
    e = .clampBounds ∧ st.widthMax < st.widthMin := by
  rw [actionChanged_eq st _ (by simp [inv.data_length])] at fault
  cases measured : measureFrom st (m.actions.mapIdx edit) m.actionsData st.widthMin with
  | ok r => rw [measured] at fault; cases fault
  | error e' => rw [measured] at fault; cases fault; exact measureFrom_fault st _ _ _ _ measured

theorem clearActions_ok (inv : IndexInv m) :
    ∃ m', m.clearActions st = .ok m' ∧ m'.forceWidth = m.forceWidth ∧
      m'.width = if m.forceWidth ≠ 0 then m.forceWidth else st.widthMin := by
  obtain ⟨m₁, ok₁, inv₁, frame₁, -, -⟩ := setSelected_indexInv st inv (-1)
  obtain ⟨m₂, ok₂, -, frame₂, -, -⟩ := setPressed_indexInv inv₁ (-1)
  have force : m₂.forceWidth = m.forceWidth := by rw [frame₂.forceWidth, frame₁.forceWidth]
  refine ⟨(({ m₂ with actionsData := [], actions := [] }).resize
      (if m₂.forceWidth ≠ 0 then m₂.forceWidth else st.widthMin) (2 * st.skip)).emit .resized,
    by rw [clearActions, bind_of_ok ok₁, bind_of_ok ok₂]; rfl, force, ?_⟩
  simp only [emit_width, resize_width, force]

end Menu

open Menu

/-- **Faults.** On a reachable menu, an operation that faults does so at the clamp of
`processAction`, from a width (the menu's, or `widthMin`) above `widthMax`: no index is out of
range, and the Up/Down scan never runs out. -/
theorem faults_only_at_clamp {st : MenuStyle} {allowed : Op → Prop} {m : Menu}
    (reach : Reachable st allowed m) (op : Op) {e : Fault} (fault : m.step st op = .error e) :
    e = .clampBounds ∧ st.widthMax < max m.width st.widthMin := by
  have inv := reach.indexInv
  cases op
  case addAction a cursor => exact addAction_fault st inv fault
  case addSeparator cursor => exact addAction_fault st inv fault
  case clearActions =>
    obtain ⟨m', ok, -⟩ := clearActions_ok st inv
    exact absurd fault (by rw [step, ok]; exact nofun)
  case changeActions edit =>
    obtain ⟨clamp, above⟩ := changeActions_fault st inv fault
    exact ⟨clamp, by omega⟩
  case setForceWidth => cases fault
  all_goals exact absurd fault ((step_settles st inv _ (by exact id)).ne_error e)

/-- After `setForceWidth(301)` over a 300px maximum, adding an entry faults at the clamp. -/
theorem forced_width_faults_at_clamp :
    ((Menu.create demoStyle).setForceWidth 301).step demoStyle
        (.addAction (demoAction "Open") ⟨0, 0⟩) = .error .clampBounds ∧
      demoStyle.widthMax < max ((Menu.create demoStyle).setForceWidth 301).width demoStyle.widthMin :=
  ⟨rfl, (faults_only_at_clamp (show Reachable demoStyle (fun _ => True)
    ((Menu.create demoStyle).setForceWidth 301) from .step (.setForceWidth 301) .create trivial rfl)
    (.addAction (demoAction "Open") ⟨0, 0⟩) rfl).2⟩

/-- **Input leaves the layout.** On a reachable menu, every selection, key, mouse and hook
operation succeeds, and leaves the entries, the width, the height and the forced width as they
were. -/
theorem input_keeps_layout {st : MenuStyle} {allowed : Op → Prop} {m : Menu}
    (reach : Reachable st allowed m) :
    ∀ op : Op, ¬op.IsSizing → ∃ m', m.step st op = .ok m' ∧ m'.actions = m.actions ∧
      m'.width = m.width ∧ m'.height = m.height ∧ m'.forceWidth = m.forceWidth := fun op input =>
  let ⟨m', ok, settled⟩ := step_settles st reach.indexInv op input
  ⟨m', ok, settled.actions, settled.width, settled.height, settled.forceWidth⟩

/-- On the demo layout with its first item pressed, Down is such an operation. -/
theorem input_keeps_layout_pressed :
    ¬(Op.handleKeyPress .keyDown false).IsSizing ∧
      ∃ m, Reachable demoStyle (fun _ => True) m ∧ m.actions.length = 3 ∧ m.pressed = 0 ∧
        ∃ m', m.step demoStyle (.handleKeyPress .keyDown false) = .ok m' ∧ m'.actions = m.actions ∧
          m'.width = m.width ∧ m'.height = m.height ∧ m'.forceWidth = m.forceWidth :=
  let reach : Reachable demoStyle (fun _ => True) _ :=
    Reachable.run pressRun .create (fun _ _ => trivial) rfl
  ⟨id, _, reach, rfl, rfl, input_keeps_layout reach _ id⟩

/-- The operations whose forced width, if any, is within `widthMax`. -/
def Op.ForcesWithin (st : MenuStyle) : Op → Prop
  | .setForceWidth forceWidth => forceWidth ≤ st.widthMax
  | _ => True

/-- Within `widthMax`: the width, and the forced width when one is set. -/
structure Bounded (st : MenuStyle) (m : Menu) : Prop where
  inv : IndexInv m
  width : m.width ≤ st.widthMax
  forceWidth : m.forceWidth = 0 ∨ m.forceWidth ≤ st.widthMax

namespace Bounded

variable {st : MenuStyle} {m : Menu}

theorem create (order : st.widthMin ≤ st.widthMax) : Bounded st (Menu.create st) :=
  ⟨⟨rfl, .inl rfl, .inl rfl⟩, order, .inl rfl⟩

theorem settled {m' : Menu} (bounded : Bounded st m) (settled : Settled m m') : Bounded st m' :=
  ⟨settled.inv, settled.width ▸ bounded.width, settled.forceWidth ▸ bounded.forceWidth⟩

theorem step_input (bounded : Bounded st m) (op : Op) (input : ¬op.IsSizing) :
    ∃ m', m.step st op = .ok m' ∧ Bounded st m' :=
  let ⟨m', ok, settled⟩ := step_settles st bounded.inv op input
  ⟨m', ok, bounded.settled settled⟩

/-- The width a resize asks for, the forced one if set, else `w`, is within `widthMax`. -/
theorem forced_or_le (bounded : Bounded st m) {w : Int} (le : w ≤ st.widthMax) :
    (if m.forceWidth ≠ 0 then m.forceWidth else w) ≤ st.widthMax := by
  split
  · next forced => exact bounded.forceWidth.resolve_left forced
  · exact le

theorem addAction (order : st.widthMin ≤ st.widthMax) (bounded : Bounded st m) (a : Action)
    (cursor : QPoint) : ∃ m', m.addAction st a cursor = .ok m' ∧ Bounded st m' := by
  obtain ⟨r, first, le⟩ := processData_ok st (a := a) (ActionData.fresh a)
    (show max m.width st.widthMin ≤ st.widthMax by have := bounded.width; omega)
  obtain ⟨m', ok, inv', force, width⟩ := addAction_of_processData st bounded.inv cursor first
  exact ⟨m', ok, inv', width ▸ bounded.forced_or_le le, force ▸ bounded.forceWidth⟩

/-- From a bounded menu, every operation allowed succeeds and keeps the menu bounded. -/
theorem step_ok (order : st.widthMin ≤ st.widthMax) (bounded : Bounded st m) (op : Op)
    (allowed : op.ForcesWithin st) : ∃ m', m.step st op = .ok m' ∧ Bounded st m' := by
  have inv := bounded.inv
  cases op
  case addAction a cursor => exact bounded.addAction order a cursor
  case addSeparator cursor => exact bounded.addAction order separatorAction cursor
  case clearActions =>
    obtain ⟨m', ok, force, width⟩ := clearActions_ok st inv
    exact ⟨m', ok, (clearActions_inBounds st inv).post ok, width ▸ bounded.forced_or_le order,
      force ▸ bounded.forceWidth⟩
  case changeActions edit =>
    obtain ⟨r, measured⟩ := measureFrom_ok st (m.actions.mapIdx edit) m.actionsData _ order
    have le := measureFrom_width_le st _ _ _ r measured
    obtain ⟨m', ok, frame⟩ :=
      actionChanged_of_measureFrom st { m with actions := m.actions.mapIdx edit }
        (by simp [inv.data_length]) measured
    have := bounded.width
    refine ⟨m', ok, (changeActions_inBounds st inv edit).post ok, ?_,
      frame.forceWidth ▸ bounded.forceWidth⟩
    rw [frame.width]
    dsimp only
    split <;> omega
  case setForceWidth forceWidth =>
    exact ⟨_, rfl, ⟨inv.1, inv.2, inv.3⟩, allowed, .inr allowed⟩
  all_goals exact bounded.step_input _ (by exact id)

end Bounded

/-- **No fault within bounds.** With `widthMin ≤ widthMax`, in runs whose forced widths stay
within `widthMax`, the width stays within `widthMax` and every further operation of such a run
succeeds. -/
theorem bounded_forced_width_total {st : MenuStyle} (order : st.widthMin ≤ st.widthMax)
    {m : Menu} (reach : Reachable st (Op.ForcesWithin st) m) :
    m.width ≤ st.widthMax ∧ ∀ op, op.ForcesWithin st → ∃ m', m.step st op = .ok m' := by
  have bounded : Bounded st m := by
    induction reach with
    | create => exact .create order
    | step op _ allowed ok ih =>
      obtain ⟨m', ok', bounded'⟩ := ih.step_ok order op allowed
      rw [ok] at ok'
      cases ok'
      exact bounded'
  exact ⟨bounded.width, fun op allowed =>
    let ⟨m', ok, _⟩ := bounded.step_ok order op allowed; ⟨m', ok⟩⟩

/-- The demo layout forced to 150 pixels takes a further append. -/
theorem bounded_forced_width_total_demo :
    demoStyle.widthMin ≤ demoStyle.widthMax ∧
      ∃ m, Reachable demoStyle (Op.ForcesWithin demoStyle) m ∧ m.actions.length = 3 ∧
        m.forceWidth = 150 ∧ m.width ≤ demoStyle.widthMax ∧
        ∃ m', m.step demoStyle (.addAction (demoAction "Save") ⟨0, 0⟩) = .ok m' :=
  have reach : Reachable demoStyle (Op.ForcesWithin demoStyle) _ :=
    Reachable.run (demoLayout ++ [Op.setForceWidth 150]) .create
      (by simp [demoLayout, Op.ForcesWithin, demoStyle]) rfl
  have total := bounded_forced_width_total (by decide) reach
  ⟨by decide, _, reach, rfl, rfl, total.1, total.2 _ trivial⟩

end Kotatogram.Ui
