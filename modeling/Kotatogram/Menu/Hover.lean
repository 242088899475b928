/-
# Menu.Hover — the mouse selects only entries it may select

`updateSelected` selects the entry under the pointer only when it is enabled and not a
separator, and answers `-1` otherwise; every other call of `setSelected` either ends mouse
selection or asks for `-1`. `HoverInv` says so of a state: while the selection is
mouse-driven, `_selected` is `-1` or an entry `selectableAt` accepts. `updateSelected`
restores it from any state, the presses and releases keep what it reads (`SameHover`), and
`actionChanged` keeps `_selected` while the entries take their new properties. So

* `mouse_selects_selectable`: the invariant holds along every run whose property changes
  leave each selectable entry selectable;
* `disabled_entry_stays_hovered`: without that restriction it fails. `actionChanged`
  measures the entries again but does not call `updateSelected`, so a change that disables
  the hovered entry leaves it selected, with the selection still mouse-driven.
-/
import Kotatogram.Menu.Trigger
import Kotatogram.Menu.Faults

namespace Kotatogram.Ui

set_option autoImplicit false

/-- While the selection is mouse-driven, `_selected` is `-1` or an entry `updateSelected`
may select. -/
def HoverInv (m : Menu) : Prop :=
  m.mouseSelection = true → m.selected = -1 ∨ m.selectableAt m.selected = true

/-- The operations other than a property change that makes a selectable entry disabled or
a separator. -/
def Op.KeepsSelectable : Op → Prop
  | .changeActions edit => ∀ i a, a.selectable = true → (edit i a).selectable = true
  | _ => True

/-- `m'` keeps what `HoverInv` reads of `m`. -/
structure SameHover (m m' : Menu) : Prop where
  actions : m'.actions = m.actions
  selected : m'.selected = m.selected
  mouseSelection : m'.mouseSelection = m.mouseSelection

namespace SameHover

variable {m m₁ m₂ m₃ : Menu}

theorem refl (m : Menu) : SameHover m m := ⟨rfl, rfl, rfl⟩

theorem trans (a : SameHover m₁ m₂) (b : SameHover m₂ m₃) : SameHover m₁ m₃ :=
  ⟨b.actions.trans a.actions, b.selected.trans a.selected,
    b.mouseSelection.trans a.mouseSelection⟩

theorem emit (same : SameHover m m₁) (e : Event) : SameHover m (m₁.emit e) :=
  ⟨same.actions, same.selected, same.mouseSelection⟩

end SameHover

namespace Menu

variable (st : MenuStyle) {m : Menu}

theorem selectableAt_congr {m' : Menu} (actions : m'.actions = m.actions) (i : Int) :
    m'.selectableAt i = m.selectableAt i := by
  simp only [selectableAt, actions]

theorem selectableAt_valid {i : Int} (h : m.selectableAt i = true) :
    ValidIndex m.actions.length i := by
  unfold selectableAt at h
  cases found : m.actions[i.toNat]? with
  | none => simp [found] at h
  | some a =>
      simp only [found, Option.any_some, Bool.and_eq_true, decide_eq_true_eq] at h
      have := (List.getElem?_eq_some_iff.mp found).1
      exact .inr ⟨h.1, by omega⟩

/-- A property change that leaves each selectable entry selectable leaves each index
selectable. -/
theorem selectableAt_mapIdx {edit : Nat → Action → Action}
    (keeps : ∀ i a, a.selectable = true → (edit i a).selectable = true) {i : Int}
    (h : m.selectableAt i = true) : { m with actions := m.actions.mapIdx edit }.selectableAt i = true := by
  unfold selectableAt at h ⊢
  cases found : m.actions[i.toNat]? with
  | none => simp [found] at h
  | some a =>
      simp only [found, Option.any_some, Bool.and_eq_true] at h
      simp [found, h.1, keeps _ a h.2]

end Menu

theorem HoverInv.of_same {m m' : Menu} (hover : HoverInv m) (same : SameHover m m') :
    HoverInv m' := by
  intro mouse
  rw [same.selected, Menu.selectableAt_congr same.actions]
  exact hover (same.mouseSelection.symm.trans mouse)

theorem HoverInv.emit {m : Menu} (hover : HoverInv m) (e : Event) : HoverInv (m.emit e) := hover

namespace Menu

variable (st : MenuStyle) {m : Menu}

/-- `setSelected` keeps the invariant when, with the selection mouse-driven, it is asked
for `-1` or a selectable entry. -/
theorem setSelected_hoverInv (inv : IndexInv m) {sel : Int}
    (target : m.mouseSelection = true → sel = -1 ∨ m.selectableAt sel = true) :
    Ensures HoverInv (m.setSelected st sel) := by
  obtain ⟨m', ok, -, frame, selected, -⟩ := setSelected_indexInv st inv sel
  refine .of_ok ok fun mouse => ?_
  rcases target (frame.mouseSelection.symm.trans mouse) with rfl | selectable
  · exact .inl (selected.trans (normalizeIndex_of_validIndex (validIndex_neg_one _)))
  · rw [selected, normalizeIndex_of_validIndex (selectableAt_valid selectable),
      selectableAt_congr frame.actions]
    exact .inr selectable

/-- `updateSelected` restores the invariant from any state. -/
theorem updateSelected_hoverInv (inv : IndexInv m) (p : QPoint) :
    Ensures HoverInv (m.updateSelected st p) := by
  unfold updateSelected
  split
  · refine setSelected_hoverInv st inv fun _ => ?_
    split
    · exact .inr ‹_›
    · exact .inl rfl
  · next off => exact .of_ok rfl fun mouse => absurd mouse off

theorem clearSelection_hoverInv (inv : IndexInv m) : Ensures HoverInv (m.clearSelection st) :=
  setSelected_hoverInv st (inv.mouseSelection false) fun _ => .inl rfl

theorem clearMouseSelection_hoverInv (inv : IndexInv m) (hover : HoverInv m) :
    Ensures HoverInv (m.clearMouseSelection st) := by
  unfold clearMouseSelection
  split
  · exact clearSelection_hoverInv st inv
  · exact .of_ok rfl hover

theorem setShowSource_hoverInv (inv : IndexInv m) (source : TriggeredSource) :
    Ensures HoverInv (m.setShowSource st source) :=
  setSelected_hoverInv st (inv.mouseSelection _) fun mouse =>
    .inl (if_pos (.inl (of_decide_eq_true mouse)))

theorem itemReleased_sameHover (inv : IndexInv m) (source : TriggeredSource) :
    Ensures (SameHover m) (m.itemReleased st source) := by
  unfold itemReleased
  split
  · obtain ⟨m₁, ok₁, -, frame₁, -, selected₁⟩ := setPressed_indexInv inv (-1)
    have same₁ : SameHover m m₁ := ⟨frame₁.actions, selected₁, frame₁.mouseSelection⟩
    rw [bind_of_ok ok₁]
    refine Ensures.bind_any fun _ => ?_
    unfold triggerIfSelected
    split
    · exact Ensures.bind_any fun _ => .of_ok rfl (same₁.emit _)
    · exact .of_ok rfl same₁
  · exact .of_ok rfl (.refl m)

theorem itemPressed_sameHover (inv : IndexInv m) (source : TriggeredSource) :
    Ensures (SameHover m) (m.itemPressed st source) := by
  rcases itemPressed_cases st inv source with same | ⟨m₁, inv₁, frame₁, -, selected₁, pressed⟩
  · exact .of_ok same (.refl m)
  have same₁ : SameHover m (m₁.emit (.pressed m₁.pressed)) :=
    ⟨frame₁.actions, selected₁, frame₁.mouseSelection⟩
  rw [pressed]
  split
  · exact .of_ok rfl same₁
  · exact (itemReleased_sameHover st (inv₁.emit _) source).mono fun _ later => same₁.trans later

/-- The keyboard selects with mouse selection off, and presses without selecting. -/
theorem handleKeyPress_hoverInv (inv : IndexInv m) (hover : HoverInv m) (key : Key)
    (rightToLeft : Bool) : Ensures HoverInv (m.handleKeyPress st key rightToLeft) := by
  rcases handleKeyPress_cases st inv key rightToLeft with pressed | ⟨i, selected⟩ | same
  · rw [pressed]
    exact (itemPressed_sameHover st inv .keyboard).mono fun _ same => hover.of_same same
  · rw [selected]; exact setSelected_hoverInv st (inv.mouseSelection false) nofun
  · rw [same]; exact .of_ok rfl hover

theorem handleMouseMove_hoverInv (inv : IndexInv m) (hover : HoverInv m) (p : QPoint) :
    Ensures HoverInv (m.handleMouseMove st p) := by
  unfold handleMouseMove
  split
  · exact updateSelected_hoverInv st (inv.mouseSelection true) p
  · exact (clearMouseSelection_hoverInv st inv hover).map fun _ hover₁ => hover₁.emit _

/-- After the move a mouse press starts with, both invariants hold. -/
theorem handleMouseMove_both (inv : IndexInv m) (hover : HoverInv m) (p : QPoint) :
    Ensures (fun m₁ => HoverInv m₁ ∧ IndexInv m₁) (m.handleMouseMove st p) :=
  (handleMouseMove_hoverInv st inv hover p).and
    (Ensures.of_inBounds (handleMouseMove_settles st inv p).inBounds)

theorem handleMousePress_hoverInv (inv : IndexInv m) (hover : HoverInv m) (p : QPoint) :
    Ensures HoverInv (m.handleMousePress st p) := by
  unfold handleMousePress
  refine (handleMouseMove_both st inv hover p).bind fun m₁ ⟨hover₁, inv₁⟩ => ?_
  split
  · exact (itemPressed_sameHover st inv₁ .mouse).mono fun _ same => hover₁.of_same same
  · exact .of_ok rfl (hover₁.emit _)

theorem handleMouseRelease_hoverInv (inv : IndexInv m) (hover : HoverInv m) (p : QPoint) :
    Ensures HoverInv (m.handleMouseRelease st p) := by
  unfold handleMouseRelease
  refine (handleMouseMove_both st inv hover p).bind fun m₁ ⟨hover₁, inv₁⟩ =>
    ((itemReleased_sameHover st inv₁ .mouse).mono fun _ same => hover₁.of_same same).bind
      fun m₂ hover₂ => ?_
  split
  · exact .of_ok rfl hover₂
  · exact .of_ok rfl (hover₂.emit _)

theorem enterEventHook_hoverInv (inv : IndexInv m) (hover : HoverInv m) (cursor : QPoint) :
    Ensures HoverInv (m.enterEventHook st cursor) := by
  unfold enterEventHook
  split
  · exact .of_ok rfl hover
  · exact clearMouseSelection_hoverInv st inv hover

/-- `addAction` ends with `updateSelected`. -/
theorem addAction_hoverInv (inv : IndexInv m) (a : Action) (cursor : QPoint) :
    Ensures HoverInv (m.addAction st a cursor) := by
  have last := pushAction_last inv.data_length a
  unfold addAction
  refine (Ensures.of_inBounds (processAction_inBounds st last.1 last.2 a _)).bind
    fun r remeasured => ?_
  exact updateSelected_hoverInv st
    ((((inv.pushAction a).of_remeasured remeasured).resize _ _).emit _) cursor

theorem clearActions_hoverInv (inv : IndexInv m) : Ensures HoverInv (m.clearActions st) := by
  obtain ⟨m₁, ok₁, inv₁, -, selected₁, -⟩ := setSelected_indexInv st inv (-1)
  obtain ⟨m₂, ok₂, -, -, -, selected₂⟩ := setPressed_indexInv inv₁ (-1)
  unfold clearActions
  rw [bind_of_ok ok₁, bind_of_ok ok₂]
  exact .of_ok rfl fun _ => .inl (by simp [selected₂, selected₁, normalizeIndex])

/-- `actionChanged` only measures the entries and resizes. -/
theorem actionChanged_sameHover (inv : IndexInv m) : Ensures (SameHover m) (m.actionChanged st) := by
  unfold actionChanged
  refine (Ensures.of_inBounds (processActions_inBounds st m.actions 0 _ m
    (by simp [inv.data_length]))).bind fun r remeasured => ?_
  obtain ⟨d, eq, -⟩ := remeasured
  have same : SameHover m r.1 := by rw [eq]; exact ⟨rfl, rfl, rfl⟩
  refine .of_ok rfl ?_
  dsimp only
  split
  · exact ⟨same.actions, same.selected, same.mouseSelection⟩
  · exact same

theorem changeActions_hoverInv (inv : IndexInv m) (hover : HoverInv m)
    {edit : Nat → Action → Action} (keeps : ∀ i a, a.selectable = true → (edit i a).selectable = true) :
    Ensures HoverInv (actionChanged st { m with actions := m.actions.mapIdx edit }) :=
  (actionChanged_sameHover st (inv.mapIdx edit)).mono fun _ same =>
    HoverInv.of_same (m := { m with actions := m.actions.mapIdx edit })
      (fun mouse => (hover mouse).imp id (selectableAt_mapIdx keeps)) same

theorem step_hoverInv (inv : IndexInv m) (hover : HoverInv m) :
    ∀ op : Op, op.KeepsSelectable → Ensures HoverInv (m.step st op)
  | .addAction a cursor, _ => addAction_hoverInv st inv a cursor
  | .addSeparator cursor, _ => addAction_hoverInv st inv _ cursor
  | .clearActions, _ => clearActions_hoverInv st inv
  | .changeActions _, keeps => changeActions_hoverInv st inv hover keeps
  | .setShowSource source, _ => setShowSource_hoverInv st inv source
  | .setForceWidth _, _ | .setChildShown _, _ => .of_ok rfl hover
  | .handleKeyPress key rightToLeft, _ => handleKeyPress_hoverInv st inv hover key rightToLeft
  | .handleMouseMove p, _ => handleMouseMove_hoverInv st inv hover p
  | .handleMousePress p, _ => handleMousePress_hoverInv st inv hover p
  | .handleMouseRelease p, _ => handleMouseRelease_hoverInv st inv hover p
  | .enterEvent cursor, _ => enterEventHook_hoverInv st inv hover cursor
  | .leaveEvent, _ | .clearMouseSelection, _ => clearMouseSelection_hoverInv st inv hover
  | .clearSelection, _ => clearSelection_hoverInv st inv

end Menu

theorem Reachable.hoverInv {st : MenuStyle} {m : Menu} (reach : Reachable st Op.KeepsSelectable m) :
    HoverInv m := by
  induction reach with
  | create => exact nofun
  | step op reach allowed stepped hover =>
      exact Menu.step_hoverInv st reach.indexInv hover op allowed _ stepped

/-- **Mouse selection selects only selectable entries.** Along every run whose property
changes leave each selectable entry selectable, while the selection is mouse-driven
`_selected` is `-1` or an enabled entry that is not a separator. -/
theorem mouse_selects_selectable {st : MenuStyle} {m : Menu}
    (reach : Reachable st Op.KeepsSelectable m) (mouse : m.mouseSelection = true) :
    m.selected = -1 ∨ m.selectableAt m.selected = true :=
  reach.hoverInv mouse

/-- One entry, hovered, then renamed. -/
def hoverRun : List Op :=
  [.addAction (demoAction "Open") ⟨0, 0⟩, .handleMouseMove ⟨5, 10⟩,
    .changeActions fun _ a => { a with text := (demoAction "Save").text }]

theorem mouse_selects_selectable_demo :
    ∃ m, Reachable demoStyle Op.KeepsSelectable m ∧ m.mouseSelection = true ∧
      (m.selected = -1 ∨ m.selectableAt m.selected = true) :=
  let reach : Reachable demoStyle Op.KeepsSelectable _ :=
    Reachable.run hoverRun .create (by simp [hoverRun, Op.KeepsSelectable, Action.selectable]; exact fun _ => And.intro) rfl
  ⟨_, reach, rfl, mouse_selects_selectable reach rfl⟩

/-- **Refuted pole: a property change can leave a disabled entry hovered.** Without the
restriction of `mouse_selects_selectable` the invariant fails: `actionChanged` measures the
entries again but does not call `updateSelected`, so disabling the entry `hoverRun` hovered
leaves it selected, with the selection still mouse-driven. -/
theorem disabled_entry_stays_hovered :
    ∃ m, Reachable demoStyle (fun _ => True) m ∧ m.mouseSelection = true ∧ m.selected = 0 ∧
      m.selectableAt m.selected = false :=
  ⟨_, Reachable.run (hoverRun.take 2 ++ [Op.changeActions fun _ a => { a with isEnabled := false }])
    .create (fun _ _ => trivial) rfl, rfl, rfl, rfl⟩

end Kotatogram.Ui
