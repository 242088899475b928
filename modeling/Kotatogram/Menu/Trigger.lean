/-
# Menu.Trigger — every trigger consumes one press of its own entry

The owner's `triggered` callback is called from `itemReleased` only, when the entry pressed
is still the selected one, after `_pressed` went back to `-1`. The log records each press
that passed `itemPressed`'s check (ghost `pressed` calls). `consume` scans the log: a press
arms its index, and a trigger must find its own index armed, and disarms it.
`PressesPaired log` says the scan never fails, so no press is triggered twice and no trigger
names an entry other than the one pressed.

The invariant `TriggerInv` ties the scan to the state: a pending `_pressed` is the press the
scan left armed. Every operation but the presses and releases is `Quietly` (it appends only
quiet calls and keeps or clears `_pressed`), so the induction has two real cases,
`itemPressed_triggerInv` and `itemReleased_triggerInv`. Then

* `Reachable.triggerInv`: the invariant holds in every reachable state;
* `trigger_law`: the log is paired; a mouse release triggers once exactly when a press is
  pending and still selected after the move; Enter on an enabled selection triggers once;
  `clearActions` drops a pending press;
* `release_over_pressed_entry_triggers`: the move comes first, so a press, a selection moved
  away by the keyboard, and a release over the pressed entry trigger it;
* `keyboard_open_triggers_separator`: a keyboard-opened menu triggers its first entry even
  when that entry is a separator.
-/
import Kotatogram.Menu.IndexSafety

namespace Kotatogram.Ui

set_option autoImplicit false

/-- One call of the log against the press a trigger may still consume: a press arms its
index, a trigger must find its own index armed and disarms it; `none` once a trigger did
not. -/
def consume : Option (Option Int) → Event → Option (Option Int)
  | none, _ => none
  | some _, .pressed i => some (some i)
  | some armed, .triggered j .. => if armed = some j then some none else none
  | armed, _ => armed

/-- The scan of a whole log, from no armed press. -/
def pressScan (log : List Event) : Option (Option Int) := log.foldl consume (some none)

/-- Every trigger in `log` consumes the latest press, which pressed its index, and no press
is consumed twice. -/
def PressesPaired (log : List Event) : Prop := pressScan log ≠ none

/-- A call of the `triggered` callback. -/
def Event.isTrigger : Event → Bool
  | .triggered .. => true
  | _ => false

/-- The number of trigger calls in a log. -/
def triggerCount (log : List Event) : Nat := log.countP Event.isTrigger

/-- The press invariant: the log is paired, and a pending `_pressed` is the press it left
armed. -/
def TriggerInv (m : Menu) : Prop :=
  ∃ armed, pressScan m.log = some armed ∧ (0 ≤ m.pressed → armed = some m.pressed)

/-- A quiet call leaves the scan where it was. -/
theorem consume_quiet (s : Option (Option Int)) {e : Event} (quiet : e.Quiet) : consume s e = s := by
  cases s with
  | none => rfl
  | some armed => cases e <;> first | rfl | exact nomatch quiet

theorem isTrigger_of_quiet {e : Event} (quiet : e.Quiet) : e.isTrigger = false := by
  cases e <;> first | rfl | exact nomatch quiet

theorem foldl_consume_quiet (s : Option (Option Int)) :
    ∀ es : List Event, (∀ e ∈ es, e.Quiet) → es.foldl consume s = s
  | [], _ => rfl
  | e :: es, quiet => by
      rw [List.foldl_cons, consume_quiet s (quiet e (List.mem_cons_self _ _))]
      exact foldl_consume_quiet s es fun e mem => quiet e (List.mem_cons_of_mem _ mem)

theorem triggerCount_append (l l' : List Event) :
    triggerCount (l ++ l') = triggerCount l + triggerCount l' := List.countP_append _ _ _

theorem triggerCount_quiet {es : List Event} (quiet : ∀ e ∈ es, e.Quiet) : triggerCount es = 0 :=
  List.countP_eq_zero.mpr fun e mem trigger =>
    Bool.false_ne_true ((isTrigger_of_quiet (quiet e mem)).symm.trans trigger)

/-- `m'` follows `m` by calls that are neither presses nor triggers, keeping `_pressed` or
clearing it. -/
structure Quietly (m m' : Menu) : Prop where
  log : ∃ es, m'.log = m.log ++ es ∧ ∀ e ∈ es, e.Quiet
  pressed : m'.pressed = m.pressed ∨ m'.pressed = -1

namespace Quietly

variable {m₁ m₂ m₃ : Menu}

theorem refl (m : Menu) : Quietly m m := ⟨⟨[], by simp, by simp⟩, .inl rfl⟩

theorem trans (a : Quietly m₁ m₂) (b : Quietly m₂ m₃) : Quietly m₁ m₃ := by
  obtain ⟨⟨es₁, log₁, quiet₁⟩, pressed₁⟩ := a
  obtain ⟨⟨es₂, log₂, quiet₂⟩, pressed₂⟩ := b
  refine ⟨⟨es₁ ++ es₂, by simp [log₁, log₂], fun e mem => ?_⟩, by omega⟩
  rcases List.mem_append.mp mem with h | h
  · exact quiet₁ e h
  · exact quiet₂ e h

theorem of_frame (frame : SelectionFrame m₁ m₂) (pressed : m₂.pressed = m₁.pressed ∨ m₂.pressed = -1) :
    Quietly m₁ m₂ := ⟨frame.log, pressed⟩

theorem of_remeasured (r : Remeasured m₁ m₂) : Quietly m₁ m₂ := by
  obtain ⟨d, rfl, -⟩ := r
  exact ⟨⟨[], by simp, by simp⟩, .inl rfl⟩

theorem emit {e : Event} (quiet : e.Quiet) (q : Quietly m₁ m₂) : Quietly m₁ (m₂.emit e) :=
  q.trans ⟨⟨[e], rfl, by simpa using quiet⟩, .inl rfl⟩

theorem resize (q : Quietly m₁ m₂) (w h : Int) : Quietly m₁ (m₂.resize w h) := ⟨q.1, q.2⟩

end Quietly

theorem pressScan_append_quiet (log : List Event) {es : List Event} (quiet : ∀ e ∈ es, e.Quiet) :
    pressScan (log ++ es) = pressScan log := by
  rw [pressScan, List.foldl_append, foldl_consume_quiet _ es quiet]; rfl

theorem Quietly.pressScan {m m' : Menu} (q : Quietly m m') : pressScan m'.log = pressScan m.log := by
  obtain ⟨⟨es, log, quiet⟩, -⟩ := q
  rw [log, pressScan_append_quiet _ quiet]

/-- Quiet calls add no trigger. -/
theorem triggerCount_of_quiet_log {l l' : List Event}
    (log : ∃ es, l' = l ++ es ∧ ∀ e ∈ es, e.Quiet) : triggerCount l' = triggerCount l := by
  obtain ⟨es, rfl, quiet⟩ := log
  rw [triggerCount_append, triggerCount_quiet quiet, Nat.add_zero]

theorem Quietly.triggerCount_eq {m m' : Menu} (q : Quietly m m') :
    triggerCount m'.log = triggerCount m.log :=
  triggerCount_of_quiet_log q.log

theorem TriggerInv.of_quietly {m m' : Menu} (inv : TriggerInv m) (q : Quietly m m') :
    TriggerInv m' := by
  obtain ⟨armed, scan, pending⟩ := inv
  refine ⟨armed, q.pressScan.trans scan, ?_⟩
  rcases q.pressed with same | cleared
  · rw [same]; exact pending
  · omega

/-- Every value `x` can end in satisfies `post`. -/
def Ensures {α : Type} (post : α → Prop) (x : Except Fault α) : Prop := ∀ a, x = .ok a → post a

namespace Ensures

variable {α β : Type} {P : α → Prop} {Q : β → Prop}

theorem of_ok {x : Except Fault α} {a : α} (h : x = .ok a) (post : P a) : Ensures P x := by
  intro b hb
  rw [h] at hb
  cases hb
  exact post

theorem bind {x : Except Fault α} {f : α → Except Fault β} (hx : Ensures P x)
    (hf : ∀ a, P a → Ensures Q (f a)) : Ensures Q (x >>= f) := fun b hb =>
  let ⟨a, hxa, hfa⟩ := bind_eq_ok hb
  hf a (hx a hxa) b hfa

theorem of_inBounds {x : Except Fault α} (hx : InBounds P x) : Ensures P x :=
  fun _ h => hx.post h

theorem mono {x : Except Fault α} {P' : α → Prop} (hx : Ensures P x) (h : ∀ a, P a → P' a) :
    Ensures P' x := fun a ha => h a (hx a ha)

theorem and {x : Except Fault α} {P' : α → Prop} (hx : Ensures P x) (hx' : Ensures P' x) :
    Ensures (fun a => P a ∧ P' a) x := fun a ha => ⟨hx a ha, hx' a ha⟩

theorem map {x : Except Fault α} {f : α → β} (hx : Ensures P x) (hf : ∀ a, P a → Q (f a)) :
    Ensures Q (f <$> x) := by
  intro b hb
  cases hxa : x with
  | error e => rw [hxa] at hb; cases hb
  | ok a => rw [hxa] at hb; cases hb; exact hf a (hx a hxa)

/-- A read whose value the rest does not need: only the rest decides the post-state. -/
theorem bind_any {x : Except Fault α} {f : α → Except Fault β} (hf : ∀ a, Ensures Q (f a)) :
    Ensures Q (x >>= f) :=
  bind (P := fun _ => True) (fun _ _ => trivial) fun a _ => hf a

theorem map_any {x : Except Fault α} {f : α → β} (hf : ∀ a, Q (f a)) : Ensures Q (f <$> x) :=
  map (P := fun _ => True) (fun _ _ => trivial) fun a _ => hf a

end Ensures


namespace Menu

variable (st : MenuStyle) {m : Menu}

theorem updateSelected_quietly (inv : IndexInv m) (p : QPoint) :
    Ensures (Quietly m) (m.updateSelected st p) := by
  obtain ⟨m', ok, frame, -, pressed⟩ := updateSelected_ok st p inv.data_length inv.selected_valid
  exact .of_ok ok (.of_frame frame (.inl pressed))

theorem clearSelection_quietly (inv : IndexInv m) : Ensures (Quietly m) (m.clearSelection st) := by
  obtain ⟨m', ok, frame, -, pressed⟩ := clearSelection_ok st inv.data_length inv.selected_valid
  exact .of_ok ok ⟨frame.log, .inl pressed⟩

theorem clearMouseSelection_quietly (inv : IndexInv m) :
    Ensures (Quietly m) (m.clearMouseSelection st) := by
  unfold clearMouseSelection
  split
  · exact clearSelection_quietly st inv
  · exact .of_ok rfl (.refl m)

theorem addAction_quietly (inv : IndexInv m) (a : Action) (cursor : QPoint) :
    Ensures (Quietly m) (m.addAction st a cursor) := by
  have last := pushAction_last inv.data_length a
  unfold addAction
  refine (Ensures.of_inBounds (processAction_inBounds st last.1 last.2 a _)).bind
    fun r remeasured => ?_
  have inv₁ := (inv.pushAction a).of_remeasured remeasured
  dsimp only
  refine (updateSelected_quietly st ((inv₁.resize _ _).emit _) cursor).mono
    fun m' later => Quietly.trans ?_ later
  have pushed : Quietly m (m.pushAction a) := ⟨⟨[], by simp [pushAction], by simp⟩, .inl rfl⟩
  exact ((pushed.trans (.of_remeasured remeasured)).resize _ _).emit trivial

theorem clearActions_quietly (inv : IndexInv m) : Ensures (Quietly m) (m.clearActions st) := by
  obtain ⟨m₁, ok₁, inv₁, frame₁, -, pressed₁⟩ := setSelected_indexInv st inv (-1)
  obtain ⟨m₂, ok₂, -, frame₂, pressed₂, -⟩ := setPressed_indexInv inv₁ (-1)
  unfold clearActions
  rw [bind_of_ok ok₁, bind_of_ok ok₂]
  refine .of_ok rfl (Quietly.emit trivial (Quietly.resize ?_ _ _))
  refine (Quietly.of_frame frame₁ (.inl pressed₁)).trans
    ⟨frame₂.log, .inr (by simpa [normalizeIndex] using pressed₂)⟩

theorem actionChanged_quietly (inv : IndexInv m) : Ensures (Quietly m) (m.actionChanged st) := by
  unfold actionChanged
  refine (Ensures.of_inBounds (processActions_inBounds st m.actions 0 _ m
    (by simp [inv.data_length]))).bind fun r remeasured => ?_
  have quiet := Quietly.of_remeasured remeasured
  dsimp only
  split
  · exact .of_ok rfl ((quiet.resize _ _).emit trivial)
  · exact .of_ok rfl quiet

theorem setShowSource_quietly (inv : IndexInv m) (source : TriggeredSource) :
    Ensures (Quietly m) (m.setShowSource st source) := by
  obtain ⟨m', ok, -, frame, -, pressed⟩ := setSelected_indexInv st
    (m := { m with mouseSelection := source = .mouse }) (inv.mouseSelection _)
    (if source = .mouse ∨ m.actions = [] then -1 else 0)
  exact .of_ok ok ⟨frame.log, .inl pressed⟩

theorem handleMouseMove_quietly (inv : IndexInv m) (p : QPoint) :
    Ensures (Quietly m) (m.handleMouseMove st p) := by
  unfold handleMouseMove
  split
  · exact (updateSelected_quietly st (inv.mouseSelection true) p).mono fun _ q => ⟨q.1, q.2⟩
  · exact (clearMouseSelection_quietly st inv).map fun _ q => q.emit trivial

/-- What `itemReleased` does to a pending press: it clears `_pressed` quietly, then triggers
the selected entry exactly when it is the pressed one. -/
theorem itemReleased_pending (inv : IndexInv m) (nonneg : 0 ≤ m.pressed) (source : TriggeredSource) :
    ∃ m₁, Quietly m m₁ ∧ IndexInv m₁ ∧ m₁.pressed = -1 ∧ m₁.selected = m.selected ∧
      (m.pressed ≠ m.selected → m.itemReleased st source = .ok m₁) ∧
      (m.pressed = m.selected → ∃ a top,
        m.itemReleased st source = .ok (m₁.emit (.triggered m.selected a top source))) := by
  have lt := inv.pressed_valid.lt nonneg
  obtain ⟨m₁, ok₁, inv₁, frame₁, pressed₁, selected₁⟩ := setPressed_indexInv inv (-1)
  have cleared : m₁.pressed = -1 := by simpa [normalizeIndex] using pressed₁
  have ripple := rippleAt_ok inv₁.data_length nonneg (frame₁.actions ▸ lt) source
  have released : m.itemReleased st source = m₁.triggerIfSelected st m.pressed source := by
    unfold itemReleased
    rw [if_pos ⟨nonneg, lt⟩, bind_of_ok ok₁, bind_of_ok ripple]
  refine ⟨m₁, .of_frame frame₁ (.inr cleared), inv₁, cleared, selected₁, fun differ => ?_,
    fun same => ?_⟩
  · rw [released, triggerIfSelected, if_neg (selected₁ ▸ differ)]; rfl
  · obtain ⟨a, found⟩ := vectorAt_ok_of_lt m₁.actions (selected₁ ▸ same ▸ nonneg)
      (by rw [frame₁.actions, selected₁, ← same]; exact lt)
    refine ⟨a, itemTop st m₁ m₁.selected, ?_⟩
    rw [released, triggerIfSelected, if_pos (selected₁ ▸ same), bind_of_ok found, selected₁]
    rfl

theorem itemReleased_triggerInv (inv : IndexInv m) (tinv : TriggerInv m) (source : TriggeredSource) :
    Ensures TriggerInv (m.itemReleased st source) := by
  by_cases nonneg : 0 ≤ m.pressed
  · obtain ⟨armed, scan, pending⟩ := tinv
    obtain ⟨m₁, quiet, -, cleared, selected₁, differ, same⟩ := itemReleased_pending st inv nonneg source
    have scan₁ : pressScan m₁.log = some (some m.pressed) := by
      rw [quiet.pressScan, scan, pending nonneg]
    by_cases eq : m.pressed = m.selected
    · obtain ⟨a, top, ok⟩ := same eq
      refine .of_ok ok ⟨none, ?_, by simp [cleared]⟩
      simp [pressScan, List.foldl_append] at scan₁ ⊢
      simp [scan₁, consume, eq]
    · exact .of_ok (differ eq) ⟨some m.pressed, scan₁, by simp [cleared]⟩
  · have : m.itemReleased st source = .ok m := by
      unfold itemReleased; rw [if_neg (by omega)]; rfl
    exact .of_ok this tinv

theorem itemPressed_triggerInv (inv : IndexInv m) (tinv : TriggerInv m) (source : TriggeredSource) :
    Ensures TriggerInv (m.itemPressed st source) := by
  rcases itemPressed_cases st inv source with same | ⟨m₁, inv₁, frame₁, -, -, pressed⟩
  · exact .of_ok same tinv
  obtain ⟨armed, scan, -⟩ := tinv
  have tinv₂ : TriggerInv (m₁.emit (.pressed m₁.pressed)) := by
    refine ⟨some m₁.pressed, ?_, fun _ => rfl⟩
    obtain ⟨es, log, quiet⟩ := frame₁.log
    simp only [emit_log, log, pressScan, List.foldl_append] at scan ⊢
    simp [foldl_consume_quiet _ es quiet, scan, consume]
  rw [pressed]
  split
  · exact .of_ok rfl tinv₂
  · exact itemReleased_triggerInv st (inv₁.emit _) tinv₂ source

theorem handleKeyPress_triggerInv (inv : IndexInv m) (tinv : TriggerInv m) (key : Key)
    (rightToLeft : Bool) : Ensures TriggerInv (m.handleKeyPress st key rightToLeft) := by
  rcases handleKeyPress_cases st inv key rightToLeft with pressed | ⟨i, selected⟩ | same
  · rw [pressed]; exact itemPressed_triggerInv st inv tinv _
  · obtain ⟨m', ok, -, frame, -, pressed⟩ :=
      setSelected_indexInv st (m := { m with mouseSelection := false }) (inv.mouseSelection false) i
    rw [selected]; exact .of_ok ok (tinv.of_quietly ⟨frame.log, .inl pressed⟩)
  · rw [same]; exact .of_ok rfl tinv

theorem handleMouseMove_invariants (inv : IndexInv m) (p : QPoint) :
    Ensures (fun m' => IndexInv m' ∧ Quietly m m') (m.handleMouseMove st p) :=
  (Ensures.of_inBounds (handleMouseMove_settles st inv p).inBounds).and (handleMouseMove_quietly st inv p)

theorem handleMousePress_triggerInv (inv : IndexInv m) (tinv : TriggerInv m) (p : QPoint) :
    Ensures TriggerInv (m.handleMousePress st p) := by
  unfold handleMousePress
  refine (handleMouseMove_invariants st inv p).bind fun m₁ ⟨inv₁, quiet₁⟩ => ?_
  have tinv₁ := tinv.of_quietly quiet₁
  split
  · exact itemPressed_triggerInv st inv₁ tinv₁ _
  · exact .of_ok rfl (tinv₁.of_quietly ((Quietly.refl m₁).emit trivial))

theorem handleMouseRelease_triggerInv (inv : IndexInv m) (tinv : TriggerInv m) (p : QPoint) :
    Ensures TriggerInv (m.handleMouseRelease st p) := by
  unfold handleMouseRelease
  refine (handleMouseMove_invariants st inv p).bind fun m₁ ⟨inv₁, quiet₁⟩ =>
    (itemReleased_triggerInv st inv₁ (tinv.of_quietly quiet₁) _).bind fun m₂ tinv₂ => ?_
  split
  · exact .of_ok rfl tinv₂
  · exact .of_ok rfl (tinv₂.of_quietly ((Quietly.refl m₂).emit trivial))

theorem step_triggerInv (inv : IndexInv m) (tinv : TriggerInv m) :
    ∀ op : Op, Ensures TriggerInv (m.step st op)
  | .addAction a cursor => (addAction_quietly st inv a cursor).mono fun _ q => tinv.of_quietly q
  | .addSeparator cursor => (addAction_quietly st inv _ cursor).mono fun _ q => tinv.of_quietly q
  | .clearActions => (clearActions_quietly st inv).mono fun _ q => tinv.of_quietly q
  | .changeActions edit =>
      (actionChanged_quietly st (inv.mapIdx edit)).mono fun _ q => tinv.of_quietly ⟨q.1, q.2⟩
  | .setShowSource source => (setShowSource_quietly st inv source).mono fun _ q => tinv.of_quietly q
  | .setForceWidth _ => .of_ok rfl ⟨tinv.choose, tinv.choose_spec⟩
  | .setChildShown _ => .of_ok rfl ⟨tinv.choose, tinv.choose_spec⟩
  | .handleKeyPress key rightToLeft => handleKeyPress_triggerInv st inv tinv key rightToLeft
  | .handleMouseMove p => (handleMouseMove_quietly st inv p).mono fun _ q => tinv.of_quietly q
  | .handleMousePress p => handleMousePress_triggerInv st inv tinv p
  | .handleMouseRelease p => handleMouseRelease_triggerInv st inv tinv p
  | .enterEvent cursor => by
      simp only [step, enterEventHook]
      split
      · exact .of_ok rfl tinv
      · exact (clearMouseSelection_quietly st inv).mono fun _ q => tinv.of_quietly q
  | .leaveEvent => (clearMouseSelection_quietly st inv).mono fun _ q => tinv.of_quietly q
  | .clearSelection => (clearSelection_quietly st inv).mono fun _ q => tinv.of_quietly q
  | .clearMouseSelection => (clearMouseSelection_quietly st inv).mono fun _ q => tinv.of_quietly q

theorem handleMouseMove_ok (inv : IndexInv m) (p : QPoint) :
    ∃ m₁, m.handleMouseMove st p = .ok m₁ ∧ IndexInv m₁ ∧ Quietly m m₁ ∧ m₁.pressed = m.pressed := by
  have moved := handleMouseMove_invariants st inv p
  unfold handleMouseMove at moved ⊢
  split
  · obtain ⟨m₁, ok, -, -, pressed⟩ :=
      updateSelected_ok st (m := { m with mouseSelection := true }) p inv.data_length inv.selected_valid
    rw [if_pos ‹_›] at moved
    exact ⟨m₁, ok, (moved m₁ ok).1, (moved m₁ ok).2, pressed⟩
  · obtain ⟨m₁, ok, -, -, pressed⟩ := clearMouseSelection_ok st inv.data_length inv.selected_valid
    have ok' : (fun m => m.emit (.mouseMoveDelegated p)) <$> m.clearMouseSelection st =
        .ok (m₁.emit (.mouseMoveDelegated p)) := by rw [ok]; rfl
    rw [if_neg ‹_›] at moved
    exact ⟨_, ok', (moved _ ok').1, (moved _ ok').2, pressed⟩

@[simp] theorem triggerCount_emit (m : Menu) (e : Event) :
    triggerCount (m.emit e).log = triggerCount m.log + if e.isTrigger then 1 else 0 := by
  rw [triggerCount, emit_log, List.countP_append]
  cases h : e.isTrigger <;> simp [h, triggerCount]

/-- A mouse release triggers exactly when a press is pending and the move it starts with
leaves the pressed entry selected; it always ends with no press pending. -/
theorem handleMouseRelease_triggers (inv : IndexInv m) (p : QPoint) :
    ∃ moved released, m.handleMouseMove st p = .ok moved ∧
      m.handleMouseRelease st p = .ok released ∧ released.pressed = -1 ∧
      triggerCount released.log =
        triggerCount m.log + (if 0 ≤ m.pressed ∧ moved.selected = m.pressed then 1 else 0) := by
  obtain ⟨m₁, moved, inv₁, quiet₁, pressed₁⟩ := handleMouseMove_ok st inv p
  obtain ⟨m₃, released, cleared, count⟩ : ∃ m₃, m₁.itemReleased st .mouse = .ok m₃ ∧
      m₃.pressed = -1 ∧ triggerCount m₃.log =
        triggerCount m.log + (if 0 ≤ m.pressed ∧ m₁.selected = m.pressed then 1 else 0) := by
    by_cases nonneg : 0 ≤ m.pressed
    · obtain ⟨m₂, quiet₂, -, cleared, -, differ, same⟩ :=
        itemReleased_pending st inv₁ (pressed₁ ▸ nonneg) .mouse
      have count₂ := quiet₂.triggerCount_eq.trans quiet₁.triggerCount_eq
      by_cases eq : m₁.selected = m.pressed
      · obtain ⟨a, top, ok⟩ := same (by rw [pressed₁, eq])
        exact ⟨_, ok, cleared, by rw [if_pos ⟨nonneg, eq⟩, triggerCount_emit, count₂]; rfl⟩
      · exact ⟨m₂, differ (by rw [pressed₁]; exact Ne.symm eq), cleared,
          by rw [if_neg fun h => eq h.2, count₂]; rfl⟩
    · have cleared : m₁.pressed = -1 := by
        have := inv.pressed_valid; unfold ValidIndex at this; omega
      exact ⟨m₁, by unfold itemReleased; rw [if_neg (by omega)]; rfl, cleared,
        by rw [if_neg fun h => nonneg h.1, quiet₁.triggerCount_eq]; rfl⟩
  have delegated : (if m₃.rect.contains p then m₃ else m₃.emit (.mouseReleaseDelegated p)).pressed =
        m₃.pressed ∧
      triggerCount (if m₃.rect.contains p then m₃ else m₃.emit (.mouseReleaseDelegated p)).log =
        triggerCount m₃.log := by
    split
    · exact ⟨rfl, rfl⟩
    · exact ⟨rfl, by rw [triggerCount_emit]; rfl⟩
  refine ⟨m₁, _, moved, ?_, delegated.1.trans cleared, delegated.2.trans count⟩
  unfold handleMouseRelease
  rw [bind_of_ok moved, bind_of_ok released]
  rfl

/-- Enter on an enabled selection presses and releases it: exactly one trigger. -/
theorem keyEnter_triggers (inv : IndexInv m) (enabled : m.enabledAt m.selected = true)
    (rightToLeft : Bool) :
    ∃ m', m.handleKeyPress st .keyEnter rightToLeft = .ok m' ∧ m'.pressed = -1 ∧
      triggerCount m'.log = triggerCount m.log + 1 := by
  obtain ⟨m₁, inv₁, frame₁, pressed₁, selected₁, keyboard⟩ :=
    itemPressed_enabled st inv (by simp : ¬(TriggeredSource.keyboard = .mouse ∧ _)) enabled
  obtain ⟨m₂, quiet₂, -, cleared, -, -, same⟩ := itemReleased_pending st (inv₁.emit (.pressed m₁.pressed))
    (by simpa [pressed₁] using (enabledAt_lt enabled).1) .keyboard
  obtain ⟨a, top, ok⟩ := same (by simp [pressed₁, selected₁])
  have pressed : m.handleKeyPress st .keyEnter rightToLeft =
      (m₁.emit (.pressed m₁.pressed)).itemReleased st .keyboard := by
    rw [handleKeyPress, if_pos (.inl rfl), keyboard]; rfl
  refine ⟨_, pressed.trans ok, cleared, ?_⟩
  rw [triggerCount_emit, quiet₂.triggerCount_eq, triggerCount_emit,
    triggerCount_of_quiet_log frame₁.log]
  rfl

theorem clearActions_pressed (inv : IndexInv m) {m' : Menu} (ok : m.clearActions st = .ok m') :
    m'.pressed = -1 := by
  obtain ⟨m₁, ok₁, inv₁, -, -, -⟩ := setSelected_indexInv st inv (-1)
  obtain ⟨m₂, ok₂, -, -, pressed₂, -⟩ := setPressed_indexInv inv₁ (-1)
  unfold clearActions at ok
  rw [bind_of_ok ok₁, bind_of_ok ok₂] at ok
  cases ok
  simpa [normalizeIndex] using pressed₂

end Menu

theorem Reachable.triggerInv {st : MenuStyle} {allowed : Op → Prop} {m : Menu}
    (reach : Reachable st allowed m) : TriggerInv m := by
  induction reach with
  | create => exact ⟨none, rfl, fun h => by simp [Menu.create] at h⟩
  | step op reach _ stepped tinv => exact Menu.step_triggerInv st reach.indexInv tinv op _ stepped

/-- **The trigger law.** In every reachable state each trigger in the log consumed the
latest press, of its own index; a mouse release triggers once exactly when a press is
pending and the pressed entry is still selected after the pointer moved, and never
otherwise; Enter on an enabled selection triggers once; `clearActions` drops any pending
press. -/
theorem trigger_law {st : MenuStyle} {m : Menu} (reach : Reachable st (fun _ => True) m) :
    PressesPaired m.log ∧
    (∀ p : QPoint, ∃ moved released, m.handleMouseMove st p = .ok moved ∧
      m.handleMouseRelease st p = .ok released ∧ released.pressed = -1 ∧
      triggerCount released.log =
        triggerCount m.log + (if 0 ≤ m.pressed ∧ moved.selected = m.pressed then 1 else 0)) ∧
    (m.enabledAt m.selected = true → ∀ rightToLeft : Bool, ∃ m',
      m.handleKeyPress st .keyEnter rightToLeft = .ok m' ∧ m'.pressed = -1 ∧
      triggerCount m'.log = triggerCount m.log + 1) ∧
    (∀ m', m.clearActions st = .ok m' → m'.pressed = -1) := by
  have inv := reach.indexInv
  obtain ⟨armed, scan, -⟩ := reach.triggerInv
  exact ⟨by rw [PressesPaired, scan]; simp, Menu.handleMouseRelease_triggers st inv,
    fun enabled => Menu.keyEnter_triggers st inv enabled,
    fun _ ok => Menu.clearActions_pressed st inv ok⟩

/-- The first item of the demo layout, pressed: a release over it triggers it once. -/
theorem trigger_law_pressed :
    ∃ m, Reachable demoStyle (fun _ => True) m ∧ m.actions.length = 3 ∧ m.pressed = 0 ∧
      (∃ released, m.handleMouseRelease demoStyle ⟨10, 20⟩ = .ok released ∧
        triggerCount released.log = triggerCount m.log + 1) ∧
      PressesPaired m.log ∧ ∃ moved released, m.handleMouseMove demoStyle ⟨10, 20⟩ = .ok moved ∧
        m.handleMouseRelease demoStyle ⟨10, 20⟩ = .ok released ∧ released.pressed = -1 ∧
        triggerCount released.log =
          triggerCount m.log + (if 0 ≤ m.pressed ∧ moved.selected = m.pressed then 1 else 0) := by
  have reach : Reachable demoStyle (fun _ => True) _ :=
    Reachable.run pressRun .create (fun _ _ => trivial) rfl
  obtain ⟨paired, release, -⟩ := trigger_law reach
  exact ⟨_, reach, rfl, rfl, ⟨_, rfl, by decide⟩, paired, release ⟨10, 20⟩⟩

/-- **A selection change does not cancel a press.** The first item of the demo layout is
pressed, then Down selects the last item and keeps the press. A release at the press position
first moves the selection back to the pressed item, so it triggers it. -/
theorem release_over_pressed_entry_triggers :
    ∃ m released,
      (Menu.create demoStyle).run demoStyle (pressRun ++ [.handleKeyPress .keyDown false]) = .ok m ∧
      m.pressed = 0 ∧ m.selected = 2 ∧ m.handleMouseRelease demoStyle ⟨10, 20⟩ = .ok released ∧
      triggerCount released.log = triggerCount m.log + 1 :=
  ⟨_, _, rfl, rfl, rfl, rfl, by decide⟩

/-! ## A separator can be triggered

`setShowSource(Keyboard)` and the Right key select index 0 without the enabled/separator test
that `updateSelected` and the Up/Down scan make, and `itemPressed` checks only `isEnabled()`,
which a separator's `QAction` keeps `true`. -/

/-- A menu whose first entry is a separator, opened from the keyboard, triggers the
separator on Enter. -/
theorem keyboard_open_triggers_separator :
    ∃ m, Reachable demoStyle (fun _ => True) m ∧
      ∃ top, Event.triggered 0 separatorAction top .keyboard ∈ m.log :=
  ⟨_, Reachable.run [.addSeparator ⟨0, 0⟩, .addAction (demoAction "Open") ⟨0, 0⟩,
      .setShowSource .keyboard, .handleKeyPress .keyEnter false] .create (fun _ _ => trivial) rfl,
    8, by decide⟩

end Kotatogram.Ui
