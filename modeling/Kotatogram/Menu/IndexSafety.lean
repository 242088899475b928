/-
# Menu.IndexSafety — `_selected` and `_pressed` never leave the entry list

`IndexInv` is the invariant the C++ relies on without checking it everywhere: the two
vectors have one length, and each index is `-1` or in range. The Right-key branch reads
`_actionsData[_selected]` after testing only `_selected >= 0`, and `setSelected` reads the
old selection before storing the new one, so safety rests on every operation restoring the
invariant.

`InBounds post x` says `x` ends in a value satisfying `post` or fails with a fault other
than an out-of-range read; it composes along `>>=` (`InBounds.bind`). The layout operations,
which may fault at `std::clamp`, get a lemma `*_inBounds`. Every other handler gets the
stronger `*_settles`: from `IndexInv` it succeeds, restores `IndexInv`, and leaves the
entries and the sizes as they were (`Settled`). What a key and a press can do is said once,
by `handleKeyPress_cases` and `itemPressed_cases`; the invariants of `Menu.Trigger` and
`Menu.Hover` start from them too. Then

* `step_inBounds`: every operation, from every state satisfying the invariant;
* `Reachable.indexInv`: the invariant holds in every reachable state;
* `index_invariant`: and no operation from such a state reads out of range.

Where the clamp faults is settled in `Menu.Faults`.
-/
import Kotatogram.Menu.Machine
import Kotatogram.Menu.Scan

namespace Kotatogram.Ui

set_option autoImplicit false

/-- The index invariant: one length for both vectors, and each index `-1` or in range. -/
structure IndexInv (m : Menu) : Prop where
  data_length : m.actionsData.length = m.actions.length
  selected_valid : ValidIndex m.actions.length m.selected
  pressed_valid : ValidIndex m.actions.length m.pressed

/-- `x` ends in a value satisfying `post`, or fails, but not by an out-of-range read. -/
def InBounds {α : Type} (post : α → Prop) : Except Fault α → Prop
  | .ok a => post a
  | .error e => e ≠ .outOfRange

namespace InBounds

variable {α β : Type} {P : α → Prop} {Q : β → Prop}

theorem of_ok {x : Except Fault α} {a : α} (h : x = .ok a) (post : P a) : InBounds P x := by
  subst h; exact post

theorem bind {x : Except Fault α} {f : α → Except Fault β} (hx : InBounds P x)
    (hf : ∀ a, P a → InBounds Q (f a)) : InBounds Q (x >>= f) := by
  cases x with
  | error e => exact hx
  | ok a => exact hf a hx

theorem map {x : Except Fault α} {f : α → β} (hx : InBounds P x) (hf : ∀ a, P a → Q (f a)) :
    InBounds Q (f <$> x) := by
  cases x with
  | error e => exact hx
  | ok a => exact hf a hx

theorem mono {x : Except Fault α} {P' : α → Prop} (hx : InBounds P x) (h : ∀ a, P a → P' a) :
    InBounds P' x := by
  cases x with
  | error e => exact hx
  | ok a => exact h a hx

theorem post {x : Except Fault α} {a : α} (hx : InBounds P x) (h : x = .ok a) : P a := by
  subst h; exact hx

theorem ne_outOfRange {x : Except Fault α} (hx : InBounds P x) : x ≠ .error .outOfRange := by
  rintro rfl; exact hx rfl

end InBounds

theorem ValidIndex.mono {n n' : Nat} {i : Int} (valid : ValidIndex n i) (le : n ≤ n') :
    ValidIndex n' i := by
  unfold ValidIndex at *; omega

theorem ValidIndex.lt {n : Nat} {i : Int} (valid : ValidIndex n i) (nonneg : 0 ≤ i) : i < n := by
  unfold ValidIndex at valid; omega

theorem validIndex_neg_one (n : Nat) : ValidIndex n (-1) := .inl rfl

namespace IndexInv

variable {m m' : Menu}

theorem of_frame (inv : IndexInv m) (actions : m'.actions = m.actions)
    (data : m'.actionsData.length = m.actionsData.length)
    (selected : ValidIndex m.actions.length m'.selected)
    (pressed : ValidIndex m.actions.length m'.pressed) : IndexInv m' :=
  ⟨by rw [data, actions, inv.data_length], actions ▸ selected, actions ▸ pressed⟩

theorem of_selectionFrame (inv : IndexInv m) (frame : SelectionFrame m m')
    (selected : ValidIndex m.actions.length m'.selected)
    (pressed : ValidIndex m.actions.length m'.pressed) : IndexInv m' :=
  inv.of_frame frame.actions frame.data_length selected pressed

theorem resize (inv : IndexInv m) (w h : Int) : IndexInv (m.resize w h) := ⟨inv.1, inv.2, inv.3⟩

theorem emit (inv : IndexInv m) (e : Event) : IndexInv (m.emit e) := ⟨inv.1, inv.2, inv.3⟩

theorem mouseSelection (inv : IndexInv m) (b : Bool) : IndexInv { m with mouseSelection := b } :=
  ⟨inv.1, inv.2, inv.3⟩

/-- `addAction` grows both vectors by one, and the indices stay valid. -/
theorem pushAction (inv : IndexInv m) (a : Action) : IndexInv (m.pushAction a) :=
  have grown : m.actions.length ≤ (m.pushAction a).actions.length := by
    simp only [Menu.pushAction, List.length_append]; omega
  ⟨by simp only [Menu.pushAction, List.length_append, List.length_singleton, inv.data_length],
    inv.selected_valid.mono grown, inv.pressed_valid.mono grown⟩

/-- A property change keeps the number of entries. -/
theorem mapIdx (inv : IndexInv m) (edit : Nat → Action → Action) :
    IndexInv { m with actions := m.actions.mapIdx edit } :=
  ⟨by simp [inv.data_length], by simpa using inv.selected_valid, by simpa using inv.pressed_valid⟩

end IndexInv

/-- `m'` is `m` with other entry data of the same length: what measuring entries changes. -/
def Remeasured (m m' : Menu) : Prop :=
  ∃ data : List ActionData, m' = { m with actionsData := data } ∧
    data.length = m.actionsData.length

theorem Remeasured.refl (m : Menu) : Remeasured m m := ⟨m.actionsData, rfl, rfl⟩

theorem Remeasured.trans {m₁ m₂ m₃ : Menu} (a : Remeasured m₁ m₂) (b : Remeasured m₂ m₃) :
    Remeasured m₁ m₃ := by
  obtain ⟨d₁, rfl, l₁⟩ := a
  obtain ⟨d₂, rfl, l₂⟩ := b
  exact ⟨d₂, rfl, l₂.trans l₁⟩

theorem Remeasured.setData (m : Menu) (i : Int) (d : ActionData) :
    Remeasured m (m.setData i d) :=
  ⟨_, rfl, List.length_set _ _ _⟩

theorem IndexInv.of_remeasured {m m' : Menu} (inv : IndexInv m) (r : Remeasured m m') :
    IndexInv m' := by
  obtain ⟨d, rfl, l⟩ := r
  exact inv.of_frame rfl l inv.selected_valid inv.pressed_valid

/-- What an input operation leaves: the index invariant, and the entries and the sizes as
they were. -/
structure Settled (m m' : Menu) : Prop where
  inv : IndexInv m'
  actions : m'.actions = m.actions
  width : m'.width = m.width
  height : m'.height = m.height
  forceWidth : m'.forceWidth = m.forceWidth

namespace Settled

variable {m m₁ m₂ m₃ : Menu}

theorem refl (inv : IndexInv m) : Settled m m := ⟨inv, rfl, rfl, rfl, rfl⟩

theorem trans (a : Settled m₁ m₂) (b : Settled m₂ m₃) : Settled m₁ m₃ :=
  ⟨b.inv, b.actions.trans a.actions, b.width.trans a.width, b.height.trans a.height,
    b.forceWidth.trans a.forceWidth⟩

theorem emit (settled : Settled m m₁) (e : Event) : Settled m (m₁.emit e) :=
  ⟨settled.inv.emit e, settled.actions, settled.width, settled.height, settled.forceWidth⟩

theorem of_selectionFrame (frame : SelectionFrame m m₁) (inv : IndexInv m₁) : Settled m m₁ :=
  ⟨inv, frame.actions, frame.width, frame.height, frame.forceWidth⟩

/-- The mouse-selection flag a handler sets before it selects is not part of the frame. -/
theorem of_mouseSelection {b : Bool} (settled : Settled { m with mouseSelection := b } m₁) :
    Settled m m₁ :=
  ⟨settled.inv, settled.actions, settled.width, settled.height, settled.forceWidth⟩

end Settled

/-- `x` succeeds, in a state `Settled` from `m`. -/
def Settles (m : Menu) (x : Except Fault Menu) : Prop := ∃ m', x = .ok m' ∧ Settled m m'

theorem Settles.bind {m : Menu} {x : Except Fault Menu} {f : Menu → Except Fault Menu}
    (first : Settles m x) (rest : ∀ m₁, Settled m m₁ → Settles m₁ (f m₁)) : Settles m (x >>= f) := by
  obtain ⟨m₁, ok₁, settled₁⟩ := first
  obtain ⟨m₂, ok₂, settled₂⟩ := rest m₁ settled₁
  exact ⟨m₂, by rw [bind_of_ok ok₁, ok₂], settled₁.trans settled₂⟩

theorem Settles.of_mouseSelection {m : Menu} {b : Bool} {x : Except Fault Menu}
    (settles : Settles { m with mouseSelection := b } x) : Settles m x :=
  let ⟨m', ok, settled⟩ := settles; ⟨m', ok, settled.of_mouseSelection⟩

theorem Settles.inBounds {m : Menu} {x : Except Fault Menu} (settles : Settles m x) :
    InBounds IndexInv x :=
  let ⟨_, ok, settled⟩ := settles; .of_ok ok settled.inv

theorem Settles.ne_error {m : Menu} {x : Except Fault Menu} (settles : Settles m x) (e : Fault) :
    x ≠ .error e := by
  obtain ⟨m', ok, -⟩ := settles
  rw [ok]; exact nofun

namespace Menu

variable (st : MenuStyle) {m : Menu}

theorem setSelected_indexInv (inv : IndexInv m) (sel : Int) :
    ∃ m', m.setSelected st sel = .ok m' ∧ IndexInv m' ∧ SelectionFrame m m' ∧
      m'.selected = normalizeIndex m.actions.length sel ∧ m'.pressed = m.pressed := by
  obtain ⟨m', ok, frame, selected, pressed⟩ :=
    setSelected_ok st sel inv.data_length inv.selected_valid
  exact ⟨m', ok, inv.of_selectionFrame frame (selected ▸ validIndex_normalizeIndex _ _)
    (pressed ▸ inv.pressed_valid), frame, selected, pressed⟩

theorem setPressed_indexInv (inv : IndexInv m) (pre : Int) :
    ∃ m', m.setPressed pre = .ok m' ∧ IndexInv m' ∧ SelectionFrame m m' ∧
      m'.pressed = normalizeIndex m.actions.length pre ∧ m'.selected = m.selected := by
  obtain ⟨m', ok, frame, pressed, selected⟩ :=
    setPressed_ok (m := m) pre inv.data_length inv.pressed_valid
  exact ⟨m', ok, inv.of_selectionFrame frame (selected ▸ inv.selected_valid)
    (pressed ▸ validIndex_normalizeIndex _ _), frame, pressed, selected⟩


theorem setSelected_settles (inv : IndexInv m) (sel : Int) : Settles m (m.setSelected st sel) := by
  obtain ⟨m', ok, inv', frame, -, -⟩ := setSelected_indexInv st inv sel
  exact ⟨m', ok, .of_selectionFrame frame inv'⟩

theorem updateSelected_settles (inv : IndexInv m) (p : QPoint) :
    Settles m (m.updateSelected st p) := by
  obtain ⟨m', ok, frame, selected, pressed⟩ :=
    updateSelected_ok st p inv.data_length inv.selected_valid
  exact ⟨m', ok, .of_selectionFrame frame
    (inv.of_selectionFrame frame selected (pressed ▸ inv.pressed_valid))⟩

theorem clearSelection_settles (inv : IndexInv m) : Settles m (m.clearSelection st) := by
  obtain ⟨m', ok, frame, selected, pressed⟩ :=
    clearSelection_ok st inv.data_length inv.selected_valid
  exact ⟨m', ok, (Settled.of_selectionFrame frame ((inv.mouseSelection false).of_selectionFrame
    frame (selected ▸ validIndex_neg_one _) (pressed ▸ inv.pressed_valid))).of_mouseSelection⟩

theorem clearMouseSelection_settles (inv : IndexInv m) : Settles m (m.clearMouseSelection st) := by
  unfold clearMouseSelection
  split
  · exact clearSelection_settles st inv
  · exact ⟨m, rfl, .refl inv⟩

theorem stdClamp_inBounds (v lo hi : Int) : InBounds (fun _ => True) (stdClamp v lo hi) := by
  unfold stdClamp
  split
  · exact fun h => Fault.noConfusion h
  · trivial

theorem processData_inBounds (a : Action) (d : ActionData) (w : Int) :
    InBounds (fun _ => True) (processData st a d w) := by
  unfold processData
  split
  · trivial
  · exact (stdClamp_inBounds _ _ _).map fun _ _ => trivial

theorem processAction_inBounds {index : Int} (nonneg : 0 ≤ index)
    (lt : index < m.actionsData.length) (a : Action) (w : Int) :
    InBounds (fun r => Remeasured m r.1) (m.processAction st a index w) := by
  obtain ⟨d, found⟩ := vectorAt_ok_of_lt m.actionsData nonneg lt
  unfold processAction
  rw [bind_of_ok found]
  exact (processData_inBounds st a d w).bind fun r _ => Remeasured.setData m index r.1

theorem processActions_inBounds :
    ∀ (rest : List Action) (index : Nat) (w : Int) (m : Menu),
      index + rest.length ≤ m.actionsData.length →
      InBounds (fun r => Remeasured m r.1) (m.processActions st rest index w)
  | [], _, _, m, _ => Remeasured.refl m
  | a :: rest, index, w, m, fits => by
      simp only [List.length_cons] at fits
      rw [processActions]
      refine (processAction_inBounds st (Int.ofNat_nonneg index) (by omega) a w).bind
        fun r remeasured => ?_
      have fits' : index + 1 + rest.length ≤ r.1.actionsData.length := by
        obtain ⟨d, eq, l⟩ := remeasured
        rw [eq]; simp only [l]; omega
      exact (processActions_inBounds rest (index + 1) r.2 r.1 fits').mono
        fun _ later => remeasured.trans later


theorem addAction_inBounds (inv : IndexInv m) (a : Action) (cursor : QPoint) :
    InBounds IndexInv (m.addAction st a cursor) := by
  have last := pushAction_last inv.data_length a
  unfold addAction
  refine (processAction_inBounds st last.1 last.2 a _).bind fun r remeasured => ?_
  have inv₁ := (inv.pushAction a).of_remeasured remeasured
  dsimp only
  exact (updateSelected_settles st ((inv₁.resize _ _).emit _) cursor).inBounds

theorem clearActions_inBounds (inv : IndexInv m) : InBounds IndexInv (m.clearActions st) := by
  obtain ⟨m₁, ok₁, inv₁, -, selected₁, -⟩ := setSelected_indexInv st inv (-1)
  obtain ⟨m₂, ok₂, -, -, pressed₂, selected₂⟩ := setPressed_indexInv inv₁ (-1)
  unfold clearActions
  rw [bind_of_ok ok₁, bind_of_ok ok₂]
  refine ⟨rfl, ?_, ?_⟩
  · simp [selected₂, selected₁, normalizeIndex, ValidIndex]
  · simp [pressed₂, normalizeIndex, ValidIndex]

theorem actionChanged_inBounds (inv : IndexInv m) : InBounds IndexInv (m.actionChanged st) := by
  unfold actionChanged
  refine (processActions_inBounds st m.actions 0 _ m (by simp [inv.data_length])).bind
    fun r remeasured => ?_
  have inv₁ := inv.of_remeasured remeasured
  dsimp only
  split
  · exact (inv₁.resize _ _).emit _
  · exact inv₁

theorem changeActions_inBounds (inv : IndexInv m) (edit : Nat → Action → Action) :
    InBounds IndexInv (actionChanged st { m with actions := m.actions.mapIdx edit }) :=
  actionChanged_inBounds st (inv.mapIdx edit)


theorem rippleAt_ok {i : Int} (lengths : m.actionsData.length = m.actions.length) (nonneg : 0 ≤ i)
    (lt : i < m.actions.length) (source : TriggeredSource) : m.rippleAt source i = .ok () := by
  unfold rippleAt
  split
  · obtain ⟨d, found⟩ := vectorAt_ok_of_lt m.actionsData nonneg (lengths ▸ lt)
    rw [found]; rfl
  · rfl

theorem itemReleased_settles (inv : IndexInv m) (source : TriggeredSource) :
    Settles m (m.itemReleased st source) := by
  unfold itemReleased
  split
  · next range =>
    obtain ⟨m₁, ok₁, inv₁, frame₁, -, selected₁⟩ := setPressed_indexInv inv (-1)
    have settled₁ := Settled.of_selectionFrame frame₁ inv₁
    rw [bind_of_ok ok₁, bind_of_ok (rippleAt_ok inv₁.data_length range.1 (by rw [frame₁.actions]; exact range.2)
      source)]
    unfold triggerIfSelected
    split
    · next same =>
      obtain ⟨a, found⟩ := vectorAt_ok_of_lt m₁.actions (i := m₁.selected) (by omega)
        (by rw [frame₁.actions]; omega)
      rw [bind_of_ok found]
      exact ⟨_, rfl, settled₁.emit _⟩
    · exact ⟨m₁, rfl, settled₁⟩
  · exact ⟨m, rfl, .refl inv⟩

theorem enabledAt_iff {i : Int} :
    m.enabledAt i = true ↔ ∃ a, 0 ≤ i ∧ m.actions[i.toNat]? = some a ∧ a.isEnabled = true := by
  unfold enabledAt
  cases h : m.actions[i.toNat]? <;> simp [Option.any]

theorem enabledAt_lt {i : Int} (h : m.enabledAt i = true) : 0 ≤ i ∧ i < m.actions.length := by
  obtain ⟨a, nonneg, found, -⟩ := enabledAt_iff.mp h
  have := (List.getElem?_eq_some_iff.mp found).1
  omega

/-- A press that passes the check, of an enabled selection: `_pressed` takes the selection,
the press is marked, and a keyboard press is released at once; the read of the pressed
entry's data on a mouse press succeeds. -/
theorem itemPressed_enabled (inv : IndexInv m) {source : TriggeredSource}
    (checked : ¬(source = .mouse ∧ m.mouseSelection = false)) (enabled : m.enabledAt m.selected = true) :
    ∃ m₁, IndexInv m₁ ∧ SelectionFrame m m₁ ∧ m₁.pressed = m.selected ∧ m₁.selected = m.selected ∧
      m.itemPressed st source = if source = .mouse then .ok (m₁.emit (.pressed m₁.pressed))
        else (m₁.emit (.pressed m₁.pressed)).itemReleased st source := by
  obtain ⟨nonneg, lt⟩ := enabledAt_lt enabled
  obtain ⟨m₁, ok₁, inv₁, frame₁, pressed₁, selected₁⟩ := setPressed_indexInv inv m.selected
  rw [normalizeIndex_of_validIndex (.inr ⟨nonneg, lt⟩)] at pressed₁
  refine ⟨m₁, inv₁, frame₁, pressed₁, selected₁, ?_⟩
  rw [itemPressed, if_neg checked, if_pos enabled, bind_of_ok ok₁]
  dsimp only
  split
  · obtain ⟨d, found⟩ := vectorAt_ok_of_lt m₁.actionsData (pressed₁ ▸ nonneg)
      (by rw [pressed₁, inv₁.data_length, frame₁.actions]; exact lt)
    rw [emit_actionsData, emit_pressed, found]; rfl
  · rfl

/-- What a press does to a menu satisfying the invariant: nothing, or the press above. -/
theorem itemPressed_cases (inv : IndexInv m) (source : TriggeredSource) :
    m.itemPressed st source = .ok m ∨
      ∃ m₁, IndexInv m₁ ∧ SelectionFrame m m₁ ∧ m₁.pressed = m.selected ∧ m₁.selected = m.selected ∧
        m.itemPressed st source = if source = .mouse then .ok (m₁.emit (.pressed m₁.pressed))
          else (m₁.emit (.pressed m₁.pressed)).itemReleased st source := by
  by_cases checked : source = .mouse ∧ m.mouseSelection = false
  · exact .inl (by rw [itemPressed, if_pos checked]; rfl)
  by_cases enabled : m.enabledAt m.selected = true
  · exact .inr (itemPressed_enabled st inv checked enabled)
  · exact .inl (by rw [itemPressed, if_neg checked, if_neg enabled]; rfl)

theorem itemPressed_settles (inv : IndexInv m) (source : TriggeredSource) :
    Settles m (m.itemPressed st source) := by
  rcases itemPressed_cases st inv source with same | ⟨m₁, inv₁, frame₁, -, -, pressed⟩
  · exact ⟨m, same, .refl inv⟩
  have settled₁ := (Settled.of_selectionFrame frame₁ inv₁).emit (.pressed m₁.pressed)
  rw [pressed]
  split
  · exact ⟨_, rfl, settled₁⟩
  · obtain ⟨m₂, ok₂, settled₂⟩ := itemReleased_settles st (inv₁.emit (.pressed m₁.pressed)) source
    exact ⟨m₂, ok₂, settled₁.trans settled₂⟩

/-! ## Keys, mouse and hooks -/

/-- The Up/Down part selects where the scan stopped, with mouse selection off, or changes
nothing; the scan and the read after it succeed. -/
theorem moveSelection_cases (nonempty : m.actions ≠ []) {delta : Int}
    (unit : delta = 1 ∨ delta = -1) :
    (∃ i, m.moveSelection st delta = setSelected st { m with mouseSelection := false } i) ∨
      m.moveSelection st delta = .ok m := by
  obtain ⟨i, scan, low, high⟩ := scanFrom_total m nonempty unit
  obtain ⟨a, found⟩ := vectorAt_ok_of_lt m.actions low high
  simp only [moveSelection, bind_of_ok scan, bind_of_ok found]
  split
  · exact .inl ⟨i, rfl⟩
  · exact .inr rfl

/-- What a key does to a menu satisfying the invariant: it presses the selection from the
keyboard, selects an index with mouse selection off, or changes nothing. The reads it makes
on the way (`_actionsData[_selected]`, the Up/Down scan and `_actions[newSelected]`)
succeed. -/
theorem handleKeyPress_cases (inv : IndexInv m) (key : Key) (rightToLeft : Bool) :
    m.handleKeyPress st key rightToLeft = m.itemPressed st .keyboard ∨
      (∃ i, m.handleKeyPress st key rightToLeft = setSelected st { m with mouseSelection := false } i) ∨
      m.handleKeyPress st key rightToLeft = .ok m := by
  unfold handleKeyPress
  generalize (if rightToLeft then Key.keyLeft else Key.keyRight) = forward
  by_cases enter : key = .keyEnter ∨ key = .keyReturn
  · exact .inl (if_pos enter)
  rw [if_neg enter]
  by_cases forwardKey : key = forward
  · rw [if_pos forwardKey]
    by_cases nonneg : 0 ≤ m.selected
    · obtain ⟨d, found⟩ := vectorAt_ok_of_lt m.actionsData nonneg
        (by rw [inv.data_length]; exact inv.selected_valid.lt nonneg)
      rw [if_pos nonneg, bind_of_ok found]
      split
      · exact .inl rfl
      · exact .inr (.inr rfl)
    · rw [if_neg nonneg]
      split
      · exact .inr (.inl ⟨0, rfl⟩)
      · exact .inr (.inr rfl)
  rw [if_neg forwardKey]
  split
  · next arrow => exact .inr (moveSelection_cases st arrow.2 (by split <;> simp))
  · exact .inr (.inr rfl)

theorem handleKeyPress_settles (inv : IndexInv m) (key : Key) (rightToLeft : Bool) :
    Settles m (m.handleKeyPress st key rightToLeft) := by
  rcases handleKeyPress_cases st inv key rightToLeft with pressed | ⟨i, selected⟩ | same
  · rw [pressed]; exact itemPressed_settles st inv .keyboard
  · rw [selected]; exact (setSelected_settles st (inv.mouseSelection false) i).of_mouseSelection
  · rw [same]; exact ⟨m, rfl, .refl inv⟩

theorem setShowSource_settles (inv : IndexInv m) (source : TriggeredSource) :
    Settles m (m.setShowSource st source) :=
  (setSelected_settles st (inv.mouseSelection _) _).of_mouseSelection

theorem handleMouseMove_settles (inv : IndexInv m) (p : QPoint) :
    Settles m (m.handleMouseMove st p) := by
  unfold handleMouseMove
  split
  · exact (updateSelected_settles st (inv.mouseSelection true) p).of_mouseSelection
  · obtain ⟨m₁, ok₁, settled₁⟩ := clearMouseSelection_settles st inv
    exact ⟨_, by rw [ok₁]; rfl, settled₁.emit _⟩

theorem handleMousePress_settles (inv : IndexInv m) (p : QPoint) :
    Settles m (m.handleMousePress st p) := by
  refine (handleMouseMove_settles st inv p).bind fun m₁ settled₁ => ?_
  split
  · exact itemPressed_settles st settled₁.inv .mouse
  · exact ⟨_, rfl, (Settled.refl settled₁.inv).emit _⟩

theorem handleMouseRelease_settles (inv : IndexInv m) (p : QPoint) :
    Settles m (m.handleMouseRelease st p) := by
  refine (handleMouseMove_settles st inv p).bind fun m₁ settled₁ => ?_
  refine (itemReleased_settles st settled₁.inv .mouse).bind fun m₂ settled₂ => ?_
  split
  · exact ⟨m₂, rfl, .refl settled₂.inv⟩
  · exact ⟨_, rfl, (Settled.refl settled₂.inv).emit _⟩

theorem enterEventHook_settles (inv : IndexInv m) (cursor : QPoint) :
    Settles m (m.enterEventHook st cursor) := by
  unfold enterEventHook
  split
  · exact ⟨m, rfl, .refl inv⟩
  · exact clearMouseSelection_settles st inv

/-- Every operation other than the layout ones and `setForceWidth` succeeds, and leaves the
entries and the sizes as they were. -/
theorem step_settles (inv : IndexInv m) : ∀ op : Op, ¬op.IsSizing → Settles m (m.step st op)
  | .addAction .., input | .addSeparator _, input | .clearActions, input
  | .changeActions _, input | .setForceWidth _, input => (input trivial).elim
  | .setShowSource source, _ => setShowSource_settles st inv source
  | .setChildShown _, _ => ⟨_, rfl, ⟨inv.1, inv.2, inv.3⟩, rfl, rfl, rfl, rfl⟩
  | .handleKeyPress key rightToLeft, _ => handleKeyPress_settles st inv key rightToLeft
  | .handleMouseMove p, _ => handleMouseMove_settles st inv p
  | .handleMousePress p, _ => handleMousePress_settles st inv p
  | .handleMouseRelease p, _ => handleMouseRelease_settles st inv p
  | .enterEvent cursor, _ => enterEventHook_settles st inv cursor
  | .leaveEvent, _ => clearMouseSelection_settles st inv
  | .clearSelection, _ => clearSelection_settles st inv
  | .clearMouseSelection, _ => clearMouseSelection_settles st inv

theorem step_inBounds (inv : IndexInv m) (op : Op) : InBounds IndexInv (m.step st op) := by
  cases op
  case addAction a cursor => exact addAction_inBounds st inv a cursor
  case addSeparator cursor => exact addAction_inBounds st inv _ cursor
  case clearActions => exact clearActions_inBounds st inv
  case changeActions edit => exact changeActions_inBounds st inv edit
  case setForceWidth => exact ⟨inv.1, inv.2, inv.3⟩
  all_goals exact (step_settles st inv _ (by exact id)).inBounds

end Menu

theorem Reachable.indexInv {st : MenuStyle} {allowed : Op → Prop} {m : Menu}
    (reach : Reachable st allowed m) : IndexInv m := by
  induction reach with
  | create => exact ⟨rfl, .inl rfl, .inl rfl⟩
  | step op _ _ stepped inv => exact (Menu.step_inBounds st inv op).post stepped

/-- **Index safety.** In every reachable state the two vectors agree in length and both
indices are `-1` or in range, and no operation reads a vector out of range. -/
theorem index_invariant {st : MenuStyle} {m : Menu} (reach : Reachable st (fun _ => True) m) :
    IndexInv m ∧ ∀ op : Op, m.step st op ≠ .error .outOfRange :=
  ⟨reach.indexInv, fun op => (Menu.step_inBounds st reach.indexInv op).ne_outOfRange⟩

/-- The demo layout with its first item selected and pressed holds the invariant. -/
theorem index_invariant_pressed :
    ∃ m, Reachable demoStyle (fun _ => True) m ∧ m.actions.length = 3 ∧ m.selected = 0 ∧
      m.pressed = 0 ∧ IndexInv m ∧ ∀ op : Op, m.step demoStyle op ≠ .error .outOfRange :=
  let reach : Reachable demoStyle (fun _ => True) _ :=
    Reachable.run pressRun .create (fun _ _ => trivial) rfl
  ⟨_, reach, rfl, rfl, rfl, index_invariant reach⟩

end Kotatogram.Ui
