/-
# Menu.Navigation — the Up and Down keys

On a non-empty menu `handleKeyPress` answers Up and Down with the scan of `Menu.Scan`, and
selects where the scan stopped if that entry is enabled and not a separator.

* `handleKeyPress_arrow`: Up and Down reach the scan in either layout direction;
* `arrow_scan`: the scan never runs out of its `n` iterations, and the key selects the first
  selectable index of the cyclic order, or leaves the selection alone.
-/
import Kotatogram.Menu.IndexSafety

namespace Kotatogram.Ui

set_option autoImplicit false

namespace Menu

variable (st : MenuStyle)

theorem handleKeyPress_arrow (m : Menu) (nonempty : m.actions ≠ []) {key : Key}
    (arrow : key = .keyUp ∨ key = .keyDown) (rightToLeft : Bool) :
    m.handleKeyPress st key rightToLeft = m.moveSelection st (if key = .keyDown then 1 else -1) := by
  rcases arrow with rfl | rfl <;> cases rightToLeft <;> simp [handleKeyPress, nonempty]

/-- The Up/Down part selects the first selectable index of the scan's order, or leaves the
selection alone when there is none. -/
theorem moveSelection_selects {m : Menu} (inv : IndexInv m) (nonempty : m.actions ≠ [])
    {delta : Int} (unit : delta = 1 ∨ delta = -1) :
    ∃ m', m.moveSelection st delta = .ok m' ∧ m'.selected =
      ((cyclicOrder m.actions.length (m.scanStart delta) delta).find? (m.selectableAt ·)).getD
        m.selected := by
  obtain ⟨low, high⟩ := scanStart_bounds nonempty delta
  simp only [moveSelection, bind_of_ok (scanFrom_start m unit low high)]
  cases first : (cyclicOrder m.actions.length (m.scanStart delta) delta).find? (m.selectableAt ·) with
  | none =>
      have passed := List.find?_eq_none.mp first _ (start_mem_cyclicOrder delta low high)
      obtain ⟨a, found⟩ := vectorAt_ok_of_lt m.actions low high
      rw [selectableAt_of_found low (vectorAt_eq_ok.mp found).2] at passed
      simp only [Option.getD_none, bind_of_ok found, passed, if_false]
      exact ⟨m, rfl, rfl⟩
  | some i =>
      have chosen := List.find?_some first
      have bounds := mem_cyclicOrder (List.mem_of_find?_eq_some first)
      obtain ⟨a, found⟩ := vectorAt_ok_of_lt m.actions bounds.1 bounds.2
      rw [selectableAt_of_found bounds.1 (vectorAt_eq_ok.mp found).2] at chosen
      simp only [Option.getD_some, bind_of_ok found, chosen, if_true]
      obtain ⟨m', ok, -, selected, -⟩ :=
        setSelected_ok st (m := { m with mouseSelection := false }) i inv.data_length
          inv.selected_valid
      exact ⟨m', ok, by rw [selected, normalizeIndex_of_validIndex (.inr bounds)]⟩

end Menu

open Menu in
/-- **The Up and Down keys.** On a non-empty menu with a valid selection, the scan from
`start` (the selection, or the last entry going down and the first going up) finishes within
its `n` iterations at the first index of `start + d, start + 2d, …` (mod `n`), ending with
`start`, whose entry is enabled and not a separator, or at `start`; the key selects that
index, or leaves the selection unchanged when there is none. -/
theorem arrow_scan {st : MenuStyle} {m : Menu} (inv : IndexInv m) (nonempty : m.actions ≠ [])
    {key : Key} (arrow : key = .keyUp ∨ key = .keyDown) (rightToLeft : Bool) {delta start : Int}
    (direction : delta = if key = .keyDown then 1 else -1)
    (origin : start = if 0 ≤ m.selected then m.selected
      else if key = .keyDown then (m.actions.length : Int) - 1 else 0) :
    m.scanFrom delta start m.actions.length start =
        .ok (((cyclicOrder m.actions.length start delta).find? (m.selectableAt ·)).getD start) ∧
      ∃ m', m.handleKeyPress st key rightToLeft = .ok m' ∧
        m'.selected =
          ((cyclicOrder m.actions.length start delta).find? (m.selectableAt ·)).getD m.selected := by
  have unit : delta = 1 ∨ delta = -1 := by
    rcases arrow with rfl | rfl <;> simp [direction]
  have start_eq : m.scanStart delta = start := by
    unfold scanStart
    rcases inv.selected_valid with none | ⟨nonneg, lt⟩
    · rcases arrow with rfl | rfl <;> simp [origin, none, direction]
    · rw [if_neg (by omega), origin, if_pos nonneg]
  obtain ⟨low, high⟩ := start_eq ▸ scanStart_bounds nonempty delta
  refine ⟨scanFrom_start m unit low high, ?_⟩
  rw [handleKeyPress_arrow st m nonempty arrow rightToLeft, ← direction, ← start_eq]
  exact moveSelection_selects st inv nonempty unit

theorem arrow_scan_demo :
    ∃ m, Reachable demoStyle (fun _ => True) m ∧ m.selected = -1 ∧
      ∃ m', m.handleKeyPress demoStyle .keyDown false = .ok m' ∧ m'.selected = 1 :=
  let reach : Reachable demoStyle (fun _ => True) _ :=
    Reachable.run [.addSeparator ⟨0, 0⟩, .addAction (demoAction "Open") ⟨0, 0⟩] .create
      (fun _ _ => trivial) rfl
  ⟨_, reach, rfl, by
    obtain ⟨-, m', ok, selected⟩ := arrow_scan reach.indexInv (by decide)
      (.inr rfl) false rfl rfl
    exact ⟨m', ok, by rw [selected]; decide⟩⟩

end Kotatogram.Ui
