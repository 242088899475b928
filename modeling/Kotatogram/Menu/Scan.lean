/-
# Menu.Scan — the Up/Down scan loop

`handleKeyPress` answers Up and Down on a non-empty menu with a `do`/`while` scan. From
`start`, the selected index or, when none is selected, the last entry going down and the
first going up, it steps by `delta = ±1`, wrapping around by one addition or subtraction of
`n`, until it is back at `start` or on an enabled entry that is not a separator.

* `cyclicOrder`: the indices the scan visits, `start + d, start + 2d, …` modulo `n`, ending
  with `start`; `emod_eq_wrapIndex` ties the modulo to the scan's one-step wrap.
* `scanFrom_cyclicOrder`: given `n` iterations, the scan stops at the first selectable index
  of that order, or at `start`;
* `scanFrom_total`: so it never runs out of them, and stops at an index.
-/
import Kotatogram.Menu.Input

namespace Kotatogram.Ui

set_option autoImplicit false

/-- The indices the Up/Down scan visits from `start` with step `delta`: `start + delta`,
`start + 2·delta`, … modulo `n`, ending after `n` steps at `start` itself. -/
def cyclicOrder (n : Nat) (start delta : Int) : List Int :=
  (List.range n).map fun k : Nat => (start + delta * ((k : Int) + 1)) % n

theorem wrapIndex_cases (n : Nat) (x : Int) :
    (x < 0 ∧ wrapIndex n x = x + n) ∨ (0 ≤ x ∧ n ≤ x ∧ wrapIndex n x = x - n) ∨
      (0 ≤ x ∧ x < n ∧ wrapIndex n x = x) := by
  unfold wrapIndex
  split
  · omega
  · split <;> omega

/-- Within one turn either way, `% n` is the scan's one-step wrap. -/
theorem emod_eq_wrapIndex {n : Nat} {x : Int} (low : -(n : Int) ≤ x) (high : x < 2 * n) :
    x % n = wrapIndex n x := by
  rcases wrapIndex_cases n x with ⟨neg, wrap⟩ | ⟨-, over, wrap⟩ | ⟨nonneg, lt, wrap⟩ <;> rw [wrap]
  · rw [← Int.add_emod_self]; exact Int.emod_eq_of_lt (by omega) (by omega)
  · have : x = (x - n) + n := by omega
    rw [this, Int.add_emod_self, Int.emod_eq_of_lt (by omega) (by omega)]; omega
  · exact Int.emod_eq_of_lt nonneg lt

theorem cyclicOrder_drop {n : Nat} (start delta : Int) {k : Nat} (bound : k < n) :
    (cyclicOrder n start delta).drop k =
      (start + delta * (k + 1)) % n :: (cyclicOrder n start delta).drop (k + 1) := by
  rw [List.drop_eq_getElem_cons (by simp [cyclicOrder, bound])]
  simp [cyclicOrder]

theorem start_mem_cyclicOrder {n : Nat} {start : Int} (delta : Int) (low : 0 ≤ start)
    (high : start < n) : start ∈ cyclicOrder n start delta := by
  refine List.mem_map.mpr ⟨n - 1, List.mem_range.mpr (by omega), ?_⟩
  have : ((n - 1 : Nat) : Int) + 1 = n := by omega
  rw [this, Int.add_mul_emod_self, Int.emod_eq_of_lt low high]

theorem mem_cyclicOrder {n : Nat} {start delta i : Int} (mem : i ∈ cyclicOrder n start delta) :
    0 ≤ i ∧ i < n := by
  obtain ⟨k, range, rfl⟩ := List.mem_map.mp mem
  have pos : (0 : Int) < n := by have := List.mem_range.mp range; omega
  exact ⟨Int.emod_nonneg _ (by omega), Int.emod_lt_of_pos _ pos⟩

namespace Menu

theorem selectableAt_of_found {m : Menu} {i : Int} {a : Action} (nonneg : 0 ≤ i)
    (found : m.actions[i.toNat]? = some a) : m.selectableAt i = a.selectable := by
  simp [selectableAt, nonneg, found]

/-- One step of the scan is one step of the order: it wraps `x % n + delta` to
`(x + delta) % n`. -/
theorem wrapIndex_emod_add {n : Nat} {delta : Int} (unit : delta = 1 ∨ delta = -1) (pos : 0 < n)
    (x : Int) : wrapIndex n (x % n + delta) = (x + delta) % n := by
  have low := Int.emod_nonneg x (Int.ofNat_ne_zero.mpr (Nat.pos_iff_ne_zero.mp pos))
  have high := Int.emod_lt_of_pos x (Int.ofNat_pos.mpr pos)
  rw [← emod_eq_wrapIndex (by rcases unit with rfl | rfl <;> omega)
    (by rcases unit with rfl | rfl <;> omega), Int.emod_add_emod]

/-- Within one turn, the order is back at `start` only at its `n`-th step. -/
theorem emod_eq_start_iff {n : Nat} {start delta j : Int} (unit : delta = 1 ∨ delta = -1)
    (low : 0 ≤ start) (high : start < n) (pos : 0 < j) (le : j ≤ n) :
    (start + delta * j) % n = start ↔ j = n := by
  rw [emod_eq_wrapIndex (by rcases unit with rfl | rfl <;> omega)
    (by rcases unit with rfl | rfl <;> omega)]
  rcases wrapIndex_cases n (start + delta * j) with ⟨_, w⟩ | ⟨_, _, w⟩ | ⟨_, _, w⟩ <;>
    rw [w] <;> rcases unit with rfl | rfl <;> omega

/-- **The scan.** After `k` of its steps, with the `n - k` it has left, the scan stops at the
first selectable index of the rest of the order, or at `start`. -/
theorem scanFrom_cyclicOrder (m : Menu) {delta start : Int} (unit : delta = 1 ∨ delta = -1)
    (low : 0 ≤ start) (high : start < m.actions.length) :
    ∀ fuel k, k + fuel = m.actions.length → k < m.actions.length →
      m.scanFrom delta start fuel ((start + delta * k) % m.actions.length) =
        .ok ((((cyclicOrder m.actions.length start delta).drop k).find?
          (m.selectableAt ·)).getD start)
  | 0, k, total, bound => absurd total (by omega)
  | fuel + 1, k, total, bound => by
      have next : wrapIndex m.actions.length ((start + delta * k) % m.actions.length + delta) =
          (start + delta * (k + 1)) % m.actions.length := by
        rw [wrapIndex_emod_add unit (by omega), Int.mul_add, Int.mul_one, Int.add_assoc]
      rw [scanFrom, next, cyclicOrder_drop start delta bound]
      have returns := emod_eq_start_iff unit low high (j := (k : Int) + 1) (by omega) (by omega)
      generalize wrapped : (start + delta * (k + 1)) % m.actions.length = i at returns
      by_cases back : i = start
      · have rest : (cyclicOrder m.actions.length start delta).drop (k + 1) = [] := by
          simp [cyclicOrder, show k + 1 = m.actions.length by omega]
        subst back
        simp only [ne_eq, not_true_eq_false, if_false, rest, List.find?_cons, List.find?_nil]
        cases m.selectableAt i <;> rfl
      · have range : 0 ≤ i ∧ i < m.actions.length := wrapped ▸
          ⟨Int.emod_nonneg _ (by omega), Int.emod_lt_of_pos _ (by omega)⟩
        obtain ⟨a, found⟩ := vectorAt_ok_of_lt m.actions range.1 range.2
        have selectable := selectableAt_of_found (m := m) range.1 (vectorAt_eq_ok.mp found).2
        have later := scanFrom_cyclicOrder m unit low high fuel (k + 1) (by omega) (by omega)
        rw [show ((k + 1 : Nat) : Int) = (k : Int) + 1 by omega, wrapped] at later
        simp only [ne_eq, back, not_false_eq_true, if_true, bind_of_ok found, List.find?_cons,
          selectable]
        cases a.selectable
        · exact later
        · rfl

theorem scanStart_bounds {m : Menu} (nonempty : m.actions ≠ []) (delta : Int) :
    0 ≤ m.scanStart delta ∧ m.scanStart delta < m.actions.length := by
  have := List.length_pos.mpr nonempty
  unfold scanStart
  split
  · split <;> omega
  · omega

/-- **The whole scan**, from `start` with its `n` iterations. -/
theorem scanFrom_start (m : Menu) {delta start : Int} (unit : delta = 1 ∨ delta = -1)
    (low : 0 ≤ start) (high : start < m.actions.length) :
    m.scanFrom delta start m.actions.length start =
      .ok (((cyclicOrder m.actions.length start delta).find? (m.selectableAt ·)).getD start) := by
  have first := scanFrom_cyclicOrder m unit low high m.actions.length 0 (Nat.zero_add _) (by omega)
  rwa [Int.ofNat_zero, Int.mul_zero, Int.add_zero, Int.emod_eq_of_lt low high,
    List.drop_zero] at first

/-- The Up/Down scan from `scanStart` ends within its `n` iterations, at an index. -/
theorem scanFrom_total (m : Menu) (nonempty : m.actions ≠ []) {delta : Int}
    (unit : delta = 1 ∨ delta = -1) :
    ∃ i, m.scanFrom delta (m.scanStart delta) m.actions.length (m.scanStart delta) = .ok i ∧
      0 ≤ i ∧ i < m.actions.length := by
  obtain ⟨low, high⟩ := scanStart_bounds nonempty delta
  refine ⟨_, scanFrom_start m unit low high, ?_⟩
  cases first : (cyclicOrder m.actions.length (m.scanStart delta) delta).find? (m.selectableAt ·) with
  | none => exact ⟨low, high⟩
  | some i => exact mem_cyclicOrder (List.mem_of_find?_eq_some first)

end Menu

end Kotatogram.Ui
