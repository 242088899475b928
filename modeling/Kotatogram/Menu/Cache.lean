/-
# Menu.Cache — what the menu keeps of its actions besides the width

`addAction` adds each entry's height to the menu's and caches whether its action has a
submenu; `actionChanged` measures every entry again but redoes neither. Measuring redoes the
shortcut of every entry, and the toggle of a labelled one. So the shortcut and a labelled
entry's toggle follow every property change, while the height, `hasSubmenu` and "no toggle on
a separator" follow the actions only while their changes keep each action's separator flag and
submenu.

* `CacheInv`: every run of sizing operations keeps each entry's shortcut and, when labelled,
  toggle as appending its action now would give them (`Redone`).
* `KindInv`: runs whose property changes keep separator flags and submenus
  (`Op.IsKindPreserving`) also keep the height as the skips and the entries' heights, and
  each entry's submenu flag and separator toggle (`Prepared`).
* `cache_agrees`: both, stated over the actions.
* `property_changes_leave_stale_cache`: `setSeparator`, `setMenu` and clearing a checkable
  action's text after it was appended leave the height, `hasSubmenu` and the toggle stale.
-/
import Kotatogram.Menu.Width

namespace Kotatogram.Ui

set_option autoImplicit false

/-- A property change that keeps every action's separator flag and submenu. -/
def KeepsKinds (edit : Nat → Action → Action) : Prop :=
  ∀ i a, (edit i a).isSeparator = a.isSeparator ∧ (edit i a).hasMenu = a.hasMenu

/-- The sizing operations, with property changes that keep separator flags and submenus. -/
def Op.IsKindPreserving : Op → Prop
  | .changeActions edit => KeepsKinds edit
  | op => op.IsSizing

theorem Op.IsKindPreserving.isSizing {op : Op} (kinds : op.IsKindPreserving) : op.IsSizing := by
  cases op <;> trivial

/-- What measuring redoes on an entry, whatever it held: the shortcut when labelled (none
otherwise), and, when labelled, a toggle exactly when checkable. -/
structure Redone (action : Action) (data : ActionData) : Prop where
  shortcut : data.shortcut = if action.hasLabel then Menu.actionShortcut action else []
  toggle : action.hasLabel = true → data.toggle.isSome = action.isCheckable

/-- What only `addAction` sets, and measuring keeps: the submenu flag of the action, and no
toggle on a separator. -/
structure Prepared (action : Action) (data : ActionData) : Prop where
  hasSubmenu : data.hasSubmenu = action.hasMenu
  separator : action.isSeparator = true → data.toggle = none

theorem Prepared.edit {edit : Nat → Action → Action} (kinds : KeepsKinds edit) (i : Nat)
    {a : Action} {d : ActionData} (prepared : Prepared a d) : Prepared (edit i a) d :=
  ⟨(kinds i a).2 ▸ prepared.hasSubmenu, fun sep => prepared.separator ((kinds i a).1 ▸ sep)⟩

theorem heightSum_mapIdx (st : MenuStyle) :
    ∀ (actions : List Action) {edit : Nat → Action → Action}, KeepsKinds edit →
      Menu.heightSum st (actions.mapIdx edit) = Menu.heightSum st actions
  | [], _, _ => rfl
  | a :: actions, edit, kinds => by
      rw [List.mapIdx_cons, Menu.heightSum_cons, Menu.heightSum_cons,
        heightSum_mapIdx st actions (fun i a => kinds (i + 1) a)]
      simp only [actionHeight, (kinds 0 a).1]

theorem mem_zip_mapIdx {edit : Nat → Action → Action} {actions : List Action}
    {datas : List ActionData} {p : Action × ActionData} (mem : p ∈ (actions.mapIdx edit).zip datas) :
    ∃ i a, p.1 = edit i a ∧ (a, p.2) ∈ actions.zip datas := by
  obtain ⟨i, found⟩ := List.mem_iff_getElem?.mp mem
  obtain ⟨foundAction, foundData⟩ := List.getElem?_zip_eq_some.mp found
  rw [List.getElem?_mapIdx] at foundAction
  obtain ⟨a, foundA, edited⟩ := Option.map_eq_some'.mp foundAction
  exact ⟨i, a, edited.symm, List.mem_iff_getElem?.mpr ⟨i, List.getElem?_zip_eq_some.mpr ⟨foundA, foundData⟩⟩⟩

/-- A property of every entry survives an append of one that has it. -/
theorem forall_mem_zip_push {P : Action → ActionData → Prop} {actions : List Action}
    {datas : List ActionData} (lengths : datas.length = actions.length)
    (old : ∀ p ∈ actions.zip datas, P p.1 p.2) {a : Action} {d : ActionData} (new : P a d) :
    ∀ p ∈ (actions ++ [a]).zip (datas ++ [d]), P p.1 p.2 := by
  intro p mem
  rw [List.zip_append lengths.symm, List.mem_append] at mem
  rcases mem with mem | mem
  · exact old p mem
  · simp only [List.zip_cons_cons, List.zip_nil_right, List.mem_singleton] at mem
    exact mem ▸ new

namespace Menu

variable (st : MenuStyle)

/-- Measuring an entry redoes its shortcut and, when labelled, its toggle. -/
theorem processData_redone {a : Action} {d : ActionData} {w : Int} {r : ActionData × Int}
    (ok : processData st a d w = .ok r) : Redone a r.1 := by
  cases label : a.hasLabel
  · rw [processData_unlabelled st d w label] at ok
    cases ok
    exact ⟨by simp [label], fun h => by simp [label] at h⟩
  · obtain ⟨-, -, eq⟩ := (processData_labelled st label).mp ok
    rw [eq]
    refine ⟨by simp [label], fun _ => ?_⟩
    simp only [actionToggle]
    split <;> simp_all

/-- Measuring a prepared entry keeps it prepared. -/
theorem processData_prepared {a : Action} {d : ActionData} {w : Int} {r : ActionData × Int}
    (ok : processData st a d w = .ok r) (prepared : Prepared a d) : Prepared a r.1 := by
  cases label : a.hasLabel
  · rw [processData_unlabelled st d w label] at ok
    cases ok
    exact ⟨prepared.hasSubmenu, prepared.separator⟩
  · obtain ⟨-, -, eq⟩ := (processData_labelled st label).mp ok
    have separator : a.isSeparator = false := by simp_all [Action.hasLabel]
    rw [eq]
    exact ⟨prepared.hasSubmenu, by simp [separator]⟩

/-- What measuring an entry makes of what it held, the loop of `actionChanged` makes of every
entry. -/
theorem measureFrom_forall {P Q : Action → ActionData → Prop}
    (each : ∀ a d w r, processData st a d w = .ok r → P a d → Q a r.1) :
    ∀ (actions : List Action) (datas : List ActionData) (w : Int) (r : List ActionData × Int),
      measureFrom st actions datas w = .ok r → (∀ p ∈ actions.zip datas, P p.1 p.2) →
      ∀ p ∈ actions.zip r.1, Q p.1 p.2
  | [], _, _, _, _, _ => by simp
  | _ :: _, [], _, r, ok, _ => by cases ok; simp
  | a :: actions, d :: datas, w, r, ok, held => by
      obtain ⟨r₁, r₂, first, rest, rfl⟩ := measureFrom_cons_ok st ok
      obtain ⟨here, later⟩ := List.forall_mem_cons.mp held
      exact List.forall_mem_cons.mpr
        ⟨each a d w r₁ first here, measureFrom_forall each actions datas r₁.2 r₂ rest later⟩

variable {st} {m : Menu}

/-- With the selection not mouse-driven, `addAction` appends the action and its measured entry
and adds the action's height, and selects nothing. -/
theorem addAction_of_keyboard (keyboard : m.mouseSelection = false)
    (lengths : m.actionsData.length = m.actions.length) {a : Action} {cursor : QPoint} {m' : Menu}
    (ok : m.addAction st a cursor = .ok m') :
    ∃ r, processData st a (ActionData.fresh a) (max m.width st.widthMin) = .ok r ∧
      m'.mouseSelection = false ∧ m'.actions = m.actions ++ [a] ∧
      m'.actionsData = m.actionsData ++ [r.1] ∧ m'.height = m.height + actionHeight st a := by
  rw [addAction_eq st m lengths] at ok
  obtain ⟨r, first, ok⟩ := bind_eq_ok ok
  cases updateSelected_eq_ok_of_keyboard st (by exact keyboard) ok
  exact ⟨r, first, keyboard, rfl, rfl, rfl⟩

/-- `clearActions` empties both vectors and leaves the height of the two skips. -/
theorem clearActions_cleared (idx : IndexInv m) {m' : Menu} (ok : m.clearActions st = .ok m') :
    m'.mouseSelection = m.mouseSelection ∧ m'.actions = [] ∧ m'.actionsData = [] ∧
      m'.height = 2 * st.skip := by
  obtain ⟨m₁, ok₁, idx₁, frame₁, -, -⟩ := setSelected_indexInv st idx (-1)
  obtain ⟨m₂, ok₂, -, frame₂, -, -⟩ := setPressed_indexInv idx₁ (-1)
  simp only [clearActions, bind_of_ok ok₁, bind_of_ok ok₂] at ok
  cases ok
  exact ⟨frame₂.mouseSelection.trans frame₁.mouseSelection, rfl, rfl, rfl⟩

/-! ## Every sizing run -/

/-- What every sizing run keeps: no mouse selection, one entry per action, and every entry
holding what measuring redoes. -/
structure CacheInv (m : Menu) : Prop where
  mouseSelection : m.mouseSelection = false
  lengths : m.actionsData.length = m.actions.length
  redone : ∀ p ∈ m.actions.zip m.actionsData, Redone p.1 p.2

theorem CacheInv.create : CacheInv (Menu.create st) := ⟨rfl, rfl, by simp [Menu.create]⟩

theorem addAction_cacheInv (inv : CacheInv m) {a : Action} {cursor : QPoint} {m' : Menu}
    (ok : m.addAction st a cursor = .ok m') : CacheInv m' := by
  obtain ⟨r, first, mouse, actions, datas, -⟩ := addAction_of_keyboard inv.mouseSelection inv.lengths ok
  refine ⟨mouse, by simp [actions, datas, inv.lengths], ?_⟩
  rw [actions, datas]
  exact forall_mem_zip_push inv.lengths inv.redone (processData_redone st first)

/-- **One sizing operation keeps `CacheInv`**, whatever its property change. -/
theorem cacheInv_step (inv : CacheInv m) (idx : IndexInv m) {op : Op} (sizing : op.IsSizing)
    {m' : Menu} (stepped : m.step st op = .ok m') : CacheInv m' := by
  cases op with
  | addAction a cursor => exact addAction_cacheInv inv stepped
  | addSeparator cursor => exact addAction_cacheInv inv stepped
  | clearActions =>
      obtain ⟨mouse, actions, datas, -⟩ := clearActions_cleared idx stepped
      exact ⟨mouse.trans inv.mouseSelection, by rw [actions, datas]; rfl, by simp [actions]⟩
  | changeActions edit =>
      obtain ⟨r, measured, frame⟩ := actionChanged_measured st _ (by simp [inv.lengths]) stepped
      refine ⟨frame.mouseSelection.trans inv.mouseSelection, ?_, ?_⟩
      · rw [frame.actions, frame.actionsData, measureFrom_length st _ _ _ r measured]
        simp [inv.lengths]
      · rw [frame.actions, frame.actionsData]
        exact measureFrom_forall st (P := fun _ _ => True)
          (fun _ _ _ _ ok _ => processData_redone st ok) _ _ _ r measured fun _ _ => trivial
  | setForceWidth forceWidth =>
      cases stepped
      exact ⟨inv.mouseSelection, inv.lengths, inv.redone⟩
  | _ => exact sizing.elim

/-! ## Runs that keep kinds -/

/-- What a sizing run keeps when its property changes keep separator flags and submenus: the
height of its entries, and every entry prepared for its action. -/
structure KindInv (st : MenuStyle) (m : Menu) : Prop where
  height : m.height = 2 * st.skip + heightSum st m.actions
  prepared : ∀ p ∈ m.actions.zip m.actionsData, Prepared p.1 p.2

theorem KindInv.create : KindInv st (Menu.create st) := ⟨by simp [Menu.create], by simp [Menu.create]⟩

theorem addAction_kindInv (inv : KindInv st m) (cache : CacheInv m) {a : Action} {cursor : QPoint}
    {m' : Menu} (ok : m.addAction st a cursor = .ok m') : KindInv st m' := by
  obtain ⟨r, first, -, actions, datas, height⟩ :=
    addAction_of_keyboard cache.mouseSelection cache.lengths ok
  refine ⟨?_, ?_⟩
  · rw [height, actions, heightSum_append, inv.height, heightSum_cons, heightSum_nil]
    omega
  · rw [actions, datas]
    exact forall_mem_zip_push cache.lengths inv.prepared
      (processData_prepared st first ⟨rfl, fun _ => rfl⟩)

/-- **One kind-preserving sizing operation keeps `KindInv`.** -/
theorem kindInv_step (inv : KindInv st m) (cache : CacheInv m) (idx : IndexInv m) {op : Op}
    (kinds : op.IsKindPreserving) {m' : Menu} (stepped : m.step st op = .ok m') :
    KindInv st m' := by
  cases op with
  | addAction a cursor => exact addAction_kindInv inv cache stepped
  | addSeparator cursor => exact addAction_kindInv inv cache stepped
  | clearActions =>
      obtain ⟨-, actions, datas, height⟩ := clearActions_cleared idx stepped
      exact ⟨by simp [height, actions], by simp [actions]⟩
  | changeActions edit =>
      obtain ⟨r, measured, frame⟩ := actionChanged_measured st _ (by simp [cache.lengths]) stepped
      refine ⟨by rw [frame.height, frame.actions, inv.height, heightSum_mapIdx st m.actions kinds], ?_⟩
      rw [frame.actions, frame.actionsData]
      refine measureFrom_forall st (fun _ _ _ _ ok prepared => processData_prepared st ok prepared)
        _ _ _ r measured fun p mem => ?_
      obtain ⟨i, a, edited, mem⟩ := mem_zip_mapIdx mem
      exact edited ▸ (inv.prepared (a, p.2) mem).edit kinds i
  | setForceWidth forceWidth =>
      cases stepped
      exact ⟨inv.height, inv.prepared⟩
  | _ => exact kinds.elim

end Menu

theorem Reachable.cacheInv {st : MenuStyle} {m : Menu} (reach : Reachable st Op.IsSizing m) :
    Menu.CacheInv m := by
  induction reach with
  | create => exact .create
  | step op reach sizing stepped inv => exact Menu.cacheInv_step inv reach.indexInv sizing stepped

theorem Reachable.kindInv {st : MenuStyle} {m : Menu} (reach : Reachable st Op.IsKindPreserving m) :
    Menu.KindInv st m := by
  induction reach with
  | create => exact .create
  | step op reach kinds stepped inv =>
      exact Menu.kindInv_step inv (reach.mono fun _ => Op.IsKindPreserving.isSizing).cacheInv
        reach.indexInv kinds stepped

open Menu in
/-- **The cache follows the actions.** In every state reached by appends, clears, forced
widths and property changes, every entry holds its shortcut hint when labelled (none
otherwise) and, when labelled, a toggle exactly when it is checkable. When every property
change keeps each action's separator flag and submenu, the height is also the two skips and
the entries' heights, every entry holds its action's submenu flag, and no separator has a
toggle. -/
theorem cache_agrees {st : MenuStyle} :
    (∀ m, Reachable st Op.IsSizing m → ∀ a d, (a, d) ∈ m.actions.zip m.actionsData →
      d.shortcut = (if a.hasLabel then actionShortcut a else []) ∧
      (a.hasLabel = true → d.toggle.isSome = a.isCheckable)) ∧
    (∀ m, Reachable st Op.IsKindPreserving m →
      m.height = 2 * st.skip + heightSum st m.actions ∧
      ∀ a d, (a, d) ∈ m.actions.zip m.actionsData →
        d.hasSubmenu = a.hasMenu ∧ (a.isSeparator = true → d.toggle = none)) :=
  ⟨fun _ reach a d mem =>
    let redone := reach.cacheInv.redone (a, d) mem
    ⟨redone.shortcut, redone.toggle⟩,
   fun _ reach =>
    let inv := reach.kindInv
    ⟨inv.height, fun a d mem =>
      let prepared := inv.prepared (a, d) mem
      ⟨prepared.hasSubmenu, prepared.separator⟩⟩⟩

/-- The demo layout, forced to 150 pixels, then its last item given the shortcut hint
`Ctrl+Q` by `setText`. -/
def demoRelabel : List Op :=
  demoLayout ++ [.setForceWidth 150, .changeActions fun i a =>
    if i = 2 then { a with text := (demoAction "Quit\tCtrl+Q").text } else a]

theorem demoRelabel_isKindPreserving : ∀ op ∈ demoRelabel, op.IsKindPreserving := by
  intro op mem
  simp only [demoRelabel, demoLayout, List.cons_append, List.nil_append, List.mem_cons,
    List.mem_singleton, List.not_mem_nil, or_false] at mem
  rcases mem with rfl | rfl | rfl | rfl | rfl
  all_goals first | trivial | exact fun i _ => by dsimp only; split <;> exact ⟨rfl, rfl⟩

theorem cache_agrees_demo :
    ∃ m, Reachable demoStyle Op.IsKindPreserving m ∧ m.actions.length = 3 ∧
      m.height = 2 * demoStyle.skip + Menu.heightSum demoStyle m.actions ∧
      ∀ a d, (a, d) ∈ m.actions.zip m.actionsData →
        d.shortcut = (if a.hasLabel then Menu.actionShortcut a else []) ∧ d.hasSubmenu = a.hasMenu :=
  let reach : Reachable demoStyle Op.IsKindPreserving _ :=
    Reachable.run demoRelabel .create demoRelabel_isKindPreserving rfl
  ⟨_, reach, rfl, (cache_agrees.2 _ reach).1, fun a d mem =>
    ⟨(cache_agrees.1 _ (reach.mono fun _ => Op.IsKindPreserving.isSizing) a d mem).1,
      ((cache_agrees.2 _ reach).2 a d mem).1⟩⟩

theorem addThenChange_isSizing (a : Action) (edit : Nat → Action → Action) :
    ∀ op ∈ [Op.addAction a ⟨0, 0⟩, .changeActions edit], op.IsSizing := by
  intro op mem
  simp only [List.mem_cons, List.mem_singleton, List.not_mem_nil, or_false] at mem
  rcases mem with rfl | rfl <;> trivial

open Menu in
/-- Property changes after an append that the cache does not follow: `setSeparator(true)`
leaves the item's height, `setMenu` leaves `hasSubmenu` unset, and clearing a checkable
action's text leaves its toggle. -/
theorem property_changes_leave_stale_cache :
    (∃ m, Reachable demoStyle Op.IsSizing m ∧
      m.height ≠ 2 * demoStyle.skip + heightSum demoStyle m.actions) ∧
    (∃ m, Reachable demoStyle Op.IsSizing m ∧
      ∃ p ∈ m.actions.zip m.actionsData, p.2.hasSubmenu ≠ p.1.hasMenu) ∧
    (∃ m, Reachable demoStyle Op.IsSizing m ∧
      ∃ p ∈ m.actions.zip m.actionsData, p.1.isSeparator = false ∧ p.1.isCheckable = true ∧
        p.1.hasLabel = false ∧ p.2.toggle.isSome = true) :=
  ⟨⟨_, Reachable.run [.addAction (demoAction "Open") ⟨0, 0⟩,
      .changeActions fun _ a => { a with isSeparator := true }] .create
      (addThenChange_isSizing _ _) rfl, by decide⟩,
   ⟨_, Reachable.run [.addAction (demoAction "Open") ⟨0, 0⟩,
      .changeActions fun _ a => { a with hasMenu := true }] .create
      (addThenChange_isSizing _ _) rfl, by decide⟩,
   ⟨_, Reachable.run [.addAction checkableOpen ⟨0, 0⟩,
      .changeActions fun _ a => { a with text := [] }] .create
      (addThenChange_isSizing _ _) rfl, by decide⟩⟩

end Kotatogram.Ui
